import EchoInjector.Probe.Encoding

/-!
# The layout of a packet

The encoder lays fields over cleared room, layer inside layer, and finds the room of the inner
layer through the lengths that it has already written. What comes out can be written down
directly: the fields one behind the other, the link header before the datagram header before the
message. The definitions of this module do that, with the two checksums as parameters, and
`datagram_eq_ok_iff` and `frame_eq_ok_iff` say that the encoder agrees with them, for every probe:
it gives the plain concatenation if the payload is within the limit, and nothing otherwise.

Everything that reads packets back is stated about the concatenation. Room and overwriting occur
in no other module.
-/

namespace EchoInjector.Probe

open Wire Packet

/-! ### The parts of a packet -/

/-- The echo message with a given checksum. -/
def message (p : Probe) (sum : UInt16) : Octets :=
  [p.icmpType, p.icmpCode] ++ wordOctets sum ++ wordOctets p.icmpIdent ++ wordOctets p.icmpSeq
    ++ p.payload

/-- The datagram's header with a given checksum. -/
def header (p : Probe) (sum : UInt16) : Octets :=
  [0x45, 0] ++ wordOctets (UInt16.ofNat p.datagramLength) ++ wordOctets p.ipIdent
    ++ [0, 0, p.ttl, Datagram.icmpProtocol] ++ wordOctets sum ++ p.src.octets ++ p.dst.octets

/-- The frame's header with a given sender, unless the probe pins its own. -/
def linkHeader (p : Probe) (srcMac : Mac) : Octets :=
  p.dstMac.octets ++ (p.srcMac.getD srcMac).octets ++ wordOctets Ethernet.ipv4Type

/-- The checksum of the message: its own place does not count. -/
def messageChecksum (p : Probe) : UInt16 := Echo.checksum (p.message 0)

/-- The checksum of the header: its own place does not count. -/
def headerChecksum (p : Probe) : UInt16 := Checksum.compute 5 (p.header 0)

/-- The octets of the datagram. -/
def datagramOctets (p : Probe) : Octets :=
  p.header p.headerChecksum ++ p.message p.messageChecksum

/-- The octets of the frame. -/
def frameOctets (p : Probe) (srcMac : Mac) : Octets :=
  p.linkHeader srcMac ++ p.datagramOctets

@[simp] theorem length_message (p : Probe) (sum : UInt16) :
    (p.message sum).length = 8 + p.payload.length := by
  simp [message]
  omega

@[simp] theorem length_header (p : Probe) (sum : UInt16) : (p.header sum).length = 20 := rfl

@[simp] theorem length_linkHeader (p : Probe) (m : Mac) : (p.linkHeader m).length = 14 := rfl

@[simp] theorem length_datagramOctets (p : Probe) :
    p.datagramOctets.length = 28 + p.payload.length := by
  simp [datagramOctets]
  omega

@[simp] theorem length_frameOctets (p : Probe) (m : Mac) :
    (p.frameOctets m).length = 42 + p.payload.length := by
  simp [frameOctets]
  omega

theorem datagramLength_eq (p : Probe) : p.datagramLength = 28 + p.payload.length := by
  simp [datagramLength, messageLength, Datagram.headerLength, Echo.headerLength]
  omega

/-! ### Reading the lengths of a header -/

theorem claimedHeader_header (p : Probe) (sum : UInt16) (inner : Octets) :
    Datagram.claimedHeader (p.header sum ++ inner) = 20 := by
  have hfirst : octetAt (p.header sum ++ inner) 0 = 0x45 := rfl
  rw [Datagram.claimedHeader, hfirst]
  decide

theorem payloadStart_header (p : Probe) (sum : UInt16) (inner : Octets) :
    Datagram.payloadStart (p.header sum ++ inner) = 20 := by
  rw [Datagram.payloadStart, claimedHeader_header]
  decide

theorem totalLength_header (p : Probe) (sum : UInt16) (inner : Octets) :
    Datagram.totalLength (p.header sum ++ inner) = UInt16.ofNat p.datagramLength :=
  word_high_low _

/-- Within the limit, the stored total length is the length. -/
theorem toNat_totalLength_header {p : Probe} (hp : p.payload.length ≤ 65507) (sum : UInt16)
    (inner : Octets) :
    (Datagram.totalLength (p.header sum ++ inner)).toNat = 28 + p.payload.length := by
  have hlt : p.datagramLength < 65536 := by
    rw [datagramLength_eq]
    omega
  rw [totalLength_header, UInt16.toNat_ofNat_of_lt' hlt, datagramLength_eq]

/-- The header delimits a message of the right length exactly. -/
theorem payload_header {p : Probe} (hp : p.payload.length ≤ 65507) (sum : UInt16)
    {inner : Octets} (hinner : inner.length = 8 + p.payload.length) :
    Datagram.payload (p.header sum ++ inner) = inner := by
  have hlen : (p.header sum ++ inner).length = 28 + p.payload.length := by
    rw [List.length_append, length_header, hinner]
    omega
  have hstop : Datagram.payloadStop (p.header sum ++ inner) = (p.header sum ++ inner).length := by
    rw [Datagram.payloadStop, payloadStart_header, claimedHeader_header,
      toNat_totalLength_header hp, hlen]
    omega
  rw [Datagram.payload, hstop, payloadStart_header, if_neg (by omega), slice, List.take_length,
    List.drop_left' (length_header p sum)]

/-- The header checksum runs over the header and nothing else. -/
theorem checkedHeader_header (p : Probe) (sum : UInt16) (inner : Octets) :
    Datagram.checkedHeader (p.header sum ++ inner) = p.header sum := by
  have hmin : min 20 (p.header sum ++ inner).length = 20 := by
    rw [List.length_append, length_header]
    omega
  rw [Datagram.checkedHeader, claimedHeader_header, if_neg (by decide), hmin,
    List.take_left' (length_header p sum)]

/-! ### The encoder -/

/-- Writing a checksum into a message. -/
theorem overwrite_message (p : Probe) (sum sum' : UInt16) :
    overwrite 2 (wordOctets sum') (p.message sum) = p.message sum' := rfl

/-- Writing a checksum into a datagram. -/
theorem overwrite_header (p : Probe) (sum sum' : UInt16) (inner : Octets) :
    overwrite 10 (wordOctets sum') (p.header sum ++ inner) = p.header sum' ++ inner := rfl

/-- The message fills its room. -/
theorem layMessage_replicate (p : Probe) :
    p.layMessage (List.replicate (8 + p.payload.length) 0)
      = .ok (p.message p.messageChecksum) := by
  have hfilled : (List.replicate (8 + p.payload.length) 0
      |> overwrite 0 [p.icmpType, p.icmpCode]
      |> overwrite 4 (wordOctets p.icmpIdent)
      |> overwrite 6 (wordOctets p.icmpSeq)
      |> overwrite 8 p.payload
      |> overwrite 2 (wordOctets 0)) = p.message 0 := by
    rw [← List.replicate_append_replicate]
    simp [overwrite, wordOctets, message]
    omega
  rw [layMessage, if_neg (by simp [Echo.headerLength])]
  simp only [hfilled, overwrite_message]
  rfl

/-- The datagram fills its room, and its header delimits just the room for the message. -/
theorem layDatagram_replicate {p : Probe} (hp : p.payload.length ≤ 65507) :
    p.layDatagram (List.replicate p.datagramLength 0) = .ok p.datagramOctets := by
  have hheaded : (List.replicate p.datagramLength 0
      |> overwrite 0 [0x45, 0]
      |> overwrite 2 (wordOctets (UInt16.ofNat p.datagramLength))
      |> overwrite 4 (wordOctets p.ipIdent)
      |> overwrite 6 [0, 0]
      |> overwrite 8 [p.ttl, Datagram.icmpProtocol]
      |> overwrite 12 p.src.octets
      |> overwrite 16 p.dst.octets)
        = p.header 0 ++ List.replicate (8 + p.payload.length) 0 := by
    have hroom : List.replicate p.datagramLength (0 : UInt8)
        = List.replicate 20 0 ++ List.replicate (8 + p.payload.length) 0 := by
      rw [List.replicate_append_replicate]
      rfl
    rw [hroom]
    rfl
  -- the lengths are in place by now, so the header delimits the room for the message
  have hinner : overwrite 20 (p.message p.messageChecksum)
      (p.header 0 ++ List.replicate (8 + p.payload.length) 0)
        = p.header 0 ++ p.message p.messageChecksum := by
    rw [overwrite, List.take_left' (length_header p 0), List.drop_eq_nil_of_le (by simp),
      List.append_nil]
  rw [layDatagram, if_neg (by simp [Datagram.headerLength, datagramLength_eq]; omega)]
  simp only [hheaded, payload_header hp 0 List.length_replicate, layMessage_replicate,
    bind, Except.bind, payloadStart_header, hinner, overwrite_header, Datagram.checksum,
    checkedHeader_header]
  rfl

/-! ### The packets -/

theorem checkPayload_of_le {p : Probe} (hp : p.payload.length ≤ 65507) :
    p.checkPayload = .ok () := by
  rw [checkPayload, if_neg]
  exact Nat.not_lt.mpr hp

theorem checkPayload_of_lt {p : Probe} (hp : 65507 < p.payload.length) :
    p.checkPayload = .error (.payloadTooLarge p.payload.length) := by
  rw [checkPayload, if_pos]
  exact hp

/-- **The datagram of a probe** within the limit. -/
theorem datagram_eq_ok {p : Probe} (hp : p.payload.length ≤ 65507) :
    p.datagram = .ok p.datagramOctets := by
  rw [datagram, checkPayload_of_le hp, layDatagram_replicate hp]
  rfl

/-- **The frame of a probe** within the limit. -/
theorem frame_eq_ok {p : Probe} (hp : p.payload.length ≤ 65507) (m : Mac) :
    p.frame m = .ok (p.frameOctets m) := by
  have hheaded : (List.replicate p.frameLength 0
      |> overwrite 0 p.dstMac.octets
      |> overwrite 6 (p.srcMac.getD m).octets
      |> overwrite 12 (wordOctets Ethernet.ipv4Type))
        = p.linkHeader m ++ List.replicate p.datagramLength 0 := by
    have hroom : List.replicate p.frameLength (0 : UInt8)
        = List.replicate 14 0 ++ List.replicate p.datagramLength 0 := by
      rw [List.replicate_append_replicate]
      rfl
    rw [hroom]
    rfl
  have hroom : Ethernet.payload (p.linkHeader m ++ List.replicate p.datagramLength 0)
      = List.replicate p.datagramLength 0 := rfl
  have hinner : overwrite 14 p.datagramOctets
      (p.linkHeader m ++ List.replicate p.datagramLength 0) = p.frameOctets m := by
    rw [overwrite, List.take_left' (length_linkHeader p m),
      List.drop_eq_nil_of_le (by simp [datagramLength_eq]), List.append_nil]
    rfl
  rw [frame, checkPayload_of_le hp]
  simp only [hheaded, hroom, layDatagram_replicate hp, bind, Except.bind]
  rw [if_neg (by simp [frameLength])]
  exact congrArg Except.ok hinner

/-- Beyond the limit there is no datagram. -/
theorem datagram_eq_error {p : Probe} (hp : 65507 < p.payload.length) :
    p.datagram = .error (.payloadTooLarge p.payload.length) := by
  rw [datagram, checkPayload_of_lt hp]
  rfl

/-- Beyond the limit there is no frame. -/
theorem frame_eq_error {p : Probe} (hp : 65507 < p.payload.length) (m : Mac) :
    p.frame m = .error (.payloadTooLarge p.payload.length) := by
  rw [frame, checkPayload_of_lt hp]
  rfl

/-- A datagram that was built is one within the limit. -/
theorem datagram_eq_ok_iff {p : Probe} {d : Octets} :
    p.datagram = .ok d ↔ p.payload.length ≤ 65507 ∧ d = p.datagramOctets := by
  by_cases hp : p.payload.length ≤ 65507
  · simp [datagram_eq_ok hp, hp, eq_comm]
  · simp [datagram_eq_error (Nat.lt_of_not_le hp), hp]

/-- A frame that was built is one within the limit. -/
theorem frame_eq_ok_iff {p : Probe} {m : Mac} {f : Octets} :
    p.frame m = .ok f ↔ p.payload.length ≤ 65507 ∧ f = p.frameOctets m := by
  by_cases hp : p.payload.length ≤ 65507
  · simp [frame_eq_ok hp, hp, eq_comm]
  · simp [frame_eq_error (Nat.lt_of_not_le hp), hp]

end EchoInjector.Probe
