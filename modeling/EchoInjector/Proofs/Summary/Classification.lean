import EchoInjector.Proofs.Summary.Acceptance
import EchoInjector.Proofs.Wire.Balance

/-!
# How octets are classified

Whatever octets come in, they are refused for the first of a fixed list of doubts that applies, and
if none does they are summarised. This module writes the doubts and the summary down with plain
arithmetic on the octets: halves of an octet are a quotient and a remainder by sixteen, numbers are
put together by multiplication, and the message is cut out once, as the **area** from the end of the
header up to the total length or the end of what there is. `classified` says that datagrams and
frames are treated just so, without any assumption about them.

The reader finds the same area through offsets that are clamped one by one, so that a header may
claim any length, from nothing to more than there is. Neither the header's end nor the area is long
enough for the 32-bit sum of a checksum to overflow, and what is summarised contains its header
(`headerEnd_lt_of_area`).
-/

namespace EchoInjector.Summary

open Wire Packet Text

/-! ### Plain readings -/

/-- The octet at an offset, as a number. -/
def natAt (d : Octets) (i : Nat) : Nat := (d.getD i 0).toNat

/-- The number in two octets, the high one first. -/
def bigAt (d : Octets) (i : Nat) : Nat := 256 * natAt d i + natAt d (i + 1)

/-- The four octets of an Internet address. -/
def ipAt (d : Octets) (i : Nat) : IPv4 :=
  ⟨d.getD i 0, d.getD (i + 1) 0, d.getD (i + 2) 0, d.getD (i + 3) 0⟩

/-- The six octets of a link-layer address. -/
def macAt (d : Octets) (i : Nat) : Mac :=
  ⟨d.getD i 0, d.getD (i + 1) 0, d.getD (i + 2) 0, d.getD (i + 3) 0, d.getD (i + 4) 0,
    d.getD (i + 5) 0⟩

/-- The length that a header claims: the low half of its first octet, in fours. -/
def claim (d : Octets) : Nat := 4 * (natAt d 0 % 16)

/-- The end of the header, which has twenty octets at least. -/
def headerEnd (d : Octets) : Nat := max 20 (claim d)

/-- The **area** of the message. -/
def area (d : Octets) : Octets :=
  (d.take (min (headerEnd d + (bigAt d 2 - claim d)) d.length)).drop (headerEnd d)

/-- The summary of a datagram in plain readings. A checksum is right if it is the one that is
computed over its run with zeros in its place. -/
def plainFields (d : Octets) : Summary where
  ethDst := none
  ethSrc := none
  etherType := none
  ipSrc := ipAt d 12
  ipDst := ipAt d 16
  ipTtl := d.getD 8 0
  ipIdent := UInt16.ofNat (bigAt d 4)
  ipTotalLength := UInt16.ofNat (bigAt d 2)
  ipChecksumOk :=
    decide (Checksum.complement (Checksum.cleared 5 (d.take (headerEnd d))) = bigAt d 10)
  icmpType := (area d).getD 0 0
  icmpCode := (area d).getD 1 0
  icmpChecksum := UInt16.ofNat (bigAt (area d) 2)
  icmpChecksumOk :=
    decide (Checksum.complement (Checksum.cleared 1 (area d)) = bigAt (area d) 2)
  icmpIdent := UInt16.ofNat (bigAt (area d) 4)
  icmpSeq := UInt16.ofNat (bigAt (area d) 6)
  payloadLength := (area d).length - 8
  wireLength := d.length

/-- A summary with the link-layer fields of a frame. -/
def plainFramed (s : Summary) (f : Octets) : Summary :=
  { s with
    ethDst := some (macAt f 0).text
    ethSrc := some (macAt f 6).text
    etherType := some (UInt16.ofNat (bigAt f 12))
    wireLength := f.length }

/-! ### Doubts -/

/-- A reason for refusing octets, and whether it applies to them. -/
structure Doubt where
  applies : Bool
  failure : Failure

/-- Fails with the first doubt that applies, or else is what is given. -/
def barring {α : Type} (doubts : List Doubt) (otherwise : Except Failure α) : Except Failure α :=
  match doubts.find? (·.applies) with
  | some doubt => .error doubt.failure
  | none => otherwise

/-- The doubts about a datagram, in order. -/
def datagramDoubts (d : Octets) : List Doubt :=
  [⟨d.length < 20, .truncated "ipv4 header"⟩,
   ⟨natAt d 0 / 16 ≠ 4, .unexpectedProtocol ("ip version " ++ decimal (natAt d 0 / 16))⟩,
   ⟨d.length < bigAt d 2, .truncated "ipv4 payload"⟩,
   ⟨natAt d 9 ≠ 1, .unexpectedProtocol ("ip protocol " ++ protocolName (d.getD 9 0))⟩,
   ⟨(area d).length < 4, .truncated "icmp header"⟩,
   ⟨(area d).length < 8, .truncated "icmp echo"⟩]

/-- The doubts about a frame, in order, before its datagram is looked at. -/
def frameDoubts (f : Octets) : List Doubt :=
  [⟨f.length < 14, .truncated "ethernet header"⟩,
   ⟨bigAt f 12 ≠ 0x0800,
    .unexpectedProtocol ("ethertype " ++ etherTypeName (UInt16.ofNat (bigAt f 12)))⟩]

theorem barring_nil {α : Type} (otherwise : Except Failure α) : barring [] otherwise = otherwise :=
  rfl

/-- A doubt that applies comes before all that follow. -/
theorem barring_cons {α : Type} (p : Prop) [Decidable p] (e : Failure) (doubts : List Doubt)
    (otherwise : Except Failure α) :
    barring (⟨decide p, e⟩ :: doubts) otherwise
      = if p then .error e else barring doubts otherwise := by
  by_cases hp : p
  · simp [barring, hp]
  · simp [barring, hp]

/-! ### The readings agree -/

theorem toNat_wordAt (d : Octets) (i : Nat) : (wordAt d i).toNat = bigAt d i :=
  toNat_word _ _

theorem wordAt_eq_bigAt (d : Octets) (i : Nat) : wordAt d i = UInt16.ofNat (bigAt d i) := by
  rw [← toNat_wordAt, UInt16.ofNat_toNat]

theorem toNat_version (d : Octets) : (Datagram.version d).toNat = natAt d 0 / 16 := by
  rw [Datagram.version, UInt8.toNat_shiftRight, Nat.shiftRight_eq_div_pow]
  rfl

theorem claimedHeader_eq_claim (d : Octets) : Datagram.claimedHeader d = claim d := by
  rw [Datagram.claimedHeader, UInt8.toNat_and, claim]
  exact congrArg (4 * ·) (Nat.and_two_pow_sub_one_eq_mod _ 4)

theorem claim_le (d : Octets) : claim d ≤ 60 := by
  rw [claim]
  omega

theorem bigAt_lt (d : Octets) (i : Nat) : bigAt d i < 65536 := by
  rw [← toNat_wordAt]
  exact (wordAt d i).toNat_lt

theorem payloadStart_eq_headerEnd (d : Octets) : Datagram.payloadStart d = headerEnd d := by
  rw [Datagram.payloadStart, claimedHeader_eq_claim, Datagram.headerLength, headerEnd]
  omega

/-- **The message that the reader finds is the area.** -/
theorem payload_eq_area (d : Octets) : Datagram.payload d = area d := by
  rw [Datagram.payload, Datagram.payloadStop, payloadStart_eq_headerEnd, claimedHeader_eq_claim,
    Datagram.totalLength, toNat_wordAt]
  split
  case isTrue hshort =>
    rw [area, List.drop_eq_nil_of_le]
    rw [List.length_take]
    omega
  case isFalse => rfl

/-- **The header that is checked ends where the message begins**, or where the octets do. -/
theorem checkedHeader_eq_take_headerEnd (d : Octets) :
    Datagram.checkedHeader d = d.take (headerEnd d) := by
  rw [Datagram.checkedHeader, claimedHeader_eq_claim, headerEnd, Datagram.headerLength]
  split
  case isTrue hless => rw [Nat.max_eq_left hless.le]
  case isFalse hmore => rw [Nat.max_eq_right (Nat.not_lt.mp hmore), ← List.take_eq_take_min]

theorem length_area_le (d : Octets) : (area d).length ≤ 65535 := by
  have htotal := bigAt_lt d 2
  rw [area, List.length_drop, List.length_take]
  omega

/-- A message that is there begins inside the octets, and so its header lies inside them. -/
theorem headerEnd_lt_of_area {d : Octets} (h : area d ≠ []) : headerEnd d < d.length := by
  by_contra hshort
  refine h (List.drop_eq_nil_of_le ?_)
  rw [List.length_take]
  omega

/-! ### The summaries agree -/

/-- A verdict in plain readings. -/
theorem verdict_eq {skip : Nat} {run : Octets} (hrun : run.length ≤ 65535)
    (hskip : 2 * skip + 1 < run.length) (stored : UInt16) :
    (Checksum.compute skip run == stored)
      = decide (Checksum.complement (Checksum.cleared skip run) = stored.toNat) := by
  rw [← Checksum.toNat_compute_eq_complement hrun hskip, Bool.eq_iff_iff, beq_iff_eq,
    decide_eq_true_eq, UInt16.toNat_inj]

theorem fields_eq_plain {d : Octets} (hheader : 20 ≤ d.length) (hmessage : 8 ≤ (area d).length) :
    fields d = plainFields d := by
  have hclaim := claim_le d
  have hlength : (d.take (headerEnd d)).length = min (max 20 (claim d)) d.length := by
    rw [List.length_take, headerEnd]
  have harea := length_area_le d
  have hip : (Datagram.checksum d == Datagram.storedChecksum d) = (plainFields d).ipChecksumOk := by
    rw [Datagram.checksum, checkedHeader_eq_take_headerEnd, verdict_eq (by omega) (by omega),
      Datagram.storedChecksum, toNat_wordAt]
    rfl
  have hicmp : (Echo.checksum (area d) == Echo.storedChecksum (area d))
      = (plainFields d).icmpChecksumOk := by
    rw [Echo.checksum, verdict_eq harea (by omega), Echo.storedChecksum, toNat_wordAt]
    rfl
  rw [fields, payload_eq_area, hip, hicmp]
  simp only [Datagram.ident, Datagram.totalLength, Echo.storedChecksum, Echo.identifier,
    Echo.sequenceNumber, wordAt_eq_bigAt]
  rfl

/-- **Datagrams are classified** by their first doubt. -/
theorem ofDatagram_eq_barring (d : Octets) :
    ofDatagram d = barring (datagramDoubts d) (.ok (plainFields d)) := by
  have hversion_iff : Datagram.version d ≠ 4 ↔ natAt d 0 / 16 ≠ 4 := by
    rw [← toNat_version, not_iff_not, ← UInt8.toNat_inj]
    rfl
  have hprotocol_iff : Datagram.protocol d ≠ Datagram.icmpProtocol ↔ natAt d 9 ≠ 1 := by
    rw [not_iff_not, ← UInt8.toNat_inj]
    rfl
  simp only [datagramDoubts, barring_cons, barring_nil, ofDatagram, payload_eq_area,
    Datagram.totalLength, toNat_wordAt, hversion_iff, hprotocol_iff, toNat_version,
    Datagram.headerLength, Echo.commonLength, Echo.headerLength]
  -- six of the seven ways out are the same failure on both sides
  split_ifs with hheader hversion htotal hprotocol hcommon hmessage
  iterate 6 rfl
  rw [← fields_eq_plain (Nat.not_lt.mp hheader) (Nat.not_lt.mp hmessage), fields, payload_eq_area]
  rfl

/-- **Frames are classified** by their first doubt, or else as their datagrams are. -/
theorem ofFrame_eq_barring (f : Octets) :
    ofFrame f = barring (frameDoubts f) ((ofDatagram (f.drop 14)).map (plainFramed · f)) := by
  have htype_iff : Ethernet.etherType f ≠ Ethernet.ipv4Type ↔ bigAt f 12 ≠ 0x0800 := by
    rw [not_iff_not, ← toNat_wordAt, ← UInt16.toNat_inj]
    rfl
  have hinner : Ethernet.payload f = f.drop 14 := rfl
  simp only [frameDoubts, barring_cons, barring_nil, ofFrame, htype_iff, hinner,
    Ethernet.headerLength]
  rw [Ethernet.etherType, wordAt_eq_bigAt]
  split_ifs
  iterate 2 rfl
  cases ofDatagram (f.drop 14) <;> rfl

/-- **All octets are classified**, as a datagram and as a frame: they are refused for the first
doubt that applies, and otherwise every field is read at its place. The header that is checked then
lies inside the octets; octets that end with it, or before, have no message. -/
theorem classified (x : Octets) :
    ofDatagram x = barring (datagramDoubts x) (.ok (plainFields x)) ∧
    (∀ s, ofDatagram x = .ok s → headerEnd x < x.length) ∧
    (x.length ≤ headerEnd x → area x = []) ∧
    ofFrame x = barring (frameDoubts x) ((ofDatagram (x.drop 14)).map (plainFramed · x)) := by
  refine ⟨ofDatagram_eq_barring x, fun s hs => ?_, fun hshort => ?_, ofFrame_eq_barring x⟩
  · obtain ⟨hread, -⟩ := ofDatagram_eq_ok_iff.mp hs
    have hmessage := hread.message
    rw [payload_eq_area] at hmessage
    exact headerEnd_lt_of_area (List.ne_nil_of_length_pos (by omega))
  · by_contra hne
    exact absurd (headerEnd_lt_of_area hne) (Nat.not_lt.mpr hshort)

/-- A header that claims nothing at all, in front of a message and of octets behind the total
length, and one that claims more than there is. -/
theorem classified_of_wrong_claims :
    let d : Octets := [0x40, 0, 0, 28, 0, 1, 0, 0, 64, 1, 0x6b, 0xde, 10, 0, 0, 1, 10, 0, 0, 2,
      8, 0, 0xf7, 0xfd, 0, 1, 0, 1, 0, 0]
    let e : Octets := 0x4f :: d.drop 1
    (∃ s, ofDatagram d = .ok s ∧ headerEnd d < d.length ∧ s.payloadLength = 2) ∧
      e.length ≤ headerEnd e ∧ area e = [] ∧ ofDatagram e = .error (.truncated "icmp header") := by
  intro d e
  obtain ⟨hread, hinside, -⟩ := classified d
  obtain ⟨hreadlong, -, hnone, -⟩ := classified e
  have hok : ofDatagram d = .ok (plainFields d) := hread.trans (by decide +kernel)
  have hlong : e.length ≤ headerEnd e := by decide
  exact ⟨⟨_, hok, hinside _ hok, by decide⟩, hlong, hnone hlong,
    hreadlong.trans (by decide +kernel)⟩

end EchoInjector.Summary
