import EchoInjector.Proofs.Probe.Layout
import EchoInjector.Proofs.Wire.Balance

/-!
# Packets as plain concatenations

This module writes the packets of a probe down once more, and this time with nothing that the
encoder uses: numbers are taken apart by division, and the checksums are complements of the sums
that a receiver forms, over parts whose checksum is still zero. `encode_eq_plain` says that the
encoder gives just that, or refuses a payload that is too long, and nothing else ever comes of it.

The two ways of writing a header or a message down agree part by part (`header_eq_plain`,
`message_eq_plain`). Only the checksums take an argument: the encoder adds up in 32 bits and leaves
out one word, and that this comes to the same needs parts of at most 65535 octets.
-/

namespace EchoInjector.Probe

open Wire Packet

/-! ### The plain description -/

/-- A number below 65536 in two octets, the high one first. -/
def bigEndian (n : Nat) : Octets := [UInt8.ofNat (n / 256), UInt8.ofNat (n % 256)]

/-- The header of the datagram with a given checksum. -/
def plainHeader (p : Probe) (sum : Nat) : Octets :=
  [0x45, 0x00] ++ bigEndian (28 + p.payload.length) ++ bigEndian p.ipIdent.toNat ++ [0x00, 0x00]
    ++ [p.ttl] ++ [0x01] ++ bigEndian sum ++ p.src.octets ++ p.dst.octets

/-- The message with a given checksum. -/
def plainMessage (p : Probe) (sum : Nat) : Octets :=
  [p.icmpType] ++ [p.icmpCode] ++ bigEndian sum ++ bigEndian p.icmpIdent.toNat
    ++ bigEndian p.icmpSeq.toNat ++ p.payload

/-- The datagram: the header and the message, each with the checksum that it has as long as its own
checksum is zero. -/
def plainDatagram (p : Probe) : Octets :=
  p.plainHeader (Checksum.complement (p.plainHeader 0))
    ++ p.plainMessage (Checksum.complement (p.plainMessage 0))

/-- The frame: both addresses and the type, and the datagram. -/
def plainFrame (p : Probe) (srcMac : Mac) : Octets :=
  p.dstMac.octets ++ (p.srcMac.getD srcMac).octets ++ [0x08, 0x00] ++ p.plainDatagram

/-! ### The parts -/

/-- A number is taken apart by division. -/
theorem wordOctets_eq_bigEndian (w : UInt16) : wordOctets w = bigEndian w.toNat := by
  have hhigh : (w >>> 8).toUInt8 = UInt8.ofNat (w.toNat / 256) := by
    rw [← toNat_high, UInt8.ofNat_toNat]
  have hlow : w.toUInt8 = UInt8.ofNat (w.toNat % 256) := by
    rw [← toNat_low, UInt8.ofNat_toNat]
  rw [wordOctets, bigEndian, hhigh, hlow]

theorem header_eq_plain {p : Probe} (hp : p.payload.length ≤ 65507) (sum : UInt16) :
    p.header sum = p.plainHeader sum.toNat := by
  have hlt : p.datagramLength < 65536 := by
    rw [datagramLength_eq]
    omega
  have hlength : (UInt16.ofNat p.datagramLength).toNat = 28 + p.payload.length := by
    rw [UInt16.toNat_ofNat_of_lt' hlt, datagramLength_eq]
  simp only [header, plainHeader, wordOctets_eq_bigEndian, hlength]
  rfl

theorem message_eq_plain (p : Probe) (sum : UInt16) :
    p.message sum = p.plainMessage sum.toNat := by
  simp only [message, plainMessage, wordOctets_eq_bigEndian]
  rfl

theorem toNat_headerChecksum {p : Probe} (hp : p.payload.length ≤ 65507) :
    p.headerChecksum.toNat = Checksum.complement (p.plainHeader 0) := by
  have hlength := p.length_header 0
  have hcleared : Checksum.cleared 5 (p.header 0) = p.plainHeader 0 := header_eq_plain hp 0
  rw [← hcleared]
  exact Checksum.toNat_compute_eq_complement (by omega) (by omega)

theorem toNat_messageChecksum {p : Probe} (hp : p.payload.length ≤ 65507) :
    p.messageChecksum.toNat = Checksum.complement (p.plainMessage 0) := by
  have hlength := p.length_message 0
  have hcleared : Checksum.cleared 1 (p.message 0) = p.plainMessage 0 := p.message_eq_plain 0
  rw [← hcleared]
  exact Checksum.toNat_compute_eq_complement (by omega) (by omega)

theorem datagramOctets_eq_plain {p : Probe} (hp : p.payload.length ≤ 65507) :
    p.datagramOctets = p.plainDatagram := by
  rw [datagramOctets, header_eq_plain hp, message_eq_plain, toNat_headerChecksum hp,
    toNat_messageChecksum hp]
  rfl

theorem frameOctets_eq_plain {p : Probe} (hp : p.payload.length ≤ 65507) (m : Mac) :
    p.frameOctets m = p.plainFrame m := by
  rw [frameOctets, datagramOctets_eq_plain hp]
  rfl

/-! ### The encoder -/

theorem datagram_eq_plain (p : Probe) :
    p.datagram = if 65507 < p.payload.length then .error (.payloadTooLarge p.payload.length)
      else .ok p.plainDatagram := by
  split
  case isTrue hp => exact datagram_eq_error hp
  case isFalse hp =>
    have hle : p.payload.length ≤ 65507 := Nat.not_lt.mp hp
    rw [datagram_eq_ok hle, datagramOctets_eq_plain hle]

theorem frame_eq_plain (p : Probe) (m : Mac) :
    p.frame m = if 65507 < p.payload.length then .error (.payloadTooLarge p.payload.length)
      else .ok (p.plainFrame m) := by
  split
  case isTrue hp => exact frame_eq_error hp m
  case isFalse hp =>
    have hle : p.payload.length ≤ 65507 := Nat.not_lt.mp hp
    rw [frame_eq_ok hle, frameOctets_eq_plain hle]

/-- **The encoder gives the plain concatenation**, for every probe, and only refuses a payload that
is too long. So the datagram is the frame without its first fourteen octets, and no link-layer
address has a say in it. -/
theorem encode_eq_plain (p : Probe) (m : Mac) :
    (p.frame m = if 65507 < p.payload.length then .error (.payloadTooLarge p.payload.length)
      else .ok (p.plainFrame m)) ∧
    (p.datagram = if 65507 < p.payload.length then .error (.payloadTooLarge p.payload.length)
      else .ok p.plainDatagram) ∧
    p.datagram = (p.frame m).map (·.drop 14) ∧
    ∀ dstMac srcMac, { p with dstMac, srcMac }.datagram = p.datagram := by
  refine ⟨p.frame_eq_plain m, p.datagram_eq_plain, ?_, fun dstMac srcMac => ?_⟩
  · rw [p.frame_eq_plain m, p.datagram_eq_plain]
    split <;> rfl
  · exact (datagram_eq_plain { p with dstMac, srcMac }).trans p.datagram_eq_plain.symm

/-- A payload of two octets, in the packet that the defaults describe. -/
example : plainDatagram { payload := [0x68, 0x69] } =
    [0x45, 0x00, 0x00, 0x1e, 0x00, 0x01, 0x00, 0x00, 0x40, 0x01, 0x66, 0xdc,
      10, 0, 0, 1, 10, 0, 0, 2, 0x08, 0x00, 0x8f, 0x96, 0, 0, 0, 0, 0x68, 0x69] := by
  decide

end EchoInjector.Probe
