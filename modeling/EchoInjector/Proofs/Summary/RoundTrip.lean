import EchoInjector.Proofs.Probe.Layout
import EchoInjector.Proofs.Summary.Acceptance

/-!
# Reading back what was built

A packet that was built from a probe is always readable, and its summary tells the probe: every
field has the probe's value, the lengths are those of the packet, and both checksums are right.
`Summary.Tells` and `Summary.TellsLink` say what that means for the datagram's part and the
frame's part of a summary.

The checksums come out right because the place of a checksum does not count in it: the encoder
computes over a cleared place, the reader over the stored checksum, and both get the same.

Most of the statements here leave the message open (`inner`) and only fix its length. In this
form they also serve packets whose message was changed on the way.
-/

namespace EchoInjector

open Wire Packet

namespace Summary

/-- A summary **tells** a probe: it has the probe's field values and right checksums. -/
structure Tells (s : Summary) (p : Probe) : Prop where
  ipSrc : s.ipSrc = p.src
  ipDst : s.ipDst = p.dst
  ipTtl : s.ipTtl = p.ttl
  ipIdent : s.ipIdent = p.ipIdent
  /-- The total length is not cut off to its sixteen bits. -/
  ipTotalLength : s.ipTotalLength.toNat = 28 + p.payload.length
  ipChecksumOk : s.ipChecksumOk = true
  icmpType : s.icmpType = p.icmpType
  icmpCode : s.icmpCode = p.icmpCode
  icmpIdent : s.icmpIdent = p.icmpIdent
  icmpSeq : s.icmpSeq = p.icmpSeq
  icmpChecksumOk : s.icmpChecksumOk = true
  payloadLength : s.payloadLength = p.payload.length

/-- A summary tells the link-layer addresses of a frame that carries a datagram. -/
structure TellsLink (s : Summary) (dst src : Mac) : Prop where
  ethDst : s.ethDst = some dst.text
  ethSrc : s.ethSrc = some src.text
  etherType : s.etherType = some 0x0800

/-- A summary has nothing to tell about the link layer. -/
structure TellsNoLink (s : Summary) : Prop where
  ethDst : s.ethDst = none
  ethSrc : s.ethSrc = none
  etherType : s.etherType = none

/-- What a summary tells of the probe does not hang on the frame. -/
theorem Tells.framed {s : Summary} {p : Probe} (h : s.Tells p) (f : Octets) :
    (s.framed f).Tells p :=
  ⟨h.ipSrc, h.ipDst, h.ipTtl, h.ipIdent, h.ipTotalLength, h.ipChecksumOk, h.icmpType,
    h.icmpCode, h.icmpIdent, h.icmpSeq, h.icmpChecksumOk, h.payloadLength⟩

end Summary

namespace Probe

/-! ### The two checksums -/

theorem storedChecksum_header (p : Probe) (sum : UInt16) (inner : Octets) :
    Datagram.storedChecksum (p.header sum ++ inner) = sum :=
  word_high_low _

/-- The stored checksum does not count in the header's checksum. -/
theorem checksum_header (p : Probe) (sum : UInt16) (inner : Octets) :
    Datagram.checksum (p.header sum ++ inner) = p.headerChecksum := by
  -- the sixth word is left out, and the two headers differ nowhere else
  have hcounted : Checksum.counted 5 (p.header sum) = Checksum.counted 5 (p.header 0) := rfl
  rw [Datagram.checksum, checkedHeader_header, headerChecksum, Checksum.compute, hcounted]
  rfl

theorem storedChecksum_message (p : Probe) (sum : UInt16) :
    Echo.storedChecksum (p.message sum) = sum :=
  word_high_low _

/-- The stored checksum does not count in the message's checksum. -/
theorem checksum_message (p : Probe) (sum : UInt16) :
    Echo.checksum (p.message sum) = p.messageChecksum := by
  have hcounted : Checksum.counted 1 (p.message sum) = Checksum.counted 1 (p.message 0) := rfl
  rw [Echo.checksum, messageChecksum, Echo.checksum, Checksum.compute, hcounted]
  rfl

/-! ### Reading a datagram -/

/-- A probe's header makes every message of the right length readable. -/
theorem readable_header {p : Probe} (hp : p.payload.length ≤ 65507) (sum : UInt16)
    {inner : Octets} (hinner : inner.length = 8 + p.payload.length) :
    Summary.Readable (p.header sum ++ inner) where
  header := by
    rw [List.length_append, length_header]
    omega
  version := by
    have hfirst : octetAt (p.header sum ++ inner) 0 = 0x45 := rfl
    rw [Datagram.version, hfirst]
    decide
  total := by
    rw [toNat_totalLength_header hp, List.length_append, length_header, hinner]
    omega
  protocol := rfl
  message := by
    rw [payload_header hp sum hinner, hinner]
    omega

theorem payload_datagramOctets {p : Probe} (hp : p.payload.length ≤ 65507) :
    Datagram.payload p.datagramOctets = p.message p.messageChecksum :=
  payload_header hp _ (length_message _ _)

theorem readable_datagramOctets {p : Probe} (hp : p.payload.length ≤ 65507) :
    Summary.Readable p.datagramOctets :=
  readable_header hp _ (length_message _ _)

/-- **The summary of a built datagram tells its probe.** -/
theorem tells_datagramOctets {p : Probe} (hp : p.payload.length ≤ 65507) :
    (Summary.fields p.datagramOctets).Tells p := by
  have hmessage := payload_datagramOctets hp
  constructor <;> simp only [Summary.fields, hmessage]
  case ipSrc | ipDst | ipTtl | icmpType | icmpCode => rfl
  case ipIdent | icmpIdent | icmpSeq => exact word_high_low _
  case ipTotalLength => exact toNat_totalLength_header hp _ _
  case ipChecksumOk =>
    rw [datagramOctets, checksum_header, storedChecksum_header, beq_self_eq_true]
  case icmpChecksumOk => rw [checksum_message, storedChecksum_message, beq_self_eq_true]
  case payloadLength =>
    rw [length_message]
    omega

/-! ### Reading a frame -/

/-- The sender's address in the frame of a probe. -/
theorem source_linkHeader (p : Probe) (m : Mac) (d : Octets) :
    Ethernet.source (p.linkHeader m ++ d) = p.srcMac.getD m := rfl

/-- A frame is read as its datagram, with the addresses of its link header. -/
theorem ofFrame_linkHeader (p : Probe) (m : Mac) (d : Octets) :
    Summary.ofFrame (p.linkHeader m ++ d)
      = (Summary.ofDatagram d).map (Summary.framed · (p.linkHeader m ++ d)) :=
  Summary.ofFrame_eq_map (by simp) (word_high_low _)

theorem tellsLink_framed (s : Summary) (p : Probe) (m : Mac) (d : Octets) :
    (s.framed (p.linkHeader m ++ d)).TellsLink p.dstMac (p.srcMac.getD m) where
  ethDst := rfl
  ethSrc := rfl
  etherType := congrArg some (word_high_low _)

/-! ### There and back -/

/-- The summary of a built datagram. -/
theorem ofDatagram_datagramOctets {p : Probe} (hp : p.payload.length ≤ 65507) :
    Summary.ofDatagram p.datagramOctets = .ok (Summary.fields p.datagramOctets) :=
  Summary.ofDatagram_eq_ok_iff.mpr ⟨readable_datagramOctets hp, rfl⟩

/-- The summary of a built frame. -/
theorem ofFrame_frameOctets {p : Probe} (hp : p.payload.length ≤ 65507) (m : Mac) :
    Summary.ofFrame (p.frameOctets m)
      = .ok ((Summary.fields p.datagramOctets).framed (p.frameOctets m)) := by
  rw [frameOctets, ofFrame_linkHeader, ofDatagram_datagramOctets hp]
  rfl

/-- **Reading back undoes building**, for frames and for datagrams: within the payload's limit
there is a packet, its summary tells the probe, and behind the headers it carries the payload. -/
theorem summary_of_packet {p : Probe} (hp : p.payload.length ≤ 65507) (m : Mac) :
    (∃ f s, p.frame m = .ok f ∧ Summary.ofFrame f = .ok s ∧ s.Tells p ∧
        s.TellsLink p.dstMac (p.srcMac.getD m) ∧ s.wireLength = 42 + p.payload.length ∧
        f.drop 42 = p.payload) ∧
      ∃ d s, p.datagram = .ok d ∧ Summary.ofDatagram d = .ok s ∧ s.Tells p ∧ s.TellsNoLink ∧
        s.wireLength = 28 + p.payload.length ∧ d.drop 28 = p.payload := by
  have htells := tells_datagramOctets hp
  constructor
  · exact ⟨p.frameOctets m, _, frame_eq_ok hp m, ofFrame_frameOctets hp m, htells.framed _,
      tellsLink_framed _ p m _, length_frameOctets p m, rfl⟩
  · exact ⟨p.datagramOctets, _, datagram_eq_ok hp, ofDatagram_datagramOctets hp, htells,
      ⟨rfl, rfl, rfl⟩, length_datagramOctets p, rfl⟩

/-- A pinned sender and a payload of odd length. -/
theorem summary_of_odd_packet :
    let p : Probe := { srcMac := some ⟨2, 0, 0, 0, 0, 1⟩, payload := [0xde, 0xad, 0xbe] }
    p.payload.length ≤ 65507 ∧
      ∃ f s, p.frame .zero = .ok f ∧ Summary.ofFrame f = .ok s ∧ s.Tells p ∧
        s.ethSrc = some "02:00:00:00:00:01" ∧ s.wireLength = 45 ∧
        f.drop 42 = [0xde, 0xad, 0xbe] := by
  intro p
  have hp : p.payload.length ≤ 65507 := by decide
  obtain ⟨⟨f, s, hframe, hsummary, htells, hlink, hlength, hpayload⟩, -⟩ :=
    summary_of_packet hp .zero
  have hsource : s.ethSrc = some "02:00:00:00:00:01" := hlink.ethSrc.trans (by decide)
  exact ⟨hp, f, s, hframe, hsummary, htells, hsource, hlength, hpayload⟩

end Probe

end EchoInjector
