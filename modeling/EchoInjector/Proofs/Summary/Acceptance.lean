import Mathlib.Tactic.SplitIfs
import Mathlib.Logic.Basic
import EchoInjector.Summary.Decoding

/-!
# Which octets are summarised

A summary can be made of some octets and not of others. `Summary.Readable` lists what a datagram
needs for it, and `Summary.fields` is then the summary: every field is read at its place, and
nothing else can come out. `ofDatagram_eq_ok_iff` and `ofFrame_eq_ok_iff` say so for datagrams and
for frames, over arbitrary octets.
-/

namespace EchoInjector.Summary

open Wire Packet

/-- What a datagram needs to be summarised. -/
structure Readable (d : Octets) : Prop where
  /-- There is a header. -/
  header : 20 ≤ d.length
  /-- It is one of this version. -/
  version : Datagram.version d = 4
  /-- The total length does not exceed what there is. -/
  total : (Datagram.totalLength d).toNat ≤ d.length
  /-- The payload is a control message. -/
  protocol : Datagram.protocol d = Datagram.icmpProtocol
  /-- The payload has room for the header of an echo message. -/
  message : 8 ≤ (Datagram.payload d).length

/-- The summary of a datagram, each field read at its place. -/
def fields (d : Octets) : Summary where
  ethDst := none
  ethSrc := none
  etherType := none
  ipSrc := Datagram.source d
  ipDst := Datagram.destination d
  ipTtl := Datagram.ttl d
  ipIdent := Datagram.ident d
  ipTotalLength := Datagram.totalLength d
  ipChecksumOk := Datagram.checksum d == Datagram.storedChecksum d
  icmpType := Echo.type (Datagram.payload d)
  icmpCode := Echo.code (Datagram.payload d)
  icmpChecksum := Echo.storedChecksum (Datagram.payload d)
  icmpChecksumOk :=
    Echo.checksum (Datagram.payload d) == Echo.storedChecksum (Datagram.payload d)
  icmpIdent := Echo.identifier (Datagram.payload d)
  icmpSeq := Echo.sequenceNumber (Datagram.payload d)
  payloadLength := (Datagram.payload d).length - 8
  wireLength := d.length

/-- A datagram's summary with what the frame around it adds. -/
def framed (s : Summary) (f : Octets) : Summary :=
  { s with
    ethDst := some (Ethernet.destination f).text
    ethSrc := some (Ethernet.source f).text
    etherType := some (Ethernet.etherType f)
    wireLength := f.length }

/-- **Exactly the readable datagrams are summarised**, and always by their fields. -/
theorem ofDatagram_eq_ok_iff {d : Octets} {s : Summary} :
    ofDatagram d = .ok s ↔ Readable d ∧ s = fields d := by
  constructor
  · intro h
    simp only [ofDatagram] at h
    -- of the seven ways out, only the last one is not a failure
    split_ifs at h with hheader hversion htotal hprotocol hcommon hmessage
    have hread : Readable d :=
      ⟨Nat.not_lt.mp hheader, not_not.mp hversion, Nat.not_lt.mp htotal, not_not.mp hprotocol,
        Nat.not_lt.mp hmessage⟩
    exact ⟨hread, (Except.ok.inj h).symm⟩
  · rintro ⟨hread, rfl⟩
    have hheader : ¬ d.length < Datagram.headerLength := Nat.not_lt.mpr hread.header
    have hmessage : ¬ (Datagram.payload d).length < Echo.headerLength :=
      Nat.not_lt.mpr hread.message
    have hcommon : ¬ (Datagram.payload d).length < Echo.commonLength := by
      have := hread.message
      simp only [Echo.commonLength]
      omega
    simp only [ofDatagram]
    rw [if_neg hheader, if_neg (not_not.mpr hread.version), if_neg (Nat.not_lt.mpr hread.total),
      if_neg (not_not.mpr hread.protocol), if_neg hcommon, if_neg hmessage]
    rfl

/-- A frame that announces a datagram is summarised as that datagram is. -/
theorem ofFrame_eq_map {f : Octets} (hlength : 14 ≤ f.length)
    (htype : Ethernet.etherType f = Ethernet.ipv4Type) :
    ofFrame f = (ofDatagram (Ethernet.payload f)).map (framed · f) := by
  have hheader : ¬ f.length < Ethernet.headerLength := Nat.not_lt.mpr hlength
  simp only [ofFrame]
  rw [if_neg hheader, if_neg (not_not.mpr htype)]
  cases ofDatagram (Ethernet.payload f) <;> rfl

/-- A frame is summarised exactly if it has a header, that header announces a datagram, and the
datagram is readable. -/
theorem ofFrame_eq_ok_iff {f : Octets} {s : Summary} :
    ofFrame f = .ok s ↔
      14 ≤ f.length ∧ Ethernet.etherType f = Ethernet.ipv4Type ∧ Readable (Ethernet.payload f) ∧
        s = (fields (Ethernet.payload f)).framed f := by
  constructor
  · intro h
    have hframe := h
    simp only [ofFrame] at hframe
    split_ifs at hframe with hheader htype
    have hlength : 14 ≤ f.length := Nat.not_lt.mp hheader
    rw [ofFrame_eq_map hlength (not_not.mp htype)] at h
    cases hinner : ofDatagram (Ethernet.payload f) with
    | error e =>
      rw [hinner] at h
      cases h
    | ok inner =>
      obtain ⟨hread, rfl⟩ := ofDatagram_eq_ok_iff.mp hinner
      rw [hinner] at h
      exact ⟨hlength, not_not.mp htype, hread, (Except.ok.inj h).symm⟩
  · rintro ⟨hlength, htype, hread, rfl⟩
    rw [ofFrame_eq_map hlength htype, ofDatagram_eq_ok_iff.mpr ⟨hread, rfl⟩]
    rfl

end EchoInjector.Summary
