import EchoInjector.Proofs.Address.MacText
import EchoInjector.Proofs.Summary.RoundTrip
import EchoInjector.Proofs.Summary.Verdicts

/-!
# Which octets are built packets

Not everything that can be summarised with right checksums was built from a probe. The reader
passes over the type of service, the flags and the fragment offset, it follows whatever length
the header claims, and it ignores what stands behind the total length. A frame that has in these
places what the encoder puts there is a **built** frame, and `frame_image` says that nothing else
is: the frames with a right summary, five fixed octets and no padding are exactly those that come
of a probe.

The probe is found in the summary and the octets behind the headers (`Summary.probe?`). It is the
only one, except that a frame does not tell whether its sender was pinned or filled in; so probes
are compared with their sender pinned (`Probe.pinned`).
-/

namespace EchoInjector

open Wire Packet

/-- The same probe with its sender pinned, to the given one where it was open. -/
def Probe.pinned (p : Probe) (srcMac : Mac) : Probe :=
  { p with srcMac := some (p.srcMac.getD srcMac) }

namespace Summary

/-- The probe that the summary of a frame tells, with a given payload. A summary of a mere
datagram does not tell one. -/
def probe? (s : Summary) (payload : Octets) : Option Probe := do
  let dstMac ← s.ethDst.bind fun text => Mac.read? text.toList
  let srcMac ← s.ethSrc.bind fun text => Mac.read? text.toList
  return {
    dstMac, srcMac := some srcMac, src := s.ipSrc, dst := s.ipDst, ttl := s.ipTtl,
    ipIdent := s.ipIdent, icmpType := s.icmpType, icmpCode := s.icmpCode,
    icmpIdent := s.icmpIdent, icmpSeq := s.icmpSeq, payload }

/-- What distinguishes the frames that were built from a probe among those that have a
summary. -/
structure Built (f : Octets) (s : Summary) : Prop where
  summary : ofFrame f = .ok s
  ipChecksumOk : s.ipChecksumOk = true
  icmpChecksumOk : s.icmpChecksumOk = true
  /-- The version, and a header without options. -/
  versionAndLength : f[14]? = some 0x45
  /-- The type of service. -/
  service : f[15]? = some 0
  /-- The flags and the high part of the fragment offset. -/
  fragmentHigh : f[20]? = some 0
  /-- The low part of the fragment offset. -/
  fragmentLow : f[21]? = some 0
  /-- There is no padding. -/
  total : s.ipTotalLength.toNat + 14 = f.length

end Summary

namespace Probe

/-- Whether the sender is pinned or filled in makes no difference to the frame. -/
theorem frame_pinned (p : Probe) (m m' : Mac) : (p.pinned m).frame m' = p.frame m := rfl

/-- The probe whose field values stand in a frame. -/
def ofOctets (f : Octets) : Probe where
  dstMac := Ethernet.destination f
  srcMac := some (Ethernet.source f)
  src := Datagram.source (Ethernet.payload f)
  dst := Datagram.destination (Ethernet.payload f)
  ttl := Datagram.ttl (Ethernet.payload f)
  ipIdent := Datagram.ident (Ethernet.payload f)
  icmpType := Echo.type (f.drop 34)
  icmpCode := Echo.code (f.drop 34)
  icmpIdent := Echo.identifier (f.drop 34)
  icmpSeq := Echo.sequenceNumber (f.drop 34)
  payload := f.drop 42

/-- **In a built frame stands the probe it was built from.** -/
theorem ofOctets_frameOctets (p : Probe) (m : Mac) : ofOctets (p.frameOctets m) = p.pinned m := by
  have hident : Datagram.ident (Ethernet.payload (p.frameOctets m)) = p.ipIdent :=
    word_high_low _
  have hidentifier : Echo.identifier ((p.frameOctets m).drop 34) = p.icmpIdent := word_high_low _
  have hsequence : Echo.sequenceNumber ((p.frameOctets m).drop 34) = p.icmpSeq := word_high_low _
  rw [ofOctets, hident, hidentifier, hsequence]
  rfl

end Probe

/-! ### Headers are made of the fields that are read from them -/

namespace Packet

theorem Ethernet.take_eq_fields {f : Octets} (hf : 14 ≤ f.length) :
    f.take 14 = (destination f).octets ++ (source f).octets ++ wordOctets (etherType f) := by
  rw [take_eq_map_octetAt hf, etherType, wordAt, wordOctets_word]
  rfl

theorem Datagram.take_eq_fields {d : Octets} (hd : 20 ≤ d.length) :
    d.take 20 = [octetAt d 0, octetAt d 1] ++ wordOctets (totalLength d) ++ wordOctets (ident d)
      ++ [octetAt d 6, octetAt d 7, ttl d, protocol d] ++ wordOctets (storedChecksum d)
      ++ (source d).octets ++ (destination d).octets := by
  simp only [take_eq_map_octetAt hd, totalLength, ident, storedChecksum, wordAt, wordOctets_word]
  rfl

theorem Echo.eq_fields {m : Octets} (hm : 8 ≤ m.length) :
    m = [type m, code m] ++ wordOctets (storedChecksum m) ++ wordOctets (identifier m)
      ++ wordOctets (sequenceNumber m) ++ m.drop 8 := by
  have hhead : m.take 8 = [type m, code m] ++ wordOctets (storedChecksum m)
      ++ wordOctets (identifier m) ++ wordOctets (sequenceNumber m) := by
    simp only [take_eq_map_octetAt hm, storedChecksum, identifier, sequenceNumber, wordAt,
      wordOctets_word]
    rfl
  rw [← hhead, List.take_append_drop]

end Packet

namespace Summary

variable {f : Octets} {s : Summary}

/-- A built frame carries a readable datagram, and the summary is made of the two. -/
theorem Built.readable (h : Built f s) :
    14 ≤ f.length ∧ Ethernet.etherType f = Ethernet.ipv4Type ∧ Readable (Ethernet.payload f) ∧
      s = (fields (Ethernet.payload f)).framed f :=
  ofFrame_eq_ok_iff.mp h.summary

/-- The octets of the datagram's header that the reader passes over. -/
theorem Built.unread (h : Built f s) :
    octetAt (Ethernet.payload f) 0 = 0x45 ∧ octetAt (Ethernet.payload f) 1 = 0 ∧
      octetAt (Ethernet.payload f) 6 = 0 ∧ octetAt (Ethernet.payload f) 7 = 0 := by
  refine ⟨?_, ?_, ?_, ?_⟩ <;> rw [Ethernet.payload, octetAt_drop]
  · exact octetAt_of_getElem? h.versionAndLength
  · exact octetAt_of_getElem? h.service
  · exact octetAt_of_getElem? h.fragmentHigh
  · exact octetAt_of_getElem? h.fragmentLow

/-- The datagram of a built frame fills it. -/
theorem Built.totalLength_eq (h : Built f s) :
    (Datagram.totalLength (Ethernet.payload f)).toNat = (Ethernet.payload f).length := by
  obtain ⟨hlength, -, -, rfl⟩ := h.readable
  have htotal : (Datagram.totalLength (Ethernet.payload f)).toNat + 14 = f.length := h.total
  have hpayload : (Ethernet.payload f).length = f.length - 14 := List.length_drop
  omega

/-- The message of a built frame starts right behind the least headers. -/
theorem Built.payload_eq (h : Built f s) :
    Datagram.payload (Ethernet.payload f) = f.drop 34 := by
  obtain ⟨-, -, hread, -⟩ := h.readable
  have hclaim : Datagram.claimedHeader (Ethernet.payload f) = 20 := by
    rw [Datagram.claimedHeader, h.unread.1]
    decide
  have hstart := hread.payloadStart_lt
  rw [Datagram.payloadStart, hclaim] at hstart
  rw [Datagram.payload_eq_drop hclaim.ge (by rw [hclaim]; exact hstart) h.totalLength_eq, hclaim,
    Ethernet.payload, List.drop_drop]
  rfl

/-- The probe of a built frame is found in its summary. -/
theorem Built.probe?_eq (h : Built f s) : s.probe? (f.drop 42) = some (Probe.ofOctets f) := by
  have hmessage := h.payload_eq
  obtain ⟨-, -, -, rfl⟩ := h.readable
  simp only [probe?, framed, fields, hmessage, Option.bind_some, Mac.read?_text]
  rfl

end Summary

namespace Probe

variable {f : Octets} {s : Summary}

/-! ### Building again from the probe in a frame -/

theorem linkHeader_ofOctets (h : Summary.Built f s) (m : Mac) :
    (ofOctets f).linkHeader m = f.take 14 := by
  obtain ⟨hlength, htype, -, -⟩ := h.readable
  rw [Ethernet.take_eq_fields hlength, htype]
  rfl

theorem header_ofOctets (h : Summary.Built f s) :
    (ofOctets f).header (Datagram.storedChecksum (Ethernet.payload f))
      = (Ethernet.payload f).take 20 := by
  obtain ⟨hlength, -, hread, -⟩ := h.readable
  obtain ⟨hversion, hservice, hhigh, hlow⟩ := h.unread
  have hdatagram : (ofOctets f).datagramLength = (Ethernet.payload f).length := by
    have hheader := hread.header
    have hpayload : (ofOctets f).payload.length = f.length - 42 := List.length_drop
    have hinner : (Ethernet.payload f).length = f.length - 14 := List.length_drop
    have hmessage := hread.message
    rw [h.payload_eq, List.length_drop] at hmessage
    rw [datagramLength_eq]
    omega
  have htotal : UInt16.ofNat (ofOctets f).datagramLength
      = Datagram.totalLength (Ethernet.payload f) := by
    rw [hdatagram, ← h.totalLength_eq, UInt16.ofNat_toNat]
  rw [Datagram.take_eq_fields hread.header, hversion, hservice, hhigh, hlow, hread.protocol,
    header, htotal]
  rfl

theorem message_ofOctets (h : Summary.Built f s) :
    (ofOctets f).message (Echo.storedChecksum (f.drop 34)) = f.drop 34 := by
  obtain ⟨-, -, hread, -⟩ := h.readable
  have hlength := hread.message
  rw [h.payload_eq] at hlength
  have hfields := Echo.eq_fields hlength
  rw [List.drop_drop] at hfields
  exact hfields.symm

/-- **A built frame is the one that is built from the probe in it.** -/
theorem frameOctets_ofOctets (h : Summary.Built f s) (m : Mac) :
    (ofOctets f).frameOctets m = f := by
  have hheader := header_ofOctets h
  have hmessage := message_ofOctets h
  have hpayload := h.payload_eq
  have hip := h.ipChecksumOk
  have hicmp := h.icmpChecksumOk
  obtain ⟨-, -, -, rfl⟩ := h.readable
  -- the stored checksums are the ones that the encoder computes, since they verify
  have hheaderSum : (ofOctets f).headerChecksum
      = Datagram.storedChecksum (Ethernet.payload f) := by
    have hstored : Datagram.checksum (Ethernet.payload f)
        = Datagram.storedChecksum (Ethernet.payload f) := beq_iff_eq.mp hip
    rw [← hstored, ← List.take_append_drop 20 (Ethernet.payload f), ← hheader, checksum_header]
  have hmessageSum : (ofOctets f).messageChecksum = Echo.storedChecksum (f.drop 34) := by
    have hstored : Echo.checksum (Datagram.payload (Ethernet.payload f))
        = Echo.storedChecksum (Datagram.payload (Ethernet.payload f)) := beq_iff_eq.mp hicmp
    rw [hpayload] at hstored
    rw [← hstored, ← hmessage, checksum_message]
  rw [frameOctets, datagramOctets, linkHeader_ofOctets h, hheaderSum, hheader, hmessageSum,
    hmessage]
  have hdrop : f.drop 34 = (Ethernet.payload f).drop 20 := by
    rw [Ethernet.payload, List.drop_drop]
    rfl
  rw [hdrop, List.take_append_drop]
  exact List.take_append_drop 14 f

/-- The payload of a built frame is within the limit, since the total length has sixteen bits. -/
theorem length_payload_ofOctets (h : Summary.Built f s) :
    (ofOctets f).payload.length ≤ 65507 := by
  have htotal := h.total
  have hmax := s.ipTotalLength.toNat_lt
  have hpayload : (ofOctets f).payload.length = f.length - 42 := List.length_drop
  omega

/-- The frame of a probe within the limit is a built one. -/
theorem built_frameOctets {p : Probe} (hp : p.payload.length ≤ 65507) (m : Mac) :
    Summary.Built (p.frameOctets m)
      ((Summary.fields p.datagramOctets).framed (p.frameOctets m)) where
  summary := ofFrame_frameOctets hp m
  ipChecksumOk := (tells_datagramOctets hp).ipChecksumOk
  icmpChecksumOk := (tells_datagramOctets hp).icmpChecksumOk
  versionAndLength := rfl
  service := rfl
  fragmentHigh := rfl
  fragmentLow := rfl
  total := by
    have htotal := ((tells_datagramOctets hp).framed (p.frameOctets m)).ipTotalLength
    rw [htotal, length_frameOctets]
    omega

/-- **The built frames are exactly the frames of probes**, and the probe found in the summary of
such a frame is, with its sender pinned, the only one that gives this frame. -/
theorem frame_image (f : Octets) :
    ((∃ (p : Probe) (m : Mac), p.frame m = .ok f) ↔ ∃ s, Summary.Built f s) ∧
      ∀ s, Summary.Built f s → ∃ q, s.probe? (f.drop 42) = some q ∧ (∀ m, q.frame m = .ok f) ∧
        ∀ (p : Probe) (m : Mac), p.frame m = .ok f ↔ p.pinned m = q := by
  have hrebuilt : ∀ s, Summary.Built f s → ∀ m, (ofOctets f).frame m = .ok f := fun s h m =>
    frame_eq_ok_iff.mpr ⟨length_payload_ofOctets h, (frameOctets_ofOctets h m).symm⟩
  refine ⟨⟨?_, ?_⟩, fun s h => ⟨ofOctets f, h.probe?_eq, hrebuilt s h, fun p m => ⟨?_, ?_⟩⟩⟩
  · rintro ⟨p, m, hframe⟩
    obtain ⟨hp, rfl⟩ := frame_eq_ok_iff.mp hframe
    exact ⟨_, built_frameOctets hp m⟩
  · rintro ⟨s, h⟩
    exact ⟨ofOctets f, .zero, hrebuilt s h .zero⟩
  · intro hframe
    obtain ⟨-, rfl⟩ := frame_eq_ok_iff.mp hframe
    exact (ofOctets_frameOctets p m).symm
  · intro hpinned
    rw [← frame_pinned p m .zero, hpinned]
    exact hrebuilt s h .zero

/-- There are built frames: the probe of one comes back with its sender pinned. -/
theorem frame_image_of_bare_probe :
    ∃ (f : Octets) (s : Summary), Summary.Built f s ∧
      s.probe? (f.drop 42) = some { srcMac := some ⟨2, 0, 0, 0, 0, 1⟩ } := by
  have hp : ({} : Probe).payload.length ≤ 65507 := by decide
  have hframe := frame_eq_ok hp ⟨2, 0, 0, 0, 0, 1⟩
  obtain ⟨hbuilt, hprobe⟩ := frame_image (({} : Probe).frameOctets ⟨2, 0, 0, 0, 0, 1⟩)
  obtain ⟨s, hs⟩ := hbuilt.mp ⟨_, _, hframe⟩
  obtain ⟨q, hq, -, hunique⟩ := hprobe s hs
  refine ⟨_, s, hs, hq.trans (congrArg some ?_)⟩
  exact ((hunique _ _).mp hframe).symm

end Probe

end EchoInjector
