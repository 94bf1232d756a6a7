import EchoInjector.Proofs.Summary.Verdicts

/-!
# Padding

Short packets reach a reader with octets behind them that are not theirs. Let `t` be octets that
follow a readable datagram `d`. All that is read at a fixed place stays as it was, and so does the
checked header, so what can happen to the summary is decided by how far the payload goes.

The payload is as long as the total length less the claimed header length, and it starts behind
the claimed header, but not before offset twenty. It therefore ends at the total length if the
header claims at least twenty octets, and **as much behind it as the header claims too little**
otherwise. This end is `Datagram.reach`. The check of the total length against the octets that are
there does not bound it.

* `ofDatagram_append` and `ofFrame_append` describe the summary of padded octets in full: the
  payload grows by the `exposed` part of the padding, the message's verdict may change with it,
  and the rest stays, up to the number of octets on the wire.
* `padding_ignored_iff`: the padding is ignored exactly if there is none or the reach is not
  behind the end. A header that claims at least its least length ensures the latter.
-/

namespace EchoInjector

open Wire Packet

namespace Packet.Datagram

/-! ### How far a datagram is read -/

/-- The **reach** of a datagram is the offset at which its payload ends, if there is that much:
the total length, and as much more as the header claims too little. -/
def reach (d : Octets) : Nat := (totalLength d).toNat + (headerLength - claimedHeader d)

/-- The reach of a header that claims its least length is the total length. -/
theorem reach_eq_totalLength {d : Octets} (hclaim : 20 ≤ claimedHeader d) :
    reach d = (totalLength d).toNat := by
  rw [reach, headerLength, Nat.sub_eq_zero_of_le hclaim, Nat.add_zero]

theorem payloadStart_le_reach {d : Octets} (hclaim : claimedHeader d ≤ (totalLength d).toNat) :
    payloadStart d ≤ reach d := by
  simp only [payloadStart, reach, headerLength]
  omega

/-- **The payload goes from its start to the reach**, as far as there are octets. -/
theorem payload_eq_slice {d : Octets} (hclaim : claimedHeader d ≤ (totalLength d).toNat)
    (hstart : payloadStart d < d.length) : payload d = slice d (payloadStart d) (reach d) := by
  have hstop : payloadStop d = min (reach d) d.length := by
    simp only [payloadStop, payloadStart, reach, headerLength]
    omega
  rw [payload, if_neg (by omega), hstop, slice, slice, ← List.take_take, List.take_length]

/-! ### A datagram with octets behind it -/

variable {d : Octets} (hd : 20 ≤ d.length) (t : Octets)

include hd

theorem claimedHeader_append : claimedHeader (d ++ t) = claimedHeader d := by
  rw [claimedHeader, claimedHeader, octetAt_append (by omega)]

theorem totalLength_append : totalLength (d ++ t) = totalLength d :=
  wordAt_append (by omega) t

theorem payloadStart_append : payloadStart (d ++ t) = payloadStart d := by
  rw [payloadStart, payloadStart, claimedHeader_append hd]

theorem reach_append : reach (d ++ t) = reach d := by
  rw [reach, reach, claimedHeader_append hd, totalLength_append hd]

/-- A header that lies inside the datagram is checked the same way. -/
theorem checkedHeader_append (hclaim : claimedHeader d ≤ d.length) :
    checkedHeader (d ++ t) = checkedHeader d := by
  rcases Nat.le_total 20 (claimedHeader d) with hlong | hshort
  · have hclaim' : claimedHeader (d ++ t) ≤ (d ++ t).length := by
      rw [claimedHeader_append hd, List.length_append]
      omega
    rw [checkedHeader_eq_take hlong hclaim,
      checkedHeader_eq_take (by rwa [claimedHeader_append hd]) hclaim',
      claimedHeader_append hd, List.take_append_of_le_length hclaim]
  · have hd' : 20 ≤ (d ++ t).length := by
      rw [List.length_append]
      omega
    rw [checkedHeader_eq_take_least hshort hd,
      checkedHeader_eq_take_least (by rwa [claimedHeader_append hd]) hd',
      List.take_append_of_le_length hd]

/-- **The payload grows by what follows the datagram, up to the reach.** -/
theorem payload_append (hclaim : claimedHeader d ≤ (totalLength d).toNat)
    (hstart : payloadStart d < d.length) :
    payload (d ++ t) = payload d ++ t.take (reach d - d.length) := by
  have hclaim' : claimedHeader (d ++ t) ≤ (totalLength (d ++ t)).toNat := by
    rwa [claimedHeader_append hd, totalLength_append hd]
  have hstart' : payloadStart (d ++ t) < (d ++ t).length := by
    rw [payloadStart_append hd, List.length_append]
    omega
  -- the payload starts inside the datagram, so only what is behind the datagram is added to it
  have hkept : payloadStart d ≤ (d.take (reach d)).length := by
    have := payloadStart_le_reach hclaim
    rw [List.length_take]
    omega
  rw [payload_eq_slice hclaim hstart, payload_eq_slice hclaim' hstart', payloadStart_append hd,
    reach_append hd, slice, slice, List.take_append, List.drop_append_of_le_length hkept]

end Packet.Datagram

namespace Summary

/-- In a readable datagram, the claimed header lies inside the total length. -/
theorem Readable.claimedHeader_le {d : Octets} (hd : Readable d) :
    Datagram.claimedHeader d ≤ (Datagram.totalLength d).toNat := by
  by_contra hbeyond
  -- there would be no room for a message
  have hlength : (Datagram.payload d).length = 0 := by
    rw [Datagram.payload]
    split_ifs
    · rfl
    · rw [slice, List.length_drop, List.length_take, Datagram.payloadStop]
      omega
  have hmessage := hd.message
  omega

/-- The payload of a readable datagram with octets behind it. -/
theorem Readable.payload_append {d : Octets} (hd : Readable d) (t : Octets) :
    Datagram.payload (d ++ t)
      = Datagram.payload d ++ t.take (Datagram.reach d - d.length) :=
  Datagram.payload_append hd.header t hd.claimedHeader_le hd.payloadStart_lt

/-- **Octets behind a readable datagram leave it readable.** -/
theorem Readable.append {d : Octets} (hd : Readable d) (t : Octets) : Readable (d ++ t) where
  header := by
    rw [List.length_append]
    exact Nat.le_add_right_of_le hd.header
  version := by
    have hheader := hd.header
    rw [Datagram.version, octetAt_append (by omega)]
    exact hd.version
  total := by
    rw [Datagram.totalLength_append hd.header, List.length_append]
    exact Nat.le_add_right_of_le hd.total
  protocol := by
    have hheader := hd.header
    rw [Datagram.protocol, octetAt_append (by omega)]
    exact hd.protocol
  message := by
    rw [hd.payload_append, List.length_append]
    exact Nat.le_add_right_of_le hd.message

/-! ### The summary of padded octets -/

/-- The number of octets behind a datagram that are read as payload. -/
def exposed (d t : Octets) : Nat := min (Datagram.reach d - d.length) t.length

theorem exposed_eq_zero_iff {d t : Octets} :
    exposed d t = 0 ↔ t = [] ∨ Datagram.reach d ≤ d.length := by
  rw [exposed, ← List.length_eq_zero_iff]
  omega

/-- The summary with more octets on the wire. -/
def lengthened (s : Summary) (n : Nat) : Summary := { s with wireLength := s.wireLength + n }

/-- The summary `s'` tells of `n` octets more on the wire than `s`, of which `k` are payload.
Nothing else is different, except for the message's verdict if there is more payload. -/
def Grows (s s' : Summary) (k n : Nat) : Prop :=
  ∃ ok, s' = { s.lengthened n with payloadLength := s.payloadLength + k, icmpChecksumOk := ok } ∧
    (k = 0 → ok = s.icmpChecksumOk)

/-- The other octets are ignored exactly if none of them is payload. -/
theorem Grows.eq_lengthened_iff {s s' : Summary} {k n : Nat} (h : Grows s s' k n) :
    s' = s.lengthened n ↔ k = 0 := by
  obtain ⟨ok, rfl, hok⟩ := h
  constructor
  · intro heq
    have hpayload : s.payloadLength + k = s.payloadLength := congrArg payloadLength heq
    omega
  · rintro rfl
    rw [hok rfl]
    rfl

theorem Grows.framed {s s' : Summary} {k n : Nat} (h : Grows s s' k n) {f t : Octets}
    (hf : 14 ≤ f.length) (hn : t.length = n) :
    Grows (s.framed f) (s'.framed (f ++ t)) k n := by
  obtain ⟨ok, rfl, hok⟩ := h
  refine ⟨ok, ?_, hok⟩
  have hdst : Ethernet.destination (f ++ t) = Ethernet.destination f := by
    simp (disch := omega) only [Ethernet.destination, Mac.readAt, octetAt_append]
  have hsrc : Ethernet.source (f ++ t) = Ethernet.source f := by
    simp (disch := omega) only [Ethernet.source, Mac.readAt, octetAt_append]
  have htype : Ethernet.etherType (f ++ t) = Ethernet.etherType f := wordAt_append (by omega) t
  simp only [Summary.framed, lengthened, hdst, hsrc, htype, List.length_append, hn]

/-- The fields of a datagram with octets behind it. -/
theorem Readable.fields_append {d : Octets} (hd : Readable d) (t : Octets) :
    Grows (fields d) (fields (d ++ t)) (exposed d t) t.length := by
  have hheader := hd.header
  have hmessage := hd.message
  have hpayload := hd.payload_append t
  have hchecked : Datagram.checksum (d ++ t) = Datagram.checksum d := by
    rw [Datagram.checksum, Datagram.checksum,
      Datagram.checkedHeader_append hheader t (hd.claimedHeader_le.trans hd.total)]
  have hlength : (Datagram.payload d).length + (t.take (Datagram.reach d - d.length)).length - 8
      = (Datagram.payload d).length - 8 + exposed d t := by
    rw [List.length_take, exposed]
    omega
  refine ⟨(fields (d ++ t)).icmpChecksumOk, ?_, fun hnone => ?_⟩
  · -- every other field is read inside the header, or inside the first eight octets of the message
    simp (disch := omega) only [fields, lengthened, hchecked, hlength, hpayload,
      Datagram.source, Datagram.destination, IPv4.readAt, Datagram.ttl, Datagram.ident,
      Datagram.totalLength, Datagram.storedChecksum, Echo.type, Echo.code, Echo.storedChecksum,
      Echo.identifier, Echo.sequenceNumber, octetAt_append, wordAt_append, List.length_append]
  · have hsame : t.take (Datagram.reach d - d.length) = [] := by
      rw [← List.length_eq_zero_iff, List.length_take]
      exact hnone
    simp only [fields, hpayload, hsame, List.append_nil]

/-- **A summarised datagram with octets behind it.** -/
theorem ofDatagram_append {d : Octets} {s : Summary} (hs : ofDatagram d = .ok s) (t : Octets) :
    ∃ s', ofDatagram (d ++ t) = .ok s' ∧ Grows s s' (exposed d t) t.length := by
  obtain ⟨hd, rfl⟩ := ofDatagram_eq_ok_iff.mp hs
  exact ⟨_, ofDatagram_eq_ok_iff.mpr ⟨hd.append t, rfl⟩, hd.fields_append t⟩

/-- **A summarised frame with octets behind it.** -/
theorem ofFrame_append {f : Octets} {s : Summary} (hs : ofFrame f = .ok s) (t : Octets) :
    ∃ s', ofFrame (f ++ t) = .ok s' ∧
      Grows s s' (exposed (Ethernet.payload f) t) t.length := by
  obtain ⟨hf, htype, hd, rfl⟩ := ofFrame_eq_ok_iff.mp hs
  have hpayload : Ethernet.payload (f ++ t) = Ethernet.payload f ++ t :=
    List.drop_append_of_le_length hf
  have hf' : 14 ≤ (f ++ t).length := by
    rw [List.length_append]
    omega
  have htype' : Ethernet.etherType (f ++ t) = Ethernet.ipv4Type :=
    (wordAt_append (by omega) t).trans htype
  have hread : Readable (Ethernet.payload (f ++ t)) := hpayload ▸ hd.append t
  refine ⟨_, ofFrame_eq_ok_iff.mpr ⟨hf', htype', hread, rfl⟩, ?_⟩
  rw [hpayload]
  exact (hd.fields_append t).framed hf rfl

/-! ### When padding is ignored -/

/-- A header that claims at least its least length exposes no padding. -/
theorem Readable.exposed_eq_zero {d : Octets} (hd : Readable d)
    (hclaim : 20 ≤ Datagram.claimedHeader d) (t : Octets) : exposed d t = 0 := by
  rw [exposed_eq_zero_iff, Datagram.reach_eq_totalLength hclaim]
  exact .inr hd.total

/-- **Padding is ignored exactly if there is none or the datagram's reach is not behind its end**,
for datagrams and for frames. In particular, it is ignored behind a header that claims at least
its least length. -/
theorem padding_ignored_iff (x t : Octets) :
    (∀ s, ofDatagram x = .ok s →
      (ofDatagram (x ++ t) = .ok (s.lengthened t.length) ↔
        t = [] ∨ Datagram.reach x ≤ x.length) ∧
      (20 ≤ Datagram.claimedHeader x →
        ofDatagram (x ++ t) = .ok (s.lengthened t.length))) ∧
    ∀ s, ofFrame x = .ok s →
      (ofFrame (x ++ t) = .ok (s.lengthened t.length) ↔
        t = [] ∨ Datagram.reach (Ethernet.payload x) ≤ (Ethernet.payload x).length) ∧
      (20 ≤ Datagram.claimedHeader (Ethernet.payload x) →
        ofFrame (x ++ t) = .ok (s.lengthened t.length)) := by
  constructor
  · intro s hs
    have hread := (ofDatagram_eq_ok_iff.mp hs).1
    obtain ⟨s', hs', hgrows⟩ := ofDatagram_append hs t
    rw [hs', Except.ok.injEq, hgrows.eq_lengthened_iff]
    exact ⟨exposed_eq_zero_iff, fun hclaim => hread.exposed_eq_zero hclaim t⟩
  · intro s hs
    have hread := (ofFrame_eq_ok_iff.mp hs).2.2.1
    obtain ⟨s', hs', hgrows⟩ := ofFrame_append hs t
    rw [hs', Except.ok.injEq, hgrows.eq_lengthened_iff]
    exact ⟨exposed_eq_zero_iff, fun hclaim => hread.exposed_eq_zero hclaim t⟩

/-- A header that claims sixteen octets and a total length of twenty-eight, both of which verify.
One octet of padding becomes payload, and the message does not verify any more. -/
theorem padding_taken_for_payload :
    let d : Octets :=
      [0x44, 0, 0, 0x1c, 0, 1, 0, 0, 0x40, 1, 0x67, 0xde, 10, 0, 0, 1, 10, 0, 0, 2,
        8, 0, 0xf7, 0xff, 0, 0, 0, 0]
    ∃ s s', ofDatagram d = .ok s ∧ ofDatagram (d ++ [0xff]) = .ok s' ∧
      s' ≠ s.lengthened 1 ∧ s.payloadLength = 0 ∧ s'.payloadLength = 1 ∧
      s.icmpChecksumOk = true ∧ s'.icmpChecksumOk = false := by
  intro d
  exact ⟨fields d, fields (d ++ [0xff]), by decide +kernel, by decide +kernel, by decide +kernel,
    by decide +kernel, by decide +kernel, by decide +kernel, by decide +kernel⟩

end Summary

end EchoInjector
