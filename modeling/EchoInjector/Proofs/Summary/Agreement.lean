import EchoInjector.Proofs.Summary.Classification
import EchoInjector.Proofs.Summary.Verdicts

/-!
# Verdicts and receivers

A summary's verdict on a checksum compares the stored word with the one that is computed, while a
receiver adds up all words and looks for a sum with all bits set. `verdicts_agree` compares the two
for every datagram that is summarised, over the plain extents of header and message: a header may
have options or claim too little, a message may be of odd length, and the rest of the datagram may
be anything.

A favourable verdict is **never** given where a receiver refuses. In the other direction there is
one exception, which comes from the two representations of zero: a receiver takes the stored word
`0xffff` for a zero, and accepts it where `0x0000` is computed. The verdict does not.
-/

namespace EchoInjector.Summary

open Wire Packet

/-- A verdict on a run **agrees** with a receiver, up to one exception, about the checksum that the
run stores as one of its words. -/
structure Agrees (skip : Nat) (run : Octets) (stored : UInt16) (ok : Bool) : Prop where
  /-- The stored checksum is one of the words. -/
  word : (words run)[skip]? = some stored
  /-- The verdict is favourable if a receiver accepts the run, and it does not store `0xffff` beside
  other words that add up to something. -/
  verdict : ok = true ↔
    Checksum.onesSum run = 0xffff ∧ ¬ (stored = 0xffff ∧ Checksum.countedSum skip run ≠ 0)
  /-- What a receiver refuses has no favourable verdict. -/
  sound : ok = true → Checksum.onesSum run = 0xffff
  /-- What a receiver accepts has a favourable verdict, unless `0xffff` is stored where `0x0000` is
  computed. -/
  exception : Checksum.onesSum run = 0xffff ∧ ok = false ↔
    stored = 0xffff ∧ Checksum.compute skip run = 0

/-- A verdict that says whether a run verifies agrees with a receiver. -/
theorem Agrees.of_verifies {skip : Nat} {run : Octets} {ok : Bool} (hrun : run.length ≤ 65535)
    (hskip : 2 * skip + 1 < run.length) (hok : ok = true ↔ Checksum.Verifies skip run) :
    Agrees skip run (wordAt run (2 * skip)) ok where
  word := by
    have hindex : skip < (words run).length := by
      rw [length_words]
      omega
    rw [List.getElem?_eq_getElem hindex, getElem_words]
  verdict := hok.trans (Checksum.verifies_iff hrun hskip)
  sound := fun h => Checksum.onesSum_of_verifies hrun hskip (hok.mp h)
  exception := by
    rw [← Bool.not_eq_true, hok]
    exact Checksum.accepted_not_verifies_iff hrun hskip

/-- The message of a readable datagram, in plain readings. -/
theorem Readable.le_length_area {d : Octets} (hd : Readable d) : 8 ≤ (area d).length :=
  payload_eq_area d ▸ hd.message

/-- The header of a readable datagram lies inside it. -/
theorem Readable.headerEnd_lt {d : Octets} (hd : Readable d) : headerEnd d < d.length := by
  have hmessage := hd.le_length_area
  exact headerEnd_lt_of_area (List.ne_nil_of_length_pos (by omega))

theorem headerEnd_le (d : Octets) : headerEnd d ≤ 60 :=
  Nat.max_le.mpr ⟨by decide, claim_le d⟩

theorem le_headerEnd (d : Octets) : 20 ≤ headerEnd d :=
  Nat.le_max_left _ _

/-- The verdict on the header. -/
theorem agrees_header {d : Octets} (hd : Readable d) :
    Agrees 5 (d.take (headerEnd d)) (Datagram.storedChecksum d) (fields d).ipChecksumOk := by
  have hlow := le_headerEnd d
  have hhigh := headerEnd_le d
  have hlength : (d.take (headerEnd d)).length = headerEnd d :=
    List.length_take_of_le hd.headerEnd_lt.le
  have hstored : Datagram.storedChecksum d = wordAt (d.take (headerEnd d)) (2 * 5) := by
    rw [wordAt_take (by omega)]
    rfl
  have hverdict := ipChecksumOk_fields_iff hd.header
  rw [checkedHeader_eq_take_headerEnd] at hverdict
  rw [hstored]
  exact .of_verifies (by omega) (by omega) hverdict

/-- The verdict on the message. -/
theorem agrees_message {d : Octets} (hd : Readable d) :
    Agrees 1 (area d) (fields d).icmpChecksum (fields d).icmpChecksumOk := by
  have hmessage := hd.le_length_area
  have hstored : (fields d).icmpChecksum = wordAt (area d) (2 * 1) := by
    rw [fields, payload_eq_area]
    rfl
  have hverdict := icmpChecksumOk_fields_iff (d := d)
  rw [payload_eq_area] at hverdict
  rw [hstored]
  exact .of_verifies (length_area_le d) (by omega) hverdict

/-- **The verdicts agree with a receiver.** Of a datagram that is summarised, the header lies inside
it in full length, and the verdicts on the header and on the message are what a receiver finds out
by adding up the words of each, up to the one exception. -/
theorem verdicts_agree {d : Octets} {s : Summary} (hs : ofDatagram d = .ok s) :
    headerEnd d ≤ d.length ∧
      Agrees 5 (d.take (headerEnd d)) (Datagram.storedChecksum d) s.ipChecksumOk ∧
      Agrees 1 (area d) s.icmpChecksum s.icmpChecksumOk := by
  obtain ⟨hread, rfl⟩ := ofDatagram_eq_ok_iff.mp hs
  exact ⟨hread.headerEnd_lt.le, agrees_header hread, agrees_message hread⟩

/-- The exception, in a header with four octets of options: the other words add up to `0xffff`, and
so does the stored one alone. -/
theorem verdicts_agree_up_to_zero :
    let d : Octets :=
      [0x46, 0, 0, 0x20, 0, 1, 0, 0, 0x40, 1, 0xff, 0xff, 10, 0, 0, 1, 10, 0, 0, 2,
        0x65, 0xda, 0, 0, 8, 0, 0xf7, 0xff, 0, 0, 0, 0]
    ∃ s, ofDatagram d = .ok s ∧
      Checksum.onesSum (d.take 24) = 0xffff ∧ s.ipChecksumOk = false ∧
      Checksum.onesSum (d.drop 24) = 0xffff ∧ s.icmpChecksumOk = true := by
  intro d
  have hok : ofDatagram d = .ok (fields d) := by decide +kernel
  have hend : headerEnd d = 24 := by decide
  have harea : area d = d.drop 24 := by decide
  obtain ⟨-, hip, hicmp⟩ := verdicts_agree hok
  rw [hend] at hip
  rw [harea] at hicmp
  obtain ⟨haccepted, hbad⟩ := hip.exception.mpr ⟨by decide, by decide +kernel⟩
  have hgood : (fields d).icmpChecksumOk = true := by decide +kernel
  exact ⟨_, hok, haccepted, hbad, hicmp.sound hgood, hgood⟩

end EchoInjector.Summary
