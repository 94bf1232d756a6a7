import Mathlib.Algebra.BigOperators.Fin
import EchoInjector.Proofs.Probe.Receiver
import EchoInjector.Proofs.Summary.Agreement

/-!
# The arithmetic of the checksums

A checksum is **exact** if both of its loops do what their numbers say (`Checksum.IsExact`). While
the words are added up, no addition overflows. When the carries are folded back, the loop ends, with
a number of 16 bits that depends on nothing but the plain sum. And the skipped word, which is where
the checksum is stored, is not looked at at all.

The plain sum is the sum of the full words without the skipped one, and of the odd last octet if
there is one. In a run that ends before the skipped word, or inside it, nothing is skipped: a single
octet is no place for a checksum, and counts wherever it stands.

Runs of at most 65535 octets have exact checksums, whatever is in them (`Checksum.isExact`); only
the run of no octets is apart, with a checksum of its own. The runs that are checked here are all of
this kind: the header and the message of a packet that is built, and of a datagram that is
summarised (`Checksum.computed_exactly`). Each of them contains the word that is skipped, so the
encoder may clear it beforehand, or leave there whatever it likes.
-/

namespace EchoInjector

open Wire Packet

namespace Wire.Checksum

/-! ### The plain sum -/

/-- What an odd last octet counts. -/
def oddLast (d : Octets) : Nat :=
  if d.length % 2 = 1 then 256 * (octetAt d (d.length - 1)).toNat else 0

/-- The **plain sum** of a run: the numbers of its words of two octets, except for the skipped one,
and what an odd last octet counts. -/
def plainSum (skip : Nat) (d : Octets) : Nat :=
  ∑ i ∈ (Finset.range (d.length / 2)).erase skip, (wordAt d (2 * i)).toNat + oddLast d

/-- The words of a run, one after the other. -/
theorem wordSum_eq_sum (d : Octets) :
    wordSum d = ∑ i ∈ Finset.range ((d.length + 1) / 2), (wordAt d (2 * i)).toNat := by
  rw [wordSum, ← length_words, Finset.sum_range, ← List.sum_ofFn]
  refine congrArg List.sum (List.ext_getElem (by simp) fun i hi _ => ?_)
  simp [getElem_words]

/-- The last of them may be an odd octet. -/
theorem wordSum_eq_sum_add_oddLast (d : Octets) :
    wordSum d = ∑ i ∈ Finset.range (d.length / 2), (wordAt d (2 * i)).toNat + oddLast d := by
  rw [wordSum_eq_sum, oddLast]
  by_cases hodd : d.length % 2 = 1
  · have hlast : (wordAt d (2 * (d.length / 2))).toNat
        = 256 * (octetAt d (d.length - 1)).toNat := by
      have hend : 2 * (d.length / 2) = d.length - 1 := by omega
      have hbehind : octetAt d (d.length - 1 + 1) = 0 := by
        rw [octetAt, List.getD_eq_getElem?_getD, List.getElem?_eq_none (by omega)]
        rfl
      rw [hend, wordAt, toNat_word, hbehind]
      rfl
    have hcount : (d.length + 1) / 2 = d.length / 2 + 1 := by omega
    rw [if_pos hodd, hcount, Finset.sum_range_succ, hlast]
  · have hcount : (d.length + 1) / 2 = d.length / 2 := by omega
    rw [if_neg hodd, hcount, Nat.add_zero]

/-- **What is counted is the plain sum**, also of a run that ends before the skipped word or inside
it. -/
theorem countedSum_eq_plainSum (skip : Nat) (d : Octets) : countedSum skip d = plainSum skip d := by
  have hall := wordSum_eq_sum_add_oddLast d
  rw [plainSum]
  rcases Nat.lt_or_ge (2 * skip + 1) d.length with hinside | hbeyond
  · have hmem : skip ∈ Finset.range (d.length / 2) := Finset.mem_range.mpr (by omega)
    have hplain := Finset.add_sum_erase _ (fun i => (wordAt d (2 * i)).toNat) hmem
    have hcounted := wordSum_eq_add_countedSum hinside
    omega
  · have hnone : skip ∉ Finset.range (d.length / 2) := by
      rw [Finset.mem_range]
      omega
    rw [Finset.erase_eq_of_notMem hnone, ← hall, countedSum, counted_of_le hbeyond, wordSum]

/-- The octet at an offset **is skipped** if it belongs to the word at the skipped index, and the run
has both octets of this word. -/
def IsSkipped (skip : Nat) (d : Octets) (i : Nat) : Prop := i / 2 = skip ∧ 2 * skip + 1 < d.length

/-- Runs that differ in skipped octets only have the same plain sum. -/
theorem plainSum_congr {skip : Nat} {d e : Octets} (hlength : e.length = d.length)
    (h : ∀ i, ¬ IsSkipped skip d i → octetAt e i = octetAt d i) :
    plainSum skip e = plainSum skip d := by
  have hlast : oddLast e = oddLast d := by
    rw [oddLast, oddLast, hlength]
    by_cases hodd : d.length % 2 = 1
    · have hread : ¬ IsSkipped skip d (d.length - 1) := by
        rintro ⟨hword, hinside⟩
        omega
      rw [if_pos hodd, if_pos hodd, h _ hread]
    · rw [if_neg hodd, if_neg hodd]
  rw [plainSum, plainSum, hlength, hlast]
  congr 1
  refine Finset.sum_congr rfl fun i hi => ?_
  have hread : ∀ j, j / 2 = i → ¬ IsSkipped skip d j :=
    fun j hj hskipped => (Finset.mem_erase.mp hi).1 (hj.symm.trans hskipped.1)
  rw [wordAt, wordAt, h _ (hread (2 * i) (by omega)), h _ (hread (2 * i + 1) (by omega))]

/-! ### Exact checksums -/

/-- The checksum of a run is **exact** if it is what its two loops are meant to compute. -/
structure IsExact (skip : Nat) (d : Octets) : Prop where
  /-- No addition of a word overflows. -/
  adds : Adds 0 (counted skip d) (total (counted skip d))
  /-- What is added up is the plain sum. -/
  sum : (total (counted skip d)).toNat = plainSum skip d
  /-- The folding ends with a number of 16 bits, which is zero for zero and otherwise the plain sum
  modulo 65535, in the range from 1 to 65535. The checksum is its complement. -/
  folds : ∃ n ≤ 2, ∃ last, Folds n (total (counted skip d)) last ∧
    last.toNat < 2 ^ 16 ∧
    last.toNat = (if plainSum skip d = 0 then 0 else (plainSum skip d - 1) % 65535 + 1) ∧
    compute skip d = ~~~last.toUInt16
  /-- What is skipped does not count. -/
  unread : ∀ e : Octets, e.length = d.length →
    (∀ i, ¬ IsSkipped skip d i → octetAt e i = octetAt d i) → compute skip e = compute skip d
  /-- In particular, the skipped word may be cleared beforehand. -/
  clearable : 2 * skip + 1 < d.length → compute skip (cleared skip d) = compute skip d

/-- Runs that differ in skipped octets only have the same checksum. -/
theorem compute_congr {skip : Nat} {d e : Octets} (hpos : 0 < d.length) (hd : d.length ≤ 65535)
    (hlength : e.length = d.length) (h : ∀ i, ¬ IsSkipped skip d i → octetAt e i = octetAt d i) :
    compute skip e = compute skip d := by
  rw [← UInt16.toNat_inj, toNat_compute skip hpos hd,
    toNat_compute skip (hlength ▸ hpos) (hlength ▸ hd), countedSum_eq_plainSum,
    countedSum_eq_plainSum, plainSum_congr hlength h]

/-- Clearing the skipped word changes skipped octets only. -/
theorem octetAt_cleared {skip : Nat} {d : Octets} (hinside : 2 * skip + 1 < d.length) {i : Nat}
    (hi : ¬ IsSkipped skip d i) : octetAt (cleared skip d) i = octetAt d i := by
  have hword : i / 2 ≠ skip := fun heq => hi ⟨heq, hinside⟩
  rw [cleared, octetAt_set_of_ne (by omega), octetAt_set_of_ne (by omega)]

/-- **Runs that fit into a datagram have exact checksums**, apart from the empty one. -/
theorem isExact (skip : Nat) {d : Octets} (hpos : 0 < d.length) (hd : d.length ≤ 65535) :
    IsExact skip d where
  adds := adds_total (countedSum_lt skip hd)
  sum := (toNat_total (countedSum_lt skip hd)).trans (countedSum_eq_plainSum skip d)
  folds := by
    obtain ⟨n, hn, last, hfolds⟩ := exists_folds (total (counted skip d))
    refine ⟨n, hn, last, hfolds, hfolds.toNat_last_lt, ?_, ?_⟩
    · rw [hfolds.toNat_last, toNat_total (countedSum_lt skip hd)]
      exact congrArg residue (countedSum_eq_plainSum skip d)
    · rw [compute_of_ne_nil (List.length_pos_iff.mp hpos), hfolds.fold_eq]
  unread := fun e hlength h => compute_congr hpos hd hlength h
  clearable := fun hinside =>
    compute_congr hpos hd (length_cleared skip d) fun i => octetAt_cleared hinside

/-- The checksum in numbers. -/
theorem IsExact.toNat_compute {skip : Nat} {d : Octets} (h : IsExact skip d) :
    (compute skip d).toNat
      = 65535 - (if plainSum skip d = 0 then 0 else (plainSum skip d - 1) % 65535 + 1) := by
  obtain ⟨n, -, last, -, hlt, hlast, hcompute⟩ := h.folds
  rw [hcompute, UInt16.toNat_not, UInt32.toNat_toUInt16, Nat.mod_eq_of_lt hlt, hlast]
  rfl

/-! ### The runs that are checked -/

/-- A run is **in range** for a skipped word if it is long enough for an echo message, short enough
for a datagram, and contains the word. -/
structure InRange (skip : Nat) (run : Octets) : Prop where
  least : 8 ≤ run.length
  most : run.length ≤ 65535
  inside : 2 * skip + 2 ≤ run.length

theorem inRange_header (p : Probe) (w : UInt16) : InRange 5 (p.header w) where
  least := by rw [Probe.length_header]; decide
  most := by rw [Probe.length_header]; decide
  inside := by rw [Probe.length_header]; decide

theorem inRange_message {p : Probe} (hp : p.payload.length ≤ 65507) (w : UInt16) :
    InRange 1 (p.message w) where
  least := by rw [Probe.length_message]; omega
  most := by rw [Probe.length_message]; omega
  inside := by rw [Probe.length_message]; omega

theorem inRange_checkedHeader {d : Octets} (hd : Summary.Readable d) :
    InRange 5 (Datagram.checkedHeader d) := by
  have hlow := Summary.le_headerEnd d
  have hhigh := Summary.headerEnd_le d
  have hlength : (Datagram.checkedHeader d).length = Summary.headerEnd d := by
    rw [Summary.checkedHeader_eq_take_headerEnd, List.length_take_of_le hd.headerEnd_lt.le]
  constructor <;> omega

theorem inRange_payload {d : Octets} (hd : Summary.Readable d) :
    InRange 1 (Datagram.payload d) := by
  have hmost := Summary.length_area_le d
  rw [← Summary.payload_eq_area] at hmost
  have hmessage := hd.message
  constructor <;> omega

/-- The encoder may compute its checksums over anything in their places. -/
theorem datagramOctets_eq (p : Probe) (w w' : UInt16) :
    p.datagramOctets = p.header (compute 5 (p.header w)) ++ p.message (compute 1 (p.message w')) := by
  have hheader : compute 5 (p.header w) = p.headerChecksum := by
    rw [← Probe.checksum_header p w [], Datagram.checksum, Probe.checkedHeader_header]
  have hmessage : compute 1 (p.message w') = p.messageChecksum := Probe.checksum_message p w'
  rw [hheader, hmessage, Probe.datagramOctets]

/-- **The arithmetic of the checksums is exact** for every run that fits into a datagram and is not
empty. So are all checksums of the encoder and of the reader: their runs are in range, and what the
encoder stores does not depend on what is in the places of the two checksums before they are
computed. -/
theorem computed_exactly :
    (∀ (skip : Nat) (d : Octets), 0 < d.length → d.length ≤ 65535 → IsExact skip d) ∧
    (∀ p : Probe, p.payload.length ≤ 65507 → ∀ w w' : UInt16,
      InRange 5 (p.header w) ∧ InRange 1 (p.message w') ∧
      p.datagram
        = .ok (p.header (compute 5 (p.header w)) ++ p.message (compute 1 (p.message w'))) ∧
      ∀ m, p.frame m = .ok (p.linkHeader m ++
        (p.header (compute 5 (p.header w)) ++ p.message (compute 1 (p.message w'))))) ∧
    ∀ d s, Summary.ofDatagram d = .ok s →
      InRange 5 (Datagram.checkedHeader d) ∧ InRange 1 (Datagram.payload d) := by
  refine ⟨fun skip d => isExact skip, fun p hp w w' => ?_, fun d s hs => ?_⟩
  · rw [← datagramOctets_eq]
    exact ⟨inRange_header p w, inRange_message hp w', Probe.datagram_eq_ok hp,
      Probe.frame_eq_ok hp⟩
  · obtain ⟨hread, -⟩ := Summary.ofDatagram_eq_ok_iff.mp hs
    exact ⟨inRange_checkedHeader hread, inRange_payload hread⟩

/-- The longest run with all bits set, whatever is skipped; two odd runs that differ in the skipped
word only and have nothing else to add, so that the checksum has all bits set; a run with an odd
last octet where a word would be skipped, which counts nevertheless; and a header of which options
are checked as well. -/
theorem computed_exactly_of_ones :
    let longest : Octets := List.replicate 65535 0xff
    let d : Octets := [0, 0, 0xff, 0xff, 0, 0, 0, 0, 0]
    let e : Octets := [0, 0, 0x12, 0x34, 0, 0, 0, 0, 0]
    let edge : Octets := [0, 0, 0, 0, 0, 0, 0, 0, 0, 0, 0xff]
    let q : Octets := [0x46, 0, 0, 0x20, 0, 1, 0, 0, 0x40, 1, 0x5f, 0xda, 10, 0, 0, 1, 10, 0, 0, 2,
      1, 1, 1, 0, 8, 0, 0xf7, 0xff, 0, 0, 0, 0]
    0 < longest.length ∧ longest.length ≤ 65535 ∧ IsExact 1 longest ∧ IsExact 5 longest ∧
      plainSum 1 d = 0 ∧ compute 1 d = 0xffff ∧ compute 1 e = 0xffff ∧
      edge.length = 11 ∧ plainSum 5 edge = 0xff00 ∧ compute 5 edge = 0x00ff ∧
      (∃ s, Summary.ofDatagram q = .ok s) ∧ (Datagram.checkedHeader q).length = 24 ∧
      InRange 5 (Datagram.checkedHeader q) := by
  intro longest d e edge q
  obtain ⟨hexact, -, hchecked⟩ := computed_exactly
  have hlength : longest.length = 65535 := List.length_replicate
  have hlongest : ∀ skip, IsExact skip longest :=
    fun skip => hexact skip longest (by omega) hlength.le
  have hd : IsExact 1 d := hexact 1 d (by decide) (by decide)
  have hsum : plainSum 1 d = 0 := by decide
  have hcompute : compute 1 d = 0xffff := by
    rw [← UInt16.toNat_inj, hd.toNat_compute, hsum]
    rfl
  have hunread : compute 1 e = compute 1 d := by
    refine hd.unread e rfl fun i hi => ?_
    -- only the octets at the offsets 2 and 3 differ
    match i with
    | 0 | 1 | 4 | 5 | 6 | 7 | 8 => rfl
    | 2 | 3 => exact absurd ⟨rfl, by decide⟩ hi
    | i + 9 => rfl
  have hedge : plainSum 5 edge = 0xff00 := by decide
  have hcounts : compute 5 edge = 0x00ff := by
    rw [← UInt16.toNat_inj, (hexact 5 edge (by decide) (by decide)).toNat_compute, hedge]
    rfl
  have hq : Summary.ofDatagram q = .ok (Summary.fields q) := by decide +kernel
  exact ⟨by omega, hlength.le, hlongest 1, hlongest 5, hsum, hcompute, hunread.trans hcompute, rfl,
    hedge, hcounts, ⟨_, hq⟩, by decide, (hchecked q _ hq).1⟩

end Wire.Checksum

end EchoInjector
