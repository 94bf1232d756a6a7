import Mathlib.Algebra.Group.Action.Defs
import Mathlib.Algebra.Order.BigOperators.Group.List
import Mathlib.Tactic.Ring
import EchoInjector.Proofs.Wire.Accumulation

/-!
# Balanced runs

The checksum is folded in 32 bits and complemented in 16, but what it says about a run is a
statement about plain numbers. Let `wordSum` be the plain sum of the words of a run, the stored
checksum included. Folding a sum keeps its remainder modulo 65535, and a word and its complement
add up to 65535, so a run whose stored checksum is right has a sum that is a multiple of 65535:
it is **balanced**.

* `Checksum.balanced_of_verifies`: a run that verifies is balanced, provided that it is short
  enough for the 32-bit sum to be exact.
* `Checksum.onesSum_eq_iff` ties the receiver's rule to the same notion: its sum has all bits set
  for the balanced runs that are not all zero. Runs that verify are among them
  (`Checksum.onesSum_of_verifies`).
* `Checksum.toNat_compute_eq_complement` compares the two rules directly: the checksum is the
  complement of the receiver's sum over the run with zero in the place of the checksum.
* `Checksum.verifies_iff` compares their verdicts on a stored checksum. They differ in one case
  only, which `Checksum.accepted_not_verifies_iff` names.
* `not_balanced_set`: a balanced run is no longer balanced once a single octet is changed. An
  octet counts at most 256 times, so no change of one octet reaches 65535.

Being balanced does not depend on where the checksum is stored, and balanced runs of even length
can be cut and joined. This is what makes it more useful than the verdict itself.
-/

namespace EchoInjector.Wire

/-! ### Sums of words -/

/-- The plain sum of the words of a run. -/
def wordSum (d : Octets) : Nat := ((words d).map UInt16.toNat).sum

/-- A run is **balanced** when the sum of its words is a multiple of 65535. -/
def Balanced (d : Octets) : Prop := 65535 ∣ wordSum d

@[simp] theorem wordSum_nil : wordSum [] = 0 := rfl

@[simp] theorem wordSum_singleton (hi : UInt8) : wordSum [hi] = 256 * hi.toNat := by
  simp [wordSum, words, toNat_word]

@[simp] theorem wordSum_cons_cons (hi lo : UInt8) (rest : Octets) :
    wordSum (hi :: lo :: rest) = 256 * hi.toNat + lo.toNat + wordSum rest := by
  simp [wordSum, words, toNat_word]

/-- Two octets make a word, and an odd last octet makes one of its own. -/
theorem length_words (d : Octets) : (words d).length = (d.length + 1) / 2 := by
  induction d using words.induct with
  | case1 => rfl
  | case2 hi => simp [words]
  | case3 hi lo rest ih =>
    simp only [words, List.length_cons, ih]
    omega

/-- The words of a run are what a reader finds at the even offsets. -/
theorem getElem_words (d : Octets) {i : Nat} (h : i < (words d).length) :
    (words d)[i] = wordAt d (2 * i) := by
  induction d using words.induct generalizing i with
  | case1 => simp [words] at h
  | case2 hi =>
    have hi0 : i = 0 := by simpa [words] using h
    subst hi0
    rfl
  | case3 hi lo rest ih =>
    cases i with
    | zero => rfl
    | succ i =>
      have hi : i < (words rest).length := by simpa [words] using h
      simpa [words, wordAt, octetAt, Nat.mul_succ] using ih hi

/-- A cut between two words splits the sum. -/
theorem wordSum_append {d : Octets} (hd : d.length % 2 = 0) (e : Octets) :
    wordSum (d ++ e) = wordSum d + wordSum e := by
  induction d using words.induct with
  | case1 => simp
  | case2 hi => simp at hd
  | case3 hi lo rest ih =>
    have hrest : rest.length % 2 = 0 := by
      simp only [List.length_cons] at hd
      omega
    simp only [List.cons_append, wordSum_cons_cons, ih hrest]
    ring

/-- How often an octet counts in the sum: the high octets stand at the even offsets. -/
def place (j : Nat) : Nat := if j % 2 = 0 then 256 else 1

@[simp] theorem place_zero : place 0 = 256 := rfl

@[simp] theorem place_one : place 1 = 1 := rfl

@[simp] theorem place_add_two (j : Nat) : place (j + 2) = place j := by
  simp [place]

/-- Changing an octet changes the sum by the difference, as often as the octet counts. -/
theorem wordSum_set (d : Octets) (b : UInt8) {j : Nat} (hj : j < d.length) :
    wordSum (d.set j b) + place j * d[j].toNat = wordSum d + place j * b.toNat := by
  induction d using words.induct generalizing j with
  | case1 => simp at hj
  | case2 hi =>
    have hj0 : j = 0 := by simpa using hj
    subst hj0
    simp only [List.set_cons_zero, List.getElem_cons_zero, wordSum_singleton, place_zero]
    ring
  | case3 hi lo rest ih =>
    -- the changed octet is the first word's high one, its low one, or stands further on
    match j with
    | 0 =>
      simp only [List.set_cons_zero, List.getElem_cons_zero, wordSum_cons_cons, place_zero]
      ring
    | 1 =>
      simp only [List.set_cons_succ, List.set_cons_zero, List.getElem_cons_succ,
        List.getElem_cons_zero, wordSum_cons_cons, place_one]
      ring
    | j + 2 =>
      have hrest := ih (j := j) (by simpa using hj)
      simp only [List.set_cons_succ, List.getElem_cons_succ, wordSum_cons_cons, place_add_two]
      omega

/-- **A change of one octet is never balanced out.** -/
theorem not_balanced_set {d : Octets} (hd : Balanced d) {j : Nat} (hj : j < d.length) {b : UInt8}
    (hb : b ≠ d[j]) : ¬ Balanced (d.set j b) := by
  intro hset
  have hsum := wordSum_set d b hj
  have hne : b.toNat ≠ d[j].toNat := fun h => hb (UInt8.toNat_inj.mp h)
  have hold := d[j].toNat_lt
  have hnew := b.toNat_lt
  -- the two sums would be different multiples of 65535, but they are at most 256 * 255 apart
  obtain ⟨m, hm⟩ := hd
  obtain ⟨n, hn⟩ := hset
  unfold place at hsum
  split at hsum <;> omega

/-- Words add up to at most 65535 each. -/
theorem sum_toNat_le (ws : List UInt16) : (ws.map UInt16.toNat).sum ≤ 65535 * ws.length := by
  have hword : ∀ n ∈ ws.map UInt16.toNat, n ≤ 65535 := by
    intro n hn
    obtain ⟨w, -, rfl⟩ := List.mem_map.mp hn
    have := w.toNat_lt
    omega
  have h := List.sum_le_card_nsmul _ _ hword
  rwa [List.length_map, smul_eq_mul, mul_comm] at h

namespace Checksum

/-! ### The receiver's sum -/

/-- A summand can be folded before it is added. -/
theorem residue_residue_add (m n : Nat) : residue (residue m + n) = residue (m + n) := by
  unfold residue
  split <;> split <;> split <;> omega

/-- An end-around carry keeps the residue. -/
theorem toNat_endAroundAdd (a b : UInt16) :
    (endAroundAdd a b).toNat = residue (a.toNat + b.toNat) := by
  have ha := a.toNat_lt
  have hb := b.toNat_lt
  by_cases hcarry : a.toNat + b.toNat < 65536
  · rw [endAroundAdd, if_pos hcarry, UInt16.toNat_add, residue]
    split <;> omega
  · have hone : (1 : UInt16).toNat = 1 := rfl
    rw [endAroundAdd, if_neg hcarry, UInt16.toNat_add, UInt16.toNat_add, hone, residue,
      if_neg (by omega)]
    omega

/-- **The receiver's sum in closed form**: the residue of the plain sum. -/
theorem toNat_onesSum (d : Octets) : (onesSum d).toNat = residue (wordSum d) := by
  -- the accumulator stands for the words that are already added up
  have key : ∀ (ws : List UInt16) (acc : UInt16), residue acc.toNat = acc.toNat →
      (ws.foldl endAroundAdd acc).toNat = residue (acc.toNat + (ws.map UInt16.toNat).sum) := by
    intro ws
    induction ws with
    | nil =>
      intro acc hacc
      simpa using hacc.symm
    | cons w ws ih =>
      intro acc _
      have hstep := toNat_endAroundAdd acc w
      have hfolded : residue (endAroundAdd acc w).toNat = (endAroundAdd acc w).toNat := by
        rw [hstep]
        exact residue_residue_add _ 0
      rw [List.foldl_cons, ih _ hfolded, hstep, residue_residue_add, List.map_cons,
        List.sum_cons, Nat.add_assoc]
  rw [onesSum, key (words d) 0 rfl]
  exact congrArg residue (Nat.zero_add _)

/-- **A receiver accepts the balanced runs that are not all zero**, and no others. -/
theorem onesSum_eq_iff {d : Octets} : onesSum d = 0xffff ↔ Balanced d ∧ wordSum d ≠ 0 := by
  -- the multiples of 65535 have residue 65535, except for zero
  have hones : (0xffff : UInt16).toNat = 65535 := rfl
  rw [← UInt16.toNat_inj, toNat_onesSum, hones, Balanced, residue]
  split <;> omega

/-! ### Words that count -/

/-- A full word is left out. -/
theorem counted_eq_eraseIdx {skip : Nat} {d : Octets} (h : 2 * skip + 1 < d.length) :
    counted skip d = (words d).eraseIdx skip := by
  induction skip, d using counted.induct with
  | case1 => cases h
  | case2 skip hi => simp at h
  | case3 hi lo rest => rfl
  | case4 skip hi lo rest ih =>
    have hrest : 2 * skip + 1 < rest.length := by
      simp only [List.length_cons] at h
      omega
    rw [counted, words, List.eraseIdx_cons_succ, ih hrest]

/-- Of a run that ends before such a word, or inside it, everything counts. -/
theorem counted_of_le {skip : Nat} {d : Octets} (h : d.length ≤ 2 * skip + 1) :
    counted skip d = words d := by
  induction skip, d using counted.induct with
  | case1 => rw [counted, words]
  | case2 => rw [counted, words]
  | case3 hi lo rest => simp at h
  | case4 skip hi lo rest ih =>
    have hrest : rest.length ≤ 2 * skip + 1 := by
      simp only [List.length_cons] at h
      omega
    rw [counted, words, ih hrest]

theorem length_counted_le (skip : Nat) (d : Octets) :
    (counted skip d).length ≤ (words d).length := by
  rcases Nat.lt_or_ge (2 * skip + 1) d.length with hinside | hbeyond
  · rw [counted_eq_eraseIdx hinside]
    exact List.length_eraseIdx_le _ _
  · rw [counted_of_le hbeyond]

/-- The plain sum of the words that the checksum counts. -/
def countedSum (skip : Nat) (d : Octets) : Nat := ((counted skip d).map UInt16.toNat).sum

/-- A datagram is too short for its sum to overflow. -/
theorem countedSum_lt (skip : Nat) {d : Octets} (hd : d.length ≤ 65535) :
    countedSum skip d < 2 ^ 32 := by
  have hsum := sum_toNat_le (counted skip d)
  have hlen := length_counted_le skip d
  rw [length_words] at hlen
  unfold countedSum
  omega

/-- The checksum in closed form. -/
theorem toNat_compute (skip : Nat) {d : Octets} (hpos : 0 < d.length) (hd : d.length ≤ 65535) :
    (compute skip d).toNat = 65535 - residue (countedSum skip d) := by
  rw [compute_of_ne_nil (List.length_pos_iff.mp hpos), UInt16.toNat_not, toNat_fold,
    toNat_total (countedSum_lt skip hd)]
  rfl

/-- The sum of a run is that of the counted words and the skipped one. -/
theorem wordSum_eq_add_countedSum {skip : Nat} {d : Octets} (h : 2 * skip + 1 < d.length) :
    wordSum d = (wordAt d (2 * skip)).toNat + countedSum skip d := by
  have hskip : skip < (words d).length := by
    rw [length_words]
    omega
  have hsum := List.CommMonoid.add_sum_eraseIdx (l := (words d).map UInt16.toNat) (i := skip)
    (by rwa [List.length_map])
  rw [List.getElem_map, getElem_words, List.eraseIdx_map, ← counted_eq_eraseIdx h] at hsum
  exact hsum.symm

/-! ### Runs that verify -/

/-- A run **verifies** when the word it stores at the skipped index is its checksum. -/
def Verifies (skip : Nat) (d : Octets) : Prop := compute skip d = wordAt d (2 * skip)

/-- The sum of a run that verifies: what is counted, and the complement of its residue. -/
theorem Verifies.wordSum_eq {skip : Nat} {d : Octets} (h : Verifies skip d)
    (hd : d.length ≤ 65535) (hskip : 2 * skip + 1 < d.length) :
    wordSum d = 65535 - residue (countedSum skip d) + countedSum skip d := by
  rw [wordSum_eq_add_countedSum hskip, ← h, toNat_compute skip (by omega) hd]

/-- **A run that verifies is balanced.** -/
theorem balanced_of_verifies {skip : Nat} {d : Octets} (hd : d.length ≤ 65535)
    (hskip : 2 * skip + 1 < d.length) (h : Verifies skip d) : Balanced d := by
  unfold Balanced
  rw [h.wordSum_eq hd hskip]
  unfold residue
  split <;> omega

/-- **A receiver accepts every run that verifies.** It is not all zero, since the checksum of
zeros has all bits set. -/
theorem onesSum_of_verifies {skip : Nat} {d : Octets} (hd : d.length ≤ 65535)
    (hskip : 2 * skip + 1 < d.length) (h : Verifies skip d) : onesSum d = 0xffff := by
  refine onesSum_eq_iff.mpr ⟨balanced_of_verifies hd hskip h, ?_⟩
  rw [h.wordSum_eq hd hskip]
  unfold residue
  split <;> omega

/-! ### The two rules compared -/

/-- A run with zero for the word at an index. -/
def cleared (skip : Nat) (d : Octets) : Octets := (d.set (2 * skip) 0).set (2 * skip + 1) 0

@[simp] theorem length_cleared (skip : Nat) (d : Octets) : (cleared skip d).length = d.length := by
  simp [cleared]

/-- The complement of the receiver's sum. -/
def complement (d : Octets) : Nat := 65535 - (onesSum d).toNat

/-- With zero for the skipped word, all words add up to what the others do. -/
theorem wordSum_cleared {skip : Nat} {d : Octets} (h : 2 * skip + 1 < d.length) :
    wordSum (cleared skip d) = countedSum skip d := by
  have hhigh := wordSum_set d 0 (j := 2 * skip) (by omega)
  have hlow := wordSum_set (d.set (2 * skip) 0) 0 (j := 2 * skip + 1) (by rwa [List.length_set])
  have hsum := wordSum_eq_add_countedSum h
  have hplaces : place (2 * skip) = 256 ∧ place (2 * skip + 1) = 1 := by
    constructor
    · exact if_pos (by omega)
    · exact if_neg (by omega)
  have hword : (wordAt d (2 * skip)).toNat = 256 * d[2 * skip].toNat + d[2 * skip + 1].toNat := by
    rw [wordAt, toNat_word, octetAt_of_getElem? (List.getElem?_eq_getElem (by omega)),
      octetAt_of_getElem? (List.getElem?_eq_getElem h)]
  rw [List.getElem_set_ne (by omega), hplaces.2] at hlow
  rw [hplaces.1] at hhigh
  rw [cleared]
  have hzero : (0 : UInt8).toNat = 0 := rfl
  omega

/-- **The two rules agree**: the writer's checksum is the complement of the receiver's sum over the
run as long as the checksum is not stored in it yet. -/
theorem toNat_compute_eq_complement {skip : Nat} {d : Octets} (hd : d.length ≤ 65535)
    (hskip : 2 * skip + 1 < d.length) : (compute skip d).toNat = complement (cleared skip d) := by
  rw [toNat_compute skip (by omega) hd, complement, toNat_onesSum, wordSum_cleared hskip]

section

variable {skip : Nat} {d : Octets} (hd : d.length ≤ 65535) (hskip : 2 * skip + 1 < d.length)

include hd hskip

/-- **A run verifies exactly if a receiver accepts it**, unless it stores one of the two zeros where
the other one is computed: with all bits set, which is zero to a receiver, it verifies only if there
is nothing else to add. -/
theorem verifies_iff :
    Verifies skip d ↔
      onesSum d = 0xffff ∧ ¬ (wordAt d (2 * skip) = 0xffff ∧ countedSum skip d ≠ 0) := by
  have hones : (0xffff : UInt16).toNat = 65535 := rfl
  have hstored := (wordAt d (2 * skip)).toNat_lt
  rw [Verifies, onesSum_eq_iff, Balanced, wordSum_eq_add_countedSum hskip, ← UInt16.toNat_inj,
    ← UInt16.toNat_inj, hones, toNat_compute skip (by omega) hd, residue]
  split <;> omega

/-- The runs that a receiver accepts although they do not verify store `0xffff` where the checksum
is `0x0000`. -/
theorem accepted_not_verifies_iff :
    onesSum d = 0xffff ∧ ¬ Verifies skip d ↔
      wordAt d (2 * skip) = 0xffff ∧ compute skip d = 0 := by
  have hones : (0xffff : UInt16).toNat = 65535 := rfl
  have hzero : (0 : UInt16).toNat = 0 := rfl
  have hstored := (wordAt d (2 * skip)).toNat_lt
  rw [Verifies, onesSum_eq_iff, Balanced, wordSum_eq_add_countedSum hskip, ← UInt16.toNat_inj,
    ← UInt16.toNat_inj, ← UInt16.toNat_inj, hones, hzero, toNat_compute skip (by omega) hd, residue]
  split <;> omega

end

end Checksum

end EchoInjector.Wire
