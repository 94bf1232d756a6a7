import Mathlib.Algebra.BigOperators.Group.List.Basic
import Mathlib.Algebra.GroupWithZero.Nat
import EchoInjector.Wire.Checksum

/-!
# Adding up and folding

A checksum is computed by two loops over 32 bits. The first one adds up words, the second one takes
the carries of the sum and adds them to its low half, round after round, until none is left. Each
loop is written down here as a relation, one constructor for each of its steps:

* `Checksum.Adds` demands of every addition that it does not overflow. `Checksum.adds_foldl` says
  that this is so wherever the words' plain sum fits, and what is added up is then that sum
  (`Checksum.toNat_total`).
* `Checksum.Folds` counts the rounds. The number to watch is not the sum itself but its **residue**:
  a round makes the sum smaller and leaves the residue as it is. So the loop ends with the residue
  (`Checksum.Folds.toNat_last`), and after two rounds at most (`Checksum.exists_folds`).
-/

namespace EchoInjector.Wire.Checksum

/-! ### Adding up -/

/-- Words are **added up** onto a sum, one after the other, and no addition overflows. -/
inductive Adds : UInt32 → List UInt16 → UInt32 → Prop
  /-- There are no words left. -/
  | nil (sum : UInt32) : Adds sum [] sum
  /-- One more word fits. -/
  | cons {sum last : UInt32} {w : UInt16} {ws : List UInt16} (fits : sum.toNat + w.toNat < 2 ^ 32)
      (rest : Adds (sum + w.toUInt32) ws last) : Adds sum (w :: ws) last

/-- An addition that does not overflow is exact. -/
theorem toNat_add_word {sum : UInt32} {w : UInt16} (fits : sum.toNat + w.toNat < 2 ^ 32) :
    (sum + w.toUInt32).toNat = sum.toNat + w.toNat := by
  rw [UInt32.toNat_add, UInt16.toNat_toUInt32, Nat.mod_eq_of_lt fits]

/-- What is added up is the plain sum. -/
theorem Adds.toNat_last {sum last : UInt32} {ws : List UInt16} (h : Adds sum ws last) :
    last.toNat = sum.toNat + (ws.map UInt16.toNat).sum := by
  induction h with
  | nil => simp
  | cons fits rest ih =>
    rw [ih, toNat_add_word fits, List.map_cons, List.sum_cons, Nat.add_assoc]

/-- **No addition overflows** if the plain sum fits. -/
theorem adds_foldl {ws : List UInt16} {sum : UInt32}
    (h : sum.toNat + (ws.map UInt16.toNat).sum < 2 ^ 32) :
    Adds sum ws (ws.foldl (fun sum w => sum + w.toUInt32) sum) := by
  induction ws generalizing sum with
  | nil => exact .nil sum
  | cons w ws ih =>
    rw [List.map_cons, List.sum_cons] at h
    have hfits : sum.toNat + w.toNat < 2 ^ 32 := by omega
    exact .cons hfits (ih (by rw [toNat_add_word hfits]; omega))

theorem adds_total {ws : List UInt16} (h : (ws.map UInt16.toNat).sum < 2 ^ 32) :
    Adds 0 ws (total ws) :=
  adds_foldl (by simpa using h)

/-- Adding up words in 32 bits is exact as long as their sum fits. -/
theorem toNat_total {ws : List UInt16} (h : (ws.map UInt16.toNat).sum < 2 ^ 32) :
    (total ws).toNat = (ws.map UInt16.toNat).sum := by
  simpa using (adds_total h).toNat_last

/-! ### Folding -/

/-- What is left of a sum when all carries are folded back: zero for zero, otherwise the
remainder modulo 65535 in the range from 1 to 65535. -/
def residue (n : Nat) : Nat := if n = 0 then 0 else (n - 1) % 65535 + 1

/-- One step of folding keeps the residue. -/
theorem residue_fold_step (n : Nat) : residue (n / 65536 + n % 65536) = residue n := by
  unfold residue
  split <;> split <;> omega

/-- The carries of a sum are **folded back** in so many rounds. -/
inductive Folds : Nat → UInt32 → UInt32 → Prop
  /-- There are no carries. -/
  | done {sum : UInt32} (none : sum >>> 16 = 0) : Folds 0 sum sum
  /-- The carries are added to the low half. -/
  | round {n : Nat} {sum last : UInt32} (some : sum >>> 16 ≠ 0)
      (rest : Folds n ((sum >>> 16) + (sum &&& 0xffff)) last) : Folds (n + 1) sum last

/-- A sum without carries has 16 bits. -/
theorem carries_eq_zero_iff {sum : UInt32} : sum >>> 16 = 0 ↔ sum.toNat < 65536 := by
  have hzero : (0 : UInt32).toNat = 0 := rfl
  rw [← UInt32.toNat_inj, toNat_carries, hzero]
  omega

namespace Folds

variable {n : Nat} {sum last : UInt32}

/-- Rounds are what the fold goes through. -/
theorem fold_eq (h : Folds n sum last) : fold sum = last.toUInt16 := by
  induction h with
  | done none => rw [fold, dif_pos none]
  | round some rest ih => rw [fold, dif_neg some, ih]

theorem toNat_last_lt (h : Folds n sum last) : last.toNat < 65536 := by
  induction h with
  | done none => exact carries_eq_zero_iff.mp none
  | round some rest ih => exact ih

/-- **The loop ends with the residue.** -/
theorem toNat_last (h : Folds n sum last) : last.toNat = residue sum.toNat := by
  induction h with
  | @done sum none =>
    have hlt : sum.toNat < 65536 := carries_eq_zero_iff.mp none
    unfold residue
    split <;> omega
  | round some rest ih => rw [ih, toNat_fold_step, residue_fold_step]

end Folds

/-- **Two rounds are enough**: the first one leaves a single carry, if any. -/
theorem exists_folds (sum : UInt32) : ∃ n ≤ 2, ∃ last, Folds n sum last := by
  by_cases hnone : sum >>> 16 = 0
  · exact ⟨0, by decide, sum, .done hnone⟩
  · by_cases hnone' : ((sum >>> 16) + (sum &&& 0xffff)) >>> 16 = 0
    · exact ⟨1, by decide, _, .round hnone (.done hnone')⟩
    · refine ⟨2, Nat.le_refl 2, _, .round hnone (.round hnone' (.done ?_))⟩
      have hsum := sum.toNat_lt
      rw [carries_eq_zero_iff, toNat_fold_step, toNat_fold_step]
      omega

/-- **The folded sum in closed form.** -/
theorem toNat_fold (sum : UInt32) : (fold sum).toNat = residue sum.toNat := by
  obtain ⟨n, -, last, hfolds⟩ := exists_folds sum
  rw [hfolds.fold_eq, UInt32.toNat_toUInt16, Nat.mod_eq_of_lt hfolds.toNat_last_lt,
    hfolds.toNat_last]

end EchoInjector.Wire.Checksum
