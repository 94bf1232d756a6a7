import Mathlib.Algebra.Group.Nat.Defs
import EchoInjector.Text.Numeral

/-!
# Reading back what was written

Writing a number puts its last digit behind the digits of the rest, reading goes from the left. The
two meet in `readDigits_digits`, an induction along the writing: by the time the last digit is read,
the rest of the number has been. **A written number is read back** wherever the limit admits it, and
the limit is never met on the way, since the numbers read so far are no larger.

Whoever reads a numeral also looks at how it begins, for a sign or for a leading zero, and at how
long it is. What is written begins with a digit, which is zero only if the number is.
-/

namespace EchoInjector.Text

/-! ### Digits -/

theorem digitValue?_digitChar :
    ∀ base ≤ 16, ∀ d < base, digitValue? base (digitChar d) = some d := by
  decide

theorem isAlphanum_digitChar : ∀ d < 16, (digitChar d).isAlphanum = true := by
  decide

/-- A digit is no sign and no separator. -/
theorem digitChar_ne {d : Nat} (hd : d < 16) {c : Char} (hc : c.isAlphanum = false) :
    digitChar d ≠ c := by
  rintro rfl
  cases hc.symm.trans (isAlphanum_digitChar d hd)

/-- A sign or a separator does not stand in the two digits of an octet. -/
theorem notMem_hexOctet {c : Char} (hc : c.isAlphanum = false) (o : UInt8) : c ∉ hexOctet o := by
  have ho := o.toNat_lt
  have hhigh : digitChar (o.toNat / 16) ≠ c := digitChar_ne (by omega) hc
  have hlow : digitChar (o.toNat % 16) ≠ c := digitChar_ne (by omega) hc
  simp [hexOctet, hhigh.symm, hlow.symm]

theorem digitChar_eq_zero_iff : ∀ d < 16, (digitChar d = '0' ↔ d = 0) := by
  decide

/-! ### Written numbers -/

theorem digits_of_lt {base n : Nat} (h : n < base) : digits base n = [digitChar n] := by
  rw [digits, dif_pos (Or.inl h)]

theorem digits_of_le {base n : Nat} (hbase : 2 ≤ base) (h : base ≤ n) :
    digits base n = digits base (n / base) ++ [digitChar (n % base)] := by
  rw [digits, dif_neg (by omega)]

section

variable {base : Nat} (hbase : 2 ≤ base)

include hbase

/-- A written number consists of digits. -/
theorem exists_digit_of_mem_digits {n : Nat} {c : Char} (h : c ∈ digits base n) :
    ∃ d < base, c = digitChar d := by
  induction n using Nat.strongRecOn with
  | ind n ih =>
    rcases Nat.lt_or_ge n base with hlt | hle
    · rw [digits_of_lt hlt, List.mem_singleton] at h
      exact ⟨n, hlt, h⟩
    · rw [digits_of_le hbase hle, List.mem_append, List.mem_singleton] at h
      rcases h with h | h
      · exact ih (n / base) (Nat.div_lt_self (by omega) hbase) h
      · exact ⟨n % base, Nat.mod_lt _ (by omega), h⟩

/-- A sign or a separator does not stand in a written number. -/
theorem notMem_digits (hsixteen : base ≤ 16) {c : Char} (hc : c.isAlphanum = false) (n : Nat) :
    c ∉ digits base n := by
  intro h
  obtain ⟨d, hd, heq⟩ := exists_digit_of_mem_digits hbase h
  exact digitChar_ne (by omega) hc heq.symm

/-- A written number begins with a digit, and with zero only if it is zero. -/
theorem exists_digits_eq_cons (n : Nat) :
    ∃ d rest, digits base n = digitChar d :: rest ∧ d < base ∧ (d = 0 → n = 0) := by
  induction n using Nat.strongRecOn with
  | ind n ih =>
    rcases Nat.lt_or_ge n base with hlt | hle
    · exact ⟨n, [], digits_of_lt hlt, hlt, id⟩
    · obtain ⟨d, rest, hdigits, hd, hzero⟩ := ih (n / base) (Nat.div_lt_self (by omega) hbase)
      have hpos : 0 < n / base := Nat.div_pos hle (by omega)
      refine ⟨d, rest ++ [digitChar (n % base)], ?_, hd, fun h => ?_⟩
      · rw [digits_of_le hbase hle, hdigits, List.cons_append]
      · omega

/-- A number below a power of the base has at most as many digits. -/
theorem length_digits_le {n k : Nat} (h : n < base ^ (k + 1)) :
    (digits base n).length ≤ k + 1 := by
  induction k generalizing n with
  | zero =>
    rw [digits_of_lt (by simpa using h)]
    exact Nat.le_refl 1
  | succ k ih =>
    rcases Nat.lt_or_ge n base with hlt | hle
    · rw [digits_of_lt hlt, List.length_singleton]
      omega
    · have hrest : n / base < base ^ (k + 1) := by
        rw [Nat.div_lt_iff_lt_mul (by omega), ← Nat.pow_succ]
        exact h
      rw [digits_of_le hbase hle, List.length_append, List.length_singleton]
      exact Nat.succ_le_succ (ih hrest)

/-! ### Reading them -/

omit hbase in
/-- Digits are read one part after the other. -/
theorem readDigits_append (limit : Nat) (excess : NumeralFault) (acc : Nat) (xs ys : List Char) :
    readDigits base limit excess acc (xs ++ ys)
      = (readDigits base limit excess acc xs).bind (readDigits base limit excess · ys) := by
  induction xs generalizing acc with
  | nil => rfl
  | cons c rest ih =>
    rw [List.cons_append, readDigits, readDigits]
    cases digitValue? base c with
    | none => rfl
    | some d =>
      by_cases hlimit : limit < acc * base + d
      · simp only [if_pos hlimit]
        rfl
      · simp only [if_neg hlimit]
        exact ih _

variable (hsixteen : base ≤ 16)

include hsixteen

/-- **A written number is read back** within any limit that admits it. -/
theorem readDigits_digits {n limit : Nat} (h : n ≤ limit) (excess : NumeralFault) :
    readDigits base limit excess 0 (digits base n) = .ok n := by
  induction n using Nat.strongRecOn with
  | ind n ih =>
    rcases Nat.lt_or_ge n base with hlt | hle
    · rw [digits_of_lt hlt]
      simp only [readDigits, digitValue?_digitChar base hsixteen n hlt, Nat.zero_mul, Nat.zero_add,
        if_neg (Nat.not_lt.mpr h)]
    · have hrest := ih (n / base) (Nat.div_lt_self (by omega) hbase)
        (Nat.le_trans (Nat.div_le_self n base) h)
      have hlast := digitValue?_digitChar base hsixteen (n % base) (Nat.mod_lt _ (by omega))
      rw [digits_of_le hbase hle, readDigits_append, hrest, Except.bind]
      simp only [readDigits, hlast, Nat.div_add_mod', if_neg (Nat.not_lt.mpr h)]

theorem readUnsigned_digits {n limit : Nat} (h : n ≤ limit) :
    readUnsigned base limit (digits base n) = .ok n := by
  have hread := readDigits_digits hbase hsixteen h .tooLarge
  obtain ⟨d, rest, hdigits, hd, -⟩ := exists_digits_eq_cons hbase n
  rw [hdigits] at hread ⊢
  rw [readUnsigned.eq_3 _ _ _ (by simp)]
  · exact hread
  · intro c rest' heq
    exact digitChar_ne (by omega) (by decide) (List.cons.inj heq).1

end

/-- A sign or a separator does not stand in a decimal numeral. -/
theorem notMem_decimal {c : Char} (hc : c.isAlphanum = false) (n : Nat) :
    c ∉ (decimal n).toList := by
  rw [decimal, String.toList_ofList]
  exact notMem_digits (by decide) (by decide) hc n

/-- A number is told by its numeral. -/
theorem decimal_injective : Function.Injective decimal := by
  intro m n h
  have hdigits : digits 10 m = digits 10 n := String.ofList_injective h
  have hm := readDigits_digits (by decide : 2 ≤ 10) (by decide) (Nat.le_max_left m n) .tooLarge
  have hn := readDigits_digits (by decide : 2 ≤ 10) (by decide) (Nat.le_max_right m n) .tooLarge
  rw [hdigits] at hm
  exact Except.ok.inj (hm.symm.trans hn)

theorem readSigned_digits {n : Nat} (h : n < 1 <<< 63) : readSigned (digits 10 n) = .ok n := by
  have hread := readDigits_digits (by decide : 2 ≤ 10) (by decide) (Nat.le_sub_one_of_lt h)
    .tooLarge
  obtain ⟨d, rest, hdigits, hd, -⟩ := exists_digits_eq_cons (by decide : 2 ≤ 10) n
  rw [hdigits] at hread ⊢
  -- neither of the two signs is what the numeral begins with
  rw [readSigned.eq_4 _ (by simp)]
  · rw [hread]
    rfl
  · intro c rest' heq
    exact digitChar_ne (by omega) (by decide) (List.cons.inj heq).1
  · intro c rest' heq
    exact digitChar_ne (by omega) (by decide) (List.cons.inj heq).1

end EchoInjector.Text
