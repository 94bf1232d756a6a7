import Mathlib.Data.List.Basic
import Mathlib.Tactic.SplitIfs
import EchoInjector.Proofs.Text.Numerals

/-!
# What a numeral denotes

A text **denotes** a whole number if it consists of decimal digits, any number of them, with at most
one sign in front. This is said here without the reader, which has its limit in view at every digit.
The two meet because the number read so far never becomes smaller: the limit is kept at every digit
exactly if it is kept at the last (`readDigits_eq_ok_iff`). So a numeral of any length is read
exactly if what it denotes is within the limits, and then as what it denotes
(`readSigned_eq_ok_iff`). The same holds in any base of a numeral that has no minus sign
(`readUnsigned_eq_ok_iff`).
-/

namespace EchoInjector.Text

/-! ### Digits in any base -/

/-- The number that digits stand for, behind those of a number already read. A character that is no
digit counts as zero. -/
def valueFrom (base acc : Nat) (cs : List Char) : Nat :=
  cs.foldl (fun n c => n * base + (digitValue? base c).getD 0) acc

/-- More digits do not make a number smaller. -/
theorem le_valueFrom {base : Nat} (hbase : 0 < base) (acc : Nat) (cs : List Char) :
    acc ≤ valueFrom base acc cs := by
  induction cs generalizing acc with
  | nil => exact Nat.le_refl acc
  | cons c rest ih =>
    refine Nat.le_trans ?_ (ih (acc * base + (digitValue? base c).getD 0))
    exact Nat.le_add_right_of_le (Nat.le_mul_of_pos_right acc hbase)

theorem digitValue?_lt {base d : Nat} {c : Char} (h : digitValue? base c = some d) : d < base := by
  rw [digitValue?, Option.filter_eq_some_iff] at h
  exact of_decide_eq_true h.2

/-- Each digit leaves room for the base only. -/
theorem valueFrom_lt {base : Nat} (hbase : 0 < base) (acc : Nat) (cs : List Char) :
    valueFrom base acc cs < (acc + 1) * base ^ cs.length := by
  induction cs generalizing acc with
  | nil => simp [valueFrom]
  | cons c rest ih =>
    have hdigit : (digitValue? base c).getD 0 < base := by
      cases hvalue : digitValue? base c with
      | none => exact hbase
      | some d => exact digitValue?_lt hvalue
    have hgrown : acc * base + (digitValue? base c).getD 0 + 1 ≤ (acc + 1) * base := by
      rw [Nat.succ_mul]
      omega
    calc valueFrom base (acc * base + (digitValue? base c).getD 0) rest
        < (acc * base + (digitValue? base c).getD 0 + 1) * base ^ rest.length := ih _
      _ ≤ (acc + 1) * base * base ^ rest.length := Nat.mul_le_mul_right _ hgrown
      _ = (acc + 1) * base ^ (c :: rest).length := by
        rw [List.length_cons, Nat.pow_succ', Nat.mul_assoc]

/-- **Digits are read exactly if the number that they stand for is within the limit**, and then as
that number. -/
theorem readDigits_eq_ok_iff {base limit acc n : Nat} (hbase : 0 < base) (hacc : acc ≤ limit)
    {excess : NumeralFault} {cs : List Char} :
    readDigits base limit excess acc cs = .ok n ↔
      (∀ c ∈ cs, (digitValue? base c).isSome = true) ∧ n = valueFrom base acc cs ∧ n ≤ limit := by
  induction cs generalizing acc with
  | nil =>
    rw [readDigits, Except.ok.injEq, valueFrom, List.foldl_nil]
    constructor
    · rintro rfl
      exact ⟨by simp, rfl, hacc⟩
    · rintro ⟨-, rfl, -⟩
      rfl
  | cons c rest ih =>
    rw [readDigits, List.forall_mem_cons, valueFrom, List.foldl_cons, ← valueFrom]
    cases digitValue? base c with
    | none => simp
    | some d =>
      simp only [Option.isSome_some, Option.getD_some, true_and]
      split
      case isTrue hbeyond =>
        -- what follows does not bring the number back below the limit
        have hgrown := le_valueFrom hbase (acc * base + d) rest
        constructor
        · rintro ⟨⟩
        · rintro ⟨-, rfl, hle⟩
          omega
      case isFalse hwithin => exact ih (Nat.not_lt.mp hwithin)

/-- Digits, possibly behind a plus sign. -/
def PlusOptional (digits cs : List Char) : Prop := cs = digits ∨ cs = '+' :: digits

/-- A plus sign is no digit. -/
theorem digitValue?_plus (base : Nat) : digitValue? base '+' = none := by
  simp [digitValue?]

/-- **A numeral without a sign, or with a plus, is read exactly if its digits stand for a number
within the limit**, and then as that number. -/
theorem readUnsigned_eq_ok_iff {base limit n : Nat} (hbase : 0 < base) {cs : List Char} :
    readUnsigned base limit cs = .ok n ↔
      ∃ ds, PlusOptional ds cs ∧ ds ≠ [] ∧ (∀ c ∈ ds, (digitValue? base c).isSome = true) ∧
        n = valueFrom base 0 ds ∧ n ≤ limit := by
  have hdigits : ∀ ds, readDigits base limit .tooLarge 0 ds = .ok n ↔
      (∀ c ∈ ds, (digitValue? base c).isSome = true) ∧ n = valueFrom base 0 ds ∧ n ≤ limit :=
    fun ds => readDigits_eq_ok_iff hbase (Nat.zero_le limit)
  fun_cases readUnsigned base limit cs with
  | case1 =>
    constructor
    · rintro ⟨⟩
    · rintro ⟨ds, rfl | heq, hne, -⟩
      · exact absurd rfl hne
      · cases heq
  | case2 c rest =>
    rw [hdigits]
    constructor
    · intro h
      exact ⟨c :: rest, .inr rfl, List.cons_ne_nil _ _, h⟩
    · rintro ⟨ds, rfl | heq, -, h⟩
      · -- the sign is not one of the digits
        have hplus := h.1 '+' List.mem_cons_self
        rw [digitValue?_plus] at hplus
        cases hplus
      · obtain ⟨-, rfl⟩ := List.cons.inj heq
        exact h
  | case3 cs hne hplus =>
    rw [hdigits]
    constructor
    · intro h
      exact ⟨cs, .inl rfl, hne, h⟩
    · rintro ⟨ds, rfl | rfl, hds, h⟩
      · exact h
      · obtain ⟨c, rest, rfl⟩ := List.exists_cons_of_ne_nil hds
        exact absurd rfl (hplus c rest)

/-- The same, where it is said otherwise what the digits of the base are and what they stand for. -/
theorem readUnsigned_eq_ok_iff_of_digits {base limit n : Nat} (hbase : 0 < base)
    {isDigit : Char → Prop} {value : List Char → Nat}
    (hdigit : ∀ c, (digitValue? base c).isSome = true ↔ isDigit c)
    (hvalue : ∀ ds, (∀ c ∈ ds, isDigit c) → valueFrom base 0 ds = value ds) {cs : List Char} :
    readUnsigned base limit cs = .ok n ↔
      (∃ ds, PlusOptional ds cs ∧ (ds ≠ [] ∧ ∀ c ∈ ds, isDigit c) ∧ n = value ds) ∧
        n ≤ limit := by
  simp only [readUnsigned_eq_ok_iff hbase, hdigit]
  constructor
  · rintro ⟨ds, hplus, hne, hds, rfl, hlimit⟩
    exact ⟨⟨ds, hplus, ⟨hne, hds⟩, hvalue ds hds⟩, hlimit⟩
  · rintro ⟨⟨ds, hplus, ⟨hne, hds⟩, rfl⟩, hlimit⟩
    exact ⟨ds, hplus, hne, hds, (hvalue ds hds).symm, hlimit⟩

/-! ### Decimal numerals -/

/-- Decimal digits, at least one of them. -/
def IsDecimal (cs : List Char) : Prop := cs ≠ [] ∧ ∀ c ∈ cs, c.isDigit = true

instance (cs : List Char) : Decidable (IsDecimal cs) :=
  decidable_of_iff ((!cs.isEmpty && cs.all Char.isDigit) = true) (by simp [IsDecimal])

/-- The number that decimal digits stand for. -/
def decimalValue (cs : List Char) : Nat :=
  cs.foldl (fun n c => n * 10 + (c.toNat - '0'.toNat)) 0

/-- A text **denotes** a whole number. -/
inductive Denotes : List Char → Int → Prop
  | bare {cs : List Char} (digits : IsDecimal cs) : Denotes cs (decimalValue cs)
  | plus {cs : List Char} (digits : IsDecimal cs) : Denotes ('+' :: cs) (decimalValue cs)
  | minus {cs : List Char} (digits : IsDecimal cs) : Denotes ('-' :: cs) (-decimalValue cs)

theorem digitValue?_ten (c : Char) :
    digitValue? 10 c = if c.isDigit = true then some (c.toNat - '0'.toNat) else none := by
  have hle : ∀ a b : Char, a ≤ b ↔ a.toNat ≤ b.toNat := fun _ _ => Iff.rfl
  have hcodes : '0'.toNat = 48 ∧ '9'.toNat = 57 ∧ 'a'.toNat = 97 ∧ 'f'.toNat = 102 ∧
      'A'.toNat = 65 ∧ 'F'.toNat = 70 := by decide
  simp only [digitValue?, hle, Char.isDigit_iff_toNat, hcodes]
  -- a letter stands for ten or more
  split_ifs <;> simp [Option.filter] <;> omega

theorem isSome_digitValue?_ten (c : Char) : (digitValue? 10 c).isSome = c.isDigit := by
  rw [digitValue?_ten]
  cases c.isDigit <;> rfl

theorem valueFrom_ten {cs : List Char} (hcs : ∀ c ∈ cs, c.isDigit = true) :
    valueFrom 10 0 cs = decimalValue cs := by
  refine List.foldl_ext _ _ 0 fun n c hc => ?_
  rw [digitValue?_ten, if_pos (hcs c hc), Option.getD_some]

/-- Decimal digits are read exactly if the number that they stand for is within the limit. -/
theorem readDigits_ten_eq_ok_iff {limit n : Nat} {excess : NumeralFault} {cs : List Char}
    (hne : cs ≠ []) :
    readDigits 10 limit excess 0 cs = .ok n ↔
      IsDecimal cs ∧ n = decimalValue cs ∧ n ≤ limit := by
  rw [readDigits_eq_ok_iff (by decide) (Nat.zero_le limit)]
  simp only [isSome_digitValue?_ten]
  constructor
  · rintro ⟨hdigits, hvalue, hlimit⟩
    exact ⟨⟨hne, hdigits⟩, hvalue.trans (valueFrom_ten hdigits), hlimit⟩
  · rintro ⟨⟨-, hdigits⟩, hvalue, hlimit⟩
    exact ⟨hdigits, hvalue.trans (valueFrom_ten hdigits).symm, hlimit⟩

/-- A text denotes a number **without a sign** if it consists of decimal digits, or of a plus sign
and decimal digits. -/
def DenotesUnsigned (cs : List Char) (n : Nat) : Prop :=
  ∃ ds, PlusOptional ds cs ∧ IsDecimal ds ∧ n = decimalValue ds

/-- A decimal numeral without a sign is read exactly if what it denotes is within the limit. -/
theorem readUnsigned_ten_eq_ok_iff {limit n : Nat} {cs : List Char} :
    readUnsigned 10 limit cs = .ok n ↔ DenotesUnsigned cs n ∧ n ≤ limit :=
  readUnsigned_eq_ok_iff_of_digits (by decide) (fun c => by rw [isSome_digitValue?_ten])
    fun _ => valueFrom_ten

theorem digits_ten_ne_nil (n : Nat) : digits 10 n ≠ [] := by
  obtain ⟨d, rest, hdigits, -⟩ := exists_digits_eq_cons (by decide : 2 ≤ 10) n
  rw [hdigits]
  exact List.cons_ne_nil _ _

/-- A written number consists of decimal digits, which stand for it. -/
theorem isDecimal_digits (n : Nat) :
    IsDecimal (digits 10 n) ∧ n = decimalValue (digits 10 n) := by
  have hread := readDigits_digits (by decide : 2 ≤ 10) (by decide) (Nat.le_refl n) .tooLarge
  obtain ⟨hdecimal, hvalue, -⟩ := (readDigits_ten_eq_ok_iff (digits_ten_ne_nil n)).mp hread
  exact ⟨hdecimal, hvalue⟩

/-! ### Hexadecimal numerals -/

/-- The hexadecimal digits in the order of their values, the letters in lower case. -/
def hexDigits : List Char := "0123456789abcdef".toList

/-- Hexadecimal digits in either case, at least one of them. -/
def IsHex (cs : List Char) : Prop := cs ≠ [] ∧ ∀ c ∈ cs, c.toLower ∈ hexDigits

/-- The number that hexadecimal digits stand for. -/
def hexValue (cs : List Char) : Nat :=
  cs.foldl (fun n c => n * 16 + hexDigits.idxOf c.toLower) 0

/-- A text denotes a number **in base sixteen** if it consists of hexadecimal digits, or of a plus
sign and hexadecimal digits. -/
def DenotesHex (cs : List Char) (n : Nat) : Prop :=
  ∃ ds, PlusOptional ds cs ∧ IsHex ds ∧ n = hexValue ds

/-- Beyond the first 128 characters there are no digits. -/
theorem digitValue?_eq_none {base : Nat} {c : Char} (hc : 128 ≤ c.toNat) :
    digitValue? base c = none := by
  have hle : ∀ a : Char, a.toNat < 128 → ¬ c ≤ a := fun a ha hca =>
    absurd (Nat.le_trans hc hca) (Nat.not_le.mpr ha)
  rw [digitValue?, if_neg fun h => hle '9' (by decide) h.2, if_neg fun h => hle 'f' (by decide) h.2,
    if_neg fun h => hle 'F' (by decide) h.2]
  rfl

/-- Neither are there hexadecimal ones, since only the letters before have another case. -/
theorem toLower_notMem_hexDigits {c : Char} (hc : 128 ≤ c.toNat) : c.toLower ∉ hexDigits := by
  have hlower : c.toLower = c :=
    dif_neg fun h => absurd (Nat.le_trans hc h.2) (by decide)
  have hdigits : hexDigits.all (·.toNat < 128) = true := by decide
  intro h
  rw [hlower] at h
  exact absurd (of_decide_eq_true (List.all_eq_true.mp hdigits c h)) (Nat.not_lt.mpr hc)

theorem digitValue?_sixteen (c : Char) :
    digitValue? 16 c = if c.toLower ∈ hexDigits then some (hexDigits.idxOf c.toLower) else none := by
  rcases Nat.lt_or_ge c.toNat 128 with hascii | hbeyond
  · have hall : ∀ n < 128, digitValue? 16 (Char.ofNat n)
        = if (Char.ofNat n).toLower ∈ hexDigits then some (hexDigits.idxOf (Char.ofNat n).toLower)
          else none := by
      decide +kernel
    have hc := hall c.toNat hascii
    rwa [Char.ofNat_toNat] at hc
  · rw [digitValue?_eq_none hbeyond, if_neg (toLower_notMem_hexDigits hbeyond)]

theorem isSome_digitValue?_sixteen (c : Char) :
    (digitValue? 16 c).isSome = true ↔ c.toLower ∈ hexDigits := by
  rw [digitValue?_sixteen]
  split <;> simp_all

theorem valueFrom_sixteen {cs : List Char} (hcs : ∀ c ∈ cs, c.toLower ∈ hexDigits) :
    valueFrom 16 0 cs = hexValue cs := by
  refine List.foldl_ext _ _ 0 fun n c hc => ?_
  rw [digitValue?_sixteen, if_pos (hcs c hc), Option.getD_some]

/-- A hexadecimal numeral is read exactly if what it denotes is within the limit. -/
theorem readUnsigned_sixteen_eq_ok_iff {limit n : Nat} {cs : List Char} :
    readUnsigned 16 limit cs = .ok n ↔ DenotesHex cs n ∧ n ≤ limit :=
  readUnsigned_eq_ok_iff_of_digits (by decide) isSome_digitValue?_sixteen fun _ => valueFrom_sixteen

/-! ### Signs -/

/-- Digits do not begin with a sign. -/
theorem not_isDecimal_cons {c : Char} (hc : c.isDigit = false) (cs : List Char) :
    ¬ IsDecimal (c :: cs) := by
  rintro ⟨-, hdigits⟩
  cases hc.symm.trans (hdigits c List.mem_cons_self)

theorem denotes_plus_iff {cs : List Char} {n : Int} :
    Denotes ('+' :: cs) n ↔ IsDecimal cs ∧ n = decimalValue cs := by
  constructor
  · intro h
    cases h with
    | bare digits => exact absurd digits (not_isDecimal_cons (by decide) cs)
    | plus digits => exact ⟨digits, rfl⟩
  · rintro ⟨digits, rfl⟩
    exact .plus digits

theorem denotes_minus_iff {cs : List Char} {n : Int} :
    Denotes ('-' :: cs) n ↔ IsDecimal cs ∧ n = -decimalValue cs := by
  constructor
  · intro h
    cases h with
    | bare digits => exact absurd digits (not_isDecimal_cons (by decide) cs)
    | minus digits => exact ⟨digits, rfl⟩
  · rintro ⟨digits, rfl⟩
    exact .minus digits

/-- Without a sign in front of something, there is nothing but digits. -/
theorem denotes_iff_of_unsigned {cs : List Char} {n : Int}
    (hplus : ∀ c rest, cs ≠ '+' :: c :: rest) (hminus : ∀ c rest, cs ≠ '-' :: c :: rest) :
    Denotes cs n ↔ IsDecimal cs ∧ n = decimalValue cs := by
  constructor
  · intro h
    cases h with
    | bare digits => exact ⟨digits, rfl⟩
    | plus digits =>
      obtain ⟨c, rest, rfl⟩ := List.exists_cons_of_ne_nil digits.1
      exact absurd rfl (hplus c rest)
    | minus digits =>
      obtain ⟨c, rest, rfl⟩ := List.exists_cons_of_ne_nil digits.1
      exact absurd rfl (hminus c rest)
  · rintro ⟨digits, rfl⟩
    exact .bare digits

/-- **A text denotes one number at most.** -/
theorem Denotes.unique {cs : List Char} {m n : Int} (hm : Denotes cs m) (hn : Denotes cs n) :
    m = n := by
  cases hm with
  | plus => exact (denotes_plus_iff.mp hn).2.symm
  | minus => exact (denotes_minus_iff.mp hn).2.symm
  | bare digits =>
    cases hn with
    | bare => rfl
    | plus => exact absurd digits (not_isDecimal_cons (by decide) _)
    | minus => exact absurd digits (not_isDecimal_cons (by decide) _)

theorem map_eq_ok_iff {ε α β : Type} {x : Except ε α} {f : α → β} {b : β} :
    x.map f = .ok b ↔ ∃ a, x = .ok a ∧ f a = b := by
  cases x <;> simp [Except.map]

section

variable {cs : List Char} {n : Int} (hne : cs ≠ [])

include hne

/-- Digits that stand for themselves, in 64 bits with a sign. -/
theorem readPositive_eq_ok_iff :
    (readDigits 10 (1 <<< 63 - 1) .tooLarge 0 cs).map Int.ofNat = .ok n ↔
      (IsDecimal cs ∧ n = decimalValue cs) ∧
        -9223372036854775808 ≤ n ∧ n ≤ 9223372036854775807 := by
  rw [map_eq_ok_iff]
  simp only [readDigits_ten_eq_ok_iff hne, Int.ofNat_eq_natCast]
  constructor
  · rintro ⟨m, ⟨hdigits, rfl, hlimit⟩, rfl⟩
    exact ⟨⟨hdigits, rfl⟩, by omega⟩
  · rintro ⟨⟨hdigits, rfl⟩, -, hhigh⟩
    exact ⟨_, ⟨hdigits, rfl, by omega⟩, rfl⟩

/-- Digits behind a minus sign, in 64 bits with a sign. -/
theorem readNegative_eq_ok_iff :
    ((readDigits 10 (1 <<< 63) .tooSmall 0 cs).map fun n => -Int.ofNat n) = .ok n ↔
      (IsDecimal cs ∧ n = -decimalValue cs) ∧
        -9223372036854775808 ≤ n ∧ n ≤ 9223372036854775807 := by
  rw [map_eq_ok_iff]
  simp only [readDigits_ten_eq_ok_iff hne, Int.ofNat_eq_natCast]
  constructor
  · rintro ⟨m, ⟨hdigits, rfl, hlimit⟩, rfl⟩
    exact ⟨⟨hdigits, rfl⟩, by omega⟩
  · rintro ⟨⟨hdigits, rfl⟩, hlow, -⟩
    exact ⟨_, ⟨hdigits, rfl, by omega⟩, rfl⟩

end

/-- **A numeral with a sign is read exactly if what it denotes fits in 64 bits**, and then as what
it denotes. -/
theorem readSigned_eq_ok_iff {cs : List Char} {n : Int} :
    readSigned cs = .ok n ↔
      Denotes cs n ∧ -9223372036854775808 ≤ n ∧ n ≤ 9223372036854775807 := by
  fun_cases readSigned cs with
  | case1 =>
    have hnone : ¬ IsDecimal [] := fun h => h.1 rfl
    simp [denotes_iff_of_unsigned, hnone]
  | case2 c rest => rw [readPositive_eq_ok_iff (List.cons_ne_nil c rest), denotes_plus_iff]
  | case3 c rest => rw [readNegative_eq_ok_iff (List.cons_ne_nil c rest), denotes_minus_iff]
  | case4 _ hne hplus hminus =>
    rw [readPositive_eq_ok_iff hne, denotes_iff_of_unsigned hplus hminus]

end EchoInjector.Text
