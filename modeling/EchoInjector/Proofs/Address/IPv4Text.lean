import EchoInjector.Address.IPv4
import EchoInjector.Proofs.Text.Numerals

/-!
# The text of an Internet address

An Internet address is written as four decimal numbers. Reading is strict about each of them, and
what is written is what it asks for: one to three digits, no zero in front unless it is all there
is, and no more than 255. No digit is a point, so the numbers are found again between the points.
Hence `IPv4.read?_text`: **what is written is read back**.
-/

namespace EchoInjector

open Wire Text

namespace IPv4

/-- A written octet is a part of an address. -/
theorem readPart?_digits (o : UInt8) : readPart? (digits 10 o.toNat) = some o := by
  have ho := o.toNat_lt
  have hread : readDigits 10 255 .tooLarge 0 (digits 10 o.toNat) = .ok o.toNat :=
    readDigits_digits (by decide) (by decide) (by omega) _
  have hlong : (digits 10 o.toNat).length ≤ 3 := length_digits_le (by decide) (by omega)
  obtain ⟨d, rest, hdigits, hd, hzero⟩ := exists_digits_eq_cons (by decide : 2 ≤ 10) o.toNat
  have hlength : ¬ ((digits 10 o.toNat).length = 0 ∨ 3 < (digits 10 o.toNat).length) := by
    rw [hdigits] at hlong ⊢
    rw [List.length_cons] at hlong ⊢
    omega
  have hfront : ¬ ((digits 10 o.toNat).head? = some '0' ∧ (digits 10 o.toNat).length ≠ 1) := by
    rintro ⟨hhead, hmore⟩
    rw [hdigits, List.head?_cons, Option.some_inj, digitChar_eq_zero_iff d (by omega)] at hhead
    -- only zero begins with a zero, and that has one digit
    rw [hzero hhead, digits_of_lt (by decide)] at hmore
    exact hmore rfl
  rw [readPart?, if_neg hlength, if_neg hfront, hread]
  exact congrArg some (UInt8.ofNat_toNat)

/-- **A written address is read back.** -/
theorem read?_text (x : IPv4) : read? x.text.toList = some x := by
  have hsplit : x.chars.splitOn '.' = x.octets.map fun o => digits 10 o.toNat := by
    refine List.splitOn_intercalate '.' (fun part hpart => ?_) (by simp [octets])
    obtain ⟨o, -, rfl⟩ := List.mem_map.mp hpart
    exact notMem_digits (by decide) (by decide) (by decide) _
  rw [text, String.toList_ofList, read?, hsplit]
  simp [octets, readPart?_digits]

/-- An address is told by its text. -/
theorem text_injective : Function.Injective text := by
  intro x y h
  have hread := read?_text x
  rw [h, read?_text] at hread
  exact (Option.some.inj hread).symm

/-- A separator other than its own does not stand in an address. -/
theorem notMem_text {c : Char} (hc : c.isAlphanum = false) (hpoint : c ≠ '.') (x : IPv4) :
    c ∉ x.text.toList := by
  rw [text, String.toList_ofList, chars]
  have hpart : ∀ n, c ∉ digits 10 n := notMem_digits (by decide) (by decide) hc
  simp [octets, List.intercalate, List.intersperse, hpart, hpoint]

end IPv4

end EchoInjector
