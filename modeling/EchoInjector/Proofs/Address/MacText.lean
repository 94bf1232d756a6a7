import Mathlib.Data.List.Forall2
import EchoInjector.Address.Mac
import EchoInjector.Proofs.Text.Denotation

/-!
# The text of a link-layer address

A text is read as an address exactly if its parts between colons are six, and each of them is a
hexadecimal numeral that **denotes** an octet, which is then the address's octet at this place
(`Mac.read?_eq_some_iff`). The parts may be as long as they like, and the numerals may have letters
in either case and a plus sign.

An address is written in one way only, as six groups of two digits, the letters in lower case
(`Mac.isCanonical_text`). Each digit is read as it was written and two of them never exceed an octet,
so a group is read back; and no digit is a colon, so the groups are found again between the colons.
Hence `Mac.read?_chars`: **what is written is read back**.
-/

namespace EchoInjector

open Wire Text

namespace Text

/-- Two hexadecimal digits are read as the octet that they write. -/
theorem readUnsigned_hexOctet (o : UInt8) : readUnsigned 16 255 (hexOctet o) = .ok o.toNat := by
  have ho := o.toNat_lt
  have hhigh := digitValue?_digitChar 16 (by decide) (o.toNat / 16) (by omega)
  have hlow := digitValue?_digitChar 16 (by decide) (o.toNat % 16) (by omega)
  have hfirst : ¬ 255 < 0 * 16 + o.toNat / 16 := by omega
  have hvalue : (0 * 16 + o.toNat / 16) * 16 + o.toNat % 16 = o.toNat := by omega
  have hlimit : ¬ 255 < o.toNat := by omega
  rw [hexOctet, readUnsigned]
  · simp only [readDigits, hhigh, hlow, if_neg hfirst, hvalue, if_neg hlimit]
  · simp
  · intro c rest hplus
    exact digitChar_ne (by omega) (by decide) (List.cons.inj hplus).1

theorem digitChar_mem_hexDigits : ∀ d < 16, digitChar d ∈ hexDigits := by
  decide

end Text

namespace Mac

/-! ### Reading -/

/-- A part of an address is read exactly if it denotes an octet, and then as that octet. -/
theorem readGroup?_eq_some_iff {part : List Char} {o : UInt8} :
    readGroup? part = some o ↔ DenotesHex part o.toNat := by
  have hwidth : o.toNat ≤ 255 := Nat.le_of_lt_succ o.toNat_lt
  have hread (n : Nat) : (readUnsigned 16 255 part).toOption = some n ↔
      DenotesHex part n ∧ n ≤ 255 := by
    rw [← readUnsigned_sixteen_eq_ok_iff]
    cases readUnsigned 16 255 part <;> simp [Except.toOption]
  rw [readGroup?, Option.map_eq_some_iff]
  simp only [hread]
  constructor
  · rintro ⟨n, ⟨hdenotes, hle⟩, rfl⟩
    rwa [UInt8.toNat_ofNat_of_lt' (Nat.lt_succ_of_le hle)]
  · intro hdenotes
    exact ⟨o.toNat, ⟨hdenotes, hwidth⟩, UInt8.ofNat_toNat⟩

/-- All of a list is read exactly if each element is. -/
theorem mapM_eq_some_iff {α β : Type} {f : α → Option β} {as : List α} {bs : List β} :
    as.mapM f = some bs ↔ List.Forall₂ (fun a b => f a = some b) as bs := by
  induction as generalizing bs with
  | nil => cases bs <;> simp
  | cons a as ih =>
    have hstep : (a :: as).mapM f = some bs ↔
        ∃ b, f a = some b ∧ ∃ rest, as.mapM f = some rest ∧ b :: rest = bs := by
      simp [List.mapM_cons, Option.bind_eq_some_iff]
    rw [hstep, List.forall₂_cons_left_iff]
    simp only [ih, eq_comm (a := bs), exists_and_left]

/-- **The texts of an address** are those whose parts between colons denote its octets. -/
theorem read?_eq_some_iff {text : List Char} {m : Mac} :
    read? text = some m ↔
      List.Forall₂ (fun part o => DenotesHex part (UInt8.toNat o)) (text.splitOn ':') m.octets := by
  have hsix : read? text = some m ↔ (text.splitOn ':').mapM readGroup? = some m.octets := by
    rw [read?]
    constructor
    · intro h
      split at h
      case h_1 hparts =>
        cases h
        exact hparts
      case h_2 => cases h
    · intro h
      rw [h]
      rfl
  rw [hsix, mapM_eq_some_iff]
  simp only [readGroup?_eq_some_iff]

/-- Six octets are an address. -/
theorem exists_octets_eq {os : Octets} (h : os.length = 6) : ∃ m : Mac, m.octets = os := by
  match os, h with
  | [a, b, c, d, e, f], _ => exact ⟨⟨a, b, c, d, e, f⟩, rfl⟩

/-- Where something is related to each element, a list is. -/
theorem exists_forall₂_iff {α β : Type} {R : α → β → Prop} {as : List α} :
    (∃ bs, List.Forall₂ R as bs) ↔ ∀ a ∈ as, ∃ b, R a b := by
  induction as with
  | nil => simp
  | cons a as ih =>
    rw [List.forall_mem_cons, ← ih]
    constructor
    · rintro ⟨_, h⟩
      cases h with
      | cons hfirst hrest => exact ⟨⟨_, hfirst⟩, _, hrest⟩
    · rintro ⟨⟨b, hfirst⟩, bs, hrest⟩
      exact ⟨b :: bs, .cons hfirst hrest⟩

/-- A text is one of some address exactly if it has six parts, and each of them denotes a number of
at most 255. -/
theorem exists_read?_iff {text : List Char} :
    (∃ m, read? text = some m) ↔
      (text.splitOn ':').length = 6 ∧
        ∀ part ∈ text.splitOn ':', ∃ n, DenotesHex part n ∧ n ≤ 255 := by
  have hoctet : ∀ part, (∃ n, DenotesHex part n ∧ n ≤ 255) ↔
      ∃ o : UInt8, DenotesHex part o.toNat := by
    intro part
    constructor
    · rintro ⟨n, hdenotes, hle⟩
      exact ⟨.ofNat n, by rwa [UInt8.toNat_ofNat_of_lt' (Nat.lt_succ_of_le hle)]⟩
    · rintro ⟨o, hdenotes⟩
      exact ⟨o.toNat, hdenotes, Nat.le_of_lt_succ o.toNat_lt⟩
  simp only [read?_eq_some_iff, hoctet, ← exists_forall₂_iff]
  constructor
  · rintro ⟨m, h⟩
    exact ⟨h.length_eq, _, h⟩
  · rintro ⟨hsix, os, h⟩
    obtain ⟨m, rfl⟩ := exists_octets_eq (h.length_eq.symm.trans hsix)
    exact ⟨m, h⟩

/-! ### Writing -/

theorem splitOn_chars (m : Mac) : m.chars.splitOn ':' = m.octets.map hexOctet := by
  refine List.splitOn_intercalate ':' (fun group hgroup => ?_) (by simp [octets])
  obtain ⟨o, -, rfl⟩ := List.mem_map.mp hgroup
  exact notMem_hexOctet (by decide) o

theorem readGroup?_hexOctet (o : UInt8) : readGroup? (hexOctet o) = some o := by
  rw [readGroup?, readUnsigned_hexOctet]
  exact congrArg some (UInt8.ofNat_toNat)

/-- **A written address is read back.** -/
theorem read?_chars (m : Mac) : read? m.chars = some m := by
  rw [read?, splitOn_chars]
  simp [octets, readGroup?_hexOctet]

theorem read?_text (m : Mac) : read? m.text.toList = some m := by
  rw [text, String.toList_ofList, read?_chars]

/-- An address is told by its text. -/
theorem text_injective : Function.Injective text := by
  intro m n h
  have hread := read?_text m
  rw [h, read?_text] at hread
  exact (Option.some.inj hread).symm

/-- A separator other than its own does not stand in an address. -/
theorem notMem_text {c : Char} (hc : c.isAlphanum = false) (hcolon : c ≠ ':') (m : Mac) :
    c ∉ m.text.toList := by
  rw [text, String.toList_ofList, chars]
  have hgroup : ∀ o, c ∉ hexOctet o := notMem_hexOctet hc
  simp [octets, List.intercalate, List.intersperse, hgroup, hcolon]

/-- A text is **canonical** if its parts between colons are six, each of two hexadecimal digits with
the letters in lower case. -/
structure IsCanonical (text : List Char) : Prop where
  six : (text.splitOn ':').length = 6
  two : ∀ part ∈ text.splitOn ':', part.length = 2
  lower : ∀ part ∈ text.splitOn ':', ∀ c ∈ part, c ∈ hexDigits

/-- **Addresses are written in canonical form.** -/
theorem isCanonical_text (m : Mac) : IsCanonical m.text.toList := by
  have hsplit : m.text.toList.splitOn ':' = m.octets.map hexOctet := by
    rw [text, String.toList_ofList, splitOn_chars]
  constructor <;> rw [hsplit]
  case six => rfl
  all_goals
    intro part hpart
    obtain ⟨o, -, rfl⟩ := List.mem_map.mp hpart
  case two => rfl
  case lower =>
    have ho := o.toNat_lt
    have hhigh := digitChar_mem_hexDigits (o.toNat / 16) (by omega)
    have hlow := digitChar_mem_hexDigits (o.toNat % 16) (by omega)
    exact List.forall_mem_cons.mpr ⟨hhigh, List.forall_mem_singleton.mpr hlow⟩

end Mac

end EchoInjector
