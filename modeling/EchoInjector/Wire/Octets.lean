/-!
# Octets on the wire

A packet is a list of octets in the order in which they travel. Numbers of two octets travel
with the **high octet first**: `word` joins two octets and `wordOctets` takes a number apart
again, and each undoes the other.

Reading is total: an offset past the end of the list reads as zero, so a reader decides about
the length once, before it looks at the fields. Writing is `overwrite`, which lays a run of
octets over an existing one. It never changes the length as long as the run fits, and it leaves
every octet outside the run alone.
-/

namespace EchoInjector.Wire

/-- A run of octets, in the order in which they travel. -/
abbrev Octets := List UInt8

/-! ### Words of two octets -/

/-- The number that two octets stand for, the high octet first. -/
def word (hi lo : UInt8) : UInt16 :=
  hi.toUInt16 <<< 8 ||| lo.toUInt16

/-- The two octets of a number, the high octet first. -/
def wordOctets (w : UInt16) : Octets :=
  [(w >>> 8).toUInt8, w.toUInt8]

@[simp] theorem length_wordOctets (w : UInt16) : (wordOctets w).length = 2 := rfl

/-- In numbers, the high octet counts 256 times. -/
theorem toNat_word (hi lo : UInt8) : (word hi lo).toNat = 256 * hi.toNat + lo.toNat := by
  have hh := hi.toNat_lt
  have hl := lo.toNat_lt
  simp only [word, UInt16.toNat_or, UInt16.toNat_shiftLeft, UInt8.toNat_toUInt16]
  have h : hi.toNat <<< (UInt16.toNat 8 % 16) % 2 ^ 16 = 2 ^ 8 * hi.toNat := by
    simp only [Nat.shiftLeft_eq]
    change hi.toNat * 2 ^ 8 % 2 ^ 16 = _
    omega
  rw [h, ← Nat.two_pow_add_eq_or_of_lt (by simpa using hl)]

/-- The high octet of a word is its quotient by 256. -/
theorem toNat_high (w : UInt16) : (w >>> 8).toUInt8.toNat = w.toNat / 256 := by
  have h := w.toNat_lt
  simp only [UInt16.toNat_toUInt8, UInt16.toNat_shiftRight, Nat.shiftRight_eq_div_pow]
  change w.toNat / 2 ^ 8 % 2 ^ 8 = _
  omega

/-- The low octet of a word is its remainder by 256. -/
theorem toNat_low (w : UInt16) : w.toUInt8.toNat = w.toNat % 256 := by
  simp

/-- Taking a word apart and joining it again gives it back. -/
@[simp] theorem word_high_low (w : UInt16) : word (w >>> 8).toUInt8 w.toUInt8 = w := by
  apply UInt16.toNat_inj.mp
  rw [toNat_word, toNat_high, toNat_low]
  omega

/-- Joining two octets and taking them apart again gives them back. -/
@[simp] theorem wordOctets_word (hi lo : UInt8) : wordOctets (word hi lo) = [hi, lo] := by
  have hh := hi.toNat_lt
  have hl := lo.toNat_lt
  have h1 : (word hi lo >>> 8).toUInt8 = hi := by
    apply UInt8.toNat_inj.mp
    rw [toNat_high, toNat_word]
    omega
  have h2 : (word hi lo).toUInt8 = lo := by
    apply UInt8.toNat_inj.mp
    rw [toNat_low, toNat_word]
    omega
  simp [wordOctets, h1, h2]

/-! ### Reading and writing at an offset -/

/-- The octet at an offset, zero past the end. -/
def octetAt (d : Octets) (i : Nat) : UInt8 :=
  d.getD i 0

/-- The word whose high octet stands at an offset. -/
def wordAt (d : Octets) (i : Nat) : UInt16 :=
  word (octetAt d i) (octetAt d (i + 1))

theorem octetAt_of_getElem? {d : Octets} {i : Nat} {b : UInt8} (h : d[i]? = some b) :
    octetAt d i = b := by
  simp [octetAt, h]

/-- Offsets behind a prefix count from its end. -/
theorem octetAt_drop (d : Octets) (n i : Nat) : octetAt (d.drop n) i = octetAt d (n + i) := by
  simp [octetAt]

/-- A reader does not see what stands behind its offset. -/
theorem octetAt_take {d : Octets} {i n : Nat} (h : i < n) : octetAt (d.take n) i = octetAt d i := by
  simp only [octetAt, List.getD_eq_getElem?_getD, List.getElem?_take_of_lt h]

theorem wordAt_take {d : Octets} {i n : Nat} (h : i + 1 < n) :
    wordAt (d.take n) i = wordAt d i := by
  rw [wordAt, wordAt, octetAt_take (by omega), octetAt_take h]

/-- A reader inside a run does not see what follows the run. -/
theorem octetAt_append {d : Octets} {i : Nat} (h : i < d.length) (t : Octets) :
    octetAt (d ++ t) i = octetAt d i := by
  simp only [octetAt, List.getD_eq_getElem?_getD, List.getElem?_append_left h]

theorem wordAt_append {d : Octets} {i : Nat} (h : i + 1 < d.length) (t : Octets) :
    wordAt (d ++ t) i = wordAt d i := by
  rw [wordAt, wordAt, octetAt_append (by omega), octetAt_append h]

/-- A reader does not see a change at another offset. -/
theorem octetAt_set_of_ne {d : Octets} {i j : Nat} (h : i ≠ j) (b : UInt8) :
    octetAt (d.set j b) i = octetAt d i := by
  simp [octetAt, List.getElem?_set_ne h.symm]

theorem wordAt_set_of_ne {d : Octets} {i j : Nat} (h : i ≠ j) (h' : i + 1 ≠ j) (b : UInt8) :
    wordAt (d.set j b) i = wordAt d i := by
  rw [wordAt, wordAt, octetAt_set_of_ne h, octetAt_set_of_ne h']

/-- The first octets of a run, one by one. -/
theorem take_eq_map_octetAt {d : Octets} {n : Nat} (h : n ≤ d.length) :
    d.take n = (List.range n).map (octetAt d) := by
  apply List.ext_getElem
  · simp [h]
  · intro i hi _
    have hid : i < d.length := by
      rw [List.length_take] at hi
      omega
    simp [octetAt, hid]

/-- The octets from one offset up to another, which is not included. -/
def slice (d : Octets) (start stop : Nat) : Octets :=
  (d.take stop).drop start

/-- Lays a run of octets over those that start at an offset. -/
def overwrite (start : Nat) (run d : Octets) : Octets :=
  d.take start ++ run ++ d.drop (start + run.length)

/-- Overwriting keeps the length when the run fits. -/
theorem length_overwrite {start : Nat} {run d : Octets} (h : start + run.length ≤ d.length) :
    (overwrite start run d).length = d.length := by
  simp only [overwrite, List.length_append, List.length_take, List.length_drop]
  omega

end EchoInjector.Wire
