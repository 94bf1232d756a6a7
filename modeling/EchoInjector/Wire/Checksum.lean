import EchoInjector.Wire.Octets

/-!
# The Internet checksum

The checksum of a run of octets is computed over its 16-bit words, high octet first; an odd last
octet counts as the high half of a word whose low half is zero. One word, the place where the
checksum itself is stored, is **skipped**. Only two octets are such a place: an odd last octet
counts even where the index of the word to skip would be its own. The words are added up in 32
bits, the carries are folded back into 16 bits until none is left, and the complement of the result
is the checksum. The checksum of no octets at all is zero.

A run of at most 65535 octets has at most 32768 words, so the 32-bit sum cannot overflow; longer
runs are never checked here, because every checked run lies inside one IPv4 datagram.

Beside the writer's rule stands the receiver's: `onesSum` adds all words, the stored checksum
included, in one's complement arithmetic, one end-around carry at a time. A receiver accepts a
run whose sum has all bits set. The two rules share nothing but the division into words.
-/

namespace EchoInjector.Wire

/-- The 16-bit words of a run, an odd last octet as the high half of the last word. -/
def words : Octets → List UInt16
  | [] => []
  | [hi] => [word hi 0]
  | hi :: lo :: rest => word hi lo :: words rest

namespace Checksum

/-- The plain sum of words, in 32 bits. -/
def total (ws : List UInt16) : UInt32 :=
  ws.foldl (fun sum w => sum + w.toUInt32) 0

/-- The carries of a sum are its quotient by 65536. -/
theorem toNat_carries (sum : UInt32) : (sum >>> 16).toNat = sum.toNat / 65536 := by
  rw [UInt32.toNat_shiftRight, Nat.shiftRight_eq_div_pow]
  rfl

/-- The low half of a sum is its remainder by 65536. -/
theorem toNat_lowHalf (sum : UInt32) : (sum &&& 0xffff).toNat = sum.toNat % 65536 := by
  rw [UInt32.toNat_and]
  exact Nat.and_two_pow_sub_one_eq_mod _ 16

/-- Adding the carries to the low half does not overflow. -/
theorem toNat_fold_step (sum : UInt32) :
    ((sum >>> 16) + (sum &&& 0xffff)).toNat = sum.toNat / 65536 + sum.toNat % 65536 := by
  have hs := sum.toNat_lt
  rw [UInt32.toNat_add, toNat_carries, toNat_lowHalf, Nat.mod_eq_of_lt (by omega)]

/-- Adding the carries to the low half makes a number that has carries smaller. -/
theorem toNat_fold_step_lt {sum : UInt32} (h : sum >>> 16 ≠ 0) :
    ((sum >>> 16) + (sum &&& 0xffff)).toNat < sum.toNat := by
  have hne : (sum >>> 16).toNat ≠ 0 := fun hz => h (UInt32.toNat_inj.mp hz)
  rw [toNat_carries] at hne
  rw [toNat_fold_step]
  omega

/-- Folds the carries of a sum back into its low 16 bits until none is left. -/
def fold (sum : UInt32) : UInt16 :=
  if h : sum >>> 16 = 0 then sum.toUInt16
  else
    have := toNat_fold_step_lt h
    fold ((sum >>> 16) + (sum &&& 0xffff))
termination_by sum.toNat

/-- The words that count: all but the one at index `skip`, and an odd last octet in any case. -/
def counted : Nat → Octets → List UInt16
  | _, [] => []
  | _, [hi] => [word hi 0]
  | 0, _ :: _ :: rest => words rest
  | skip + 1, hi :: lo :: rest => word hi lo :: counted skip rest

/-- The checksum of a run, computed without the word at index `skip`. -/
def compute (skip : Nat) (d : Octets) : UInt16 :=
  if d = [] then 0 else ~~~(fold (total (counted skip d)))

theorem compute_of_ne_nil {d : Octets} (hne : d ≠ []) (skip : Nat) :
    compute skip d = ~~~(fold (total (counted skip d))) :=
  if_neg hne

/-! ### The receiver's side -/

/-- One's complement addition of two words: a carry out of the top comes back in at the bottom. -/
def endAroundAdd (a b : UInt16) : UInt16 :=
  if a.toNat + b.toNat < 65536 then a + b else a + b + 1

/-- The one's complement sum of all words of a run. -/
def onesSum (d : Octets) : UInt16 :=
  (words d).foldl endAroundAdd 0

end Checksum

end EchoInjector.Wire
