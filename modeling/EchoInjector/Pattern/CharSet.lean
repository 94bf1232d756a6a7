/-!
# Sets of characters

A set of characters is kept as the increasing list of the code points at which membership changes:
a code point belongs to the set if an odd number of these **bounds** is at or below it. Two sets
are combined by walking along the bounds of both. The code points that are no characters belong to
no set.

Folding a set closes it under the two cases of its letters. A set remembers whether it is known to
be closed.
-/

namespace EchoInjector.Pattern

/-- A set of characters. -/
structure CharSet where
  /-- The code points at which membership changes, in increasing order. -/
  bounds : List Nat
  /-- Whether the set is known to be closed under the two cases of letters. -/
  folded : Bool
  deriving DecidableEq, Repr

namespace CharSet

/-- The empty set. -/
def empty : CharSet := ⟨[], true⟩

/-- All characters. -/
def all : CharSet := ⟨[0, 0xd800, 0xe000, 0x110000], true⟩

/-- The characters from one code point to another, both included. -/
def ofRange (first last : Nat) : CharSet :=
  if first < 0xd800 && 0xdfff < last then ⟨[first, 0xd800, 0xe000, last + 1], false⟩
  else ⟨[first, last + 1], false⟩

/-- The set of one character. -/
def singleton (c : Char) : CharSet := ofRange c.toNat c.toNat

/-- Whether a set is empty. -/
def isEmpty (s : CharSet) : Bool := s.bounds.isEmpty

/-- Whether a character belongs to a set. -/
def contains (s : CharSet) (c : Char) : Bool :=
  s.bounds.foldl (fun inside b => if b ≤ c.toNat then !inside else inside) false

/-- The ranges of a set, both ends included. -/
def ranges (s : CharSet) : List (Nat × Nat) :=
  pairUp s.bounds
where
  /-- Takes bounds in pairs. -/
  pairUp : List Nat → List (Nat × Nat)
    | first :: behind :: rest => (first, behind - 1) :: pairUp rest
    | _ => []

/-- Whether all members of a set are in ASCII. -/
def isAscii (s : CharSet) : Bool := s.bounds.all (· ≤ 128)

/-- The only member of a set, if it has just one. -/
def only? (s : CharSet) : Option Char :=
  match s.bounds with
  | [first, behind] => if behind = first + 1 then some (Char.ofNat first) else none
  | _ => none

/-! ### Combining sets -/

/-- The bounds of a combination of two sets, where `inA` and `inB` say whether the point in front
of all bounds left belongs to the one and the other set. -/
def combineBounds (f : Bool → Bool → Bool) (inA inB : Bool) : List Nat → List Nat → List Nat
  | [], [] => []
  | a :: as, [] =>
    let rest := combineBounds f (!inA) inB as []
    if f inA inB = f (!inA) inB then rest else a :: rest
  | [], b :: bs =>
    let rest := combineBounds f inA (!inB) [] bs
    if f inA inB = f inA (!inB) then rest else b :: rest
  | a :: as, b :: bs =>
    if a < b then
      let rest := combineBounds f (!inA) inB as (b :: bs)
      if f inA inB = f (!inA) inB then rest else a :: rest
    else if b < a then
      let rest := combineBounds f inA (!inB) (a :: as) bs
      if f inA inB = f inA (!inB) then rest else b :: rest
    else
      let rest := combineBounds f (!inA) (!inB) as bs
      if f inA inB = f (!inA) (!inB) then rest else a :: rest
termination_by as bs => as.length + bs.length

/-- What belongs to one of two sets. -/
def union (s t : CharSet) : CharSet :=
  if t.isEmpty then s
  else ⟨combineBounds (· || ·) false false s.bounds t.bounds, s.folded && t.folded⟩

/-- What belongs to both of two sets. -/
def intersection (s t : CharSet) : CharSet :=
  if s.isEmpty then s
  else if t.isEmpty then empty
  else ⟨combineBounds (· && ·) false false s.bounds t.bounds, s.folded && t.folded⟩

/-- What belongs to the first of two sets only. -/
def difference (s t : CharSet) : CharSet :=
  if s.isEmpty || t.isEmpty then s
  else ⟨combineBounds (fun a b => a && !b) false false s.bounds t.bounds, s.folded && t.folded⟩

/-- What belongs to exactly one of two sets. -/
def symmetricDifference (s t : CharSet) : CharSet :=
  (s.union t).difference (s.intersection t)

/-- What does not belong to a set. -/
def complement (s : CharSet) : CharSet :=
  if s.isEmpty then all
  else ⟨combineBounds (fun a b => a && !b) false false all.bounds s.bounds, s.folded⟩

/-! ### Cases of letters -/

/-- The characters of a set that lie in a range, moved up or down by a number of code points. -/
def movedWithin (s : CharSet) (first last : Nat) (move : Nat → Nat) : CharSet :=
  let part := s.intersection (ofRange first last)
  { part with bounds := part.bounds.map move }

/-- A set closed under the two cases of the letters of ASCII. -/
def foldAscii (s : CharSet) : CharSet :=
  let closed := (s.union (s.movedWithin 65 90 (· + 32))).union (s.movedWithin 97 122 (· - 32))
  { closed with folded := true }

end CharSet

end EchoInjector.Pattern
