import EchoInjector.Pattern.Tree
import EchoInjector.Text.Blank

/-!
# Reading with a cursor

A pattern is read from its start to its end by a **cursor**, which knows what is left, its place,
and the names of the groups that were met. Reading goes on or ends with a complaint.

While blanks mean nothing, the cursor can skip them, and with them comments, which run from a hash
sign to the end of the line. To **advance** is to move by one character and then to skip.
-/

namespace EchoInjector.Pattern

open Text

/-- How far a pattern has been read. -/
structure Cursor where
  /-- What is left. -/
  rest : List Char
  /-- The number of characters of the whole pattern. No loop takes more steps. -/
  bound : Nat := rest.length
  place : Place := {}
  /-- Whether blanks mean nothing. -/
  spaced : Bool := false
  /-- The names of groups, and where they were given. -/
  names : List (List Char × Span) := []

/-- A way to read a part of a pattern. -/
abbrev Reading := StateT Cursor (Except Complaint)

/-- The number of characters to skip before something that has a meaning. -/
def skippable (inComment : Bool) : List Char → Nat
  | [] => 0
  | c :: rest =>
    if inComment then skippable (c ≠ '\n') rest + 1
    else if isBlank c then skippable false rest + 1
    else if c = '#' then skippable true rest + 1
    else 0

namespace Cursor

/-- The cursor behind the next character. -/
def moved (c : Cursor) : Cursor :=
  match c.rest with
  | [] => c
  | ch :: rest => { c with rest := rest, place := c.place.behind ch }

/-- The cursor behind the next characters. -/
def movedBy : Nat → Cursor → Cursor
  | 0, c => c
  | n + 1, c => movedBy n c.moved

/-- The cursor before the next character that has a meaning. -/
def skipped (c : Cursor) : Cursor :=
  if c.spaced then c.movedBy (skippable false c.rest) else c

/-- The span of the next character. -/
def charSpan (c : Cursor) : Span := ⟨c.place, c.moved.place⟩

/-- The character behind the next one, blanks left out if they mean nothing. Where only blanks and
the start of a comment are left, this is the first of them. -/
def following? (c : Cursor) : Option Char :=
  let behind := c.rest.drop 1
  if c.spaced then
    let visible := match behind.dropWhile isBlank with
      | '#' :: rest => rest.dropWhile isBlank
      | rest => rest
    (visible.head?).or behind.head?
  else behind.head?

end Cursor

namespace Reading

/-- The place of the cursor. -/
def here : Reading Place := return (← get).place

/-- The span from a place to the cursor. -/
def spanFrom (start : Place) : Reading Span := return ⟨start, ← here⟩

/-- The next character, if there is one. -/
def next? : Reading (Option Char) := return (← get).rest.head?

/-- The span of the next character. -/
def charSpan : Reading Span := return (← get).charSpan

/-- Moves by a character. -/
def move : Reading Unit := modify Cursor.moved

/-- Moves by some characters. -/
def moveBy (n : Nat) : Reading Unit := modify (Cursor.movedBy n)

/-- Skips what means nothing. -/
def skip : Reading Unit := modify Cursor.skipped

/-- Moves by a character and skips what means nothing. -/
def advance : Reading Unit := modify fun c => c.moved.skipped

/-- Moves behind a text if it comes next; also tells whether it did. -/
def accept (s : List Char) : Reading Bool := do
  if s.isPrefixOf (← get).rest then
    moveBy s.length
    return true
  else
    return false

/-- Ends with a complaint. -/
def refuse {α : Type} (f : Fault) (s : Span) : Reading α :=
  throw { fault := f, span := s }

/-- Ends with a complaint about the place of the cursor. -/
def refuseHere {α : Type} (f : Fault) : Reading α := do
  refuse f (Span.ofPlace (← here))

/-- Advances over characters of a kind, at most a number of them, and gives them, behind those
already taken, of which the last one comes first. -/
def takeAtMost (kind : Char → Bool) : Nat → List Char → Reading (List Char)
  | 0, taken => return taken.reverse
  | n + 1, taken => do
    match ← next? with
    | none => return taken.reverse
    | some c =>
      if kind c then
        advance
        takeAtMost kind n (c :: taken)
      else
        return taken.reverse

/-- Advances over all next characters of a kind, and gives them. -/
def takeAll (kind : Char → Bool) : Reading (List Char) := do
  takeAtMost kind (← get).bound []

end Reading

end EchoInjector.Pattern
