import EchoInjector.Pattern.Cursor
import EchoInjector.Text.Numeral

/-!
# Atoms

An atom is a single character of a pattern or an **escape**, which starts with a backslash. Behind
the backslash a sign stands for itself, and a letter or a digit for something else:

* `x`, `u` and `U` are followed by a character's code point, either in braces or by exactly two,
  four or eight hexadecimal digits;
* `p` and `P` are followed by the name of a property, a single letter or a text in braces;
* `d`, `s` and `w` are shorthand classes, and their capitals the opposite;
* `a`, `f`, `n`, `r`, `t` and `v` are control characters;
* `A`, `z`, `b`, `B`, `<` and `>` are assertions, where `b` may be followed by the name of a kind
  of word boundary in braces. Braces without letters are left alone, since they are counts.
-/

namespace EchoInjector.Pattern

open Text Reading

/-- The character that a number stands for, if any. -/
def scalar? (n : Nat) : Option Char :=
  if h : n.isValidChar then some (Char.ofNatAux n h) else none

/-- Whether a character is a hexadecimal digit. -/
def isHexDigit (c : Char) : Bool := (digitValue? 16 c).isSome

/-- The number of hexadecimal digits. -/
def hexValue (digits : List Char) : Nat :=
  digits.foldl (fun n c => 16 * n + (digitValue? 16 c).getD 0) 0

/-- Reads a number of hexadecimal digits. -/
def readHexDigits : Nat → Reading (List Char)
  | 0 => return []
  | n + 1 => do
    match ← next? with
    | none => refuseHere .escapeUnfinished
    | some c =>
      if isHexDigit c then
        advance
        return c :: (← readHexDigits n)
      else
        refuse .hexDigit (← charSpan)

/-- Reads a character given by a number of digits, the escape having started at a place. -/
def readHexFixed (start : Place) (count : Nat) : Reading Literal := do
  let first ← here
  let digits ← readHexDigits count
  match scalar? (hexValue digits) with
  | none => refuse .hexInvalid (← spanFrom first)
  | some c => return { span := ← spanFrom start, char := c, isOctet := count = 2 }

/-- Reads a character given by digits in braces, the escape having started at a place. -/
def readHexBraced (start : Place) : Reading Literal := do
  let brace ← here
  let first := (← charSpan).stop
  advance
  let digits ← takeAll isHexDigit
  match ← next? with
  | none => refuse .escapeUnfinished (← spanFrom brace)
  | some '}' =>
    let last ← here
    advance
    if digits = [] then refuse .hexEmpty (← spanFrom brace)
    else match scalar? (hexValue digits) with
      | none => refuse .hexInvalid ⟨first, last⟩
      | some c => return { span := ← spanFrom start, char := c }
  | some _ => refuse .hexDigit (← charSpan)

/-- Reads a character given by its code point, from the letter that announces it on. -/
def readHex (start : Place) (letter : Char) : Reading Literal := do
  advance
  match ← next? with
  | none => refuseHere .escapeUnfinished
  | some '{' => readHexBraced start
  | some _ => readHexFixed start (if letter = 'x' then 2 else if letter = 'u' then 4 else 8)

/-- Reads a property, from the letter that announces it on. -/
def readProperty (start : Place) : Reading Atom := do
  advance
  match ← next? with
  | none => refuseHere .escapeUnfinished
  | some '{' =>
    advance
    let name ← takeAll (· ≠ '}')
    match ← next? with
    | none => refuseHere .escapeUnfinished
    | some _ =>
      move
      return .property (← spanFrom start) name
  | some '\\' => refuse .propertyName (← charSpan)
  | some c =>
    advance
    return .property (← spanFrom start) [c]

/-- The kind of word boundary of a name. -/
def WordEdge.ofName? (name : List Char) : Option WordEdge :=
  match String.ofList name with
  | "start" => some start
  | "end" => some stop
  | "start-half" => some halfStart
  | "end-half" => some halfStop
  | _ => none

/-- Reads the kind of a word boundary that started at a place, if a kind is given. -/
def readWordEdge (start : Place) : Reading WordEdge := do
  match ← next? with
  | some '{' =>
    let brace ← get
    advance
    match ← next? with
    | none => refuse .boundaryUnfinished (← spanFrom start)
    | some c =>
      let isNameChar := fun (c : Char) => c.isAlpha || c = '-'
      if isNameChar c then
        let first ← here
        let name ← takeAll isNameChar
        match ← next? with
        | some '}' =>
          let last ← here
          move
          match WordEdge.ofName? name with
          | some edge => return edge
          | none => refuse .boundaryUnknown ⟨first, last⟩
        | _ => refuse .boundaryUnclosed (← spanFrom brace.place)
      else
        set brace
        return .boundary
  | _ => return .boundary

/-- The shorthand class of a letter, and whether it is meant to be the opposite. -/
def Shorthand.ofLetter? : Char → Option (Bool × Shorthand)
  | 'd' => some (false, digit)
  | 'D' => some (true, digit)
  | 's' => some (false, space)
  | 'S' => some (true, space)
  | 'w' => some (false, word)
  | 'W' => some (true, word)
  | _ => none

/-- The assertion of a letter or sign behind a backslash. -/
def Assertion.ofLetter? : Char → Option Assertion
  | 'A' => some textStart
  | 'z' => some textStop
  | 'B' => some (word .inside)
  | '<' => some (word .start)
  | '>' => some (word .stop)
  | _ => none

/-- The control character of a letter. -/
def controlOf? : Char → Option Char
  | 'a' => some (Char.ofNat 7)
  | 't' => some '\t'
  | 'n' => some '\n'
  | 'v' => some (Char.ofNat 11)
  | 'f' => some (Char.ofNat 12)
  | 'r' => some '\r'
  | _ => none

/-- Whether a character stands for itself behind a backslash. -/
def isSign (c : Char) : Bool :=
  c.toNat < 128 && !c.isAlphanum && c ≠ '<' && c ≠ '>'

/-- Reads an escape. -/
def readEscape : Reading Atom := do
  let start ← here
  move
  match ← next? with
  | none => refuse .escapeUnfinished (← spanFrom start)
  | some c =>
    if c.isDigit then
      refuse .backreference ⟨start, (← charSpan).stop⟩
    else if c = 'x' || c = 'u' || c = 'U' then
      return .literal (← readHex start c)
    else if c = 'p' || c = 'P' then
      readProperty start
    else
      move
      let span ← spanFrom start
      if c = 'b' then
        let edge ← readWordEdge start
        return .assertion (← spanFrom start) (.word edge)
      else match Shorthand.ofLetter? c, Assertion.ofLetter? c, controlOf? c with
        | some (negated, s), _, _ => return .shorthand span negated s
        | _, some a, _ => return .assertion span a
        | _, _, some control => return .literal { span, char := control }
        | _, _, _ =>
          if isSign c then return .literal { span, char := c }
          else refuse .escapeUnknown span

/-- Reads a character that stands for itself. -/
def readVerbatim (c : Char) : Reading Literal := do
  let span ← charSpan
  move
  return { span, char := c }

/-- Reads an atom outside brackets, whose first character is given. -/
def readAtom (c : Char) : Reading Atom := do
  let span ← charSpan
  if c = '\\' then readEscape
  else
    let l ← readVerbatim c
    if c = '.' then return .anyChar span
    else if c = '^' then return .assertion span .lineStart
    else if c = '$' then return .assertion span .lineStop
    else return .literal l

end EchoInjector.Pattern
