import EchoInjector.Pattern.Escape

/-!
# Bracketed classes

A bracketed class lists characters, ranges of characters and classes, among them brackets again
and, inside brackets only, the named classes such as `[:alpha:]`. A circumflex behind the opening
bracket negates the class. Hyphens at the start stand for themselves, and so does a closing
bracket in the first place, because no class is empty.

Two rows may be joined by a doubled sign for a set operation; several are taken from the left.

Brackets are read with a list of those that are open, the innermost first. If the pattern ends, the
innermost is the one to complain about.
-/

namespace EchoInjector.Pattern

open Text Reading

/-- A row inside brackets as far as it was read, its last item first. -/
structure Row where
  span : Span
  items : List ClassTree := []

namespace Row

/-- Adds an item to a row. -/
def add (r : Row) (t : ClassTree) : Row :=
  { span := ⟨if r.items.isEmpty then t.span.start else r.span.start, t.span.stop⟩
    items := t :: r.items }

/-- The row as a whole. -/
def tree (r : Row) : ClassTree :=
  match r.items with
  | [] => .nothing r.span
  | [t] => t
  | _ => .row r.span r.items.reverse

end Row

/-- A bracket that is open. -/
structure OpenBracket where
  /-- The row in which the bracket stands. -/
  around : Row
  /-- What was read to open it. -/
  span : Span
  negated : Bool
  /-- What stands before the last operation inside it, if there is one. -/
  left? : Option (ClassTree × SetOperation) := none

/-- A bracketed class that was read. -/
structure Bracketed where
  span : Span
  negated : Bool
  body : ClassTree

/-- A bracketed class as an item of a row. -/
def Bracketed.item (b : Bracketed) : ClassTree := .bracket b.span b.negated b.body

/-- What was read inside a bracket, with a row that has just ended. -/
def OpenBracket.body (b : OpenBracket) (row : Row) : ClassTree :=
  match b.left? with
  | none => row.tree
  | some (left, o) => .operation ⟨left.span.start, row.tree.span.stop⟩ o left row.tree

/-- Reads hyphens that stand for themselves, at most a number of them. -/
def readHyphens (start : Place) : Nat → Row → Reading Row
  | 0, row => return row
  | n + 1, row => do
    match ← next? with
    | some '-' =>
      let span ← charSpan
      advance
      if (← next?).isNone then refuse .classUnclosed (Span.ofPlace start)
      readHyphens start n (row.add (.literal { span, char := '-' }))
    | _ => return row

/-- Reads what opens a bracket, up to the items that stand for themselves at its start. -/
def readBracketStart (around : Row) : Reading (OpenBracket × Row) := do
  let start ← here
  let advanceInside := do
    advance
    if (← next?).isNone then refuse .classUnclosed (← spanFrom start)
  advanceInside
  let negated := (← next?) = some '^'
  if negated then advanceInside
  let row ← readHyphens start (← get).bound { span := Span.ofPlace (← here) }
  if row.items.isEmpty && (← next?) = some ']' then
    let span ← charSpan
    advanceInside
    return ({ around, span := ← spanFrom start, negated },
      row.add (.literal { span, char := ']' }))
  else
    return ({ around, span := ← spanFrom start, negated }, row)

/-- Reads a named class, if there is one. Otherwise the cursor stays. -/
def readNamed? : Reading (Option ClassTree) := do
  let start ← here
  match (← get).rest with
  | '[' :: ':' :: inner =>
    let negated := inner.head? = some '^'
    let name := (if negated then inner.drop 1 else inner).takeWhile (· ≠ ':')
    let length := name.length + (if negated then 1 else 0)
    match NamedClass.ofName? name with
    | some c =>
      if [':', ']'].isPrefixOf (inner.drop length) then
        moveBy (length + 4)
        return some (.named (← spanFrom start) negated c)
      else return none
    | none => return none
  | _ => return none

/-- An atom as an item of a row. -/
def Atom.item : Atom → Reading ClassTree
  | literal l => return .literal l
  | shorthand span negated s => return .shorthand span negated s
  | property span name => return .property span name
  | anyChar span | assertion span _ => refuse .classEscape span

/-- An atom as an end of a range. -/
def Atom.rangeEnd : Atom → Reading Literal
  | literal l => return l
  | a => refuse .classRangeEnd a.span

/-- Reads an escape or a single character. -/
def readItemAtom (c : Char) : Reading Atom := do
  if c = '\\' then readEscape else return .literal (← readVerbatim c)

/-- Reads an item or a range of characters, given the first character, inside a bracket with the
given opening. -/
def readItem (opening : Span) (c : Char) : Reading ClassTree := do
  let first ← readItemAtom c
  skip
  match ← next? with
  | none => refuse .classUnclosed opening
  | some d =>
    let behind := (← get).following?
    if d ≠ '-' || behind = some ']' || behind = some '-' then first.item
    else
      advance
      match ← next? with
      | none => refuse .classUnclosed opening
      | some e =>
        let last ← readItemAtom e
        let l ← first.rangeEnd
        let r ← last.rangeEnd
        let span : Span := ⟨first.span.start, last.span.stop⟩
        if r.char < l.char then refuse .classRange span
        else return .range span l r

/-- Reads on inside a bracket, with those around it, until the outermost is closed. Each item takes
at least one character, so their number is limited. -/
def readRow : Nat → List OpenBracket → OpenBracket → Row → Reading Bracketed
  | 0, _, inner, _ => refuse .classUnclosed inner.span
  | n + 1, outer, inner, row => do
    skip
    match ← next? with
    | none => refuse .classUnclosed inner.span
    | some '[' =>
      match ← readNamed? with
      | some t => readRow n outer inner (row.add t)
      | none =>
        let (opened, fresh) ← readBracketStart row
        readRow n (inner :: outer) opened fresh
    | some ']' =>
      move
      let closed : Bracketed :=
        { span := ← spanFrom inner.span.start, negated := inner.negated, body := inner.body row }
      match outer with
      | [] => return closed
      | next :: rest => readRow n rest next (inner.around.add closed.item)
    | some c =>
      let doubled := (← get).rest[1]? = some c
      match if doubled then SetOperation.ofSign? c else none with
      | some o =>
        moveBy 2
        let fresh : Row := { span := Span.ofPlace (← here) }
        readRow n outer { inner with left? := some (inner.body row, o) } fresh
      | none => readRow n outer inner (row.add (← readItem inner.span c))

/-- Reads a bracketed class from its opening bracket on. -/
def readBracket : Reading Bracketed := do
  let (opened, row) ← readBracketStart { span := Span.ofPlace (← here) }
  readRow ((← get).bound + 1) [] opened row

end EchoInjector.Pattern
