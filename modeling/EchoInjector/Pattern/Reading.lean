import EchoInjector.Pattern.Bracket
import EchoInjector.Text.Letter

/-!
# Reading a pattern

A pattern is a choice of branches with bars between them, and each branch is a sequence of atoms,
bracketed classes and groups. What stands before a star, a plus, a question mark or counts in
braces is repeated; a question mark behind these makes no difference to what matches.

A group is opened by a parenthesis. Behind a question mark it may have a name, or flags for its
parts; flags alone hold for the rest of the group that they stand in. Groups that look at what
stands around are refused.

Groups are read with a list of those that are open, the innermost first, each with what was read
before it. When reading is done, the depth of the whole is checked.
-/

namespace EchoInjector.Pattern

open Text Reading

/-- A branch as far as it was read, its last part first. -/
structure Branch where
  start : Place
  parts : List Tree := []

/-- A branch that stops at a place. -/
def Branch.tree (b : Branch) (stop : Place) : Tree :=
  match b.parts with
  | [] => .nothing ⟨b.start, stop⟩
  | [t] => t
  | _ => .sequence ⟨b.start, stop⟩ b.parts.reverse

/-- What was read inside a group or outside all groups: branches that have ended, the last one
first, and the one that goes on. -/
structure Level where
  start : Place
  ended : List Tree := []
  branch : Branch := { start }

namespace Level

/-- Adds a part to the branch that goes on. -/
def add (l : Level) (t : Tree) : Level :=
  { l with branch := { l.branch with parts := t :: l.branch.parts } }

/-- Ends the branch at a place, and starts another one behind it. -/
def split (l : Level) (stop next : Place) : Level :=
  { l with ended := l.branch.tree stop :: l.ended, branch := { start := next } }

/-- All that was read, up to a place. -/
def tree (l : Level) (stop : Place) : Tree :=
  match l.ended with
  | [] => l.branch.tree stop
  | _ => .alternatives ⟨l.start, stop⟩ ((l.branch.tree stop :: l.ended).reverse)

/-- The last part, if it can be repeated, and what was read before it. -/
def last? (l : Level) : Option (Tree × Level) :=
  match l.branch.parts with
  | [] | .nothing _ :: _ | .switches .. :: _ => none
  | t :: rest => some (t, { l with branch := { l.branch with parts := rest } })

end Level

/-- A group that is open. -/
structure OpenGroup where
  /-- What was read before the group. -/
  before : Level
  /-- The span of the opening parenthesis. -/
  opening : Span
  kind : GroupKind
  /-- Whether blanks mean nothing around the group. -/
  spaced : Bool

/-! ### Flags and names -/

/-- The setting of a flag, if it is among some switches. -/
def Switches.value? (s : Switches) (f : Flag) : Option Bool := s.lookup f

/-- Reads flags up to a colon or a closing parenthesis, where `taken` has those before, each with
its span, and `off?` the span of the sign that switches flags off, if it was met. The last argument
tells whether this sign came last. -/
def readFlags : Nat → List ((Flag × Bool) × Span) → Option Span → Bool → Reading Switches
  | 0, taken, _, _ => return taken.reverse.map (·.1)
  | n + 1, taken, off?, dangling => do
    match ← next? with
    | none => refuseHere .flagsUnfinished
    | some c =>
      if c = ':' || c = ')' then
        match off?, dangling with
        | some sign, true => refuse .flagsDangling sign
        | _, _ => return taken.reverse.map (·.1)
      else
        let span ← charSpan
        if c = '-' then
          match off? with
          | some earlier => throw { fault := .flagsOffTwice, span, other? := some earlier }
          | none =>
            move
            readFlags n taken (some span) true
        else match Flag.ofLetter? c with
          | none => refuse .flagUnknown span
          | some f =>
            match taken.find? (·.1.1 = f) with
            | some (_, earlier) => throw { fault := .flagTwice, span, other? := some earlier }
            | none =>
              move
              readFlags n (((f, off?.isNone), span) :: taken) off? false

/-- Whether a character can stand in the name of a group. -/
def isNameChar (first : Bool) (c : Char) : Bool :=
  if first then c = '_' || isLetter c
  else c = '_' || c = '.' || c = '[' || c = ']' || isLetterOrNumber c

/-- Reads the name of a group up to the angle that closes it, where `taken` has the characters
before, the last one first. -/
def readNameChars : Nat → List Char → Reading (List Char)
  | 0, taken => return taken.reverse
  | n + 1, taken => do
    match ← next? with
    | none => refuseHere .nameUnfinished
    | some c =>
      if c = '>' then return taken.reverse
      else if isNameChar taken.isEmpty c then
        move
        readNameChars n (c :: taken)
      else refuse .nameInvalid (← charSpan)

/-- Reads the name of a group and remembers it. -/
def readName : Reading Unit := do
  let start ← here
  let name ← readNameChars ((← get).bound + 1) []
  let span ← spanFrom start
  move
  if name = [] then refuse .nameEmpty (Span.ofPlace start)
  match (← get).names.lookup name with
  | some earlier => throw { fault := .nameTwice, span, other? := some earlier }
  | none => modify fun c => { c with names := (name, span) :: c.names }

/-! ### Groups -/

/-- What a parenthesis can open. -/
inductive Opening
  /-- Flags that hold from here on. -/
  | switches (span : Span) (s : Switches)
  | group (opening : Span) (kind : GroupKind)

/-- Reads what stands behind a question mark that stands behind a parenthesis. -/
def readMarkedOpening (opening : Span) (mark : Place) : Reading Opening := do
  if (← next?).isNone then refuse .groupUnclosed opening
  let s ← readFlags ((← get).bound + 1) [] none false
  let closing ← next?
  move
  if closing = some ')' then
    if s = [] then refuse .nothingToRepeat (Span.ofPlace mark)
    return .switches (← spanFrom opening.start) s
  else
    return .group opening (.plain s)

/-- Reads what opens a group, or flags that stand alone. -/
def readOpening : Reading Opening := do
  let opening ← charSpan
  advance
  for sign in [['?', '='], ['?', '!'], ['?', '<', '='], ['?', '<', '!']] do
    if ← accept sign then refuse .lookAround (← spanFrom opening.start)
  let mark ← here
  if (← accept ['?', 'P', '<']) || (← accept ['?', '<']) then
    readName
    return .group opening .capturing
  else if ← accept ['?'] then readMarkedOpening opening mark
  else return .group opening .capturing

/-- Lets blanks mean something or nothing from here on, if some switches say so. -/
def applySpacing (s : Switches) : Reading Unit :=
  modify fun c => { c with spaced := (s.value? .spaced).getD c.spaced }

/-! ### Repetitions -/

/-- The greatest count of a repetition. -/
def maxCount : Nat := UInt32.size - 1

/-- Moves over blanks. -/
def moveOverBlanks : Reading Unit := do
  moveBy ((← get).rest.takeWhile isBlank).length

/-- Reads a count, with blanks around it. What is wrong with it is for the caller to tell. -/
def readCount : Reading (Except Complaint Nat) := do
  moveOverBlanks
  let start ← here
  let digits ← takeAll Char.isDigit
  let span ← spanFrom start
  let _ ← takeAll isBlank
  if digits = [] then return .error { fault := .countMissing, span }
  match readUnsigned 10 maxCount digits with
  | .ok n => return .ok n
  | .error _ => return .error { fault := .countTooLarge, span }

/-- Reads counts in braces from the opening brace on: the least count and, if there is one, the
greatest. -/
def readCounts : Reading (Nat × Option Nat) := do
  let start ← here
  let unclosed {α : Type} : Reading α := do refuse .countUnclosed (← spanFrom start)
  advance
  if (← next?).isNone then unclosed
  let least ← readCount
  let counts ← match ← next? with
    | none => unclosed
    | some ',' =>
      advance
      match ← next? with
      | none => unclosed
      | some '}' => pure (← liftExcept least, none)
      | some _ =>
        let l ← liftExcept least
        let most ← liftExcept (← readCount)
        pure (l, some most)
    | some _ =>
      let l ← liftExcept least
      pure (l, some l)
  if (← next?) ≠ some '}' then unclosed
  advance
  return counts
where
  /-- Complains if there is something to complain about. -/
  liftExcept {α : Type} : Except Complaint α → Reading α
    | .ok a => return a
    | .error e => throw e

/-- Moves over a question mark. -/
def moveOverMark : Reading Unit := do
  if (← next?) = some '?' then move

/-- Reads what repeats the last part of a level, from the sign on. -/
def readRepetition (sign : Char) (l : Level) : Reading Level := do
  let start ← here
  match l.last? with
  | none => refuseHere .nothingToRepeat
  | some (body, before) =>
    let (least, most) ← match sign with
      | '?' => do move; pure (0, some 1)
      | '*' => do move; pure (0, none)
      | '+' => do move; pure (1, none)
      | _ => readCounts
    moveOverMark
    let stop ← here
    if most.any (· < least) then refuse .countOrder ⟨start, stop⟩
    return before.add (.repetition ⟨body.span.start, stop⟩ least most body)

/-! ### The whole -/

/-- Reads on at a level, with the groups that are open around it, up to the end of the pattern. Each
part takes at least one character, so their number is limited. -/
def readParts : Nat → List OpenGroup → Level → Reading Tree
  | 0, _, level => return level.tree (← here)
  | n + 1, outer, level => do
    skip
    match ← next? with
    | none =>
      match outer with
      | [] => return level.tree (← here)
      | inner :: _ => refuse .groupUnclosed inner.opening
    | some '(' =>
      match ← readOpening with
      | .switches span s =>
        applySpacing s
        readParts n outer (level.add (.switches span s))
      | .group opening kind =>
        let spaced := (← get).spaced
        match kind with
        | .plain s => applySpacing s
        | .capturing => pure ()
        readParts n ({ before := level, opening, kind, spaced } :: outer) { start := ← here }
    | some ')' =>
      match outer with
      | [] => refuse .groupUnopened (← charSpan)
      | inner :: rest =>
        let body := level.tree (← here)
        modify fun c => { c with spaced := inner.spaced }
        move
        let span ← spanFrom inner.opening.start
        readParts n rest (inner.before.add (.group span inner.kind body))
    | some '|' =>
      let stop ← here
      move
      readParts n outer (level.split stop (← here))
    | some '[' =>
      let b ← readBracket
      readParts n outer (level.add (.bracket b.span b.negated b.body))
    | some c =>
      if c = '?' || c = '*' || c = '+' || c = '{' then
        readParts n outer (← readRepetition c level)
      else
        readParts n outer (level.add (.atom (← readAtom c)))

/-- Reads a pattern. -/
def Tree.read (pattern : List Char) : Except Complaint Tree := do
  let start : Place := {}
  let (tree, _) ← (readParts (pattern.length + 1) [] { start }).run { rest := pattern }
  match tree.tooDeep? maxDepth with
  | some span => throw { fault := .tooDeep, span }
  | none => return tree

end EchoInjector.Pattern
