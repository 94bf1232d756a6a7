import EchoInjector.Pattern.Expr

/-!
# The meaning of a pattern

A tree is turned into an expression from left to right, while **modes** tell how its parts are to
be understood. Flags change the modes up to the end of the group that they stand in.

By default a pattern speaks about characters of all scripts. For these neither the cases of letters
nor shorthand classes nor properties are known, so a part that needs them is refused. In the other
mode only the characters of ASCII have cases and classes, and what could match half of a character
is refused.
-/

namespace EchoInjector.Pattern

/-- How the parts of a pattern are to be understood. -/
structure Modes where
  caseless : Bool := false
  multiline : Bool := false
  dotAll : Bool := false
  returns : Bool := false
  unicode : Bool := true
  deriving DecidableEq, Repr

/-- The modes after a switch. -/
def Modes.switch (m : Modes) : Flag × Bool → Modes
  | (.caseless, on) => { m with caseless := on }
  | (.multiline, on) => { m with multiline := on }
  | (.dotAll, on) => { m with dotAll := on }
  | (.returns, on) => { m with returns := on }
  | (.unicode, on) => { m with unicode := on }
  | (.sparing, _) | (.spaced, _) => m

/-- The modes after several switches. -/
def Modes.apply (m : Modes) (s : Switches) : Modes := s.foldl Modes.switch m

/-- A complaint about a span, in place of a value. -/
def complain {α : Type} (f : Fault) (s : Span) : Except Complaint α :=
  .error { fault := f, span := s }

/-! ### Sets -/

/-- The characters of a named class. -/
def NamedClass.ranges : NamedClass → List (Char × Char)
  | alnum => [('0', '9'), ('A', 'Z'), ('a', 'z')]
  | alpha => [('A', 'Z'), ('a', 'z')]
  | ascii => [('\x00', '\x7f')]
  | blank => [('\t', '\t'), (' ', ' ')]
  | cntrl => [('\x00', '\x1f'), ('\x7f', '\x7f')]
  | digit => [('0', '9')]
  | graph => [('!', '~')]
  | lower => [('a', 'z')]
  | print => [(' ', '~')]
  | punct => [('!', '/'), (':', '@'), ('[', '\x60'), ('\x7b', '~')]
  | space => [('\t', '\r'), (' ', ' ')]
  | upper => [('A', 'Z')]
  | word => [('0', '9'), ('A', 'Z'), ('_', '_'), ('a', 'z')]
  | xdigit => [('0', '9'), ('A', 'F'), ('a', 'f')]

/-- The set of a named class. -/
def NamedClass.set (c : NamedClass) : CharSet :=
  c.ranges.foldl (fun s r => s.union (.ofRange r.1.toNat r.2.toNat)) .empty

/-- The named class that a shorthand stands for in ASCII. -/
def Shorthand.named : Shorthand → NamedClass
  | digit => .digit
  | space => .space
  | word => .word

namespace Modes

/-- Closes a set under cases if they do not matter. In a pattern about all scripts this can be done
only to a set that is known to be closed. -/
def fold (m : Modes) (span : Span) (s : CharSet) : Except Complaint CharSet :=
  if !m.caseless then .ok s
  else if !m.unicode then .ok s.foldAscii
  else if s.folded || s.isEmpty then .ok s
  else complain .caseUnknown span

/-- A set, or what does not belong to it. -/
def negate (m : Modes) (span : Span) (negated : Bool) (s : CharSet) : Except Complaint CharSet :=
  let s := if negated then s.complement else s
  if m.unicode || s.isAscii then .ok s else complain .halfCharacter span

/-- A set as brackets make it. -/
def bracketed (m : Modes) (span : Span) (negated : Bool) (s : CharSet) :
    Except Complaint CharSet := do
  m.negate span negated (← m.fold span s)

/-- The set of a shorthand class. -/
def shorthand (m : Modes) (span : Span) (negated : Bool) (s : Shorthand) :
    Except Complaint CharSet :=
  if m.unicode then complain .shorthandUnknown span
  else m.negate span negated s.named.set

/-- A literal, if it is not half of a character. -/
def checked (m : Modes) (l : Literal) : Except Complaint Char :=
  if !m.unicode && l.isOctet && 128 ≤ l.char.toNat then complain .halfCharacter l.span
  else .ok l.char

/-- A literal inside brackets. -/
def member (m : Modes) (l : Literal) : Except Complaint Char := do
  let c ← m.checked l
  if !m.unicode && 128 ≤ c.toNat then complain .notAllowed l.span else .ok c

end Modes

/-- The name of a property without what makes no difference: a leading `is`, blanks, low lines and
hyphens, the cases of letters, and everything outside ASCII. -/
def plainPropertyName (name : List Char) : List Char :=
  let named := match name with
    | i :: s :: rest => if i.toLower = 'i' && s.toLower = 's' then rest else name
    | _ => name
  (named.filter fun c => c ≠ ' ' && c ≠ '_' && c ≠ '-' && c.toNat < 128).map Char.toLower

/-- Why a property cannot be used. None is known; three names are those of values. -/
def Modes.propertyFault (m : Modes) (name : List Char) : Fault :=
  if !m.unicode then .notAllowed
  else if plainPropertyName name ∈ [['c', 'f'], ['s', 'c'], ['l', 'c']] then .propertyValueUnknown
  else .propertyUnknown

/-- The set that an operation makes of two. -/
def SetOperation.apply : SetOperation → CharSet → CharSet → CharSet
  | intersection => CharSet.intersection
  | difference => CharSet.difference
  | symmetricDifference => CharSet.symmetricDifference

mutual

/-- Adds what stands inside brackets to a set. -/
def ClassTree.addTo (m : Modes) (s : CharSet) : ClassTree → Except Complaint CharSet
  | .nothing _ => .ok s
  | .literal l => return s.union (.singleton (← m.member l))
  | .range _ first last => do
    let a ← m.member first
    let b ← m.member last
    return s.union (.ofRange a.toNat b.toNat)
  | .named span negated c => return s.union (← m.bracketed span negated c.set)
  | .shorthand span negated c => return s.union (← m.shorthand span negated c)
  | .property span name => complain (m.propertyFault name) span
  | .bracket span negated body => do
    return s.union (← m.bracketed span negated (← body.addTo m .empty))
  | .row _ items => ClassTree.addAllTo m s items
  | .operation _ o left right => do
    let l ← left.addTo m .empty
    let r ← right.addTo m .empty
    let r ← m.fold right.span r
    let l ← m.fold left.span l
    return s.union (o.apply l r)

/-- Adds the items of a row to a set. -/
def ClassTree.addAllTo (m : Modes) (s : CharSet) : List ClassTree → Except Complaint CharSet
  | [] => .ok s
  | t :: rest => do ClassTree.addAllTo m (← t.addTo m s) rest

end

/-! ### Expressions -/

/-- The characters that the sign for any character stands for. -/
def Modes.anyChar (m : Modes) : CharSet :=
  if m.dotAll then .all
  else if m.returns then CharSet.all.difference ((CharSet.singleton '\n').union (.singleton '\r'))
  else CharSet.all.difference (.singleton '\n')

/-- What an assertion says about a place. -/
def Modes.look (m : Modes) : Assertion → Look
  | .lineStart =>
    if m.multiline then (if m.returns then .lineStartReturns else .lineStart) else .textStart
  | .lineStop =>
    if m.multiline then (if m.returns then .lineStopReturns else .lineStop) else .textStop
  | .textStart => .textStart
  | .textStop => .textStop
  | .word edge => .word m.unicode edge

/-- The meaning of an atom. -/
def Atom.expr (m : Modes) : Atom → Except Complaint (Expr CharSet Look)
  | literal l => do
    let c ← m.checked l
    return .step (← m.fold l.span (.singleton c))
  | anyChar span => if m.unicode then .ok (.step m.anyChar) else complain .halfCharacter span
  | assertion _ a => .ok (.look (m.look a))
  | shorthand span negated s => return .step (← m.shorthand span negated s)
  | property span name => complain (m.propertyFault name) span

mutual

/-- The meaning of a pattern in some modes, and the modes behind it. -/
def Tree.expr (m : Modes) : Tree → Except Complaint (Expr CharSet Look × Modes)
  | .nothing _ => .ok (.empty, m)
  | .switches _ s => .ok (.empty, m.apply s)
  | .atom a => return (← a.expr m, m)
  | .bracket span negated body => do
    return (.step (← m.bracketed span negated (← body.addTo m .empty)), m)
  | .repetition _ least most body => do
    let (e, m) ← body.expr m
    return (.repeated least most e, m)
  | .group _ kind body => do
    let (e, _) ← body.expr (match kind with
      | .capturing => m
      | .plain s => m.apply s)
    return (match kind with
      | .capturing => .group e
      | .plain _ => e, m)
  | .alternatives _ branches => do
    let (es, m) ← Tree.exprs m branches
    return (.oneOf es, m)
  | .sequence _ parts => do
    let (es, m) ← Tree.exprs m parts
    return (.inSequence es, m)

/-- The meanings of several patterns, one behind the other, and the modes behind them. -/
def Tree.exprs (m : Modes) : List Tree → Except Complaint (List (Expr CharSet Look) × Modes)
  | [] => .ok ([], m)
  | t :: rest => do
    let (e, m) ← t.expr m
    let (es, m) ← Tree.exprs m rest
    return (e :: es, m)

end

end EchoInjector.Pattern
