import EchoInjector.Pattern.Complaint

/-!
# The form of a pattern

A pattern that was read is a tree. Its leaves are **atoms**: characters, the sign for any
character, assertions about a place, and classes with a name. Its branches are bracketed classes,
repetitions, groups, alternatives and sequences. Every part knows the span that it was read from.

Inside brackets there is a tree of its own kind: ranges and nested brackets in a row, or two such
rows joined by a set operation.

A pattern may be nested only to a certain depth, which `Tree.tooDeep?` counts: each bracket, each
repetition, each group, each choice of alternatives and each sequence of several parts is one level.
-/

namespace EchoInjector.Pattern

/-- What can be switched on and off inside a pattern. -/
inductive Flag
  /-- The two cases of a letter are the same. -/
  | caseless
  /-- The signs for start and end speak about lines. -/
  | multiline
  /-- Any character may be a line end. -/
  | dotAll
  /-- Repetitions take little. This has no bearing on whether a text matches. -/
  | sparing
  /-- Classes speak about the characters of all scripts. -/
  | unicode
  /-- A return is a line end, too. -/
  | returns
  /-- Blanks in the pattern mean nothing. -/
  | spaced
  deriving DecidableEq, Repr

/-- The flag of a letter. -/
def Flag.ofLetter? : Char → Option Flag
  | 'i' => some caseless
  | 'm' => some multiline
  | 's' => some dotAll
  | 'U' => some sparing
  | 'u' => some unicode
  | 'R' => some returns
  | 'x' => some spaced
  | _ => none

/-- Flags with what they are switched to. -/
abbrev Switches := List (Flag × Bool)

/-- A character of a pattern that stands for itself. -/
structure Literal where
  span : Span
  char : Char
  /-- Whether it was given by two hexadecimal digits, and so could be meant as an octet. -/
  isOctet : Bool := false
  deriving DecidableEq, Repr

/-- A kind of word boundary. -/
inductive WordEdge
  /-- The start or the end of a word. -/
  | boundary
  /-- Neither the start nor the end of a word. -/
  | inside
  | start
  | stop
  /-- No word before the place. -/
  | halfStart
  /-- No word behind the place. -/
  | halfStop
  deriving DecidableEq, Repr

/-- What can be asserted of a place. -/
inductive Assertion
  | lineStart
  | lineStop
  | textStart
  | textStop
  | word (edge : WordEdge)
  deriving DecidableEq, Repr

/-- A class that a letter stands for. -/
inductive Shorthand
  | digit
  | space
  | word
  deriving DecidableEq, Repr

/-- A class of ASCII that has a name inside brackets. -/
inductive NamedClass
  | alnum
  | alpha
  | ascii
  | blank
  | cntrl
  | digit
  | graph
  | lower
  | print
  | punct
  | space
  | upper
  | word
  | xdigit
  deriving DecidableEq, Repr

/-- The named class of a name. -/
def NamedClass.ofName? (name : List Char) : Option NamedClass :=
  match String.ofList name with
  | "alnum" => some alnum
  | "alpha" => some alpha
  | "ascii" => some ascii
  | "blank" => some blank
  | "cntrl" => some cntrl
  | "digit" => some digit
  | "graph" => some graph
  | "lower" => some lower
  | "print" => some print
  | "punct" => some punct
  | "space" => some space
  | "upper" => some upper
  | "word" => some word
  | "xdigit" => some xdigit
  | _ => none

/-- A part of a pattern that has no parts. -/
inductive Atom
  | literal (l : Literal)
  | anyChar (span : Span)
  | assertion (span : Span) (a : Assertion)
  | shorthand (span : Span) (negated : Bool) (s : Shorthand)
  | property (span : Span) (name : List Char)
  deriving DecidableEq, Repr

/-- The span of an atom. -/
def Atom.span : Atom → Span
  | literal l => l.span
  | anyChar s | assertion s _ | shorthand s _ _ | property s _ => s

/-- What joins two rows inside brackets. -/
inductive SetOperation
  | intersection
  | difference
  | symmetricDifference
  deriving DecidableEq, Repr

/-- The operation of a sign, which is written twice. -/
def SetOperation.ofSign? : Char → Option SetOperation
  | '&' => some intersection
  | '-' => some difference
  | '~' => some symmetricDifference
  | _ => none

/-- What stands inside brackets. -/
inductive ClassTree
  | nothing (span : Span)
  | literal (l : Literal)
  | range (span : Span) (first last : Literal)
  | named (span : Span) (negated : Bool) (c : NamedClass)
  | shorthand (span : Span) (negated : Bool) (s : Shorthand)
  | property (span : Span) (name : List Char)
  | bracket (span : Span) (negated : Bool) (body : ClassTree)
  | row (span : Span) (items : List ClassTree)
  | operation (span : Span) (o : SetOperation) (left right : ClassTree)

/-- The span of what stands inside brackets. -/
def ClassTree.span : ClassTree → Span
  | literal l => l.span
  | nothing s | range s _ _ | named s _ _ | shorthand s _ _ | property s _ | bracket s _ _
  | row s _ | operation s _ _ _ => s

/-- A kind of group. -/
inductive GroupKind
  /-- A group that can be referred to. -/
  | capturing
  /-- A group that only sets flags for its parts. -/
  | plain (switches : Switches)
  deriving DecidableEq, Repr

/-- A pattern. -/
inductive Tree
  | nothing (span : Span)
  | switches (span : Span) (s : Switches)
  | atom (a : Atom)
  | bracket (span : Span) (negated : Bool) (body : ClassTree)
  | repetition (span : Span) (least : Nat) (most : Option Nat) (body : Tree)
  | group (span : Span) (kind : GroupKind) (body : Tree)
  | alternatives (span : Span) (branches : List Tree)
  | sequence (span : Span) (parts : List Tree)

/-- The span of a pattern. -/
def Tree.span : Tree → Span
  | atom a => a.span
  | nothing s | switches s _ | bracket s _ _ | repetition s _ _ _ | group s _ _
  | alternatives s _ | sequence s _ => s

/-! ### Depth -/

mutual

/-- The first part inside brackets for which there is no room any more. -/
def ClassTree.tooDeep? (room : Nat) : ClassTree → Option Span
  | .bracket span _ body => if room = 0 then some span else body.tooDeep? (room - 1)
  | .row span items => if room = 0 then some span else ClassTree.anyTooDeep? (room - 1) items
  | .operation span _ left right =>
    if room = 0 then some span
    else match left.tooDeep? (room - 1) with
      | some s => some s
      | none => right.tooDeep? (room - 1)
  | _ => none

/-- The first part of a row for which there is no room any more. -/
def ClassTree.anyTooDeep? (room : Nat) : List ClassTree → Option Span
  | [] => none
  | t :: rest =>
    match t.tooDeep? room with
    | some s => some s
    | none => ClassTree.anyTooDeep? room rest

end

mutual

/-- The first part of a pattern for which there is no room any more. -/
def Tree.tooDeep? (room : Nat) : Tree → Option Span
  | .bracket span _ body => if room = 0 then some span else body.tooDeep? (room - 1)
  | .repetition span _ _ body | .group span _ body =>
    if room = 0 then some span else body.tooDeep? (room - 1)
  | .alternatives span parts | .sequence span parts =>
    if room = 0 then some span else Tree.anyTooDeep? (room - 1) parts
  | _ => none

/-- The first part of several for which there is no room any more. -/
def Tree.anyTooDeep? (room : Nat) : List Tree → Option Span
  | [] => none
  | t :: rest =>
    match t.tooDeep? room with
    | some s => some s
    | none => Tree.anyTooDeep? room rest

end

end EchoInjector.Pattern
