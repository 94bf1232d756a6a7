import EchoInjector.Pattern.Expr

/-!
# The size of an expression

An expression can be turned into an automaton that reads octets, and an expression whose automaton
would take too much memory is refused. The size is counted as if the automaton were built: each
state has a fixed size, and the transitions and the alternatives of a state are counted apart.

Two automata are counted, one for each **direction** of reading. They differ in how they share
states for the encodings of a set of characters, and in that only the one that reads forward keeps
states for groups.
-/

namespace EchoInjector.Pattern

/-- A direction of reading. -/
inductive Direction
  | forward
  | backward
  deriving DecidableEq, Repr

/-- The octets of a state, without its transitions and alternatives. -/
def stateSize : Nat := 32

/-- The octets of a transition. -/
def transitionSize : Nat := 8

/-- The octets of an alternative. -/
def alternativeSize : Nat := 4

/-- The octets that an automaton may take. -/
def maxSize : Nat := 10 <<< 20

/-! ### The encodings of a set -/

/-- The octets of a character of UTF-8. -/
def encoding (n : Nat) : List UInt8 := String.utf8EncodeChar (Char.ofNat n)

/-- Cuts a range at its code points that are multiples of a size, so that each piece lies within
one block of this size or consists of whole blocks. -/
def cutAt (size : Nat) (r : Nat × Nat) : List (Nat × Nat) :=
  let (first, last) := r
  if first / size = last / size then [r]
  else
    let start := (first + size - 1) / size * size
    let stop := (last + 1) / size * size
    (if first < start then [(first, start - 1)] else [])
      ++ (if start < stop then [(start, stop - 1)] else [])
      ++ (if stop ≤ last then [(stop, last)] else [])

/-- Cuts a range where the length of the encoding changes. -/
def cutByLength (r : Nat × Nat) : List (Nat × Nat) :=
  [(0, 0x7f), (0x80, 0x7ff), (0x800, 0xffff), (0x10000, 0x10ffff)].filterMap fun part =>
    let first := max r.1 part.1
    let last := min r.2 part.2
    if first ≤ last then some (first, last) else none

/-- The encodings of a set as sequences of ranges of octets. -/
def CharSet.encodings (s : CharSet) : List (List (UInt8 × UInt8)) :=
  s.ranges.flatMap cutByLength
    |>.flatMap (cutAt (1 <<< 6)) |>.flatMap (cutAt (1 <<< 12)) |>.flatMap (cutAt (1 <<< 18))
    |>.map fun r => (encoding r.1).zip (encoding r.2)

/-- The different ranges that some sequences begin with, in order. -/
def firstRanges (sequences : List (List (UInt8 × UInt8))) : List (UInt8 × UInt8) :=
  (sequences.filterMap List.head?).eraseReps

/-- The sequences that are left behind a range, for each range that some begin with, and so on. The
first argument limits the depth; no encoding is longer than four octets. -/
def remainders : Nat → List (List (UInt8 × UInt8)) → List (List (List (UInt8 × UInt8)))
  | 0, _ => []
  | n + 1, sequences =>
    if firstRanges sequences = [] then []
    else sequences :: (firstRanges sequences).flatMap fun r =>
      remainders n (sequences.filterMap fun
        | q :: rest => if q = r then some rest else none
        | [] => none)

/-- The size of a set read forward: equal remainders share a state. -/
def CharSet.forwardSize (s : CharSet) : Nat :=
  let states := (remainders 4 s.encodings).eraseDups
  stateSize * (states.length + 1)
    + transitionSize * states.foldl (fun n q => n + (firstRanges q).length) 0

/-- The size of a set read backward: equal beginnings share their states. -/
def CharSet.backwardSize (s : CharSet) : Nat :=
  let sequences := s.encodings
  let beginnings := sequences.flatMap fun q => (List.range q.length).map fun n => q.take (n + 1)
  stateSize * (beginnings.eraseDups.length + 2) + alternativeSize * sequences.length

/-- The size of a set. A single character is read octet by octet, and a set within ASCII has one
state for all its ranges. -/
def CharSet.size (d : Direction) (s : CharSet) : Nat :=
  match s.only? with
  | some c => stateSize * c.utf8Size
  | none =>
    if s.isAscii then stateSize * 2 + transitionSize * s.ranges.length
    else match d with
      | .forward => s.forwardSize
      | .backward => s.backwardSize

/-! ### The whole -/

/-- The size of a repetition, given the size of what is repeated and whether that always takes a
character. -/
def repetitionSize (least : Nat) (most : Option Nat) (body : Nat) (takesSomething : Bool) : Nat :=
  match least, most with
  | 0, none =>
    if takesSomething then body + stateSize + 2 * alternativeSize
    else body + 3 * stateSize + 4 * alternativeSize
  | 0, some 1 => body + 2 * stateSize + 2 * alternativeSize
  | n + 1, none => (n + 1) * body + stateSize + 2 * alternativeSize
  | n, some most =>
    (if n = 0 then stateSize else n * body)
      + (if most = n then 0
        else stateSize + (most - n) * (body + stateSize + 2 * alternativeSize))

namespace Expr

mutual

/-- The size of an expression in a direction. -/
def size (d : Direction) : Expr CharSet Look → Nat
  | empty | look _ => stateSize
  | step s => s.size d
  | group body => body.size d + (if d = .forward then 2 * stateSize else 0)
  | sequence parts => sizeOfAll d parts
  | choice branches =>
    sizeOfAll d branches + 2 * stateSize + alternativeSize * branches.length
  | repetition least most body => repetitionSize least most (body.size d) body.takesSomething

/-- The size of several expressions. -/
def sizeOfAll (d : Direction) : List (Expr CharSet Look) → Nat
  | [] => 0
  | e :: rest => e.size d + sizeOfAll d rest

end

/-- The size of the automaton: an expression, what skips the text before it, and its end. -/
def automatonSize (d : Direction) (e : Expr CharSet Look) : Nat :=
  e.size d + 4 * stateSize + 2 * alternativeSize + transitionSize
    + (if d = .forward then 2 * stateSize else 0)

/-- Whether the automaton of a direction takes too much memory. -/
def isTooLarge (d : Direction) (e : Expr CharSet Look) : Bool :=
  maxSize < e.automatonSize d

end Expr

end EchoInjector.Pattern
