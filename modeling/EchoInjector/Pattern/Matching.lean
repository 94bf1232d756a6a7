import EchoInjector.Pattern.Expr

/-!
# Finding matches

A text of `n` characters has `n + 1` places, before, between and behind its characters. A set of
places is kept as a number whose bit `i` says whether place `i` belongs to it.

An expression is first tied to a text: a step becomes the set of places in front of the characters
that it takes, and a look the set of places of which it is true. It then moves sets of places: from
the places where a match may start to those where it may stop (`Expr.stops`). The expression occurs
in the text if, from all places together, it can stop anywhere.

A text has so few places that nothing need be repeated more often than there are places: then the
set of places that are reached changes no more.
-/

namespace EchoInjector.Pattern

/-! ### Words and places -/

/-- Whether a character belongs to a word. -/
def isWordChar (c : Char) : Bool := c.isAlphanum || c = '_'

/-- Whether an edge of a word lies between what stands before and behind a place. -/
def WordEdge.holds (e : WordEdge) (before behind : Option Char) : Bool :=
  let wordBefore := before.any isWordChar
  let wordBehind := behind.any isWordChar
  match e with
  | boundary => wordBefore != wordBehind
  | inside => wordBefore == wordBehind
  | start => !wordBefore && wordBehind
  | stop => wordBefore && !wordBehind
  | halfStart => !wordBefore
  | halfStop => !wordBehind

/-- Whether a look is true of a place, given the characters before and behind it. Words are those
of ASCII. -/
def Look.holds (k : Look) (before behind : Option Char) : Bool :=
  match k with
  | textStart => before.isNone
  | textStop => behind.isNone
  | lineStart => before.all (· = '\n')
  | lineStop => behind.all (· = '\n')
  | lineStartReturns => before.all (· = '\n') || (before = some '\r' && behind ≠ some '\n')
  | lineStopReturns => behind.all (· = '\r') || (behind = some '\n' && before ≠ some '\r')
  | word _ edge => edge.holds before behind

/-- What stands before and behind each place of a text, from what stands before it. -/
def surroundings (before : Option Char) : List Char → List (Option Char × Option Char)
  | [] => [(before, none)]
  | c :: rest => (before, some c) :: surroundings (some c) rest

/-- The set of the positions in a short list at which something is true. -/
def positionsInBlock {α : Type} (p : α → Bool) : List α → Nat
  | [] => 0
  | x :: rest => 2 * positionsInBlock p rest + (p x).toNat

/-- The set of the positions in a list at which something is true. The list is taken in blocks, so
that most of the work is done on small numbers. -/
def positions {α : Type} (p : α → Bool) : List α → Nat
  | [] => 0
  | x :: rest =>
    positionsInBlock p ((x :: rest).take 32) + positions p (rest.drop 31) <<< 32
termination_by xs => xs.length
decreasing_by
  simp only [List.length_drop, List.length_cons]
  omega

/-- The places in front of the characters of a set. -/
def CharSet.places (text : List Char) (s : CharSet) : Nat := positions s.contains text

/-- The places of which a look is true. -/
def Look.places (text : List Char) (k : Look) : Nat :=
  positions (fun (before, behind) => k.holds before behind) (surroundings none text)

/-! ### Moving sets of places -/

/-- Applies a function a number of times, or until it changes nothing. -/
def iterate (f : Nat → Nat) : Nat → Nat → Nat
  | 0, set => set
  | n + 1, set => if f set = set then set else iterate f n (f set)

/-- Adds what a function reaches to a set a number of times, or until there is nothing to add. -/
def grow (f : Nat → Nat) : Nat → Nat → Nat
  | 0, set => set
  | n + 1, set => if set ||| f set = set then set else grow f n (set ||| f set)

/-- All places that are reached from a set by going on from places of `steps` to the next one. The
sum carries a bit from where it enters a run of steps to the end of the run. -/
def flood (steps set : Nat) : Nat :=
  (((set &&& steps) + steps) ^^^ steps) ||| set

namespace Expr

mutual

/-- The places where an expression may stop that starts in a set of places of a text with a number
of places. -/
def stops (count : Nat) : Expr Nat Nat → Nat → Nat
  | empty, set => set
  | step places, set => (set &&& places) <<< 1
  | look places, set => set &&& places
  | group body, set => body.stops count set
  | sequence parts, set => stopsOfAll count parts set
  | choice branches, set => stopsOfAny count branches set 0
  | repetition least most body, set =>
    let start := iterate (fun s => body.stops count s) (min least count) set
    match most, body with
    | none, step places => flood places start
    | none, _ => grow (fun s => body.stops count s) count start
    | some most, _ => grow (fun s => body.stops count s) (min (most - least) count) start

/-- The places where several expressions may stop, one behind the other. -/
def stopsOfAll (count : Nat) : List (Expr Nat Nat) → Nat → Nat
  | [], set => set
  | e :: rest, set => stopsOfAll count rest (e.stops count set)

/-- The places where one of several expressions may stop, and those that were found before. -/
def stopsOfAny (count : Nat) : List (Expr Nat Nat) → Nat → Nat → Nat
  | [], _, found => found
  | e :: rest, set, found => stopsOfAny count rest set (found ||| e.stops count set)

end

/-- Whether an expression occurs in a text. -/
def occursIn (e : Expr CharSet Look) (text : List Char) : Bool :=
  let count := text.length + 1
  (e.map (CharSet.places text) (Look.places text)).stops count (1 <<< count - 1) ≠ 0

end Expr

end EchoInjector.Pattern
