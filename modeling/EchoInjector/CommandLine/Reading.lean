import EchoInjector.CommandLine.Argument

/-!
# Reading a command line

A command line is a list of texts, and reading it turns the list into **events**: values for
settings, flags, and whatever cannot be read. Nothing is decided here about the values; an event
carries the text of a value as it was given.

A text is one of these, by its first characters:

* two hyphens alone end the arguments, and since the program takes nothing else, any text behind
  them is a surprise;
* two hyphens and a name, possibly with an equality sign and a value, give one argument;
* one hyphen and letters give several flags, the last letter possibly a setting whose value is
  the rest of the text, an equality sign before it left out;
* everything else, a lone hyphen included, is the value of the setting just before it, and a
  surprise where none waits for its value.

The value of a setting that was given separately belongs to it only when the next argument is
read, or the end is reached. A surprise therefore comes before anything that may be wrong with a
value just before it. Reading ends with the first surprise.
-/

namespace EchoInjector.CommandLine

/-- What reading a command line meets. -/
inductive Event
  /-- A setting with its value. -/
  | value (s : Setting) (text : String)
  /-- A setting whose value is missing. -/
  | missing (s : Setting)
  /-- A flag. -/
  | flag (f : Flag)
  /-- A flag with a value that it does not take. -/
  | surplus (f : Flag) (text : String)
  /-- A text that no argument begins with. -/
  | unknown (text : String)
  deriving DecidableEq, Repr

/-- The form of a text on a command line. -/
inductive Shape
  /-- The end of the arguments. -/
  | terminator
  /-- A long name, possibly with a value. -/
  | long (name : String) (value? : Option String)
  /-- Letters. -/
  | cluster (letters : List Char)
  /-- Neither a name nor letters. -/
  | plain
  deriving DecidableEq, Repr

/-- The name before the first equality sign, and the value behind it if there is one. -/
def splitValue (s : List Char) : String × Option String :=
  (String.ofList (s.takeWhile (· ≠ '=')),
    match s.dropWhile (· ≠ '=') with
    | [] => none
    | _ :: value => some (String.ofList value))

/-- The form of a text. -/
def Shape.of : List Char → Shape
  | ['-', '-'] => .terminator
  | '-' :: '-' :: rest => .long (splitValue rest).1 (splitValue rest).2
  | '-' :: c :: rest => .cluster (c :: rest)
  | _ => .plain

/-- The setting that was read last, as far as its value is not settled yet. -/
inductive Pending
  /-- There is none. -/
  | nothing
  /-- It waits for its value. -/
  | awaiting (s : Setting)
  /-- It has its value. -/
  | holding (s : Setting) (text : String)
  deriving DecidableEq, Repr

/-- The event of a pending setting, once the next argument is read. -/
def Pending.settle : Pending → List Event
  | .nothing => []
  | .awaiting s => [.missing s]
  | .holding s text => [.value s text]

/-- The events of letters, and the setting that is pending behind them; none if reading ends. -/
def readCluster (pending : Pending) : List Char → List Event × Option Pending
  | [] => ([], some pending)
  | c :: rest =>
    match Argument.ofShort? c with
    | none => ([.unknown (String.ofList ['-', c])], none)
    | some (.flag f) =>
      let next := readCluster .nothing rest
      (pending.settle ++ .flag f :: next.1, next.2)
    | some (.setting s) =>
      match rest with
      | [] => (pending.settle, some (.awaiting s))
      | '=' :: value => (pending.settle ++ [.value s (String.ofList value)], some .nothing)
      | value => (pending.settle ++ [.value s (String.ofList value)], some .nothing)

/-- The events of the texts behind a pending setting. -/
def readFrom (pending : Pending) : List String → List Event
  | [] => pending.settle
  | text :: rest =>
    match Shape.of text.toList with
    | .terminator =>
      match rest with
      | [] => pending.settle
      | surprise :: _ => [.unknown surprise]
    | .long name value? =>
      match Argument.ofLong? name, value? with
      | none, _ => [.unknown ("--" ++ name)]
      | some (.setting s), none => pending.settle ++ readFrom (.awaiting s) rest
      | some (.setting s), some value => pending.settle ++ .value s value :: readFrom .nothing rest
      | some (.flag f), none => pending.settle ++ .flag f :: readFrom .nothing rest
      | some (.flag f), some value => [.surplus f value]
    | .cluster letters =>
      let read := readCluster pending letters
      read.1 ++ read.2.elim [] fun next => readFrom next rest
    | .plain =>
      match pending with
      | .awaiting s => readFrom (.holding s text) rest
      | _ => [.unknown text]

/-- The events of a command line. -/
def read (texts : List String) : List Event := readFrom .nothing texts

end EchoInjector.CommandLine
