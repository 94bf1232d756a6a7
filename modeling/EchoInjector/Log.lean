import EchoInjector.Text.Terminal

/-!
# Log records

While it works, the program tells what it does in records. A record has a **level**, which says
how much it matters, a **topic**, which says which part of the program speaks, and a text. Topics
are written as paths, and a longer path lies below a shorter one that it begins with.

A record becomes a line by putting time, level and topic in brackets before its text. Where the
text has several lines, the further ones are indented by four blanks, so that every line that
starts with a bracket starts a record. What a terminal would obey is left out of the line; an
unfinished control sequence in the text may take the line end with it.
-/

namespace EchoInjector.Log

open Text

/-- How much a record matters, the most serious level first. -/
inductive Level
  | error
  | warn
  | info
  | debug
  | trace
  deriving DecidableEq, Repr

/-- The rank of a level; more talkative levels have higher ranks. -/
def Level.rank : Level → Nat
  | .error => 1
  | .warn => 2
  | .info => 3
  | .debug => 4
  | .trace => 5

/-- The name of a level. -/
def Level.name : Level → String
  | .error => "ERROR"
  | .warn => "WARN"
  | .info => "INFO"
  | .debug => "DEBUG"
  | .trace => "TRACE"

/-- The part of the program that speaks. -/
inductive Topic
  /-- The program as a whole. -/
  | program
  /-- The search for an interface. -/
  | interfaces
  /-- Building and sending. -/
  | sending
  deriving DecidableEq, Repr

/-- The path of a topic. -/
def Topic.path : Topic → String
  | .program => "echo_probe"
  | .interfaces => "echo_probe::iface"
  | .sending => "echo_probe::send"

/-- One record. -/
structure Record where
  level : Level
  topic : Topic
  text : String
  deriving DecidableEq, Repr

/-- The name of a level, filled up with blanks to the length of the longest one. -/
def Level.column (l : Level) : String :=
  l.name ++ String.ofList (List.replicate (5 - l.name.length) ' ')

/-- A text whose further lines are indented by four blanks. -/
def indented (s : String) : String :=
  String.ofList (s.toList.flatMap fun c => if c = '\n' then c :: List.replicate 4 ' ' else [c])

/-- The line of a record at the given time, with its line end. -/
def Record.line (r : Record) (time : String) : String :=
  Terminal.piped ("[" ++ time ++ " " ++ r.level.column ++ " " ++ r.topic.path ++ "] "
    ++ indented r.text ++ "\n")

end EchoInjector.Log
