import EchoInjector.CommandLine.Misuse
import EchoInjector.CommandLine.Reading

/-!
# What was given

The events of a command line are taken one after the other into a list of **entries**, in which
each argument stands at most once and every value has been read. The first event that cannot be
taken ends it, and so do the flags that ask for help or the version. The flag for more records is
counted: its entry moves to the end each time it is given, and the count stops at 255.

Then the environment is asked for every setting that has no entry yet, in the order of the
settings. Only after that are the entries searched for two that exclude each other.
-/

namespace EchoInjector.CommandLine

/-- The environment of the program: the value of each variable that is set. -/
abbrev Environment := String → Option String

/-- An argument that was given. -/
inductive Entry
  /-- A setting with its value. -/
  | value (s : Setting) (v : s.Value)
  /-- A flag that is given at most once. -/
  | flag (f : Flag)
  /-- The flag for more records, with the number of times it was given. -/
  | verbose (times : Nat)

/-- Why there are no arguments to go by. -/
inductive Ending
  /-- The user asked for help. -/
  | help
  /-- The user asked for the version. -/
  | version
  /-- The command line cannot be used. -/
  | misuse (m : Misuse)
  deriving DecidableEq, Repr

namespace Entry

/-- The argument of an entry. -/
def argument : Entry → Argument
  | value s _ => .setting s
  | flag f => .flag f
  | verbose _ => .flag .verbose

/-- The value that an entry gives to a setting. -/
def value? (s : Setting) : Entry → Option s.Value
  | value t v => if h : t = s then some (h ▸ v) else none
  | _ => none

/-- How often an entry gives the flag for more records. -/
def times : Entry → Nat
  | verbose n => n
  | _ => 0

end Entry

/-- Whether an argument is among the entries. -/
def isGiven (entries : List Entry) (a : Argument) : Bool :=
  entries.any (·.argument = a)

/-- The value that the entries give to a setting. -/
def valueGiven? (entries : List Entry) (s : Setting) : Option s.Value :=
  entries.findSome? (·.value? s)

/-- How often the flag for more records is given. -/
def verbosity (entries : List Entry) : Nat :=
  entries.foldl (fun n e => n + e.times) 0

/-- Adds an entry for an argument that may stand only once. -/
def addOnce (entries : List Entry) (e : Entry) : Except Ending (List Entry) :=
  if isGiven entries e.argument then .error (.misuse (.repeated e.argument))
  else .ok (entries ++ [e])

/-- Adds a value, after the setting was found to have none and the text was read. -/
def addValue (entries : List Entry) (s : Setting) (text : String) : Except Ending (List Entry) :=
  if isGiven entries (.setting s) then .error (.misuse (.repeated (.setting s)))
  else match s.read text with
    | .error why => .error (.misuse (.invalid s text why))
    | .ok v => .ok (entries ++ [.value s v])

/-- Takes one event. -/
def take (entries : List Entry) : Event → Except Ending (List Entry)
  | .value s text => addValue entries s text
  | .missing s => .error (.misuse (.missing s))
  | .flag .help => .error .help
  | .flag .version => .error .version
  | .flag .verbose =>
    .ok (entries.filter (·.argument ≠ .flag .verbose)
      ++ [.verbose (min 255 (verbosity entries + 1))])
  | .flag f => addOnce entries (.flag f)
  | .surplus f text => .error (.misuse (.surplus f text))
  | .unknown text => .error (.misuse (.unknown text))

/-- Takes the value of a setting's variable, unless the setting has its value or the variable is
not set. -/
def takeVariable (env : Environment) (entries : List Entry) (s : Setting) :
    Except Ending (List Entry) :=
  if isGiven entries (.setting s) then .ok entries
  else match env s.envName with
    | none => .ok entries
    | some text => addValue entries s text

/-- Two entries that exclude each other, the one that was given first in front. -/
def conflict? (entries : List Entry) : Option (Argument × Argument) :=
  entries.findSome? fun e =>
    match e.argument.rival? with
    | some rival => if isGiven entries rival then some (e.argument, rival) else none
    | none => none

/-- The entries of a command line in an environment. -/
def entries (texts : List String) (env : Environment) : Except Ending (List Entry) := do
  let given ← (read texts).foldlM take []
  let all ← Setting.all.foldlM (takeVariable env) given
  match conflict? all with
  | some (a, b) => .error (.misuse (.conflict a b))
  | none => .ok all

end EchoInjector.CommandLine
