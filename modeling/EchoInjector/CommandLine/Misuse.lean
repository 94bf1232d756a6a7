import EchoInjector.CommandLine.Argument
import EchoInjector.Text.Emphasis
import EchoInjector.Text.Terminal

/-!
# Misuse of the command line

Each way to misuse the command line is a constructor, and `Misuse.styled` words it for a terminal:
the announcement, what the user typed and what can be typed instead are set off. `Misuse.message`
is the same without anything a terminal would obey. Since the whole is stripped at once, an
unfinished control sequence in what the user typed takes with it what stands behind it, up to the
next part that is set off.
-/

namespace EchoInjector.CommandLine

open Text

/-- What is wrong with a command line. -/
inductive Misuse
  /-- A text that no argument begins with. -/
  | unknown (text : String)
  /-- A setting without its value. -/
  | missing (s : Setting)
  /-- A flag with a value. -/
  | surplus (f : Flag) (text : String)
  /-- An argument that is given twice. -/
  | repeated (a : Argument)
  /-- Two arguments that exclude each other, the one given first in front. -/
  | conflict (a b : Argument)
  /-- A text that is no value of a setting. -/
  | invalid (s : Setting) (text : String) (why : Refusal)
  deriving DecidableEq, Repr

namespace Misuse

/-- A text in apostrophes, set off. -/
def quote (e : Emphasis) (s : String) : String := "'" ++ e.mark s ++ "'"

/-- What the user typed, as messages quote it. -/
def quoteTyped (s : String) : String := quote .mistaken s

/-- An argument, as messages quote it. -/
def quoteArgument (a : Argument) : String := quote .literal a.shown

/-- What is wrong. -/
def description : Misuse → String
  | .unknown text => "unexpected argument " ++ quoteTyped text ++ " found"
  | .missing s =>
    "a value is required for " ++ quoteArgument (.setting s) ++ " but none was supplied"
  | .surplus f text =>
    "unexpected value " ++ quoteTyped text ++ " for " ++ quoteArgument (.flag f)
      ++ " found; no more were expected"
  | .repeated a => "the argument " ++ quoteArgument a ++ " cannot be used multiple times"
  | .conflict a b =>
    "the argument " ++ quoteArgument a ++ " cannot be used with " ++ quoteArgument b
  | .invalid s text why =>
    "invalid value " ++ quoteTyped text ++ " for " ++ quoteArgument (.setting s) ++ ": "
      ++ why.message

/-- What the user is told on a terminal. -/
def styled (m : Misuse) : String :=
  Emphasis.alarm.mark "error:" ++ " " ++ m.description ++ "\n\nFor more information, try "
    ++ quote .literal (Argument.flag .help).shown ++ ".\n"

/-- What the user is told, as plain text. -/
def message (m : Misuse) : String := Terminal.plain m.styled

end Misuse

end EchoInjector.CommandLine
