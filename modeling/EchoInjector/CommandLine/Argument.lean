import EchoInjector.CommandLine.Setting

/-!
# What can stand on a command line

Besides the settings, which take a value, the command line knows flags, which take none. Both
have a long name, and most flags have a letter as well.

Each can be given once, except that the flag for more records counts how often it is given. Two
pairs exclude each other: a payload given as text and one given by its length, and the flags for
more and for fewer records.
-/

namespace EchoInjector.CommandLine

/-- What is given without a value, in the order in which the help lists it. -/
inductive Flag
  | layer3
  | dryRun
  | json
  | verbose
  | quiet
  | help
  | version
  deriving DecidableEq, Repr

namespace Flag

/-- All flags in order. -/
def all : List Flag := [layer3, dryRun, json, verbose, quiet, help, version]

/-- The name on the command line. -/
def long : Flag → String
  | layer3 => "layer3"
  | dryRun => "dry-run"
  | json => "json"
  | verbose => "verbose"
  | quiet => "quiet"
  | help => "help"
  | version => "version"

/-- The letter on the command line, where there is one. -/
def short? : Flag → Option Char
  | layer3 | json => none
  | dryRun => some 'n'
  | verbose => some 'v'
  | quiet => some 'q'
  | help => some 'h'
  | version => some 'V'

/-- What the help says about the flag. -/
def about : Flag → String
  | layer3 => "Send the bare IPv4 datagram through a raw IP socket instead of a link-layer frame"
  | dryRun => "Build and print the frame without sending it"
  | json => "Print the result as JSON"
  | verbose => "Increase verbosity level (use -v or -vv)"
  | quiet => "Only log warnings and errors"
  | help => "Print help"
  | version => "Print version"

end Flag

/-- A setting or a flag. -/
inductive Argument
  | setting (s : Setting)
  | flag (f : Flag)
  deriving DecidableEq, Repr

namespace Argument

/-- All arguments in order. -/
def all : List Argument := Setting.all.map setting ++ Flag.all.map flag

/-- The name on the command line. -/
def long : Argument → String
  | setting s => s.long
  | flag f => f.long

/-- The letter on the command line, where there is one. -/
def short? : Argument → Option Char
  | setting s => s.short?
  | flag f => f.short?

/-- What follows the name where an argument is shown: a placeholder for its value, or points if it
may be repeated. -/
def trailer : Argument → String
  | setting s => " <" ++ s.placeholder ++ ">"
  | flag .verbose => "..."
  | flag _ => ""

/-- How messages name an argument. -/
def shown (a : Argument) : String := "--" ++ a.long ++ a.trailer

/-- The argument of a long name. -/
def ofLong? (name : String) : Option Argument := all.find? (·.long = name)

/-- The argument of a letter. -/
def ofShort? (letter : Char) : Option Argument := all.find? (·.short? = some letter)

/-- The argument that may not stand beside the given one, where there is one. -/
def rival? : Argument → Option Argument
  | setting .payload => some (.setting .payloadLength)
  | setting .payloadLength => some (.setting .payload)
  | flag .quiet => some (.flag .verbose)
  | flag .verbose => some (.flag .quiet)
  | _ => none

end Argument

end EchoInjector.CommandLine
