import EchoInjector.CommandLine.Entry

/-!
# The help

The help lists every argument on a line of its own, its names on the left and its meaning in a
column on the right. Settings add the name of their variable, with its value if it is set, and
the value they have without being given one. Where a variable's value has several lines, the
further ones are indented to the column.

On a terminal, headings and names are set off (`styledHelp`); `help` is the same without anything
a terminal would obey, be it in the help's own text or in the value of a variable.
-/

namespace EchoInjector.CommandLine

open Text

/-- The names of an argument, each of them marked in some way. -/
def namesColumn (mark : String → String) (a : Argument) : String :=
  (match a.short? with
    | some c => "  " ++ mark (String.ofList ['-', c]) ++ ", "
    | none => "      ") ++ mark ("--" ++ a.long) ++ a.trailer

/-- The number of characters that the names of an argument take. -/
def namesWidth (a : Argument) : Nat := (namesColumn id a).length

/-- The number of characters before the right column: two more than the longest names have. -/
def columnWidth : Nat :=
  (Argument.all.map namesWidth).foldl max 0 + 2

/-- What the help says about an argument. -/
def meaningColumn (env : Environment) : Argument → String
  | .flag f => f.about
  | .setting s =>
    s.about ++ " [env: " ++ s.envName ++ "=" ++ (env s.envName).getD "" ++ "]"
      ++ (s.default?.elim "" fun v => " [default: " ++ s.write v ++ "]")

/-- A text whose further lines are indented to the right column. -/
def indentToColumn (s : String) : String :=
  String.ofList (s.toList.flatMap fun c =>
    if c = '\n' then c :: List.replicate columnWidth ' ' else [c])

/-- The line of an argument. -/
def helpLine (env : Environment) (a : Argument) : String :=
  namesColumn Emphasis.literal.mark a
    ++ String.ofList (List.replicate (columnWidth - namesWidth a) ' ')
    ++ indentToColumn (meaningColumn env a) ++ "\n"

/-- The whole help, as a terminal shows it. -/
def styledHelp (env : Environment) : String :=
  "Inject an ICMP echo request frame on an interface\n\n"
    ++ Emphasis.heading.mark "Usage:" ++ " " ++ Emphasis.literal.mark "echo-probe"
    ++ " [OPTIONS]\n\n"
    ++ Emphasis.heading.mark "Options:" ++ "\n"
    ++ String.join (Argument.all.map (helpLine env))

/-- The whole help, as plain text. -/
def help (env : Environment) : String := Terminal.plain (styledHelp env)

/-- The version. -/
def version : String := "echo-probe 0.1.0\n"

end EchoInjector.CommandLine
