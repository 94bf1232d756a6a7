import EchoInjector.Failure

/-!
# Reports of a failure in its context

A failure reaches the user wrapped in the contexts in which it arose, each one saying what was
being attempted. Such a **report** is a list of texts from the outermost context down to the
source of the failure. It is shown either in one line or over several, where the causes stand
below the outermost text, indented, and numbered from zero when there are at least two of them.
The further lines of a cause that itself has several are indented as far as its first.
-/

namespace EchoInjector.Failure

open Text

/-- The texts of a report, the outermost first. Contexts are given in the order in which they
were added, so the last one is outermost. -/
def chain (contexts : List String) (f : Failure) : List String :=
  contexts.reverse ++ f.message :: f.source?.toList

/-- A report in one line. -/
def oneLine (texts : List String) : String :=
  ": ".intercalate texts

/-- A text whose lines after the first are indented by some blanks. -/
def indentRest (blanks : Nat) (s : String) : List Char :=
  s.toList.flatMap fun c => if c = '\n' then c :: List.replicate blanks ' ' else [c]

/-- A number set to the right in five columns, with a colon and a blank behind it. -/
def causeNumber (n : Nat) : List Char :=
  let shown := digits 10 n
  List.replicate (5 - shown.length) ' ' ++ shown ++ [':', ' ']

/-- Causes with their numbers, each beginning a new line. -/
def numberedCauses : Nat → List String → List Char
  | _, [] => []
  | n, cause :: rest => '\n' :: causeNumber n ++ indentRest 7 cause ++ numberedCauses (n + 1) rest

/-- The causes below the outermost text. -/
def causes : List String → List Char
  | [] => []
  | [cause] => "\n\nCaused by:\n    ".toList ++ indentRest 4 cause
  | several => "\n\nCaused by:".toList ++ numberedCauses 0 several

/-- A report over several lines. -/
def report : List String → String
  | [] => ""
  | outermost :: below => String.ofList (outermost.toList ++ causes below)

end EchoInjector.Failure
