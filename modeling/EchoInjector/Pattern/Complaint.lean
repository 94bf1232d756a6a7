import EchoInjector.Pattern.Place
import EchoInjector.Text.Numeral

/-!
# What is wrong with a pattern

A pattern that cannot be used is answered with a **complaint**: what is wrong, and which stretch
of the pattern is meant. Some complaints mean a second stretch as well, the one that the first
stands in conflict with.

The report of a complaint shows the pattern with carets under the stretches that are meant. The
lines of a pattern with several are numbered, and a stretch over several lines is described in
words.
-/

namespace EchoInjector.Pattern

open Text

/-- The greatest depth to which the parts of a pattern may be nested. -/
def maxDepth : Nat := 250

/-- What can be wrong with a pattern. -/
inductive Fault
  /-- An assertion stands among the characters of a class. -/
  | classEscape
  /-- A range of characters is the wrong way round. -/
  | classRange
  /-- A range of characters has an end that is no single character. -/
  | classRangeEnd
  /-- A class is not closed. -/
  | classUnclosed
  /-- A count is too large to be read. -/
  | countTooLarge
  /-- A character is given by no digits. -/
  | hexEmpty
  /-- A character is given by the number of none. -/
  | hexInvalid
  /-- A character is given by something else than digits. -/
  | hexDigit
  /-- The pattern ends inside an escape. -/
  | escapeUnfinished
  /-- An escape has no meaning. -/
  | escapeUnknown
  /-- The sign that switches flags off has no flags behind it. -/
  | flagsDangling
  /-- A flag is given twice. -/
  | flagTwice
  /-- The sign that switches flags off is given twice. -/
  | flagsOffTwice
  /-- The pattern ends inside flags. -/
  | flagsUnfinished
  /-- There is no such flag. -/
  | flagUnknown
  /-- Two groups have one name. -/
  | nameTwice
  /-- A group has an empty name. -/
  | nameEmpty
  /-- A character cannot stand in the name of a group. -/
  | nameInvalid
  /-- The pattern ends inside the name of a group. -/
  | nameUnfinished
  /-- A group is not closed. -/
  | groupUnclosed
  /-- A group is closed that was not opened. -/
  | groupUnopened
  /-- The parts are nested too deeply. -/
  | tooDeep
  /-- The least count of a repetition is above its greatest. -/
  | countOrder
  /-- A repetition has no count where one is due. -/
  | countMissing
  /-- The counts of a repetition are not closed. -/
  | countUnclosed
  /-- There is nothing to be repeated. -/
  | nothingToRepeat
  /-- The name of a kind of word boundary is not closed. -/
  | boundaryUnclosed
  /-- There is no such kind of word boundary. -/
  | boundaryUnknown
  /-- The pattern ends behind a brace that follows a word boundary. -/
  | boundaryUnfinished
  /-- The name of a property is an escape. -/
  | propertyName
  /-- A group is referred to. -/
  | backreference
  /-- An assertion looks at what stands around. -/
  | lookAround
  /-- A class needs all characters, but only those of one octet are allowed. -/
  | notAllowed
  /-- A part could match half of a character. -/
  | halfCharacter
  /-- No property has this name. -/
  | propertyUnknown
  /-- No property has this value. -/
  | propertyValueUnknown
  /-- The shorthand classes of all scripts are not known. -/
  | shorthandUnknown
  /-- The two cases of letters of all scripts are not known. -/
  | caseUnknown
  deriving DecidableEq, Repr

/-- The wording of a fault. -/
def Fault.message : Fault → String
  | classEscape => "invalid escape sequence found in character class"
  | classRange => "invalid character class range, the start must be <= the end"
  | classRangeEnd => "invalid range boundary, must be a literal"
  | classUnclosed => "unclosed character class"
  | countTooLarge => "decimal literal invalid"
  | hexEmpty => "hexadecimal literal empty"
  | hexInvalid => "hexadecimal literal is not a Unicode scalar value"
  | hexDigit => "invalid hexadecimal digit"
  | escapeUnfinished => "incomplete escape sequence, reached end of pattern prematurely"
  | escapeUnknown => "unrecognized escape sequence"
  | flagsDangling => "dangling flag negation operator"
  | flagTwice => "duplicate flag"
  | flagsOffTwice => "flag negation operator repeated"
  | flagsUnfinished => "expected flag but got end of regex"
  | flagUnknown => "unrecognized flag"
  | nameTwice => "duplicate capture group name"
  | nameEmpty => "empty capture group name"
  | nameInvalid => "invalid capture group character"
  | nameUnfinished => "unclosed capture group name"
  | groupUnclosed => "unclosed group"
  | groupUnopened => "unopened group"
  | tooDeep =>
    "exceed the maximum number of nested parentheses/brackets (" ++ decimal maxDepth ++ ")"
  | countOrder => "invalid repetition count range, the start must be <= the end"
  | countMissing => "repetition quantifier expects a valid decimal"
  | countUnclosed => "unclosed counted repetition"
  | nothingToRepeat => "repetition operator missing expression"
  | boundaryUnclosed =>
    "special word boundary assertion is either unclosed or contains an invalid character"
  | boundaryUnknown =>
    "unrecognized special word boundary assertion, valid choices are: start, end, start-half "
      ++ "or end-half"
  | boundaryUnfinished =>
    "found either the beginning of a special word boundary or a bounded repetition on a \\b with "
      ++ "an opening brace, but no closing brace"
  | propertyName => "invalid Unicode character class"
  | backreference => "backreferences are not supported"
  | lookAround => "look-around, including look-ahead and look-behind, is not supported"
  | notAllowed => "Unicode not allowed here"
  | halfCharacter => "pattern can match invalid UTF-8"
  | propertyUnknown => "Unicode property not found"
  | propertyValueUnknown => "Unicode property value not found"
  | shorthandUnknown =>
    "Unicode-aware Perl class not found (make sure the unicode-perl feature is enabled)"
  | caseUnknown =>
    "Unicode-aware case insensitivity matching is not available (make sure the unicode-case "
      ++ "feature is enabled)"

/-- A fault, the span that it concerns, and another that it is in conflict with, if so. -/
structure Complaint where
  fault : Fault
  span : Span
  other? : Option Span := none
  deriving DecidableEq, Repr

/-! ### The report -/

/-- The lines of a text, without their ends. Behind the last line end there is no further line. -/
def linesOf (s : List Char) : List (List Char) :=
  let pieces := s.splitOn '\n'
  let ended := pieces.dropLast.map fun l => if l.getLast? = some '\r' then l.dropLast else l
  match pieces.getLast? with
  | some (c :: rest) => ended ++ [c :: rest]
  | _ => ended

/-- The spans of a complaint in order. -/
def Complaint.spans (c : Complaint) : List Span :=
  match c.other? with
  | none => [c.span]
  | some other => if other.isBefore c.span then [other, c.span] else [c.span, other]

/-- Blanks and carets from a column on: carets under each span, at least one. -/
def carets (column : Nat) : List Span → String
  | [] => ""
  | s :: rest =>
    let gap := s.start.column - column
    let width := max 1 (s.stop.column - s.start.column)
    String.ofList (List.replicate gap ' ' ++ List.replicate width '^')
      ++ carets (column + gap + width) rest

/-- A line behind its margin, and below it the carets for the spans that lie in it. -/
def annotated (margin : String) (number : Nat) (line : List Char) (spans : List Span) : String :=
  let here := spans.filter fun s => s.isOneLine && s.start.line = number
  margin ++ String.ofList line ++ "\n"
    ++ (if here.isEmpty then ""
      else String.ofList (List.replicate margin.length ' ') ++ carets 1 here ++ "\n")

/-- A span over several lines in words. -/
def Span.words (s : Span) : String :=
  "on line " ++ decimal s.start.line ++ " (column " ++ decimal s.start.column
    ++ ") through line " ++ decimal s.stop.line ++ " (column " ++ decimal (s.stop.column - 1)
    ++ ")\n"

/-- A number, filled up with blanks in front to a width. -/
def aligned (width n : Nat) : String :=
  let shown := decimal n
  String.ofList (List.replicate (width - shown.length) ' ') ++ shown

/-- The pattern with carets under the spans of a complaint. -/
def Complaint.picture (c : Complaint) (pattern : List Char) : String :=
  let lines := linesOf pattern
  if pattern.contains '\n' then
    let count := if pattern.getLast? = some '\n' then lines.length + 1 else lines.length
    let width := (decimal count).length
    let divider := String.ofList (List.replicate 79 '~') ++ "\n"
    divider
      ++ String.join ((lines.zipIdx 1).map fun (line, n) =>
        annotated (aligned width n ++ ": ") n line c.spans)
      ++ divider
      ++ String.join ((c.spans.filter fun s => !s.isOneLine).map Span.words)
  else
    String.join (lines.map fun line => annotated "    " 1 line c.spans)

/-- What the user is told about a complaint. -/
def Complaint.report (c : Complaint) (pattern : List Char) : String :=
  "regex parse error:\n" ++ c.picture pattern ++ "error: " ++ c.fault.message

end EchoInjector.Pattern
