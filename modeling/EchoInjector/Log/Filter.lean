import EchoInjector.Log
import EchoInjector.Pattern

/-!
# Which records are shown

A filter is a list of **directives**. Each one sets a threshold, either for all topics or for
those whose path begins with a given text. A record is judged by the directive with the longest
matching text alone, and shown if its level does not go beyond that directive's threshold.

A filter starts from two directives: warnings for everything, and the level asked for on the
command line for the program's own topics. A **specification** then adds directives. It is a list
of items separated by commas, each a level, a path, or a path with a level behind an equality
sign; an item without a level lets everything through. A directive replaces an earlier one for
the same paths. Items that cannot be understood are skipped with a warning.

Behind a slash, a specification may give a pattern that has to occur in the text of every shown
record. A pattern that is refused is left out with a warning.
-/

namespace EchoInjector.Log

open Text

/-- The threshold of a directive: the most talkative level it lets through, none if it lets
nothing through. -/
abbrev Threshold := Option Level

/-- Whether a threshold lets a level through. -/
def Threshold.admits (t : Threshold) (l : Level) : Bool :=
  match t with
  | none => false
  | some most => l.rank ≤ most.rank

/-- A threshold for the topics whose path begins with a text, or for all topics. -/
structure Directive where
  path? : Option String
  threshold : Threshold
  deriving DecidableEq, Repr

/-- Directives, and a pattern that occurs in shown records. -/
structure Filter where
  directives : List Directive
  pattern? : Option Pattern := none

/-! ### Judging a record -/

/-- The number of octets of a directive's path. -/
def Directive.reach (d : Directive) : Nat :=
  d.path?.elim 0 String.utf8ByteSize

/-- Whether a directive speaks about a path. -/
def Directive.covers (d : Directive) (path : String) : Bool :=
  match d.path? with
  | none => true
  | some start => start.toList.isPrefixOf path.toList

/-- The directive that decides about a path: of those that cover it, the one with the longest
reach, and of several the last. -/
def Filter.deciding? (f : Filter) (path : String) : Option Directive :=
  (f.directives.filter (·.covers path)).foldl
    (fun best d => match best with
      | none => some d
      | some b => if b.reach ≤ d.reach then some d else some b) none

/-- Whether a record is shown. -/
def Filter.admits (f : Filter) (r : Record) : Bool :=
  ((f.deciding? r.topic.path).any fun d => d.threshold.admits r.level)
    && f.pattern?.all (·.occursIn r.text)

/-! ### Reading a specification -/

/-- A threshold by its name, in either case. -/
def readThreshold? (s : List Char) : Option Threshold :=
  match String.ofList (s.map Char.toUpper) with
  | "OFF" => some none
  | "ERROR" => some (some .error)
  | "WARN" => some (some .warn)
  | "INFO" => some (some .info)
  | "DEBUG" => some (some .debug)
  | "TRACE" => some (some .trace)
  | _ => none

/-- The warning about something that is wrong and therefore left out. -/
def warning (what : String) : String := "warning: " ++ what ++ ", ignoring it"

/-- The warning about a part of a specification that cannot be understood. -/
def specificationWarning (part : List Char) (remark : String) : String :=
  warning ("invalid logging spec '" ++ String.ofList part ++ "'" ++ remark)

/-- Reads one item, which is not empty. -/
def readItem (item : List Char) : Except String Directive :=
  match item.splitOn '=' with
  | [path] =>
    match readThreshold? path with
    | some t => .ok ⟨none, t⟩
    | none => .ok ⟨some (String.ofList path), some .trace⟩
  | [path, level] =>
    if trim level = [] then .ok ⟨some (String.ofList path), some .trace⟩
    else match readThreshold? (trim level) with
      | some t => .ok ⟨some (String.ofList path), t⟩
      | none => .error (specificationWarning (trim level) "")
  | _ => .error (specificationWarning item "")

/-- Adds a directive in place of an earlier one for the same paths, or at the end. -/
def insert (d : Directive) : List Directive → List Directive
  | [] => [d]
  | e :: rest => if e.path? = d.path? then d :: rest else e :: insert d rest

/-- What can be used of several items, and the warnings about the others. -/
def usable {α : Type} (read : List (Except String α)) : List α × List String :=
  (read.filterMap Except.toOption, read.filterMap fun
    | .ok _ => none
    | .error w => some w)

/-- Reads the pattern of a specification. -/
def readPattern (text : List Char) : Except String Pattern :=
  (Pattern.read (String.ofList text)).mapError fun e =>
    warning ("invalid regex filter - " ++ e.message (String.ofList text))

/-- Adds a specification to a filter; also gives the warnings. -/
def Filter.extend (f : Filter) (specification : String) : Filter × List String :=
  match specification.toList.splitOn '/' with
  | items :: patterns =>
    if 1 < patterns.length then (f, [specificationWarning specification.toList " (too many '/'s)"])
    else
      let items := ((items.splitOn ',').map trim).filter (· ≠ [])
      let (directives, warnings) := usable (items.map readItem)
      let (patterns, moreWarnings) := usable (patterns.map readPattern)
      ({ directives := directives.foldl (fun all d => insert d all) f.directives
         pattern? := patterns.head? }, warnings ++ moreWarnings)
  | [] => (f, [])

/-- The filter before any specification: warnings for everything, and a level of its own for the
program. -/
def Filter.base (level : Level) : Filter :=
  { directives := [⟨none, some .warn⟩, ⟨some Topic.program.path, some level⟩] }

end EchoInjector.Log
