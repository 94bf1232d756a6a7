import EchoInjector.Pattern.Matching
import EchoInjector.Pattern.Meaning
import EchoInjector.Pattern.Reading
import EchoInjector.Pattern.Size

/-!
# Patterns

A pattern describes texts, and is looked for within a text (`Pattern.occursIn`). It is written in
the usual notation for regular expressions and read by `Pattern.read`, which refuses what it does
not understand, edges of words other than those of ASCII, and whatever would take too much memory.
-/

namespace EchoInjector

/-- A pattern that can be looked for. -/
structure Pattern where
  expr : Pattern.Expr Pattern.CharSet Pattern.Look

namespace Pattern

/-- Why a text is no pattern that can be looked for. -/
inductive Refusal
  /-- The text cannot be understood. -/
  | complaint (c : Complaint)
  /-- It asks for the edges of words of all scripts. -/
  | wordEdge
  /-- It would take too much memory. -/
  | tooLarge
  deriving DecidableEq, Repr

/-- What the user is told about a text that was refused. -/
def Refusal.message (text : String) : Refusal → String
  | complaint c => c.report text.toList
  | wordEdge => "error building NFA"
  | tooLarge => "Compiled regex exceeds size limit of " ++ Text.decimal maxSize ++ " bytes."

/-- Whether a look needs to know the words of all scripts. -/
def Look.needsScripts : Look → Bool
  | word unicode _ => unicode
  | _ => false

/-- Checks that the automata of an expression can be built. -/
def Expr.check (e : Expr CharSet Look) : Except Refusal Unit :=
  if e.isTooLarge .forward then .error .tooLarge
  else if e.anyLook Look.needsScripts then .error .wordEdge
  else if e.isTooLarge .backward then .error .tooLarge
  else .ok ()

/-- Reads a pattern. -/
def read (text : String) : Except Refusal Pattern := do
  let tree ← (Tree.read text.toList).mapError .complaint
  let (expr, _) ← (tree.expr {}).mapError .complaint
  expr.check
  return { expr }

/-- Whether a pattern occurs in a text. -/
def occursIn (p : Pattern) (text : String) : Bool :=
  p.expr.occursIn text.toList

end Pattern

end EchoInjector
