import EchoInjector.Pattern.CharSet
import EchoInjector.Pattern.Tree

/-!
# Expressions

What a pattern means is an **expression** over two kinds of leaves: steps, which take one
character, and looks, which take none and say something about a place. In the meaning of a pattern
a step is a set of characters (`Expr CharSet Look`); the same expressions with other leaves serve
to find matches.

Expressions are put together by functions that simplify what can be written more shortly. They
keep what is matched.
-/

namespace EchoInjector.Pattern

/-- What an expression can say about a place. -/
inductive Look
  | textStart
  | textStop
  | lineStart
  | lineStop
  /-- The start of a line, where a return is a line end, too. -/
  | lineStartReturns
  /-- The end of a line, where a return is a line end, too. -/
  | lineStopReturns
  /-- An edge of a word, of all scripts or of ASCII. -/
  | word (unicode : Bool) (edge : WordEdge)
  deriving DecidableEq, Repr

/-- An expression with steps `σ` and looks `κ`. -/
inductive Expr (σ κ : Type)
  | empty
  | step (s : σ)
  | look (k : κ)
  | group (body : Expr σ κ)
  | sequence (parts : List (Expr σ κ))
  | choice (branches : List (Expr σ κ))
  | repetition (least : Nat) (most : Option Nat) (body : Expr σ κ)

namespace Expr

variable {σ κ : Type}

mutual

/-- Whether an expression, whatever the text, takes no character. -/
def takesNothing : Expr σ κ → Bool
  | empty | look _ => true
  | step _ => false
  | group body => body.takesNothing
  | sequence parts => allTakeNothing parts
  | choice branches => allTakeNothing branches
  | repetition _ _ body => body.takesNothing

/-- Whether none of some expressions takes a character. -/
def allTakeNothing : List (Expr σ κ) → Bool
  | [] => true
  | e :: rest => e.takesNothing && allTakeNothing rest

end

mutual

/-- Whether an expression always takes a character. -/
def takesSomething : Expr σ κ → Bool
  | empty | look _ => false
  | step _ => true
  | group body => body.takesSomething
  | sequence parts => anyTakesSomething parts
  | choice branches => allTakeSomething branches
  | repetition least _ body => least ≠ 0 && body.takesSomething

/-- Whether one of some expressions always takes a character. -/
def anyTakesSomething : List (Expr σ κ) → Bool
  | [] => false
  | e :: rest => e.takesSomething || anyTakesSomething rest

/-- Whether all of some expressions always take a character. -/
def allTakeSomething : List (Expr σ κ) → Bool
  | [] => true
  | e :: rest => e.takesSomething && allTakeSomething rest

end

/-! ### Putting together -/

/-- One expression after the other. -/
def inSequence (parts : List (Expr σ κ)) : Expr σ κ :=
  let flat := parts.flatMap fun
    | empty => []
    | sequence more => more
    | e => [e]
  match flat with
  | [] => empty
  | [e] => e
  | _ => sequence flat

/-- The union of the sets, if all expressions are steps. -/
def unionOfSteps? (branches : List (Expr CharSet κ)) : Option CharSet :=
  branches.foldl (fun all? e => match all?, e with
    | some all, step s => some (all.union s)
    | _, _ => none) (some CharSet.empty)

/-- One of some expressions. A choice of sets is a set. -/
def oneOf (branches : List (Expr CharSet κ)) : Expr CharSet κ :=
  let flat := branches.flatMap fun
    | choice more => more
    | e => [e]
  match flat with
  | [e] => e
  | _ =>
    match unionOfSteps? flat with
    | some s => step s
    | none => choice flat

/-- An expression several times. What takes nothing need not be repeated more than once. -/
def repeated (least : Nat) (most : Option Nat) (body : Expr σ κ) : Expr σ κ :=
  let idle := body.takesNothing
  let least := if idle then min least 1 else least
  let most := if idle then some (min (most.getD 1) 1) else most
  if least = 0 && most = some 0 then empty
  else if least = 1 && most = some 1 then body
  else repetition least most body

/-! ### Other leaves -/

variable {σ' κ' : Type}

mutual

/-- The same expression with other leaves. -/
def map (f : σ → σ') (g : κ → κ') : Expr σ κ → Expr σ' κ'
  | empty => empty
  | step s => step (f s)
  | look k => look (g k)
  | group body => group (body.map f g)
  | sequence parts => sequence (mapAll f g parts)
  | choice branches => choice (mapAll f g branches)
  | repetition least most body => repetition least most (body.map f g)

/-- The same expressions with other leaves. -/
def mapAll (f : σ → σ') (g : κ → κ') : List (Expr σ κ) → List (Expr σ' κ')
  | [] => []
  | e :: rest => e.map f g :: mapAll f g rest

end

mutual

/-- Whether some look has a property. -/
def anyLook (p : κ → Bool) : Expr σ κ → Bool
  | look k => p k
  | empty | step _ => false
  | group body | repetition _ _ body => body.anyLook p
  | sequence parts | choice parts => anyLookOf p parts

/-- Whether some look of several expressions has a property. -/
def anyLookOf (p : κ → Bool) : List (Expr σ κ) → Bool
  | [] => false
  | e :: rest => e.anyLook p || anyLookOf p rest

end

end Expr

end EchoInjector.Pattern
