import EchoInjector.Action
import EchoInjector.Address.Mac

/-!
# Network interfaces

A host may describe one interface in several entries, for instance one for each address. Entries
of one name belong together: the interface has the index of the first, the link-layer address of
the last entry that gives one, and every flag that any of them has.

An interface is chosen by its exact name. Who asks for a name that is not there is told all names
that are.
-/

namespace EchoInjector

open Text

/-- An interface, or one entry of a host's description of it. -/
structure Interface where
  name : String
  index : UInt32 := 0
  mac : Option Mac := none
  flags : UInt32 := 0
  deriving DecidableEq, Repr

namespace Interface

/-- Whether the interface is in operation, by its lowest flag. -/
def isUp (i : Interface) : Bool := i.flags &&& 1 != 0

/-- The same interface in operation, or not. -/
def setUp (i : Interface) (up : Bool) : Interface :=
  { i with flags := if up then i.flags ||| 1 else i.flags &&& ~~~1 }

/-- The link-layer address for packets that leave here; an interface without one sends zeros. -/
def sourceMac (i : Interface) : Mac := i.mac.getD .zero

/-! ### Entries of one name -/

/-- An entry with what a later entry of the same name adds. -/
def merge (i later : Interface) : Interface :=
  { i with
    mac := later.mac.orElse fun _ => i.mac
    flags := i.flags ||| later.flags }

/-- A list of interfaces with one more entry. -/
def absorb : List Interface → Interface → List Interface
  | [], e => [e]
  | i :: rest, e => if i.name = e.name then i.merge e :: rest else i :: absorb rest e

/-- The interfaces that a list of entries describes, in the order of their first entries. -/
def ofEntries (entries : List Interface) : List Interface :=
  entries.foldl absorb []

/-! ### Choosing by name -/

/-- The address of an interface in a diagnostic record. -/
def macNote (i : Interface) : String :=
  match i.mac with
  | some m => "Some(" ++ m.text ++ ")"
  | none => "None"

/-- The record of a successful search. -/
def foundNote (i : Interface) : String :=
  "found interface " ++ i.name ++ " (index " ++ decimal i.index.toNat ++ ", mac " ++ i.macNote
    ++ ", up " ++ (if i.isUp then "true" else "false") ++ ")"

/-- Chooses the first interface of a name. -/
def choose {σ : Type} (name : String) (interfaces : List Interface) : Action σ Interface :=
  match interfaces.find? (·.name = name) with
  | some i => do
    .say .debug .interfaces i.foundNote
    return i
  | none => .fail (.interfaceNotFound name (interfaces.map (·.name)))

end Interface

end EchoInjector
