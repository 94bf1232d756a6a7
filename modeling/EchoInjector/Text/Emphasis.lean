import EchoInjector.Text.Numeral

/-!
# Emphasis

Messages for a person set off some of their parts, and a terminal shows these parts stronger,
underlined or in a colour. An emphasis is switched on in front of a part and off behind it, each
time by a **control sequence** with the number of what is switched.

A message that does not go to a terminal loses these sequences again. They still matter there,
because each of them ends whatever sequence the part before it has left open.
-/

namespace EchoInjector.Text

/-- How a part of a message is set off. -/
inductive Emphasis
  /-- What can be typed as it stands. -/
  | literal
  /-- A heading. -/
  | heading
  /-- The word that announces an error. -/
  | alarm
  /-- What the user typed and should not have. -/
  | mistaken
  deriving DecidableEq, Repr

namespace Emphasis

/-- The numbers that switch an emphasis on: 1 is bold, 4 is underlined, 31 is red, 33 is yellow. -/
def codes : Emphasis → List Nat
  | literal => [1]
  | heading => [1, 4]
  | alarm => [1, 31]
  | mistaken => [33]

/-- The control sequence of a number. -/
def switch (code : Nat) : String := "\x1b[" ++ decimal code ++ "m"

/-- A text that is set off. -/
def mark (e : Emphasis) (s : String) : String :=
  String.join (e.codes.map switch) ++ s ++ switch 0

end Emphasis

end EchoInjector.Text
