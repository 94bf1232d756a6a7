import EchoInjector.Action
import EchoInjector.Wire.Octets

/-!
# Sending repeatedly

One run of octets is sent a given number of times, with a pause between two sends; the number
zero stands for no limit. A **stop flag** may be raised at any moment, by a signal or by the
medium itself, and stays raised. It is looked at before every send, and again and again during a
pause, which ends early once the flag is seen.

When the flag is raised is not in the program's hands. All that matters of it is how many looks
at it still find it lowered, so a schedule of the flag is just that number, the **quiet** looks:
every possible moment is one number, and a flag that is never raised is one that is larger than
all looks. With this number at hand sending always comes to an end, even without a limit.

The medium is any action that takes octets. Besides the number of octets sent it tells whether it
raised the flag.

Sends are counted in natural numbers, where the program has a counter of 64 bits. The two agree
below `2 ^ 64` sends, and no run goes further: a limit is itself a number of 64 bits, and without one
a run would have to make all these sends first.
-/

namespace EchoInjector

open Wire Text

/-- A successful attempt to send. -/
structure Delivery where
  /-- The number of octets sent. -/
  octets : Nat
  /-- Whether the stop flag was raised on this occasion. -/
  stops : Bool := false
  deriving DecidableEq, Repr

/-- The quiet looks that are left after a delivery: none once the flag is raised. -/
def Delivery.left (d : Delivery) (quiet : Nat) : Nat :=
  if d.stops then 0 else quiet

theorem Delivery.left_le (d : Delivery) (quiet : Nat) : d.left quiet ≤ quiet := by
  unfold Delivery.left
  split <;> omega

/-- What came of sending repeatedly. -/
structure Tally where
  /-- The number of sends; the same in a counter of 64 bits, below `2 ^ 64` sends. -/
  sent : Nat
  /-- The number of further looks that find the stop flag lowered. -/
  quiet : Nat
  deriving DecidableEq, Repr

namespace Transmission

/-! ### Pauses -/

/-- The time between two looks at the stop flag, in milliseconds. -/
def pollInterval : Nat := 50

/-- The number of looks at the stop flag in a pause of some milliseconds that is not cut short:
one at its beginning, one after each stretch between two looks, the last stretch possibly a
shorter one. -/
def pausePolls (interval : Nat) : Nat :=
  (interval + (pollInterval - 1)) / pollInterval + 1

/-- Quiet looks for a flag that is raised at the beginning of the pause behind some number of
sends. -/
def quietUntil (sends interval : Nat) : Nat :=
  sends * (1 + pausePolls interval) - pausePolls interval + 1

/-- Quiet looks that outlast a number of sends and the pauses between them. -/
def quietThrough (sends interval : Nat) : Nat :=
  sends * (1 + pausePolls interval)

/-- Quiet looks for a stop flag that nobody raises. Without a limit, sending is followed through
one send more than those whose answers are foreseen. -/
def undisturbed (foreseen count interval : Nat) : Nat :=
  quietThrough (if count = 0 then foreseen + 1 else count) interval

/-! ### Records -/

/-- The record of one send. -/
def sentNote (octets : Nat) (medium : String) (sent : Nat) : String :=
  "sent " ++ decimal octets ++ " bytes on " ++ medium ++ " (" ++ decimal sent ++ ")"

/-- The record of an interruption. -/
def interruptedNote (sent : Nat) : String :=
  "interrupted after " ++ decimal sent ++ " packet(s)"

/-! ### The loop -/

variable {σ : Type}

/-- Goes on sending, with some quiet looks left and some sends behind. `polls` is the number of
looks in a full pause. Below `2 ^ 64` sends, a counter of 64 bits goes through the same numbers. -/
def resume (medium : String) (transmit : Action σ Delivery) (count polls : Nat) :
    (quiet sent : Nat) → Action σ Tally
  | 0, sent => do
    .say .info .sending (interruptedNote sent)
    return ⟨sent, 0⟩
  | quiet + 1, sent => do
    let d ← transmit
    .say .info .sending (sentNote d.octets medium (sent + 1))
    if count ≠ 0 ∧ sent + 1 = count then return ⟨sent + 1, d.left quiet⟩
    else resume medium transmit count polls (d.left quiet - polls) (sent + 1)
termination_by quiet => quiet
decreasing_by
  have := d.left_le quiet
  omega

/-- Sends octets a number of times, zero for no limit, with pauses of some milliseconds between
two sends, until the stop flag is found raised. -/
def send (medium : String) (transmit : Octets → Action σ Delivery) (octets : Octets)
    (count interval quiet : Nat) : Action σ Tally :=
  resume medium (transmit octets) count (pausePolls interval) quiet 0

end Transmission

end EchoInjector
