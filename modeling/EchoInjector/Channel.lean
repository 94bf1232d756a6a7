import EchoInjector.Link
import EchoInjector.Transmission

/-!
# Channels with foreseen answers

A link can also be laid over a channel that is not the host's. Such a channel stands in for an
interface where the behaviour of the medium is to be chosen, for example one that has no room or
that raises the stop flag. Its answers are given in advance, one for each send; once they are
used up it accepts everything.

The channel counts the attempts and keeps what it has accepted. So that sending without a limit
ends, it can be told to raise the stop flag with every packet it accepts from some attempt on.
-/

namespace EchoInjector

open Wire

/-- How a channel answers an attempt to send. -/
inductive ChannelAnswer
  /-- It takes the octets. -/
  | accept
  /-- It takes the octets, and the stop flag is raised. -/
  | acceptAndStop
  /-- It has no room. -/
  | noRoom
  /-- It fails for a reason in its own words. -/
  | fail (text : String)
  deriving DecidableEq, Repr

/-- A channel whose answers are given in advance. -/
structure Channel where
  /-- The name of the interface it stands in for. -/
  name : String
  /-- The answers that are left. -/
  answers : List ChannelAnswer
  /-- The attempt from which on accepted octets raise the stop flag. -/
  stopFrom : Option Nat := none
  /-- The number of attempts so far. -/
  attempts : Nat := 0
  /-- What has been accepted so far, in order. -/
  accepted : Array Octets := #[]

namespace Channel

/-- Lays a link over a channel. -/
def attach {σ : Type} (c : Channel) : Action σ Channel := do
  .say .debug .sending (Link.openNote c.name)
  return c

/-- Sends octets once. -/
def transmit (octets : Octets) : Action Channel Delivery := fun c =>
  let attempts := c.attempts + 1
  let tried := { c with attempts, answers := c.answers.tail }
  let taken := { tried with accepted := c.accepted.push octets }
  let overdue := c.stopFrom.any (· ≤ attempts)
  match c.answers.headD .accept with
  | .accept => ⟨.ok ⟨octets.length, overdue⟩, taken, []⟩
  | .acceptAndStop => ⟨.ok ⟨octets.length, true⟩, taken, []⟩
  | .noRoom => ⟨.error .sendRefused, tried, []⟩
  | .fail text => ⟨.error (.sendFailed (.described text)), tried, []⟩

/-- Quiet looks for a stop flag that nothing but the channel raises. -/
def undisturbed (c : Channel) (count interval : Nat) : Nat :=
  Transmission.undisturbed (c.answers.length + c.stopFrom.getD 0) count interval

end Channel

end EchoInjector
