import EchoInjector.Link
import EchoInjector.Plan
import EchoInjector.Transmission

/-!
# Carrying out a plan

A run finds the interface, builds the packet, opens a link and sends. Each of these steps can
fail, and **the order of the steps decides which failure is reported**: an interface that does
not exist comes before a payload that is too long, and that before an interface that is down. A
run by the host's routes asks for no interface at all.

Only the last step has any effect on the host. A run that is interrupted succeeds; its report
gives the number of packets that were sent until then.
-/

namespace EchoInjector

open Text

/-- What came of a run. -/
structure Report where
  /-- The interface named in the plan. -/
  iface : String
  /-- The number of packets sent. -/
  sent : Nat
  /-- The summary of the packet. -/
  frame : Summary
  deriving DecidableEq, Repr

/-- The report as a document. -/
def Report.json (r : Report) : Json :=
  .object [("iface", .text r.iface), ("sent", .number r.sent), ("frame", r.frame.json)]

namespace Plan

/-- The warning to users without the rights that sending usually takes. -/
def privilegeNote (p : Privilege) : String :=
  "running " ++ p.name ++ "; raw sends need root or CAP_NET_RAW"

/-- The record of a packet that is ready to be sent. -/
def craftedNote (length : Nat) (s : Summary) : String :=
  "crafted " ++ decimal length ++ " bytes: " ++ s.line

/-- Warns a user without all rights. -/
def warnUnprivileged : Action Host Unit := do
  match (← Action.get).privilege with
  | .root => return ()
  | .unprivileged => .say .warn .sending (privilegeNote .unprivileged)

/-- Everything before the first send: the link, the packet and its summary. -/
def prepare (p : Plan) : Action Host (Link × Wire.Octets × Summary) :=
  match p.mode with
  | .layer2 => do
    let i ← Interface.choose p.iface (← Action.get).interfaces
    let (wire, summary) ← .ofExcept (p.craft i.sourceMac)
    let link ← Link.openEthernet i
    return (link, wire, summary)
  | .layer3 => do
    let (wire, summary) ← .ofExcept (p.craft .zero)
    let link ← Link.openIPv4 p.probe.dst
    return (link, wire, summary)

/-- One send of a link, which never raises the stop flag. -/
def deliver (link : Link) (octets : Wire.Octets) : Action Host Delivery := do
  let n ← link.transmit octets
  return { octets := n }

/-- Carries out a plan, with some quiet looks at the stop flag. -/
def run (p : Plan) (quiet : Nat) : Action Host Report := do
  warnUnprivileged
  let (link, wire, summary) ← p.prepare
  .say .debug .sending (craftedNote wire.length summary)
  let tally ← Transmission.send link.describe (deliver link) wire p.count.toNat p.interval.toNat
    quiet
  return { iface := p.iface, sent := tally.sent, frame := summary }

/-- Quiet looks for a stop flag that nobody raises during a run. -/
def undisturbed (p : Plan) (h : Host) : Nat :=
  Transmission.undisturbed h.answers.length p.count.toNat p.interval.toNat

end Plan

end EchoInjector
