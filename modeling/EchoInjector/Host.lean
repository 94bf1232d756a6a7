import EchoInjector.Host.Interface
import EchoInjector.Address.IPv4

/-!
# The host

A host is everything about the operating system that decides what becomes of a packet: who runs
the program, the interfaces, whether packets can be routed, and which calls are going to be
refused. It also keeps the packets it has accepted.

Refusals are foreseen in a **list of answers**, one for each attempt to send, in order. Once the
list is used up, every attempt is answered in the ordinary way, from the state of the interfaces
and routes. An attempt that is merely interrupted is repeated at once, so its answer is passed
over.

Opening a channel and sending are the only calls. Opening never changes a host; a send takes its
answers off the list and, if it succeeds, adds one packet.
-/

namespace EchoInjector

open Wire

/-- How a packet leaves the host. -/
inductive Route
  /-- Through the interface of an index. -/
  | interface (index : UInt32)
  /-- Towards an address, wherever the host routes it. -/
  | address (dst : IPv4)
  deriving DecidableEq, Repr

/-- A packet that the host has accepted. -/
structure Packet where
  route : Route
  octets : Octets
  deriving DecidableEq, Repr

/-- A foreseen answer to an attempt to send. -/
inductive Answer
  /-- Whatever the interfaces and routes lead to. -/
  | ordinary
  /-- The packet is refused for a reason. -/
  | refuse (number : Nat)
  /-- The packet is accepted, and so many octets are reported as sent. -/
  | accept (reported : Nat)
  deriving DecidableEq, Repr

/-- With which rights the program runs. -/
inductive Privilege
  | root
  | unprivileged
  deriving DecidableEq, Repr

/-- The name of a privilege. -/
def Privilege.name : Privilege → String
  | .root => "root"
  | .unprivileged => "unprivileged"

/-- The state of the operating system. A host of which nothing is said is a bare one: all that it
has is a loopback interface, and that one is not in operation. -/
structure Host where
  /-- The user that the program acts for. -/
  uid : Nat := 0
  /-- The entries that describe the interfaces. -/
  entries : List Interface := [{ name := "lo", index := 1, mac := some .zero, flags := 8 }]
  /-- Whether packets to any address can be routed. -/
  routes : Bool := false
  /-- Why no socket can be had, if so. -/
  socketRefusal : Option Nat := none
  /-- Why no socket can be bound to an interface, if so. -/
  bindRefusal : Option Nat := none
  /-- The foreseen answers to attempts to send. -/
  answers : List Answer := []
  /-- The packets accepted so far, in order. -/
  accepted : Array Packet := #[]
  deriving DecidableEq, Repr

namespace Host

/-! ### Reasons for a refusal -/

/-- The call needs rights that the user does not have. -/
def notPermitted : Nat := 1

/-- The call was interrupted before it did anything. -/
def interrupted : Nat := 4

/-- There is no such interface. -/
def noSuchDevice : Nat := 19

/-- The packet is longer than the link can ever take. -/
def messageTooLong : Nat := 90

/-- The interface is not in operation. -/
def networkDown : Nat := 100

/-- No route leads to the address. -/
def networkUnreachable : Nat := 101

/-! ### What the host is -/

/-- The rights of the program. -/
def privilege (h : Host) : Privilege := if h.uid = 0 then .root else .unprivileged

/-- The interfaces of the host. -/
def interfaces (h : Host) : List Interface := Interface.ofEntries h.entries

/-- The first entry with an index. -/
def entry? (h : Host) (index : UInt32) : Option Interface :=
  h.entries.find? (·.index = index)

/-- Whether the host can send to itself. -/
def loopbackUp (h : Host) : Bool :=
  h.entries.any fun i => i.name = "lo" && i.isUp

/-- The same host with its loopback interface in operation, or not. -/
def setLoopback (h : Host) (up : Bool) : Host :=
  { h with entries := h.entries.map fun i => if i.name = "lo" then i.setUp up else i }

/-! ### Opening -/

/-- Asks for a socket, for which the program needs all rights. -/
def openSocket (h : Host) : Except SystemError Unit :=
  match h.privilege, h.socketRefusal with
  | .unprivileged, _ => .error (.number notPermitted)
  | .root, some n => .error (.number n)
  | .root, none => .ok ()

/-- Asks for a socket that is bound to the interface of an index. -/
def openBound (h : Host) (index : UInt32) : Except SystemError Unit := do
  h.openSocket
  match h.bindRefusal, h.entry? index with
  | some n, _ => .error (.number n)
  | none, none => .error (.number noSuchDevice)
  | none, some _ => .ok ()

/-! ### Sending -/

/-- The next answer that is not an interruption, and the answers behind it. -/
def nextAnswer : List Answer → Answer × List Answer
  | [] => (.ordinary, [])
  | a :: rest => if a = .refuse interrupted then nextAnswer rest else (a, rest)

/-- Why a packet cannot leave in the ordinary way, if so. -/
def obstacle? (h : Host) (p : Packet) : Option Nat :=
  match p.route with
  | .interface index =>
    match h.entry? index with
    | none => some noSuchDevice
    | some i => if i.isUp then none else some networkDown
  | .address dst =>
    if 65535 < p.octets.length then some messageTooLong
    else if h.routes || (dst.isLoopback && h.loopbackUp) then none
    else some networkUnreachable

/-- What becomes of a packet under an answer: the reason for refusing it, or the number of octets
reported as sent. -/
def verdict (h : Host) (p : Packet) : Answer → Except SystemError Nat
  | .refuse n => .error (.number n)
  | .accept reported => .ok reported
  | .ordinary =>
    match h.obstacle? p with
    | some n => .error (.number n)
    | none => .ok p.octets.length

/-- One attempt to send a packet. -/
def send (h : Host) (p : Packet) : Except SystemError Nat × Host :=
  let (answer, rest) := nextAnswer h.answers
  match h.verdict p answer with
  | .error e => (.error e, { h with answers := rest })
  | .ok n => (.ok n, { h with answers := rest, accepted := h.accepted.push p })

end Host

end EchoInjector
