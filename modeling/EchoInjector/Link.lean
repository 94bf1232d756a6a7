import EchoInjector.Host
import EchoInjector.Packet.Datagram

/-!
# Links

A link is an open way to send. It leads either through one interface, and then it takes whole
frames, or to one address through the host's routes, and then it takes datagrams. Where a packet
goes is decided by the link alone and never by the octets of the packet.

A link to an address insists that there is room for a header in what it is given. It passes on
how many octets the host reports as sent; a link through an interface reports the whole frame.
-/

namespace EchoInjector

open Wire

/-- An open way to send. -/
inductive Link
  /-- Through the interface of a name and an index. -/
  | ethernet (name : String) (index : UInt32)
  /-- To an address. -/
  | ipv4 (dst : IPv4)
  deriving DecidableEq, Repr

namespace Link

/-- The name under which failures speak of links to an address. -/
def ipv4Name : String := "raw ipv4"

/-- How log records speak of a link. -/
def describe : Link → String
  | .ethernet name _ => name
  | .ipv4 dst => ipv4Name ++ " to " ++ dst.text

/-- Where the packets of a link go. -/
def route : Link → Route
  | .ethernet _ index => .interface index
  | .ipv4 dst => .address dst

/-- The record that a channel through an interface is open. -/
def openNote (name : String) : String := "datalink channel open on " ++ name

/-- Opens a link through an interface, which has to be up. -/
def openEthernet (i : Interface) : Action Host Link := do
  if i.isUp then
    match (← Action.get).openBound i.index with
    | .error e => .fail (.channelOpen i.name e)
    | .ok () =>
      .say .debug .sending (openNote i.name)
      return .ethernet i.name i.index
  else .fail (.interfaceDown i.name)

/-- Opens a link to an address. -/
def openIPv4 (dst : IPv4) : Action Host Link := do
  match (← Action.get).openSocket with
  | .error e => .fail (.channelOpen ipv4Name e)
  | .ok () =>
    .say .debug .sending ("raw ipv4 channel open towards " ++ dst.text)
    return .ipv4 dst

/-- Hands a packet to the host. -/
def pass (l : Link) (octets : Octets) : Action Host Nat := fun h =>
  match h.send ⟨l.route, octets⟩ with
  | (.error e, h') => ⟨.error (.sendFailed e), h', []⟩
  | (.ok n, h') => ⟨.ok n, h', []⟩

/-- Sends a packet once and gives the number of octets sent. -/
def transmit (l : Link) (octets : Octets) : Action Host Nat :=
  match l with
  | .ethernet .. => do
    let _ ← l.pass octets
    return octets.length
  | .ipv4 _ =>
    if octets.length < Packet.Datagram.headerLength then .fail (.truncated "ipv4 header")
    else l.pass octets

end Link

end EchoInjector
