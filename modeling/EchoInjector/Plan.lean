import EchoInjector.Probe.Encoding
import EchoInjector.Summary.Decoding
import EchoInjector.Text.Duration
import EchoInjector.Text.Quoted

/-!
# Plans

A plan says what the program is to do: which probe to send, through which interface or by the
host's routes, how often and with which pauses, or whether only to show the packet.

`Plan.craft` builds the plan's packet and reads it back, so that what is shown and reported is
what a receiver of these very octets would see.
-/

namespace EchoInjector

open Wire Text

/-- In which form packets leave. -/
inductive Mode
  /-- As whole frames through one interface. -/
  | layer2
  /-- As datagrams by the host's routes. -/
  | layer3
  deriving DecidableEq, Repr

/-- The name of a mode. -/
def Mode.name : Mode → String
  | .layer2 => "Layer2"
  | .layer3 => "Layer3"

/-- What the program is to do. -/
structure Plan where
  /-- The interface to send through. -/
  iface : String := "tun0"
  /-- The packet to send. -/
  probe : Probe := {}
  /-- The form in which it leaves. -/
  mode : Mode := .layer2
  /-- How often to send, zero for no limit. -/
  count : UInt64 := 1
  /-- The pause between two sends in milliseconds. -/
  interval : UInt64 := 1000
  /-- Whether only to show the packet. -/
  dryRun : Bool := false
  /-- Whether to answer with a document. -/
  json : Bool := false
  deriving DecidableEq, Repr

namespace Plan

/-- The plan of a user who asks for nothing in particular. -/
def standard : Plan := {}

/-- The packet of a plan and its summary. The given address is the sender's where the probe
leaves it open. -/
def craft (p : Plan) (srcMac : Mac) : Except Failure (Octets × Summary) :=
  match p.mode with
  | .layer2 => do
    let wire ← p.probe.frame srcMac
    return (wire, ← Summary.ofFrame wire)
  | .layer3 => do
    let wire ← p.probe.datagram
    return (wire, ← Summary.ofDatagram wire)

/-! ### The diagnostic form -/

/-- A yes or no in a diagnostic record. -/
def boolNote (b : Bool) : String := if b then "true" else "false"

/-- A probe in a diagnostic record. -/
def probeNote (p : Probe) : String :=
  "EchoProbe \x7b dst_mac: " ++ p.dstMac.text
    ++ ", src_mac: " ++ p.srcMac.elim "None" (fun m => "Some(" ++ m.text ++ ")")
    ++ ", src: " ++ p.src.text
    ++ ", dst: " ++ p.dst.text
    ++ ", ttl: " ++ decimal p.ttl.toNat
    ++ ", ip_ident: " ++ decimal p.ipIdent.toNat
    ++ ", icmp_type: " ++ decimal p.icmpType.toNat
    ++ ", icmp_code: " ++ decimal p.icmpCode.toNat
    ++ ", icmp_identifier: " ++ decimal p.icmpIdent.toNat
    ++ ", icmp_seq_number: " ++ decimal p.icmpSeq.toNat
    ++ ", payload: [" ++ ", ".intercalate (p.payload.map fun b => decimal b.toNat) ++ "] \x7d"

/-- A plan in a diagnostic record. -/
def note (p : Plan) : String :=
  "Config \x7b iface: " ++ quoted p.iface
    ++ ", probe: " ++ probeNote p.probe
    ++ ", mode: " ++ p.mode.name
    ++ ", count: " ++ decimal p.count.toNat
    ++ ", interval: " ++ duration p.interval.toNat
    ++ ", dry_run: " ++ boolNote p.dryRun
    ++ ", json: " ++ boolNote p.json ++ " \x7d"

end Plan

end EchoInjector
