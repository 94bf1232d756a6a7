import EchoInjector.CommandLine.Help
import EchoInjector.Log
import EchoInjector.Plan

/-!
# From a command line to a plan

The arguments of a run are the values of all settings, given or default, and the flags. They
determine the plan: each setting goes into one field of it, the payload comes from its text or is
made of as many zeros as its length asks for. They also determine how much is logged.
-/

namespace EchoInjector.CommandLine

open Wire

/-- The arguments of a run. -/
structure Arguments where
  iface : String
  dstMac : Mac
  srcMac : Option Mac
  src : IPv4
  dst : IPv4
  ttl : UInt8
  ipIdent : UInt16
  icmpType : UInt8
  icmpCode : UInt8
  ident : UInt16
  seq : UInt16
  payload : Option String
  payloadLength : Option UInt16
  count : UInt64
  interval : UInt64
  layer3 : Bool
  dryRun : Bool
  json : Bool
  verbose : Nat
  quiet : Bool
  deriving DecidableEq, Repr

namespace Arguments

/-- The arguments that entries give, the others at their defaults. -/
def ofEntries (es : List Entry) : Arguments where
  iface := (valueGiven? es .iface).getD Plan.standard.iface
  dstMac := (valueGiven? es .dstMac).getD Plan.standard.probe.dstMac
  srcMac := valueGiven? es .srcMac
  src := (valueGiven? es .src).getD Plan.standard.probe.src
  dst := (valueGiven? es .dst).getD Plan.standard.probe.dst
  ttl := (valueGiven? es .ttl).getD Plan.standard.probe.ttl
  ipIdent := (valueGiven? es .ipIdent).getD Plan.standard.probe.ipIdent
  icmpType := (valueGiven? es .icmpType).getD Plan.standard.probe.icmpType
  icmpCode := (valueGiven? es .icmpCode).getD Plan.standard.probe.icmpCode
  ident := (valueGiven? es .ident).getD Plan.standard.probe.icmpIdent
  seq := (valueGiven? es .seq).getD Plan.standard.probe.icmpSeq
  payload := valueGiven? es .payload
  payloadLength := valueGiven? es .payloadLength
  count := (valueGiven? es .count).getD Plan.standard.count
  interval := (valueGiven? es .interval).getD Plan.standard.interval
  layer3 := isGiven es (.flag .layer3)
  dryRun := isGiven es (.flag .dryRun)
  json := isGiven es (.flag .json)
  verbose := verbosity es
  quiet := isGiven es (.flag .quiet)

/-- The most talkative level that the user wants to see. -/
def logLevel (a : Arguments) : Log.Level :=
  if a.quiet then .warn
  else match a.verbose with
    | 0 => .info
    | 1 => .debug
    | _ => .trace

/-- The octets of the payload: a text in its usual encoding, or zeros. -/
def payloadOctets (a : Arguments) : Octets :=
  match a.payload, a.payloadLength with
  | some text, _ => text.toUTF8.data.toList
  | none, some n => List.replicate n.toNat 0
  | none, none => []

/-- The plan of a run. -/
def plan (a : Arguments) : Plan where
  iface := a.iface
  probe := {
    dstMac := a.dstMac
    srcMac := a.srcMac
    src := a.src
    dst := a.dst
    ttl := a.ttl
    ipIdent := a.ipIdent
    icmpType := a.icmpType
    icmpCode := a.icmpCode
    icmpIdent := a.ident
    icmpSeq := a.seq
    payload := a.payloadOctets }
  mode := if a.layer3 then .layer3 else .layer2
  count := a.count
  interval := a.interval
  dryRun := a.dryRun
  json := a.json

end Arguments

/-- The arguments of a command line in an environment. -/
def parse (texts : List String) (env : Environment) : Except Ending Arguments :=
  (entries texts env).map Arguments.ofEntries

end EchoInjector.CommandLine
