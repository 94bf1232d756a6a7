import EchoInjector.CommandLine
import EchoInjector.Failure.Report
import EchoInjector.HexDump
import EchoInjector.Log.Filter
import EchoInjector.Run

/-!
# The program

The program turns its arguments and its environment into what it prints, an exit status, and
packets that the host has accepted.

Asking for help or the version is answered at once. A misuse of the command line has exit status
two. Everything else begins with setting up the log and noting the plan; then the packet is either
shown or sent. A failure has exit status one and is reported, in its context, behind the log; in
this case **nothing is written to standard output**, whatever was already sent. Otherwise standard
output has the summary of the packet, and behind it either a hex dump or the number of packets
sent; or, if the user wants a document, all of it as one.
-/

namespace EchoInjector.Program

open Text CommandLine

/-- How the program is started, and what happens to it. -/
structure Invocation where
  /-- The arguments, without the name of the program. -/
  arguments : List String
  /-- The environment. -/
  env : Environment
  /-- The time that log records carry. -/
  time : String
  /-- The number of sends behind which the user interrupts the program, if so. -/
  interruptedAfter : Option Nat := none

/-- What the program leaves behind. -/
structure Outcome where
  /-- The exit status. -/
  status : UInt32
  /-- What is written to standard output. -/
  stdout : String
  /-- What is written to standard error. -/
  stderr : String
  /-- The host afterwards. -/
  host : Host

/-- The variable that holds the specification of the log. -/
def logVariable : String := "RUST_LOG"

/-- The filter of the log, and the warnings about its specification. -/
def logFilter (level : Log.Level) (env : Environment) : Log.Filter × List String :=
  match env logVariable with
  | none => (.base level, [])
  | some specification => (Log.Filter.base level).extend specification

/-- Lines one below the other. -/
def unlines (lines : List String) : String :=
  String.join (lines.map (· ++ "\n"))

/-- Quiet looks at the stop flag in an invocation. -/
def quiet (i : Invocation) (p : Plan) (h : Host) : Nat :=
  match i.interruptedAfter with
  | some sends => Transmission.quietUntil sends p.interval.toNat
  | none => p.undisturbed h

/-! ### What is printed -/

/-- The answer to a plan that only shows its packet. -/
def showText (p : Plan) (wire : Wire.Octets) (s : Summary) : String :=
  if p.json then s.json.pretty ++ "\n"
  else s.line ++ "\n" ++ HexDump.render wire

/-- The answer to a plan that was carried out. -/
def reportText (p : Plan) (r : Report) : String :=
  if p.json then r.json.pretty ++ "\n"
  else r.frame.line ++ "\n" ++ "Sent " ++ decimal r.sent ++ " packets.\n"

/-- The context of a failure to show a packet. -/
def showContext : String := "failed to build the probe"

/-- The context of a failure to carry out a plan. -/
def runContext (p : Plan) : String := "failed to send probe on " ++ p.iface

/-- The line about a failure. -/
def failureText (context : String) (f : Failure) : String :=
  "Error: " ++ Failure.report (f.chain [context]) ++ "\n"

/-! ### What is done -/

/-- Shows the packet of a plan. The host is not asked for anything. -/
def showPacket (p : Plan) : Except Failure String := do
  let (wire, summary) ← p.craft (p.probe.srcMac.getD .zero)
  return showText p wire summary

/-- Does what a plan says, with some quiet looks at the stop flag: the text for standard output, or
the failure; the host afterwards; and the records written. -/
def perform (quiet : Nat) (p : Plan) (h : Host) : Effect Host String :=
  if p.dryRun then ⟨showPacket p, h, []⟩
  else
    let effect := (p.run quiet).run h
    { effect with result := effect.result.map (reportText p) }

/-- The context of a failure of a plan. -/
def context (p : Plan) : String :=
  if p.dryRun then showContext else runContext p

/-- Does what the arguments say, with some quiet looks at the stop flag, and logs it. -/
def carryOut (quiet : Nat) (i : Invocation) (a : Arguments) (h : Host) : Outcome :=
  let p := a.plan
  let (filter, warnings) := logFilter a.logLevel i.env
  let effect := perform quiet p h
  let records := ⟨.debug, .program, p.note⟩ :: effect.log
  let logged := unlines warnings
    ++ String.join ((records.filter filter.admits).map (·.line i.time))
  match effect.result with
  | .ok text => ⟨0, text, logged, effect.state⟩
  | .error f => ⟨1, "", logged ++ failureText (context p) f, effect.state⟩

/-- The whole program, with quiet looks at the stop flag that may depend on the plan. -/
def runUnder (quiet : Plan → Nat) (i : Invocation) (h : Host) : Outcome :=
  match parse i.arguments i.env with
  | .error .help => ⟨0, Terminal.piped (styledHelp i.env), "", h⟩
  | .error .version => ⟨0, version, "", h⟩
  | .error (.misuse m) => ⟨2, "", Terminal.piped m.styled, h⟩
  | .ok a => carryOut (quiet a.plan) i a h

/-- The whole program. -/
def run (i : Invocation) (h : Host) : Outcome := runUnder (fun p => quiet i p h) i h

end EchoInjector.Program
