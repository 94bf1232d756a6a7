import EchoInjector.SystemError

/-!
# Failures

Everything that can go wrong between a plan and a sent packet has a cause, and each cause is a
constructor here. `Failure.message` words it for a person and `Failure.source?` names what lies
below it, where something does: only the three causes that begin with a refusal by the operating
system have a source.
-/

namespace EchoInjector

open Text

/-- Why a packet could not be built, read or sent. -/
inductive Failure
  /-- No interface has the wanted name; these are the names there are. -/
  | interfaceNotFound (name : String) (available : List String)
  /-- The interface is not up. -/
  | interfaceDown (name : String)
  /-- The interface has a channel of another kind. -/
  | unsupportedChannel (name : String)
  /-- No channel could be opened. -/
  | channelOpen (name : String) (cause : SystemError)
  /-- A packet was not accepted. -/
  | sendFailed (cause : SystemError)
  /-- The channel had no room to try. -/
  | sendRefused
  /-- The payload is longer than one datagram can carry. -/
  | payloadTooLarge (length : Nat)
  /-- There was not enough room to lay out a packet. -/
  | buildFailed (what : String)
  /-- A packet ends before the named part does. -/
  | truncated (what : String)
  /-- A packet is of another protocol. -/
  | unexpectedProtocol (what : String)
  /-- Interruptions could not be arranged for. -/
  | signal (cause : SystemError)
  deriving DecidableEq, Repr

namespace Failure

/-- The wording of a failure. -/
def message : Failure → String
  | .interfaceNotFound name available =>
    "interface " ++ name ++ " not found (available: " ++ ", ".intercalate available ++ ")"
  | .interfaceDown name => "interface " ++ name ++ " is down"
  | .unsupportedChannel name => "interface " ++ name ++ " does not offer an ethernet channel"
  | .channelOpen name cause => "failed to open channel on " ++ name ++ ": " ++ cause.message
  | .sendFailed cause => "packet send failed: " ++ cause.message
  | .sendRefused => "send buffer refused the frame"
  | .payloadTooLarge length =>
    "payload of " ++ decimal length ++ " bytes does not fit in one IPv4 packet"
  | .buildFailed what => "packet construction failed: " ++ what
  | .truncated what => "truncated " ++ what
  | .unexpectedProtocol what => "unexpected protocol: " ++ what
  | .signal cause => "failed to install signal handler: " ++ cause.message

/-- What lies below a failure, in words. -/
def source? : Failure → Option String
  | .channelOpen _ cause | .sendFailed cause | .signal cause => some cause.message
  | _ => none

end Failure

end EchoInjector
