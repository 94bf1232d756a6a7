import EchoInjector.Program

/-!
# The command

The command passes its arguments and its environment to the program and writes out what comes of
it. It has no way to the network itself, so it works on a host without interfaces that lets nobody
open a socket: packets can be shown, and attempts to send them fail in the ordinary way.
-/

namespace EchoInjector.Main

/-- The host that the command works on. -/
def isolatedHost : Host := { uid := 65534, entries := [] }

/-- The variables that the program may ask for. -/
def variableNames : List String :=
  Program.logVariable :: CommandLine.Setting.all.map (·.envName)

/-- The values of the variables that are set. -/
def environment : IO (List (String × String)) := do
  let mut known := []
  for name in variableNames do
    if let some value ← IO.getEnv name then
      known := (name, value) :: known
  return known

end EchoInjector.Main

/-- Runs the program once. -/
def main (arguments : List String) : IO UInt32 := do
  let known ← EchoInjector.Main.environment
  let time := EchoInjector.Text.decimal (← IO.monoMsNow)
  let outcome := EchoInjector.Program.run
    { arguments, env := fun name => known.lookup name, time } EchoInjector.Main.isolatedHost
  (← IO.getStderr).putStr outcome.stderr
  (← IO.getStdout).putStr outcome.stdout
  return outcome.status
