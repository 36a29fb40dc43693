import XdpEcho.CommandLine.Help
import XdpEcho.CommandLine.Request
import XdpEcho.Daemon
import XdpEcho.Log.Line

/-!
The command line of the daemon, over a modelled kernel in which there is nothing yet.
-/

namespace XdpEcho

/-- The most turns that an engine takes here. -/
def turnLimit : Nat := 1000000

/-- Does what the command line asks for and returns the exit code. -/
def answerRequest (request : Request) : IO UInt32 := do
  match request with
  | .help long =>
    IO.print (About.help long)
    return 0
  | .version =>
    IO.print About.version
    return 0
  | .misuse error =>
    IO.eprintln s!"error: {error.message}"
    return 2
  | .run options =>
    let outcome := Daemon.run options turnLimit (.boot .empty)
    for event in outcome.events do
      IO.println event.line
    return UInt32.ofNat outcome.exitCode

end XdpEcho

def main (arguments : List String) : IO UInt32 :=
  XdpEcho.answerRequest (.ofArguments arguments)
