import XdpEcho.CommandLine.Options
import XdpEcho.Log.Filter
import XdpEcho.Socket.Program
import XdpEcho.Socket.Service

/-!
# The daemon

The whole program over a modelled kernel: it attaches the redirect program or finds the socket map of one that is
attached, builds the socket and its engine, and runs the engine until it is told to end or the engine fails. In the
end everything is released, whatever the reason.

* `Daemon.run` gives the exit code, the events that are logged, and the trace.
-/

namespace XdpEcho

/-- Why the daemon ends with a failure: what it was doing, and the causes, each the cause of the one before. -/
structure Failure where
  causes : List String
  deriving DecidableEq

namespace Failure

def message (f : Failure) : String := ": ".intercalate f.causes

def ofSocket (context : List String) (error : SocketError) : Failure :=
  ⟨context ++ [error.message] ++ error.source?.toList.map SystemError.message⟩

end Failure

/-- What a run of the daemon leaves behind. -/
structure DaemonOutcome where
  exitCode : Nat
  events : List Event
  trace : List TraceEntry

namespace Daemon

open Kernel

/-- What the daemon does, and may fail to do. -/
abbrev DaemonM := ExceptT Failure KernelM

/-- Says what was being done when something fails. -/
def explaining {α : Type} (context : String) (action : Acquisition α) : DaemonM α :=
  ExceptT.mk do return (← action.run).mapError (Failure.ofSocket [context])

/-- Loads and attaches the redirect program, when there is an object file with one. -/
def attachProgram (o : Options) : DaemonM (Option RedirectProgram) :=
  o.object.mapM fun path =>
    explaining s!"attaching XDP program to {o.device}" (RedirectProgram.load path o.program o.device o.attachMode)

/-- Detaches the redirect program, when there is one. -/
def detachProgram (program : Option RedirectProgram) : KernelM Unit :=
  program.forM RedirectProgram.detach

/-- Takes the socket map out of the redirect program, or opens the pinned one when there is no program. -/
def openMap (o : Options) (program : Option RedirectProgram) : DaemonM (BpfMap × Option RedirectProgram) := do
  match program with
  | none =>
    let path := o.mapPin.getD (SocketMap.pinnedPath o.device o.mapName)
    return (← explaining s!"opening socket map for {o.device}" (SocketMap.openPinned path), none)
  | some program =>
    let (taken, program) ← program.takeSocketMap o.mapName
    match taken with
    | .ok map => return (map, some program)
    | .error error =>
      program.detach
      throw (Failure.ofSocket [] error)

/-- The trace up to the end of the call that is under way. -/
def throughCall : List TraceEntry → List TraceEntry
  | [] => []
  | .called call result :: _ => [.called call result]
  | entry :: rest => entry :: throughCall rest

/-- The trace up to the end of the call in which the program is told to end. What the engine still does after that
depends on how fast it is stopped, and is not part of the trace. -/
def throughSignal : List TraceEntry → List TraceEntry
  | [] => []
  | .acted kind number (.signal source) result :: rest =>
    .acted kind number (.signal source) result :: throughCall rest
  | entry :: rest => entry :: throughSignal rest

/-- Runs the engine of a service until it ends. The engine looks at its stop flag so many times at most. -/
def runEngine (o : Options) (service : EchoService) (looks : Nat) : KernelM (Except SocketError Unit) := fun env =>
  let started := (service.start env).mapEnv (·.emit (.running o.device o.queue))
  let (result, ended) := service.engine.run looks started
  let env := service.finish ended
  (result.getD (.ok ()), env.mapWorld fun k => { k with trace := (throughSignal k.trace.toList).toArray })

def reportStatistics (socket : SocketBinding) : KernelM Unit := do
  match ← socket.statistics with
  | .ok counters => emit (.kernelStatistics counters)
  | .error error => emit (.statisticsUnavailable error)

/-- Everything from the check of the configuration to the release of the last resource. -/
def serve (o : Options) (looks : Nat) : DaemonM Unit := do
  match o.config.validate with
  | .error error => throw (Failure.ofSocket ["invalid configuration"] (.configuration error))
  | .ok () =>
    match ← raiseMemoryLimit with
    | .error error => throw ⟨["raising RLIMIT_MEMLOCK", error.message]⟩
    | .ok () =>
      let (map, program) ← openMap o (← attachProgram o)
      let release : KernelM Unit := do
        close map.fd
        detachProgram program
      let service ← Acquisition.guarding release <|
        explaining s!"binding AF_XDP socket to {o.device} queue {o.queue}" <|
          EchoService.build (.opened map) o.device o.queue o.config
      let result ← runEngine o service looks
      reportStatistics service.socket
      (← service.socket.teardown).teardown
      release
      emit .shutdownComplete
      match result with
      | .ok () => return ()
      | .error error => throw (Failure.ofSocket ["engine stopped"] error)

def run (o : Options) (looks : Nat) (kernel : Kernel) : DaemonOutcome :=
  let (result, env) := (serve o looks).run (Env.blank kernel)
  let (exitCode, log) := match result with
    | .ok () => (0, env.log)
    | .error failure => (1, env.log.push (.failed failure.message))
  let filter := LogFilter.ofText o.logLevel
  ⟨exitCode, log.toList.filter filter.shows, env.world.trace.toList⟩

end Daemon

end XdpEcho
