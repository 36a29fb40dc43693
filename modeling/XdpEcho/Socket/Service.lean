import XdpEcho.Engine.Run
import XdpEcho.Socket.Binding

/-!
# Engines on bound sockets

An engine together with what it needs: the socket it drives and, if its processor sends out of another link, that
link.

* `EchoProcessor.build` makes the processor that a configuration asks for.
* `EchoService.build` makes socket, processor and engine.
-/

namespace XdpEcho

/-- A processor with the link that it sends on, if it has one of its own. -/
structure EchoProcessor where
  /-- The processor; its state counts failed sends. -/
  processor : Processor UInt64 Kernel
  link : Option Kernel.LinkSocket

namespace EchoProcessor

open Kernel

/-- How it is reported that the other link cannot be opened. -/
def linkError (interface : String) (error : SystemError) : SocketError :=
  if error.kind = .notFound then .interfaceNotFound interface else .refused .egressSocket error

/-- Makes the processor of the given kind, for which the other link may have to be opened. -/
def build : ProcessorKind → Acquisition EchoProcessor
  | .icmp => return ⟨.icmp, none⟩
  | .icmpv6 => return ⟨.icmpv6, none⟩
  | .egress interface => do
    let link ← Acquisition.reporting (linkError interface) (openLink interface)
    return ⟨.egress (sendFrame link), some link⟩

def release (p : EchoProcessor) : KernelM Unit :=
  match p.link with
  | some link => close link.fd
  | none => return ()

end EchoProcessor

/-- An engine on a bound socket. -/
structure EchoService where
  socket : SocketBinding
  processor : EchoProcessor
  engine : Engine UInt64 Kernel

/-- What changes while an engine works on a bound socket. -/
abbrev EchoState := EngineState UInt64 Kernel

namespace EchoService

open Kernel

/-- The engine that drives a socket as configured. -/
def engineOf (socket : SocketBinding) (processor : EchoProcessor) (c : Config) : Engine UInt64 Kernel :=
  .ofConfig processor.processor socket.endpoint c

/-- Builds the socket and its processor. When the processor cannot be made, the socket is released. -/
def build (map : SocketMap) (interface : String) (queue : UInt32) (c : Config) : Acquisition EchoService := do
  let socket ← SocketBinding.build map interface queue c
  let processor ← Acquisition.guarding socket.release (EchoProcessor.build c.processor)
  return ⟨socket, processor, engineOf socket processor c⟩

/-- Lets go of everything at once, of the socket before the other link. -/
def release (s : EchoService) : KernelM Unit := do
  s.socket.release
  s.processor.release

/-- Takes over the rings of the socket, with fresh counters. -/
def start (s : EchoService) (env : Env Kernel) : EchoState :=
  s.engine.start s.socket.umem.layout 0 { env with stats := .zero }

/-- Lets go of the rings and of the other link. The socket is still bound. -/
def finish (s : EchoService) (state : EchoState) : Env Kernel :=
  (s.processor.release (Engine.finish state).env).2

end EchoService

end XdpEcho
