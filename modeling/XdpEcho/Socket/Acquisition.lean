import XdpEcho.Kernel.Basic
import XdpEcho.SocketError

/-!
# Getting hold of kernel resources

A socket is made of several resources, each of which the kernel may refuse. What has been acquired when a later step
fails is released again, the latest first.

* `Acquisition.reporting` says how the failure of a call is reported.
* `Acquisition.guarding` ties a release to everything that is done afterwards.
-/

namespace XdpEcho

/-- What is done with a modelled kernel to get hold of something, and may fail. -/
abbrev Acquisition := ExceptT SocketError KernelM

namespace Acquisition

variable {α ε : Type}

/-- A call whose failure is reported as something that concerns the socket. -/
def reporting (report : ε → SocketError) (call : KernelM (Except ε α)) : Acquisition α :=
  ExceptT.mk do return (← call).mapError report

def requiring (resource : Resource) (call : KernelM (Except SystemError α)) : Acquisition α :=
  reporting (.refused resource) call

/-- Goes on while holding something, which is released when going on fails. -/
def guarding (release : KernelM Unit) (next : ExceptT ε KernelM α) : ExceptT ε KernelM α :=
  ExceptT.mk do
    match ← next.run with
    | .ok a => return .ok a
    | .error error =>
      release
      return .error error

end Acquisition

end XdpEcho
