import XdpEcho.BpfError
import XdpEcho.Config
import XdpEcho.SystemError

/-!
# Failures of sockets, maps and programs

Everything that can stop a socket from being built or an engine from running. A system call that fails for want of
permission is reported as such, whatever it was needed for.
-/

namespace XdpEcho

/-- What a system call was needed for. -/
inductive Resource where
  | umemMemory
  | socket
  | umemRegistration
  | ring (role : RingRole)
  | ringOffsets
  | ringMapping (role : RingRole)
  | statistics
  | egressSocket
  | named (text : String)
  deriving DecidableEq

namespace Resource

def name : Resource → String
  | umemMemory => "umem memory"
  | socket => "AF_XDP socket"
  | umemRegistration => "umem registration"
  | ring role => s!"{ConfigError.ringName role} ring"
  | ringOffsets => "ring offsets"
  | ringMapping role => s!"{ConfigError.ringName role} ring mmap"
  | statistics => "XDP statistics"
  | egressSocket => "raw egress socket"
  | named text => text

end Resource

/-- Why a socket map cannot be used. -/
inductive SocketMapError where
  | registration (queue : UInt32) (cause : BpfError)
  | opening (path : String) (cause : BpfError)
  | pinnedMismatch (path : String) (cause : BpfError)
  | missing (name : String)
  | mismatch (name : String) (cause : BpfError)
  | described (text : String)
  deriving DecidableEq

namespace SocketMapError

def message : SocketMapError → String
  | registration queue cause => s!"queue {queue}: {cause.message}"
  | opening path cause => s!"opening {path}: {cause.message}"
  | pinnedMismatch path cause => s!"{path} is not an XSKMAP: {cause.message}"
  | missing name => s!"map {name} not found"
  | mismatch name cause => s!"{name}: {cause.message}"
  | described text => text

end SocketMapError

/-- Why a redirect program cannot be used. -/
inductive ProgramError where
  | object (path : String) (cause : BpfError)
  | missing (name : String)
  | notXdp (name : String) (cause : BpfError)
  | loading (name : String) (cause : BpfError)
  | attaching (interface : String) (cause : BpfError)
  | described (text : String)
  deriving DecidableEq

namespace ProgramError

def message : ProgramError → String
  | object path cause => s!"loading {path}: {cause.message}"
  | missing name => s!"program {name} not found"
  | notXdp name cause => s!"{name} is not an XDP program: {cause.message}"
  | loading name cause => s!"loading {name}: {cause.message}"
  | attaching interface cause => s!"attaching to {interface}: {cause.message}"
  | described text => text

end ProgramError

/-- Why a socket cannot be built or an engine cannot go on. -/
inductive SocketError where
  | interfaceNotFound (name : String)
  | permissionDenied
  | kernelResource (resource : Resource) (source : SystemError)
  | bind (interface : String) (queue : UInt32) (source : SystemError)
  | socketMap (cause : SocketMapError)
  | program (cause : ProgramError)
  | system (source : SystemError)
  | configuration (cause : ConfigError)
  deriving DecidableEq

namespace SocketError

def refused (resource : Resource) (source : SystemError) : SocketError :=
  if source.kind = .permissionDenied then permissionDenied else kernelResource resource source

def message : SocketError → String
  | interfaceNotFound name => s!"Interface {name} not found"
  | permissionDenied => "Permission denied (requires CAP_NET_ADMIN, CAP_NET_RAW and CAP_BPF)"
  | kernelResource resource source => s!"Kernel refused {resource.name}: {source.message}"
  | bind interface queue source =>
    s!"Failed to bind AF_XDP socket to {interface} queue {queue}: {source.message}"
  | socketMap cause => s!"Socket map update failed: {cause.message}"
  | program cause => s!"XDP program error: {cause.message}"
  | system source => s!"IO Error: {source.message}"
  | configuration cause => s!"Invalid configuration: {cause.message}"

def source? : SocketError → Option SystemError
  | kernelResource _ source => some source
  | bind _ _ source => some source
  | system source => some source
  | _ => none

end SocketError

end XdpEcho
