/-!
# Failures around kernel programs and their maps

What can go wrong when an object file with kernel programs is loaded, when a program is attached to a link, and when
one of its maps is opened or changed.
-/

namespace XdpEcho

/-- A failure around a kernel program or a map. -/
inductive BpfError where
  | unreadableObject (path : String)
  | malformedObject
  | mapCreation (name : String)
  | programType
  | programLoad
  | unknownInterface (name : String)
  | linkCreation
  | pinned
  | objectInfo
  | mapUpdate
  | mapIndex (index capacity : UInt32)
  | mapType (type : UInt32)
  | keySize (expected : UInt32)
  | valueSize (expected : UInt32)
  deriving DecidableEq

namespace BpfError

def message : BpfError → String
  | unreadableObject path => s!"error loading {path}"
  | malformedObject => "error parsing BPF object: error parsing ELF data"
  | mapCreation name => s!"map error: failed to create map `{name}` with code -1"
  | programType => "unexpected program type"
  | programLoad => "the BPF_PROG_LOAD syscall failed. Verifier output: "
  | unknownInterface name => s!"unknown network interface {name}"
  | linkCreation => "`bpf_link_create` failed"
  | pinned => "`BPF_OBJ_GET` failed"
  | objectInfo => "`bpf_obj_get_info_by_fd` failed"
  | mapUpdate => "`bpf_map_update_elem` failed"
  | mapIndex index capacity => s!"the index is {index} but `max_entries` is {capacity}"
  | mapType type => s!"invalid map type {type}"
  | keySize expected => s!"invalid key size 4, expected {expected}"
  | valueSize expected => s!"invalid value size 4, expected {expected}"

end BpfError

end XdpEcho
