import XdpEcho.Proofs.Socket.Failures
import XdpEcho.Socket.Service

/-!
# Links that are not there

The name of an interface is looked up when a socket is bound to it, and when a processor is to send out of it. The
socket takes every failure of the lookup for a missing interface. The processor goes by the kind of the failure, and the
one that the system gives for an unknown name is not of the kind that it goes by.

* `Errno.kind_eq_notFound_iff` — exactly one error number is of the kind.
* `Kernel.perform_of_refused`, `Kernel.interfaceIndex_of_unknown` — how a call fails that has nothing to give.
* `EchoProcessor.names_link_iff` — which failures the processor takes for a missing interface.
* `EchoProcessor.names_missing_link_iff` — what is reported of an unknown name, by socket and processor.
-/

namespace XdpEcho

open Kernel

/-- An error number that is of a kind of its own is in the table with it. -/
theorem Errno.mem_kinds {e : Errno} (own : e.kind ≠ .uncategorized) : (e.number, e.kind) ∈ kinds := by
  cases found : kinds.lookup e.number with
  | none => exact absurd (by rw [kind, found, Option.getD_none]) own
  | some kind' =>
    obtain ⟨before, after, table, -⟩ := List.lookup_eq_some_iff.mp found
    rw [kind, found, Option.getD_some, table]
    exact List.mem_append_right before List.mem_cons_self

theorem Errno.kind_eq_notFound_iff {e : Errno} : (SystemError.os e).kind = .notFound ↔ e = .noEntry := by
  -- No other entry of the table has the kind.
  have only : ∀ entry ∈ kinds, entry.2 = .notFound → entry.1 = noEntry.number := by decide
  constructor
  · intro missing
    have own : e.kind ≠ .uncategorized := fun other => ErrorKind.noConfusion (other.symm.trans missing)
    obtain ⟨number⟩ := e
    exact congrArg Errno.mk (only _ (mem_kinds own) missing)
  · rintro rfl
    rfl

/-! ### Calls that have nothing to give -/

namespace Kernel

variable {α : Type} {name : String} {env : Env Kernel}

/-- The error that a call ends with which has nothing to give: the one the script has for it, if any, and otherwise its
own. -/
def refusal (env : Env Kernel) (kind : CallKind) (own : Errno) : Errno :=
  (fault? env.world.script kind (env.world.calls.count kind + 1)).getD own

theorem perform_of_refused {call : Call} {effect : Nat → KernelM (Except Errno (Int × α))} {own : Errno}
    (refused : ∀ number env, (effect number env).1 = .error own) (env : Env Kernel) :
    (perform call effect env).1 = .error (.os (refusal env call.kind own)) := by
  have number : (count call.kind env).1 = env.world.calls.count call.kind + 1 := List.count_cons_self
  have script (env : Env Kernel) : (currentScript env).1 = env.world.script := rfl
  have counted : (count call.kind env).2.world.script = env.world.script := rfl
  -- The script is read before anything that it has happen, so none of that makes the call end in another way.
  rw [perform, bind_apply, number, bind_apply, bind_apply, script, counted, refusal]
  cases fault? env.world.script call.kind (env.world.calls.count call.kind + 1) with
  | some errno => rfl
  | none =>
    dsimp only [Option.getD_none]
    rw [bind_apply, refused]
    rfl

theorem interfaceIndex_of_unknown (proper : name.contains '\x00' = false)
    (unknown : interface? env.world.script name = none) :
    (interfaceIndex name env).1 = .error (.os (refusal env .interfaceIndex .noDevice)) := by
  have script : currentScript env = (env.world.script, env) := rfl
  rw [interfaceIndex, if_neg (by rw [proper]; exact Bool.false_ne_true), bind_apply, script, unknown]
  exact perform_of_refused (fun _ _ => rfl) env

theorem openLink_of_unknown (proper : name.contains '\x00' = false)
    (unknown : interface? env.world.script name = none) :
    openLink name env =
      (.error (.os (refusal env .interfaceIndex .noDevice)), (interfaceIndex name env).2) := by
  rw [openLink, bind_apply, interfaceIndex_of_unknown proper unknown]
  rfl

end Kernel

/-! ### Reports -/

namespace EchoProcessor

variable {name : String} {env : Env Kernel}

theorem linkError_eq_interfaceNotFound_iff {other : String} {error : SystemError} :
    linkError name error = .interfaceNotFound other ↔ other = name ∧ error.kind = .notFound := by
  rw [linkError]
  split
  next missing => simp [missing, eq_comm]
  next present =>
    rw [SocketError.refused]
    split
    next => simp [present]
    next => simp [present]

theorem build_of_refused {error : SystemError} (refused : (openLink name env).1 = .error error) :
    build (.egress name) env = (.error (linkError name error), (openLink name env).2) := by
  rw [build, Acquisition.bind_of_error (Acquisition.reporting_of_error refused)]
  rfl

theorem build_of_opened {link : LinkSocket} (opened : (openLink name env).1 = .ok link) :
    build (.egress name) env = (.ok ⟨.egress (sendFrame link), some link⟩, (openLink name env).2) := by
  rw [build, Acquisition.bind_of_ok (Acquisition.reporting_of_ok opened)]
  rfl

/-- The processor names an interface as missing exactly when its link cannot be opened for want of an entry: no other
failure is taken for a missing interface, and wherever on the way to the open link the entry is wanting, the interface is
named. -/
theorem names_link_iff {other : String} :
    (build (.egress name) env).1 = .error (.interfaceNotFound other) ↔
      other = name ∧ ∃ error, (openLink name env).1 = .error error ∧ error.kind = .notFound := by
  cases result : (openLink name env).1 with
  | error error =>
    rw [build_of_refused result, Except.error.injEq, linkError_eq_interfaceNotFound_iff]
    simp only [Except.error.injEq, exists_eq_left']
  | ok link =>
    rw [build_of_opened result]
    simp only [reduceCtorEq, false_and, exists_false, and_false]

/-- What is reported of the name of an interface that the system does not know. When a socket is to be bound to it, the
interface is named, whatever the lookup fails with. When a processor is to send out of it, the interface is named only if
the lookup fails for want of an entry. But a lookup fails because there is no such device, unless something else stands
in its way, and then it is reported that the kernel has refused the link. Either way nothing is done after the lookup. -/
theorem names_missing_link_iff (proper : name.contains '\x00' = false)
    (unknown : interface? env.world.script name = none) (umem : UmemBinding) (map : SocketMap) (queue : UInt32)
    (c : Config) :
    SocketBinding.bind umem map name queue c env = (.error (.interfaceNotFound name), (interfaceIndex name env).2) ∧
      (build (.egress name) env).2 = (interfaceIndex name env).2 ∧
      ((build (.egress name) env).1 = .error (.interfaceNotFound name) ↔
        refusal env .interfaceIndex .noDevice = .noEntry) ∧
      (refusal env .interfaceIndex .noDevice = .noDevice →
        (build (.egress name) env).1 = .error (.kernelResource .egressSocket (.os .noDevice))) := by
  have opened := openLink_of_unknown proper unknown
  have refused := build_of_refused (congrArg Prod.fst opened)
  rw [opened] at refused
  have looked := interfaceIndex_of_unknown proper unknown
  refine ⟨Acquisition.bind_of_error (Acquisition.reporting_of_error looked), ?_, ?_, ?_⟩
  · rw [refused]
  · rw [refused, Except.error.injEq, linkError_eq_interfaceNotFound_iff, and_iff_right rfl, Errno.kind_eq_notFound_iff]
  · intro noDevice
    rw [refused, noDevice]
    rfl

/-- A umem of sixteen frames. -/
def sixteenFrames : UmemBinding :=
  ⟨3, ⟨4096, 16, by decide, by decide⟩, 4096, ⟨⟨.fill, 64⟩, 8192⟩, ⟨⟨.completion, 64⟩, 12288⟩⟩

/-- On a kernel without interfaces the socket names the interface, and the processor does not. -/
theorem names_missing_link_iff_without_interfaces :
    "xskd-nope0".contains '\x00' = false ∧
      (SocketBinding.bind sixteenFrames .listed "xskd-nope0" 0 .standard (.blank (.boot .empty))).1 =
        .error (.interfaceNotFound "xskd-nope0") ∧
      (build (.egress "xskd-nope0") (.blank (.boot .empty))).1 =
        .error (.kernelResource .egressSocket (.os .noDevice)) ∧
      (SocketError.kernelResource .egressSocket (.os .noDevice)).message =
        "Kernel refused raw egress socket: No such device (os error 19)" := by
  have name : "xskd-nope0".contains '\x00' = false := by simp
  have unknown : interface? (Env.blank (boot .empty)).world.script "xskd-nope0" = none := rfl
  have noDevice : refusal (.blank (.boot .empty)) .interfaceIndex .noDevice = .noDevice := rfl
  obtain ⟨bound, -, -, built⟩ := names_missing_link_iff name unknown sixteenFrames .listed 0 .standard
  exact ⟨name, congrArg Prod.fst bound, built noDevice, by decide⟩

end EchoProcessor

end XdpEcho
