import XdpEcho.Proofs.Socket.Failures
import XdpEcho.Socket.Service

/-!
# Settings that make sense

What settings must be like is written down more than once: when they are checked, when the frames of the umem are
counted out, when the rings are made, and wherever a setting is cut to the width of a word. All of this agrees. Settings
that have been accepted are never found fault with again, and no part of them is lost on the way; settings that are
refused are refused before anything has been done.

* `Config.Valid`, `ConfigError.Blames` — the rules, and what an error says of them.
* `Config.validate_judges`, `Config.validate_eq_ok_iff` — the check finds exactly the broken rules.
* `Config.validate_of_layout_error` — what is no layout is refused, and for the same reason.
* `SocketBinding.build_error_iff`, `EchoService.build_error_iff` — fault is found with settings by the check only.
* `Config.validate_is_final` — all of it together.
-/

namespace XdpEcho

open Kernel

variable {c : Config} {error : ConfigError} {env : Env Kernel}

/-! ### Rules -/

/-- The settings make sense together. -/
structure Config.Valid (c : Config) : Prop where
  frameSize : AdmissibleFrameSize c.frameSize
  frameCount : c.frameCount ≠ 0
  headroom : c.headroom < c.frameSize
  ringSize : ∀ role, (c.ringSize role).toNat.isPowerOfTwo
  batchSize_pos : 1 ≤ c.batchSize
  batchSize_le : c.batchSize ≤ c.rxSize.toNat
  pollTimeout : c.pollTimeout.milliseconds ≤ Config.maxTimeout
  egress : c.processor ≠ .egress ""

/-- The error is about a rule that the settings break, and tells the values that they have. -/
def ConfigError.Blames (c : Config) : ConfigError → Prop
  | frameSize size => size = c.frameSize ∧ ¬ AdmissibleFrameSize size
  | noFrames => c.frameCount = 0
  | headroom bytes size => bytes = c.headroom ∧ size = c.frameSize ∧ size ≤ bytes
  | ringSize role size => size = c.ringSize role ∧ ¬ size.toNat.isPowerOfTwo
  | batchSize size rxSize => size = c.batchSize ∧ rxSize = c.rxSize ∧ (size = 0 ∨ rxSize.toNat < size)
  | pollTimeout => Config.maxTimeout < c.pollTimeout.milliseconds
  | noEgressInterface => c.processor = .egress ""
  | layout _ => False
  | described _ => False

namespace Config

theorem not_valid_of_blames (blames : error.Blames c) : ¬ c.Valid := by
  intro valid
  cases error with
  | frameSize size =>
    obtain ⟨rfl, broken⟩ := blames
    exact broken valid.frameSize
  | noFrames => exact valid.frameCount blames
  | headroom bytes size =>
    obtain ⟨rfl, rfl, le⟩ := blames
    exact UInt32.not_lt.mpr le valid.headroom
  | ringSize role size =>
    obtain ⟨rfl, broken⟩ := blames
    exact broken (valid.ringSize role)
  | batchSize size rxSize =>
    obtain ⟨rfl, rfl, none | many⟩ := blames
    · exact Nat.ne_of_gt valid.batchSize_pos none
    · exact Nat.not_lt.mpr valid.batchSize_le many
  | pollTimeout => exact Nat.not_lt.mpr valid.pollTimeout blames
  | noEgressInterface => exact valid.egress blames
  | layout cause => exact blames
  | described text => exact blames

/-- What a check has found: nothing, and then the settings make sense, or a rule that they break. -/
def Judges (c : Config) : Except ConfigError Unit → Prop
  | .ok () => c.Valid
  | .error error => error.Blames c

section

variable {rest : Except ConfigError Unit}

theorem judges_guard {broken : Prop} [Decidable broken] (blames : broken → error.Blames c)
    (goesOn : ¬ broken → Judges c rest) : Judges c (if broken then .error error else rest) := by
  by_cases here : broken
  · rw [if_pos here]
    exact blames here
  · rw [if_neg here]
    exact goesOn here

theorem judges_checkRing {role : RingRole} (goesOn : (c.ringSize role).toNat.isPowerOfTwo → Judges c rest) :
    Judges c (c.checkRing role >>= fun _ => rest) := by
  rw [checkRing]
  by_cases size : (c.ringSize role).toNat.isPowerOfTwo
  · rw [if_pos size]
    exact goesOn size
  · rw [if_neg size]
    exact ⟨rfl, size⟩

end

/-- The check accepts settings that make sense, and otherwise finds a rule that they break. -/
theorem validate_judges (c : Config) : Judges c c.validate := by
  have throws (error : ConfigError) : (throw error : Except ConfigError Unit) = .error error := rfl
  simp only [validate, throws]
  -- One rule after the other, in the order of the check; what has held so far is at hand in the end.
  refine judges_guard (fun broken => ⟨rfl, broken⟩) fun frameSize => ?_
  refine judges_guard (fun broken => broken) fun frameCount => ?_
  refine judges_guard (fun broken => ⟨rfl, rfl, broken⟩) fun headroom => ?_
  refine judges_checkRing fun rx => judges_checkRing fun tx => judges_checkRing fun fill =>
    judges_checkRing fun completion => ?_
  refine judges_guard (fun broken => ⟨rfl, rfl, broken⟩) fun batchSize => ?_
  refine judges_guard (fun broken => broken) fun pollTimeout => ?_
  refine judges_guard (fun broken => broken) fun egress => ?_
  obtain ⟨some, few⟩ := not_or.mp batchSize
  exact {
    frameSize := not_not.mp frameSize
    frameCount
    headroom := UInt32.not_le.mp headroom
    ringSize := fun role => by
      cases role with
      | rx => exact rx
      | tx => exact tx
      | fill => exact fill
      | completion => exact completion
    batchSize_pos := Nat.pos_of_ne_zero some
    batchSize_le := Nat.not_lt.mp few
    pollTimeout := Nat.not_lt.mp pollTimeout
    egress }

theorem blames_of_validate (refused : c.validate = .error error) : error.Blames c := by
  have judges := validate_judges c
  rwa [refused] at judges

/-- Exactly the settings that make sense are accepted. -/
theorem validate_eq_ok_iff : c.validate = .ok () ↔ c.Valid := by
  have judges := validate_judges c
  cases result : c.validate with
  | ok =>
    rw [result] at judges
    exact iff_of_true rfl judges
  | error error => exact iff_of_false nofun (not_valid_of_blames (blames_of_validate result))

/-! ### Layouts -/

/-- The error that the check has for what is no layout. -/
def ofLayoutError : LayoutError → ConfigError
  | .frameSize size => .frameSize size
  | .noFrames => .noFrames

/-- What is no layout is refused by the check, and for the same reason. -/
theorem validate_of_layout_error {cause : LayoutError} (none : Layout.ofSizes c.frameSize c.frameCount = .error cause) :
    c.validate = .error (ofLayoutError cause) := by
  rw [Layout.ofSizes] at none
  split at none
  next size =>
    split at none
    next => cases none
    next noFrames =>
      obtain rfl := Except.error.inj none
      rw [validate, if_neg (not_not.mpr size), if_pos (not_not.mp noFrames)]
      rfl
  next size =>
    obtain rfl := Except.error.inj none
    rw [validate, if_pos size]
    rfl

theorem Valid.exists_layout (valid : c.Valid) :
    ∃ l, Layout.ofSizes c.frameSize c.frameCount = .ok l ∧ l.frameSize = c.frameSize ∧ l.frameCount = c.frameCount := by
  rw [Layout.ofSizes, dif_pos valid.frameSize, dif_pos valid.frameCount]
  exact ⟨_, rfl, rfl, rfl⟩

end Config

/-! ### Sockets and engines -/

/-- The error is not about settings. -/
def SocketError.OfKernel (error : SocketError) : Prop :=
  ∀ cause, error ≠ .configuration cause

theorem SocketError.OfKernel.refused {resource : Resource} {source : SystemError} :
    (refused resource source).OfKernel := by
  rw [SocketError.refused]
  split
  next => exact nofun
  next => exact nofun

namespace Acquisition.FailsOnly

variable {α : Type}

theorem requiring {resource : Resource} {call : KernelM (Except SystemError α)} :
    FailsOnly SocketError.OfKernel (requiring resource call) :=
  reporting fun _ => .refused

end Acquisition.FailsOnly

open Acquisition

/-- What fails for settings that are refused, and otherwise for the kernel only, fails with the error of the check. -/
theorem Acquisition.error_iff_of_settings {α : Type} {m : Acquisition α}
    (accepts : c.Valid → FailsOnly SocketError.OfKernel m)
    (refuses : ∀ {cause}, c.validate = .error cause → (m env).1 = .error (.configuration cause)) :
    (m env).1 = .error (.configuration error) ↔ c.validate = .error error := by
  cases result : c.validate with
  | ok =>
    have others := accepts (Config.validate_eq_ok_iff.mp result)
    exact iff_of_false (fun failed => others env _ failed error rfl) nofun
  | error cause =>
    rw [refuses result, Except.error.injEq, SocketError.configuration.injEq, Except.error.injEq]

theorem UmemBinding.failsOnly_create (l : Layout) (c : Config) : FailsOnly SocketError.OfKernel (create l c) := by
  refine .bind .requiring fun address => .guarding ?_
  refine .bind .requiring fun fd => .guarding ?_
  refine .bind .requiring fun _ => ?_
  refine .bind .requiring fun _ => .bind .requiring fun _ => ?_
  refine .bind .requiring fun offsets => ?_
  refine .bind .requiring fun fill => .bind (.guarding .requiring) fun completion => ?_
  exact .bind (.lift _) fun _ => .pure _

theorem SocketMap.failsOnly_register (map : SocketMap) (queue : UInt32) (fd : Fd) :
    FailsOnly SocketError.OfKernel (map.register queue fd) := by
  cases map with
  | opened map => exact .bind (.lift _) fun _ => .bind (.reporting fun _ => nofun) fun _ => .lift _
  | listed => exact .lift _
  | refusing reason => exact .throw nofun

namespace SocketBinding

variable {map : SocketMap} {interface : String} {queue : UInt32}

theorem failsOnly_bind (umem : UmemBinding) (map : SocketMap) (interface : String) (queue : UInt32) (c : Config) :
    FailsOnly SocketError.OfKernel (bind umem map interface queue c) := by
  have refused (error : SystemError) : (bindError interface queue error).OfKernel := by
    rw [bindError]
    split
    next => exact nofun
    next => exact nofun
  refine .bind (.reporting fun _ => nofun) fun index => ?_
  refine .bind .requiring fun _ => .bind .requiring fun _ => ?_
  refine .bind .requiring fun offsets => ?_
  refine .bind .requiring fun rx => .guarding ?_
  refine .bind .requiring fun tx => .guarding ?_
  refine .bind (.reporting refused) fun _ => .bind (map.failsOnly_register queue _) fun _ => ?_
  exact .bind (.lift _) fun _ => .pure _

theorem build_of_refused (refused : c.validate = .error error) :
    build map interface queue c env = (.error (.configuration error), env) := by
  rw [build, refused]
  rfl

theorem failsOnly_build (valid : c.Valid) : FailsOnly SocketError.OfKernel (build map interface queue c) := by
  obtain ⟨l, layout, -⟩ := valid.exists_layout
  rw [build, Config.validate_eq_ok_iff.mpr valid, layout]
  exact .bind (UmemBinding.failsOnly_create l c) fun umem => .guarding (failsOnly_bind umem map interface queue c)

/-- Fault is found with the settings of a socket exactly when they are checked. -/
theorem build_error_iff :
    (build map interface queue c env).1 = .error (.configuration error) ↔ c.validate = .error error :=
  error_iff_of_settings failsOnly_build fun refused => congrArg Prod.fst (build_of_refused refused)

theorem waitReadable_of_valid (valid : c.Valid) (s : SocketBinding) :
    s.endpoint.waitReadable c.pollTimeout = waitRx s.fd c.pollTimeout.milliseconds := by
  change waitRx s.fd (min c.pollTimeout.milliseconds Config.maxTimeout : Nat) = _
  rw [Nat.min_eq_left valid.pollTimeout]

end SocketBinding

namespace EchoProcessor

theorem failsOnly_build (kind : ProcessorKind) : FailsOnly SocketError.OfKernel (build kind) := by
  cases kind with
  | icmp => exact .pure _
  | icmpv6 => exact .pure _
  | egress interface =>
    refine .bind (.reporting fun cause => ?_) fun _ => .pure _
    rw [linkError]
    split
    next => exact nofun
    next => exact .refused

end EchoProcessor

namespace EchoService

variable {map : SocketMap} {interface : String} {queue : UInt32}

theorem build_of_refused (refused : c.validate = .error error) :
    build map interface queue c env = (.error (.configuration error), env) := by
  have failed : SocketBinding.build map interface queue c env = (.error (.configuration error), env) :=
    SocketBinding.build_of_refused refused
  rw [build, bind_of_error (congrArg Prod.fst failed), failed]

theorem failsOnly_build (valid : c.Valid) : FailsOnly SocketError.OfKernel (build map interface queue c) := by
  refine .bind (SocketBinding.failsOnly_build valid) fun socket => ?_
  exact .bind (.guarding (EchoProcessor.failsOnly_build c.processor)) fun processor => .pure _

/-- Fault is found with the settings of an engine exactly when they are checked. -/
theorem build_error_iff :
    (build map interface queue c env).1 = .error (.configuration error) ↔ c.validate = .error error :=
  error_iff_of_settings failsOnly_build fun refused => congrArg Prod.fst (build_of_refused refused)

theorem batchCount_of_valid (valid : c.Valid) (socket : SocketBinding) (processor : EchoProcessor) :
    (engineOf socket processor c).batchCount.toNat = c.batchSize := by
  rw [engineOf, Engine.ofConfig, Engine.batchCount, UInt32.toNat_ofNat', Nat.max_eq_right valid.batchSize_pos]
  exact Nat.mod_eq_of_lt (Nat.lt_of_le_of_lt valid.batchSize_le c.rxSize.toNat_lt)

end EchoService

namespace Config

/-- Settings that have been accepted are settled. There is a layout of their sizes, rings of all their sizes can be made,
and neither a batch nor a wait is cut short; and no making of a socket, or of an engine on one, finds fault with them,
whatever the kernel does. Settings that are refused are refused by both with the error of the check, and then nothing at
all has been done: no call has been made, and no socket has been entered in the socket map. What is no layout is
refused. -/
theorem validate_is_final (c : Config) :
    (c.validate = .ok () →
      (∃ l, Layout.ofSizes c.frameSize c.frameCount = .ok l ∧ l.frameSize = c.frameSize ∧ l.frameCount = c.frameCount) ∧
      (∀ role start, Ring.create (c.ringSize role) start = .ok (Ring.blank (c.ringSize role) start : Ring Descriptor) ∧
        Ring.create (c.ringSize role) start = .ok (Ring.blank (c.ringSize role) start : Ring UInt64)) ∧
      (1 ≤ c.batchSize ∧ c.batchSize ≤ c.rxSize.toNat ∧
        ∀ socket processor, (EchoService.engineOf socket processor c).batchCount.toNat = c.batchSize) ∧
      (c.pollTimeout.milliseconds ≤ 2147483647 ∧
        ∀ s : SocketBinding, s.endpoint.waitReadable c.pollTimeout = waitRx s.fd c.pollTimeout.milliseconds) ∧
      ∀ map interface queue env cause,
        (SocketBinding.build map interface queue c env).1 ≠ .error (.configuration cause) ∧
        (EchoService.build map interface queue c env).1 ≠ .error (.configuration cause)) ∧
    (∀ error, c.validate = .error error → ∀ map interface queue env,
      SocketBinding.build map interface queue c env = (.error (.configuration error), env) ∧
      EchoService.build map interface queue c env = (.error (.configuration error), env)) ∧
    ∀ cause, Layout.ofSizes c.frameSize c.frameCount = .error cause → ∃ error, c.validate = .error error := by
  refine ⟨fun accepted => ?_, fun error refused map interface queue env => ?_, fun cause none => ?_⟩
  · have valid := validate_eq_ok_iff.mp accepted
    refine ⟨valid.exists_layout, fun role start => ?_, ⟨valid.batchSize_pos, valid.batchSize_le, ?_⟩,
      ⟨valid.pollTimeout, ?_⟩, ?_⟩
    · exact ⟨if_pos (valid.ringSize role), if_pos (valid.ringSize role)⟩
    · exact EchoService.batchCount_of_valid valid
    · exact SocketBinding.waitReadable_of_valid valid
    · intro map interface queue env cause
      rw [Ne, Ne, SocketBinding.build_error_iff, EchoService.build_error_iff, accepted]
      exact ⟨nofun, nofun⟩
  · exact ⟨SocketBinding.build_of_refused refused, EchoService.build_of_refused refused⟩
  · exact ⟨_, validate_of_layout_error none⟩

/-- The usual settings are accepted, and there is a layout of them. Without a batch they are refused, and so they are
with frames of a size that is no power of two. -/
theorem validate_is_final_of_standard :
    standard.validate = .ok () ∧
      (∃ l, Layout.ofSizes 4096 4096 = .ok l ∧ l.frameSize = 4096 ∧ l.frameCount = 4096) ∧
      ({ standard with batchSize := 0 } : Config).validate = .error (.batchSize 0 2048) ∧
      EchoService.build .listed "eth0" 0 { standard with batchSize := 0 } (.blank (.boot .empty)) =
        (.error (.configuration (.batchSize 0 2048)), .blank (.boot .empty)) ∧
      Layout.ofSizes 3000 4096 = .error (.frameSize 3000) ∧
      ∃ error, ({ standard with frameSize := 3000 } : Config).validate = .error error := by
  have accepted : standard.validate = .ok () := by decide
  have refused : ({ standard with batchSize := 0 } : Config).validate = .error (.batchSize 0 2048) := by decide
  have none : Layout.ofSizes 3000 4096 = .error (.frameSize 3000) := by decide
  exact ⟨accepted, ((validate_is_final standard).1 accepted).1, refused,
    ((validate_is_final { standard with batchSize := 0 }).2.1 _ refused .listed "eth0" 0 _).2, none,
    (validate_is_final { standard with frameSize := 3000 }).2.2 _ none⟩

end Config

end XdpEcho
