import XdpEcho.Kernel.Bpf
import XdpEcho.Proofs.Socket.Inventory

/-!
# The books of system calls

What each system call that a socket is made with does to the books. A call that fails leaves them as they are, and so does
everything that the kernel does between calls.

* `books_trigger` — what happens just before a call.
* `Books.perform` — a call, from what it does when it does not fail.
* `Books.perform_idle` — a call that gets hold of nothing.
-/

namespace XdpEcho

namespace Kernel

variable {α : Type} {sound : Prop} {i j : Inventory}

theorem bind_apply {β : Type} (m : KernelM α) (f : α → KernelM β) (env : Env Kernel) :
    (m >>= f) env = f (m env).1 (m env).2 := rfl

/-! ### What happens between calls -/

theorem world_deliver (packet : Bytes) (env : Env Kernel) : (deliver packet env).2.world = env.world := by
  simp only [deliver, bind, StateT.bind, get, getThe, MonadStateOf.get, StateT.get, pure]
  cases env.world.umem with
  | none => rfl
  | some umem =>
    dsimp only
    split
    next => rfl
    next =>
      split
      next => rfl
      next => rfl

theorem books_act (action : Action) : Books sound (act action) i fun _ j => j = i := by
  cases action with
  | deliver packet =>
    refine Books.bind (Books.silent fun env => ?_) fun addr j same => ?_
    · rw [world_deliver]
      exact ⟨rfl, rfl, rfl⟩
    · cases addr with
      | none => exact Books.pure same
      | some addr => exact Books.pure same
  | complete most => exact Books.silent fun _ => ⟨rfl, rfl, rfl⟩
  | flags role flags => exact Books.silent fun _ => ⟨rfl, rfl, rfl⟩
  | stop => exact Books.silent fun _ => ⟨rfl, rfl, rfl⟩
  | signal source =>
    refine Books.silent fun env => ?_
    simp only [act, bind, StateT.bind, get, getThe, MonadStateOf.get, StateT.get, pure]
    split
    next => exact ⟨rfl, rfl, rfl⟩
    next => exact ⟨rfl, rfl, rfl⟩

theorem books_trigger (kind : CallKind) (number : Nat) (triggers : List (CallKind × Nat × Action)) :
    Books sound (trigger kind number triggers) i fun _ j => j = i := by
  induction triggers with
  | nil => exact Books.pure rfl
  | cons first rest ih =>
    obtain ⟨named, chosen, action⟩ := first
    rw [trigger]
    split
    next =>
      apply Books.bind (books_act action)
      rintro result _ rfl
      apply Books.bind (Books.note rfl fun _ mem => mem)
      rintro _ _ rfl
      exact ih
    next => exact ih

/-! ### Calls -/

/-- A call is booked with its result, and a call that fails is of no account. -/
theorem Books.perform {call : Call} {effect : Nat → KernelM (Except Errno (Int × α))}
    {post : Except SystemError α → Inventory → Prop} (fails : ∀ error, post (.error error) i)
    (takes : ∀ number env, Sound env i → (effect number env).2.world.trace = env.world.trace ∧
      match (effect number env).1 with
      | .ok (shown, a) =>
        ∃ j, i.book (.called call (.ok shown)) = some j ∧ Sound (effect number env).2 j ∧ post (.ok a) j
      | .error _ => Sound (effect number env).2 i) : Books True (Kernel.perform call effect) i post := by
  apply Books.bind (Books.silent fun _ => ⟨rfl, rfl, rfl⟩)
  rintro number _ rfl
  apply Books.bind (Books.silent fun _ => ⟨rfl, rfl, rfl⟩)
  rintro s _ rfl
  apply Books.bind (books_trigger call.kind number s.triggers)
  rintro _ _ rfl
  cases fault? s call.kind number with
  | some errno =>
    change Books True (Kernel.note (.called call (.error errno)) >>= fun _ => Pure.pure (.error (.os errno))) _ post
    apply Books.bind (Books.note rfl fun _ mem => mem)
    rintro _ _ rfl
    exact Books.pure (fails _)
  | none =>
    -- What is opened is only known to be in order together with the state that it is opened in.
    intro env before
    obtain ⟨trace, taken⟩ := takes number env (before trivial)
    obtain ⟨result, after, effected⟩ : ∃ result after, effect number env = (result, after) := ⟨_, _, rfl⟩
    rw [effected] at trace taken
    simp only [bind_apply, effected]
    cases result with
    | error errno =>
      refine ⟨_, ⟨[.called call (.error errno)], ?_, rfl⟩, fun _ => ⟨taken.address, taken.fresh⟩, fails _⟩
      rw [← trace]
      exact Array.toList_push
    | ok shown =>
      obtain ⟨shown, a⟩ := shown
      obtain ⟨j, booked, sound', here⟩ := taken
      refine ⟨j, ⟨[.called call (.ok shown)], ?_, ?_⟩, fun _ => ⟨sound'.address, sound'.fresh⟩, here⟩
      · rw [← trace]
        exact Array.toList_push
      · rw [Inventory.run_singleton, booked]

/-- A call that gets hold of nothing leaves the books as they are, whether or not it fails. -/
theorem Books.perform_idle {call : Call} {effect : Nat → KernelM (Except Errno (Int × α))}
    (idle : ∀ shown, i.book (.called call (.ok shown)) = some i)
    (still : ∀ number env, (effect number env).2.world.trace = env.world.trace ∧
      (effect number env).2.world.script = env.world.script ∧
      (effect number env).2.world.nextFd = env.world.nextFd) : Books True (Kernel.perform call effect) i fun _ j => j = i := by
  apply Books.perform
  · intro error
    rfl
  · intro number env sound
    obtain ⟨trace, script, nextFd⟩ := still number env
    have sound' : Sound (effect number env).2 i := by
      constructor
      · rw [script]
        exact sound.address
      · rw [nextFd]
        exact sound.fresh
    refine ⟨trace, ?_⟩
    cases (effect number env).1 with
    | error errno => exact sound'
    | ok shown => exact ⟨i, idle _, sound', rfl⟩

/-- A call that opens a file opens one that is not open. -/
theorem Books.perform_openFile {call : Call} {asset : Fd → Asset} (opens : ∀ fd, Asset.ofCall? fd call = some (asset fd))
    (file : ∀ fd, (asset fd).fd? = some fd) :
    Books True (Kernel.perform call openFile) i
      (Ending (fun fd j => fd ∉ i.files ∧ j = i.holding (asset fd)) fun j => j = i) := by
  apply Books.perform
  · intro error
    rfl
  · intro number env sound
    have fresh : env.world.nextFd ∉ i.files := fun mem => Int.lt_irrefl _ (sound.fresh _ mem)
    have booked : i.book (.called call (.ok env.world.nextFd)) = some (i.holding (asset env.world.nextFd)) := by
      simp [Inventory.book, opens, Inventory.take, file, fresh]
    refine ⟨rfl, i.holding (asset env.world.nextFd), booked, ⟨sound.address, fun fd mem => ?_⟩, fresh, rfl⟩
    have files : (i.holding (asset env.world.nextFd)).files = env.world.nextFd :: i.files :=
      List.filterMap_cons_some (file _)
    change fd < env.world.nextFd + 1
    rw [files] at mem
    rcases List.mem_cons.mp mem with rfl | mem
    · exact Int.lt_succ _
    · exact Int.lt_trans (sound.fresh fd mem) (Int.lt_succ _)

/-- A call that maps something does not map it at the address zero. -/
theorem Books.perform_mapped {call : Call} {asset : UInt64 → Asset} {change : Env Kernel → Env Kernel}
    (maps : ∀ address : UInt64, Asset.ofCall? address.toNat call = some (asset address))
    (mapping : ∀ address, (asset address).fd? = none) (still : ∀ env, (change env).world = env.world) :
    Books True (Kernel.perform call fun _ => do modify change; mapped) i
      (Ending (fun address j => address ≠ 0 ∧ j = i.holding (asset address)) fun j => j = i) := by
  apply Books.perform
  · intro error
    rfl
  · intro number env sound
    obtain ⟨address, put⟩ : ∃ address, env.world.script.address env.world.calls.length = address := ⟨_, rfl⟩
    have effected : (do modify change; mapped : KernelM (Except Errno (Int × UInt64))) env =
        (.ok (address.toNat, address), change env) := by
      rw [← put, ← still env]
      rfl
    have files : (i.holding (asset address)).files = i.files := List.filterMap_cons_none (mapping _)
    have booked : i.book (.called call (.ok address.toNat)) = some (i.holding (asset address)) := by
      simp [Inventory.book, maps, Inventory.take, mapping]
    rw [effected]
    refine ⟨congrArg Kernel.trace (still env), i.holding (asset address), booked, ⟨?_, ?_⟩, ?_, rfl⟩
    · rw [still]
      exact sound.address
    · rw [files, still]
      exact sound.fresh
    · rw [← put]
      exact sound.address _

/-! ### The calls that a socket is made with -/

theorem books_mapMemory (l : Layout) : Books True (mapMemory l) i
      (Ending (fun address j => j = i.holding (.memory address l.size)) fun j => j = i) := by
  have books : Books True (mapMemory l) i
      (Ending (fun address j => address ≠ 0 ∧ j = i.holding (.memory address l.size)) fun j => j = i) :=
    Books.perform_mapped (fun address => by simp [Asset.ofCall?]) (fun _ => rfl) fun _ => rfl
  apply books.mono
  rintro (error | address) j here
  · exact here
  · exact here.2

theorem books_mapRing (fd : Fd) (role : RingRole) (len : UInt64) : Books True (mapRing fd role len) i
      (Ending (fun address j => address ≠ 0 ∧ j = i.holding (.ring role address len)) fun j => j = i) := by
  apply Books.bind (Books.silent fun _ => ⟨rfl, rfl, rfl⟩)
  rintro s _ rfl
  exact Books.perform_mapped (fun address => by simp [Asset.ofCall?]) (fun _ => rfl) fun _ => rfl

theorem books_createSocket : Books True createSocket i
      (Ending (fun fd j => fd ∉ i.files ∧ j = i.holding (.socket fd)) fun j => j = i) :=
  Books.perform_openFile (fun _ => rfl) fun _ => rfl

theorem books_registerUmem (fd : Fd) (umem : UmemRegistration) :
    Books True (registerUmem fd umem) i fun _ j => j = i :=
  Books.perform_idle (fun _ => rfl) fun _ _ => ⟨rfl, rfl, rfl⟩

theorem books_setRingSize (fd : Fd) (role : RingRole) (size : UInt32) :
    Books True (setRingSize fd role size) i fun _ j => j = i :=
  Books.perform_idle (fun _ => rfl) fun _ _ => ⟨rfl, rfl, rfl⟩

theorem books_ringOffsets (fd : Fd) : Books True (ringOffsets fd) i fun _ j => j = i := by
  apply Books.bind (Books.silent fun _ => ⟨rfl, rfl, rfl⟩)
  rintro s _ rfl
  exact Books.perform_idle (fun _ => rfl) fun _ _ => ⟨rfl, rfl, rfl⟩

theorem books_bindSocket {fd : Fd} (held : .socket fd ∈ i.held) (index queue : UInt32) (flags : UInt16) :
    Books True (bindSocket fd index queue flags) i
      (Ending (fun () j => j = { i with bound := fd :: i.bound }) fun j => j = i) := by
  apply Books.perform
  · intro error
    rfl
  · intro number env sound
    exact ⟨rfl, { i with bound := fd :: i.bound }, if_pos held, ⟨sound.address, sound.fresh⟩, rfl⟩

theorem books_interfaceIndex (name : String) : Books True (interfaceIndex name) i fun _ j => j = i := by
  rw [interfaceIndex]
  split
  next => exact Books.pure rfl
  next =>
    apply Books.bind (Books.silent fun _ => ⟨rfl, rfl, rfl⟩)
    rintro s _ rfl
    exact Books.perform_idle (fun _ => rfl) fun _ _ => ⟨rfl, rfl, rfl⟩

theorem books_linkAddress (name : String) : Books True (linkAddress name) i fun _ j => j = i := by
  rw [linkAddress]
  split
  next => exact Books.pure rfl
  next => exact Books.silent fun _ => ⟨rfl, rfl, rfl⟩

theorem books_setEntry (map : BpfMap) (key : UInt32) (value : Fd) : Books True (setEntry map key value) i fun _ j => j = i := by
  rw [setEntry]
  split
  next => exact Books.pure rfl
  next =>
    apply Books.bind (Books.perform_idle (fun _ => rfl) fun _ _ => ⟨rfl, rfl, rfl⟩)
    rintro result _ rfl
    cases result with
    | ok => exact Books.pure rfl
    | error error => exact Books.pure rfl

theorem books_openLink (interface : String) : Books True (openLink interface) i
      (Ending (fun link j => link.fd ∉ i.files ∧ j = i.holding (.file link.fd)) fun j => j = i) := by
  apply Books.bind (books_interfaceIndex interface)
  rintro index _ rfl
  cases index with
  | error error => exact Books.pure rfl
  | ok index =>
    apply Books.bind (books_linkAddress interface)
    rintro address _ rfl
    cases address with
    | error error => exact Books.pure rfl
    | ok address =>
      apply Books.bind (Books.perform_openFile (fun _ => rfl) fun _ => rfl)
      rintro fd j opened
      cases fd with
      | error error => exact Books.pure opened
      | ok fd => exact Books.pure opened

/-! ### Giving back -/

theorem Books.giveBack {entry : TraceEntry} {asset : Asset} {rest : List Asset} (gives : i.book entry = i.giveBack asset)
    (held : i.held.Perm (asset :: rest)) : Books sound (Kernel.note entry) i fun _ j => j.held.Perm rest := by
  obtain ⟨j, given, held', files⟩ := Inventory.giveBack_eq held
  apply (Books.note (gives.trans given) files).mono
  rintro _ _ rfl
  exact held'

theorem books_unmapRing {role : RingRole} {address len : UInt64} {rest : List Asset}
    (held : i.held.Perm (.ring role address len :: rest)) :
    Books sound (unmapRing role address len) i fun _ j => j.held.Perm rest :=
  Books.giveBack rfl held

/-- A socket is closed when there is no mapped ring. -/
theorem books_closeSocket {fd : Fd} {rest : List Asset} (held : i.held.Perm (.socket fd :: rest))
    (unmapped : ∀ asset ∈ rest, asset.isRing = false) : Books sound (close fd) i fun _ j => j.held.Perm rest := by
  refine Books.giveBack ?_ held
  have open' : .socket fd ∈ i.held := held.mem_iff.mpr List.mem_cons_self
  have none : ¬ i.held.any Asset.isRing = true := by
    rw [held.any_eq]
    simpa [Asset.isRing] using unmapped
  rw [Inventory.book, if_pos open', if_neg none]

theorem books_closeFile {fd : Fd} {rest : List Asset} (held : i.held.Perm (.file fd :: rest))
    (other : .socket fd ∉ rest) : Books sound (close fd) i fun _ j => j.held.Perm rest := by
  refine Books.giveBack ?_ held
  have none : .socket fd ∉ i.held := by
    rw [held.mem_iff]
    simpa using other
  rw [Inventory.book, if_neg none]

/-- Frame memory is released when there is neither a mapped ring nor a socket. -/
theorem books_unmapMemory {l : Layout} {address : UInt64} {rest : List Asset}
    (held : i.held.Perm (.memory address l.size :: rest))
    (unused : ∀ asset ∈ rest, asset.isRing = false ∧ asset.isSocket = false) :
    Books sound (unmapMemory l address) i fun _ j => j.held.Perm rest := by
  apply Books.bind (Books.silent fun _ => ⟨rfl, rfl, rfl⟩)
  rintro env i rfl
  refine Books.giveBack ?_ held
  have none : ¬ (i.held.any fun asset => asset.isRing || asset.isSocket) = true := by
    rw [held.any_eq]
    simpa [Asset.isRing, Asset.isSocket] using unused
  rw [Inventory.book, if_neg none]

end Kernel

end XdpEcho
