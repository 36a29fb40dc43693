import XdpEcho.Proofs.Socket.Calls
import XdpEcho.Socket.Service

/-!
# Making and releasing sockets

What is held of the kernel while a socket is made, while it is there, and after it has been released. A release is tied to
each thing as soon as it has been acquired, so that what a failure gives back is what was held when it happened. The order
follows from that: rings are mapped last and go first, and the frame memory, which is there before the socket, goes after
it.

* `UmemBinding.acquires_create`, `SocketBinding.acquires_bind`, `EchoService.acquires_build` — what is held in the end when
  something is made, and when making it fails.
* `UmemBinding.books_release`, `SocketBinding.releasable`, `EchoService.books_release`,
  `EchoService.finish_leaves_socket` — everything is given back, in an order in which it may be.
* `EchoService.construction_leaks_nothing` — the books of making a socket or an engine on one, and of every way to release
  them.
-/

namespace XdpEcho

open Kernel

variable {sound : Prop} {i j : Inventory}

/-! ### Rings -/

namespace RingMapping

def asset (m : RingMapping) : Asset := .ring m.role m.address m.len

theorem acquires_map (fd : Fd) (offsets : RingRole → RingOffsets) (c : Config) (role : RingRole) {kept : List Asset}
    (held : i.held.Perm kept) :
    Acquires (map fd offsets c role) kept i fun m j => m.role = role ∧ j = i.holding m.asset := by
  refine Acquires.reporting ?_ held
  apply Books.bind (books_mapRing fd role _)
  rintro (error | address) j here
  · exact Books.pure here
  · obtain ⟨some, rfl⟩ := here
    apply Books.pure
    rw [if_neg some]
    exact ⟨rfl, rfl⟩

theorem books_release {m : RingMapping} {rest : List Asset} (held : i.held.Perm (m.asset :: rest)) :
    Books sound m.release i fun _ j => j.held.Perm rest :=
  books_unmapRing held

/-- Of two rings the one that was mapped first is released first. -/
theorem books_release_both {α : Type} {first second : RingMapping} {rest : List Asset} {next : KernelM α}
    {post : α → Inventory → Prop} (held : i.held.Perm (second.asset :: first.asset :: rest))
    (goesOn : ∀ j : Inventory, j.held.Perm rest → Books sound next j post) :
    Books sound (do first.release; second.release; next) i post := by
  apply Books.bind (books_release (held.trans (List.Perm.swap _ _ _)))
  intro _ j held
  apply Books.bind (books_release held)
  intro _ j held
  exact goesOn j held

end RingMapping

/-! ### Umems -/

namespace UmemBinding

/-- What a umem holds. -/
def assets (u : UmemBinding) : List Asset :=
  [u.completion.asset, u.fill.asset, .socket u.fd, .memory u.address u.layout.size]

theorem acquires_sizeRing (fd : Fd) (c : Config) (role : RingRole) {kept : List Asset} (held : i.held.Perm kept) :
    Acquires (sizeRing fd c role) kept i fun _ j => j = i :=
  Acquires.idle (books_setRingSize fd role _) held

theorem acquires_create (l : Layout) (c : Config) :
    Acquires (create l c) [] .empty fun u j =>
      j = ⟨u.assets, [], false⟩ ∧ u.layout = l ∧ u.fill.role = .fill ∧ u.completion.role = .completion := by
  apply Acquires.bind (Acquires.reporting (books_mapMemory l) (List.Perm.refl _))
  rintro address _ rfl
  refine Acquires.guarding ?_ fun _ held => books_unmapMemory held nofun
  apply Acquires.bind (Acquires.reporting books_createSocket (List.Perm.refl _))
  rintro fd _ ⟨-, rfl⟩
  refine Acquires.guarding ?_ fun _ held => books_closeSocket held (by simp [Asset.isRing])
  apply Acquires.bind (Acquires.idle (books_registerUmem fd _) (List.Perm.refl _))
  rintro _ _ rfl
  apply Acquires.bind (acquires_sizeRing fd c .fill (List.Perm.refl _))
  rintro _ _ rfl
  apply Acquires.bind (acquires_sizeRing fd c .completion (List.Perm.refl _))
  rintro _ _ rfl
  apply Acquires.bind (Acquires.idle (books_ringOffsets fd) (List.Perm.refl _))
  rintro offsets _ rfl
  apply Acquires.bind (RingMapping.acquires_map fd offsets c .fill (List.Perm.refl _))
  rintro fill _ ⟨fillRole, rfl⟩
  refine Acquires.bind (Acquires.guarding (RingMapping.acquires_map fd offsets c .completion (List.Perm.refl _))
    fun _ held => RingMapping.books_release held) ?_
  rintro completion _ ⟨completionRole, rfl⟩
  apply Acquires.bind (Acquires.lift (Books.emit _))
  rintro _ _ rfl
  exact Acquires.pure ⟨rfl, rfl, fillRole, completionRole⟩

/-- The rings are unmapped, the socket is closed, and the frame memory goes last. Nothing else may be mapped from the
socket, and no other socket may be open. -/
theorem books_release {u : UmemBinding} {others : List Asset} (held : i.held.Perm (u.assets ++ others))
    (plain : ∀ asset ∈ others, asset.isRing = false ∧ asset.isSocket = false) :
    Books sound u.release i fun _ j => j.held.Perm others := by
  apply RingMapping.books_release_both held
  intro j held
  have unmapped : ∀ asset ∈ .memory u.address u.layout.size :: others, asset.isRing = false := by
    intro asset mem
    rcases List.mem_cons.mp mem with rfl | mem
    · rfl
    · exact (plain asset mem).1
  apply Books.bind (books_closeSocket held unmapped)
  intro _ j held
  exact books_unmapMemory held plain

theorem books_release_all {u : UmemBinding} (held : i.held.Perm u.assets) :
    Books sound u.release i fun _ j => j.held.Perm [] := by
  rw [← List.append_nil u.assets] at held
  exact books_release held nofun

theorem books_teardown {u : UmemBinding} (held : i.held.Perm u.assets) :
    Books sound u.teardown i fun _ j => j.held.Perm [] := by
  apply Books.bind (Books.emit _)
  rintro _ i rfl
  exact books_release_all held

end UmemBinding

/-! ### Sockets -/

theorem SocketMap.acquires_register (map : SocketMap) (queue : UInt32) {fd : Fd} {kept : List Asset}
    (held : i.held.Perm kept) (bound : fd ∈ i.bound) (first : i.entered = false) :
    Acquires (map.register queue fd) kept i fun _ j => j = { i with entered := true } := by
  have booked : i.book (.entered queue fd) = some { i with entered := true } := if_pos ⟨bound, first⟩
  cases map with
  | refusing reason => exact Acquires.throw held
  | listed => exact Acquires.lift (Books.note booked fun _ mem => mem)
  | opened map =>
    apply Acquires.bind (Acquires.lift (Books.note booked fun _ mem => mem))
    rintro _ _ rfl
    apply Acquires.bind (Acquires.idle (i := { i with entered := true }) (books_setEntry map queue fd) held)
    rintro _ _ rfl
    exact Acquires.lift (Books.emit _)

namespace SocketBinding

/-- What a socket holds, with its umem. -/
def assets (s : SocketBinding) : List Asset :=
  s.tx.asset :: s.rx.asset :: s.umem.assets

/-- The mapped rings of a socket are the four that there are. -/
structure Complete (s : SocketBinding) : Prop where
  rx : s.rx.role = .rx
  tx : s.tx.role = .tx
  fill : s.umem.fill.role = .fill
  completion : s.umem.completion.role = .completion

theorem acquires_bind (umem : UmemBinding) (map : SocketMap) (interface : String) (queue : UInt32) (c : Config) :
    Acquires (bind umem map interface queue c) umem.assets ⟨umem.assets, [], false⟩ fun s j =>
      j = ⟨s.assets, [s.fd], true⟩ ∧ s.umem = umem ∧ s.rx.role = .rx ∧ s.tx.role = .tx := by
  apply Acquires.bind (Acquires.idle (books_interfaceIndex interface) (List.Perm.refl _))
  rintro index _ rfl
  apply Acquires.bind (UmemBinding.acquires_sizeRing umem.fd c .rx (List.Perm.refl _))
  rintro _ _ rfl
  apply Acquires.bind (UmemBinding.acquires_sizeRing umem.fd c .tx (List.Perm.refl _))
  rintro _ _ rfl
  apply Acquires.bind (Acquires.idle (books_ringOffsets umem.fd) (List.Perm.refl _))
  rintro offsets _ rfl
  apply Acquires.bind (RingMapping.acquires_map umem.fd offsets c .rx (List.Perm.refl _))
  rintro rx _ ⟨rxRole, rfl⟩
  refine Acquires.guarding ?_ fun _ held => RingMapping.books_release held
  apply Acquires.bind (RingMapping.acquires_map umem.fd offsets c .tx (List.Perm.refl _))
  rintro tx _ ⟨txRole, rfl⟩
  refine Acquires.guarding ?_ fun _ held => RingMapping.books_release held
  have opened : .socket umem.fd ∈ ((Inventory.mk umem.assets [] false).holding rx.asset |>.holding tx.asset).held := by
    simp [UmemBinding.assets]
  apply Acquires.bind (Acquires.reporting (books_bindSocket opened index queue (bindFlags c)) (List.Perm.refl _))
  rintro _ _ rfl
  apply Acquires.bind (SocketMap.acquires_register map queue (List.Perm.refl _) List.mem_cons_self rfl)
  rintro _ _ rfl
  apply Acquires.bind (Acquires.lift (Books.emit _))
  rintro _ _ rfl
  exact Acquires.pure ⟨rfl, rfl, rxRole, txRole⟩

theorem acquires_build (map : SocketMap) (interface : String) (queue : UInt32) (c : Config) :
    Acquires (build map interface queue c) [] .empty fun s j => j = ⟨s.assets, [s.fd], true⟩ ∧ s.Complete := by
  rw [build]
  cases c.validate with
  | error error => exact Acquires.throw (List.Perm.refl _)
  | ok =>
    cases Layout.ofSizes c.frameSize c.frameCount with
    | error error => exact Acquires.throw (List.Perm.refl _)
    | ok layout =>
      apply Acquires.bind (UmemBinding.acquires_create layout c)
      rintro umem _ ⟨rfl, -, fill, completion⟩
      have bound := acquires_bind umem map interface queue c
      apply (Acquires.guarding bound fun j held => UmemBinding.books_release_all held).mono
      rintro s _ ⟨rfl, rfl, rx, tx⟩
      exact ⟨rfl, rx, tx, fill, completion⟩

/-- Both rings and the umem are released. -/
theorem books_release {s : SocketBinding} {others : List Asset} (held : i.held.Perm (s.assets ++ others))
    (plain : ∀ asset ∈ others, asset.isRing = false ∧ asset.isSocket = false) :
    Books sound s.release i fun _ j => j.held.Perm others := by
  apply RingMapping.books_release_both held
  intro j held
  exact UmemBinding.books_release held plain

theorem books_release_all {s : SocketBinding} (held : i.held.Perm s.assets) :
    Books sound s.release i fun _ j => j.held.Perm [] := by
  rw [← List.append_nil s.assets] at held
  exact books_release held nofun

/-- Taken apart, the socket gives up its two rings, and leaves what its umem holds. -/
theorem books_teardown {s : SocketBinding} (held : i.held.Perm s.assets) :
    Books sound s.teardown i fun umem j => umem = s.umem ∧ j.held.Perm s.umem.assets := by
  apply Books.bind (Books.emit _)
  rintro _ i rfl
  apply RingMapping.books_release_both held
  intro j held
  exact Books.pure ⟨rfl, held⟩

/-- In each way to let go of a socket everything is given back, in an order in which it may be. -/
structure Releasable (s : SocketBinding) (i : Inventory) : Prop where
  atOnce : Disposes s.release i
  inTwoSteps : Disposes (do (← s.teardown).teardown) i
  /-- The umem is not taken apart, but released all the same. -/
  umemAtOnce : Disposes (do (← s.teardown).release) i

theorem releasable {s : SocketBinding} (held : i.held.Perm s.assets) : s.Releasable i where
  atOnce := (books_release_all held).disposes
  inTwoSteps := by
    apply Books.disposes
    apply Books.bind (books_teardown held)
    rintro _ j ⟨rfl, held⟩
    exact UmemBinding.books_teardown held
  umemAtOnce := by
    apply Books.disposes
    apply Books.bind (books_teardown held)
    rintro _ j ⟨rfl, held⟩
    exact UmemBinding.books_release_all held

/-- One socket and five mappings: the four rings and the frame memory. -/
theorem Complete.assets_eq {s : SocketBinding} (complete : s.Complete) :
    s.assets = [.ring .tx s.tx.address s.tx.len, .ring .rx s.rx.address s.rx.len,
      .ring .completion s.umem.completion.address s.umem.completion.len,
      .ring .fill s.umem.fill.address s.umem.fill.len, .socket s.fd, .memory s.umem.address s.umem.layout.size] := by
  rw [assets, UmemBinding.assets]
  simp only [RingMapping.asset, complete.tx, complete.rx, complete.fill, complete.completion]
  rfl

end SocketBinding

/-! ### Engines on sockets -/

namespace EchoProcessor

/-- What a processor holds, which is the other link if it has one. -/
def assets (p : EchoProcessor) : List Asset :=
  p.link.toList.map fun link => .file link.fd

theorem plain_assets (p : EchoProcessor) : ∀ asset ∈ p.assets, asset.isRing = false ∧ asset.isSocket = false := by
  intro asset mem
  obtain ⟨link, -, rfl⟩ := List.mem_map.mp mem
  exact ⟨rfl, rfl⟩

theorem acquires_build (kind : ProcessorKind) {kept : List Asset} (held : i.held.Perm kept) :
    Acquires (build kind) kept i fun p j =>
      j = { i with held := p.assets ++ i.held } ∧ ∀ link ∈ p.link, link.fd ∉ i.files := by
  cases kind with
  | icmp => exact Acquires.pure ⟨rfl, nofun⟩
  | icmpv6 => exact Acquires.pure ⟨rfl, nofun⟩
  | egress interface =>
    apply Acquires.bind (Acquires.reporting (books_openLink interface) held)
    rintro link _ ⟨other, rfl⟩
    refine Acquires.pure ⟨rfl, ?_⟩
    rintro _ ⟨⟩
    exact other

theorem books_release {p : EchoProcessor} {others : List Asset} (held : i.held.Perm (p.assets ++ others))
    (different : ∀ link ∈ p.link, .socket link.fd ∉ others) : Books sound p.release i fun _ j => j.held.Perm others := by
  obtain ⟨processor, link⟩ := p
  cases link with
  | none => exact Books.pure held
  | some link => exact books_closeFile held (different link rfl)

end EchoProcessor

namespace EchoService

/-- What an engine and its socket hold. -/
def assets (s : EchoService) : List Asset :=
  s.processor.assets ++ s.socket.assets

theorem acquires_build (map : SocketMap) (interface : String) (queue : UInt32) (c : Config) :
    Acquires (build map interface queue c) [] .empty fun s j =>
      j = ⟨s.assets, [s.socket.fd], true⟩ ∧ s.socket.Complete ∧ ∀ link ∈ s.processor.link, link.fd ≠ s.socket.fd := by
  apply Acquires.bind (SocketBinding.acquires_build map interface queue c)
  rintro socket _ ⟨rfl, complete⟩
  apply Acquires.bind (Acquires.guarding (EchoProcessor.acquires_build c.processor (List.Perm.refl _))
    fun j held => SocketBinding.books_release_all held)
  rintro processor _ ⟨rfl, other⟩
  refine Acquires.pure ⟨rfl, complete, fun link mem same => other link mem ?_⟩
  have opened : .socket socket.fd ∈ socket.assets := by
    simp [SocketBinding.assets, UmemBinding.assets, SocketBinding.fd]
  exact List.mem_filterMap.mpr ⟨_, opened, congrArg some same.symm⟩

/-- The socket is released before the other link. -/
theorem books_release {s : EchoService} (held : i.held.Perm s.assets) :
    Books sound s.release i fun _ j => j.held.Perm [] := by
  have both : i.held.Perm (s.socket.assets ++ s.processor.assets) := held.trans List.perm_append_comm
  apply Books.bind (SocketBinding.books_release both s.processor.plain_assets)
  intro _ j held
  rw [← List.append_nil s.processor.assets] at held
  exact EchoProcessor.books_release held nofun

theorem world_finish (state : EchoState) : (Engine.finish state).env.world = state.env.world := by
  rw [Engine.finish]
  split
  next => rfl
  next => rfl

/-- The other link is closed when the engine lets go of the rings, and the socket is left. -/
theorem finish_leaves_socket {s : EchoService} (held : i.held.Perm s.assets)
    (different : ∀ link ∈ s.processor.link, link.fd ≠ s.socket.fd) (state : EchoState) :
    ∃ j, Booked state.env (s.finish state) i j ∧ s.socket.Releasable j := by
  have others : ∀ link ∈ s.processor.link, .socket link.fd ∉ s.socket.assets := by
    intro link mem
    simpa [SocketBinding.assets, UmemBinding.assets, RingMapping.asset, SocketBinding.fd] using different link mem
  have books : Books False s.processor.release i fun _ j => j.held.Perm s.socket.assets :=
    EchoProcessor.books_release held others
  obtain ⟨j, booked, -, left⟩ := books (Engine.finish state).env nofun
  rw [Booked, world_finish] at booked
  exact ⟨j, booked, SocketBinding.releasable left⟩

/-- Nothing leaks when a socket is made, or an engine on one, whatever the configuration, the interface, the queue and the
socket map, and whichever calls fail with whatever error. Over all that is added to the trace the books are in order:
nothing is given back that is not held, under another address, or with another length, and nothing twice; no socket is
closed while a ring is mapped, no frame memory is released before its socket is closed, and a socket is entered in the
socket map when it has been bound, and only once.

Nothing is held in the end when making it has failed. Otherwise there is one socket, and mapped are its four rings and the
frame memory; and for an engine that sends out of another link there is the socket of that link. However the socket is let
go of, and the engine with it or before it, everything is given back, and the books are in order. -/
theorem construction_leaks_nothing (map : SocketMap) (interface : String) (queue : UInt32) (c : Config)
    {env : Env Kernel} (mapped : ∀ number, env.world.script.address number ≠ 0) :
    (∃ i, Booked env (SocketBinding.build map interface queue c env).2 .empty i ∧
      match (SocketBinding.build map interface queue c env).1 with
      | .error _ => i.held = []
      | .ok s =>
        i.held = [.ring .tx s.tx.address s.tx.len, .ring .rx s.rx.address s.rx.len,
            .ring .completion s.umem.completion.address s.umem.completion.len,
            .ring .fill s.umem.fill.address s.umem.fill.len, .socket s.fd, .memory s.umem.address s.umem.layout.size] ∧
          i.bound = [s.fd] ∧ i.entered = true ∧ s.Releasable i) ∧
      ∃ i, Booked env (EchoService.build map interface queue c env).2 .empty i ∧
        match (EchoService.build map interface queue c env).1 with
        | .error _ => i.held = []
        | .ok s =>
          i.held = s.processor.link.toList.map (fun link => .file link.fd) ++
            [.ring .tx s.socket.tx.address s.socket.tx.len, .ring .rx s.socket.rx.address s.socket.rx.len,
              .ring .completion s.socket.umem.completion.address s.socket.umem.completion.len,
              .ring .fill s.socket.umem.fill.address s.socket.umem.fill.len, .socket s.socket.fd,
              .memory s.socket.umem.address s.socket.umem.layout.size] ∧
            i.bound = [s.socket.fd] ∧ i.entered = true ∧ Disposes s.release i ∧
            ∀ state : EchoState, ∃ j, Booked state.env (s.finish state) i j ∧ s.socket.Releasable j := by
  have kernel : Sound env .empty := ⟨mapped, nofun⟩
  constructor
  · obtain ⟨i, booked, -, here⟩ := SocketBinding.acquires_build map interface queue c env fun _ => kernel
    refine ⟨i, booked, ?_⟩
    change Ending _ _ (SocketBinding.build map interface queue c env).1 i at here
    cases result : (SocketBinding.build map interface queue c env).1 with
    | error error =>
      rw [result] at here
      exact List.perm_nil.mp here
    | ok s =>
      rw [result] at here
      obtain ⟨rfl, complete⟩ := here
      exact ⟨complete.assets_eq, rfl, rfl, SocketBinding.releasable (List.Perm.refl _)⟩
  · obtain ⟨i, booked, -, here⟩ := acquires_build map interface queue c env fun _ => kernel
    refine ⟨i, booked, ?_⟩
    change Ending _ _ (EchoService.build map interface queue c env).1 i at here
    cases result : (EchoService.build map interface queue c env).1 with
    | error error =>
      rw [result] at here
      exact List.perm_nil.mp here
    | ok s =>
      rw [result] at here
      obtain ⟨rfl, complete, different⟩ := here
      have held : (⟨s.assets, [s.socket.fd], true⟩ : Inventory).held.Perm s.assets := List.Perm.refl _
      exact ⟨congrArg (s.processor.assets ++ ·) complete.assets_eq, rfl, rfl, (books_release held).disposes,
        finish_leaves_socket held different⟩

/-- A kernel with one interface, on which the given calls fail. -/
def oneInterface (faults : List (CallKind × Nat × Errno)) : Env Kernel :=
  .blank (.boot { Script.empty with interfaces := [⟨"eth0", 3, none⟩], faults })

/-- On a kernel that lets every call succeed a socket is made, and six things are held; where the socket is refused when it
is to be bound, all of them have been given back. -/
theorem construction_leaks_nothing_on_one_interface :
    (∀ number, (oneInterface []).world.script.address number ≠ 0) ∧
    (∃ i s, (SocketBinding.build .listed "eth0" 0 .standard (oneInterface [])).1 = .ok s ∧
      Booked (oneInterface []) (SocketBinding.build .listed "eth0" 0 .standard (oneInterface [])).2 .empty i ∧
      i.held.length = 6 ∧ i.entered = true ∧ s.Releasable i) ∧
    ∃ i error, (SocketBinding.build .listed "eth0" 0 .standard (oneInterface [(.bind, 1, .busy)])).1 = .error error ∧
      Booked (oneInterface [(.bind, 1, .busy)])
        (SocketBinding.build .listed "eth0" 0 .standard (oneInterface [(.bind, 1, .busy)])).2 .empty i ∧
      i.held = [] := by
  have name : "eth0".contains '\x00' = false := by simp
  have made : (SocketBinding.build .listed "eth0" 0 .standard (oneInterface [])).1.isOk = true := by
    simp only [SocketBinding.build, SocketBinding.bind, interfaceIndex, name]
    decide +kernel
  have refused :
      (SocketBinding.build .listed "eth0" 0 .standard (oneInterface [(.bind, 1, .busy)])).1.isOk = false := by
    simp only [SocketBinding.build, SocketBinding.bind, interfaceIndex, name]
    decide +kernel
  have mapped (faults) : ∀ number, (oneInterface faults).world.script.address number ≠ 0 :=
    Script.standardAddress_ne_zero
  refine ⟨mapped [], ?_, ?_⟩
  · obtain ⟨⟨i, booked, here⟩, -⟩ := construction_leaks_nothing .listed "eth0" 0 .standard (mapped [])
    cases result : (SocketBinding.build .listed "eth0" 0 .standard (oneInterface [])).1 with
    | error error =>
      rw [result] at made
      cases made
    | ok s =>
      rw [result] at here
      obtain ⟨held, -, entered, releasable⟩ := here
      exact ⟨i, s, rfl, booked, congrArg List.length held, entered, releasable⟩
  · obtain ⟨⟨i, booked, here⟩, -⟩ :=
      construction_leaks_nothing .listed "eth0" 0 .standard (mapped [(.bind, 1, .busy)])
    cases result : (SocketBinding.build .listed "eth0" 0 .standard (oneInterface [(.bind, 1, .busy)])).1 with
    | error error =>
      rw [result] at here
      exact ⟨i, error, rfl, booked, here⟩
    | ok s =>
      rw [result] at refused
      cases refused

end EchoService

end XdpEcho
