import XdpEcho.Socket.Acquisition
import Mathlib.Data.List.Perm.Basic

/-!
# What a program holds of the kernel

Mappings and open files are there until they are given back, and the trace of a modelled kernel tells of both. The books
over a trace say what is held at its end, and they are refused when something is given back that is not held, or given
back too early.

* `Asset`, `Inventory` — what can be held, and what is held.
* `Inventory.book` — the books over one entry of a trace, and with them the order in which things are to be given back.
* `Env.Booked` — the books over what has been added to the trace.
* `Books`, `Acquires` — what a computation does to the books when it is started with some inventory.
-/

namespace XdpEcho

theorem Script.standardAddress_ne_zero (number : Nat) : standardAddress number ≠ 0 := by
  intro zero
  have value := congrArg UInt64.toNat zero
  rw [standardAddress, UInt64.toNat_ofNat'] at value
  change _ = 0 at value
  omega

namespace Kernel

/-- Something that is held of the kernel and has to be given back. -/
inductive Asset where
  | memory (address len : UInt64)
  | ring (role : RingRole) (address len : UInt64)
  | socket (fd : Fd)
  | file (fd : Fd)
  deriving DecidableEq

namespace Asset

/-- What a call has got hold of that has succeeded with the given result. -/
def ofCall? (result : Int) : Call → Option Asset
  | .memory len => some (.memory (.ofNat result.toNat) len)
  | .ringMapping _ role len => some (.ring role (.ofNat result.toNat) len)
  | .socket => some (.socket result)
  | .packetSocket | .objectGet _ | .mapCreate .. | .programLoad _ | .linkCreate .. => some (.file result)
  | _ => none

def isRing : Asset → Bool
  | ring .. => true
  | _ => false

def isSocket : Asset → Bool
  | socket _ => true
  | _ => false

/-- The open file, when it is one. -/
def fd? : Asset → Option Fd
  | socket fd | file fd => some fd
  | _ => none

end Asset

/-- What is held, and how far its sockets have got. -/
structure Inventory where
  /-- What is held, the latest first. -/
  held : List Asset
  /-- The sockets that have been bound. -/
  bound : List Fd
  /-- Whether a socket has been entered in the socket map. -/
  entered : Bool

namespace Inventory

def empty : Inventory := ⟨[], [], false⟩

/-- The open files. -/
def files (i : Inventory) : List Fd :=
  i.held.filterMap Asset.fd?

def holding (i : Inventory) (asset : Asset) : Inventory :=
  { i with held := asset :: i.held }

/-- Takes something in. A file that is open is not opened again. -/
def take (i : Inventory) (asset : Asset) : Option Inventory :=
  if asset.fd?.any (· ∈ i.files) then none else some (i.holding asset)

/-- Gives something back that is held. -/
def giveBack (i : Inventory) (asset : Asset) : Option Inventory :=
  if asset ∈ i.held then some { i with held := i.held.erase asset } else none

/-- The books over one entry of a trace. What is given back must be held, under the same address and with the same
length. A socket is only closed when no ring is mapped any more, and frame memory is only released when there is neither a
ring nor a socket. A socket is only entered in the socket map when it has been bound, and only once. -/
def book (i : Inventory) : TraceEntry → Option Inventory
  | .called call (.ok result) =>
    match Asset.ofCall? result call, call with
    | some asset, _ => i.take asset
    | none, .bind fd _ _ _ => if .socket fd ∈ i.held then some { i with bound := fd :: i.bound } else none
    | none, _ => some i
  | .called _ (.error _) => some i
  | .ringUnmapped role address len => i.giveBack (.ring role address len)
  | .closed fd =>
    if .socket fd ∈ i.held then if i.held.any Asset.isRing then none else i.giveBack (.socket fd)
    else i.giveBack (.file fd)
  | .memoryUnmapped address len _ =>
    if i.held.any fun asset => asset.isRing || asset.isSocket then none else i.giveBack (.memory address len)
  | .entered _ fd =>
    if fd ∈ i.bound ∧ i.entered = false then some { i with entered := true } else none
  | .transmitted .. | .acted .. => some i

/-- The books over a trace. -/
def run (i : Inventory) (entries : List TraceEntry) : Option Inventory :=
  entries.foldlM book i

variable {i j k : Inventory} {asset : Asset} {rest : List Asset}

@[simp] theorem held_empty : empty.held = [] := rfl

@[simp] theorem held_holding (i : Inventory) (asset : Asset) : (i.holding asset).held = asset :: i.held := rfl

theorem run_singleton (i : Inventory) (entry : TraceEntry) : i.run [entry] = i.book entry := by
  simp [run]

theorem run_append {first later : List TraceEntry} (before : i.run first = some j) (after : j.run later = some k) :
    i.run (first ++ later) = some k := by
  rw [run, List.foldlM_append]
  rw [run] at before
  rw [before]
  exact after

theorem giveBack_eq (held : i.held.Perm (asset :: rest)) :
    ∃ j, i.giveBack asset = some j ∧ j.held.Perm rest ∧ j.files ⊆ i.files := by
  have mem : asset ∈ i.held := held.mem_iff.mpr List.mem_cons_self
  refine ⟨{ i with held := i.held.erase asset }, if_pos mem, ?_, ?_⟩
  · have erased := held.erase asset
    rwa [List.erase_cons_head] at erased
  · exact (List.erase_sublist.filterMap _).subset

end Inventory

/-! ### The books of a computation -/

/-- The books go from one inventory to another over what a computation has added to the trace. -/
def Booked (before after : Env Kernel) (i j : Inventory) : Prop :=
  ∃ entries, after.world.trace.toList = before.world.trace.toList ++ entries ∧ i.run entries = some j

theorem Booked.refl (env : Env Kernel) (i : Inventory) : Booked env env i i :=
  ⟨[], (List.append_nil _).symm, rfl⟩

theorem Booked.trans {first second third : Env Kernel} {i j k : Inventory} (before : Booked first second i j)
    (after : Booked second third j k) : Booked first third i k := by
  obtain ⟨entries, trace, books⟩ := before
  obtain ⟨entries', trace', books'⟩ := after
  refine ⟨entries ++ entries', ?_, Inventory.run_append books books'⟩
  rw [trace', trace, List.append_assoc]

/-- The kernel maps nothing at the address zero, and opens files under numbers that are not in use. -/
structure Sound (env : Env Kernel) (i : Inventory) : Prop where
  address : ∀ number, env.world.script.address number ≠ 0
  fresh : ∀ fd ∈ i.files, fd < env.world.nextFd

/-- Started with an inventory, a computation does what the books allow, and they end with an inventory that goes with its
result. Where that is only said of a sound kernel, the kernel is sound afterwards too. -/
def Books {α : Type} (sound : Prop) (m : KernelM α) (i : Inventory) (post : α → Inventory → Prop) : Prop :=
  ∀ env, (sound → Sound env i) → ∃ j, Booked env (m env).2 i j ∧ (sound → Sound (m env).2 j) ∧ post (m env).1 j

/-- An inventory that goes with what has been made, or with having failed. -/
def Ending {ε α : Type} (made : α → Inventory → Prop) (failed : Inventory → Prop) : Except ε α → Inventory → Prop
  | .ok a, j => made a j
  | .error _, j => failed j

/-- Started with an inventory on a sound kernel, an acquisition that succeeds ends with an inventory that goes with what it
has made, and one that fails holds no more than is to be held in the end. -/
def Acquires {α : Type} (m : Acquisition α) (kept : List Asset) (i : Inventory) (made : α → Inventory → Prop) : Prop :=
  Books True m.run i (Ending made fun j => j.held.Perm kept)

/-- Whatever has become of the kernel, everything that is held is given back, and in an order in which it may be. -/
def Disposes (m : KernelM Unit) (i : Inventory) : Prop :=
  ∀ env, ∃ j, Booked env (m env).2 i j ∧ j.held = []

variable {α β : Type} {sound : Prop} {i j : Inventory}

namespace Books

theorem disposes {m : KernelM Unit} (books : Books False m i fun _ j => j.held.Perm []) : Disposes m i := by
  intro env
  obtain ⟨j, booked, -, none⟩ := books env nofun
  exact ⟨j, booked, List.perm_nil.mp none⟩

theorem pure {a : α} {post : α → Inventory → Prop} (here : post a i) : Books sound (Pure.pure a) i post :=
  fun env before => ⟨i, .refl env i, before, here⟩

theorem bind {m : KernelM α} {f : α → KernelM β} {mid : α → Inventory → Prop} {post : β → Inventory → Prop}
    (first : Books sound m i mid) (next : ∀ a j, mid a j → Books sound (f a) j post) : Books sound (m >>= f) i post := by
  intro env before
  obtain ⟨j, booked, between, here⟩ := first env before
  obtain ⟨k, booked', after, there⟩ := next _ j here _ between
  exact ⟨k, booked.trans booked', after, there⟩

theorem mono {m : KernelM α} {post post' : α → Inventory → Prop} (books : Books sound m i post)
    (weaker : ∀ a j, post a j → post' a j) : Books sound m i post' := by
  intro env before
  obtain ⟨j, booked, after, here⟩ := books env before
  exact ⟨j, booked, after, weaker _ j here⟩

/-- What leaves the trace, the script and the open files alone leaves the books alone. -/
theorem silent {m : KernelM α}
    (still : ∀ env, (m env).2.world.trace = env.world.trace ∧ (m env).2.world.script = env.world.script ∧
      (m env).2.world.nextFd = env.world.nextFd) : Books sound m i fun _ j => j = i := by
  intro env before
  obtain ⟨trace, script, nextFd⟩ := still env
  refine ⟨i, ⟨[], ?_, rfl⟩, fun holds => ⟨?_, ?_⟩, rfl⟩
  · rw [trace, List.append_nil]
  · rw [script]
    exact (before holds).address
  · rw [nextFd]
    exact (before holds).fresh

theorem emit (event : Event) : Books sound (Kernel.emit event) i fun _ j => j = i :=
  silent fun _ => ⟨rfl, rfl, rfl⟩

/-- An entry of the trace is booked. -/
theorem note {entry : TraceEntry} (booked : i.book entry = some j) (files : j.files ⊆ i.files) :
    Books sound (Kernel.note entry) i fun _ k => k = j := by
  intro env before
  refine ⟨j, ⟨[entry], ?_, ?_⟩, fun holds => ⟨(before holds).address, fun fd mem => ?_⟩, rfl⟩
  · exact Array.toList_push
  · rw [Inventory.run_singleton, booked]
  · exact (before holds).fresh fd (files mem)

end Books

namespace Acquires

theorem pure {a : α} {kept : List Asset} {made : α → Inventory → Prop} (here : made a i) :
    Acquires (Pure.pure a) kept i made :=
  Books.pure here

theorem bind {m : Acquisition α} {f : α → Acquisition β} {kept : List Asset} {mid : α → Inventory → Prop}
    {made : β → Inventory → Prop} (first : Acquires m kept i mid)
    (next : ∀ a j, mid a j → Acquires (f a) kept j made) : Acquires (m >>= f) kept i made := by
  change Books True (m.run >>= ExceptT.bindCont f) i _
  refine Books.bind first fun result j here => ?_
  cases result with
  | ok a => exact next a j here
  | error error => exact Books.pure here

theorem mono {m : Acquisition α} {kept : List Asset} {made made' : α → Inventory → Prop}
    (acquires : Acquires m kept i made) (weaker : ∀ a j, made a j → made' a j) : Acquires m kept i made' := by
  apply Books.mono acquires
  intro result j here
  cases result with
  | ok a => exact weaker a j here
  | error error => exact here

/-- What is held is released when going on fails. -/
theorem guarding {release : KernelM Unit} {next : Acquisition α} {kept during : List Asset}
    {made : α → Inventory → Prop} (body : Acquires next during i made)
    (releases : ∀ j : Inventory, j.held.Perm during → Books True release j fun _ k => k.held.Perm kept) :
    Acquires (Acquisition.guarding release next) kept i made := by
  refine Books.bind body fun result j here => ?_
  cases result with
  | ok a => exact Books.pure here
  | error error => exact Books.bind (releases j here) fun _ k there => Books.pure there

theorem throw {error : SocketError} {kept : List Asset} {made : α → Inventory → Prop} (held : i.held.Perm kept) :
    Acquires (throw error) kept i made :=
  Books.pure held

/-- What never fails. -/
theorem lift {m : KernelM α} {kept : List Asset} {made : α → Inventory → Prop} (books : Books True m i made) :
    Acquires (liftM m) kept i made :=
  books

/-- A call whose failure is reported. -/
theorem reporting {ε : Type} {report : ε → SocketError} {call : KernelM (Except ε α)} {kept : List Asset}
    {made : α → Inventory → Prop}
    (books : Books True call i (Ending made fun j => j = i)) (held : i.held.Perm kept) :
    Acquires (Acquisition.reporting report call) kept i made := by
  refine Books.bind books fun result j here => Books.pure ?_
  cases result with
  | ok a => exact here
  | error error =>
    subst here
    exact held

/-- A call that leaves the books as they are. -/
theorem idle {ε : Type} {report : ε → SocketError} {call : KernelM (Except ε α)} {kept : List Asset}
    (books : Books True call i fun _ j => j = i) (held : i.held.Perm kept) :
    Acquires (Acquisition.reporting report call) kept i fun _ j => j = i := by
  refine reporting (books.mono fun result j same => ?_) held
  cases result with
  | ok a => exact same
  | error error => exact same

end Acquires

end Kernel

end XdpEcho
