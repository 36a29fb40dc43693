import XdpEcho.Umem.Layout

/-!
# The pool of free frames

A stack of the frames that neither the engine nor the other side of the rings holds. A frame leaves the pool by
`allocate?` and comes back by `release`, under any address inside it.

A release of a frame that is free already, or of an address outside the umem, changes nothing but the count of
refused releases, so the stack never holds a frame twice.
-/

namespace XdpEcho

/-- The free frames of a umem. -/
structure FramePool where
  layout : Layout
  /-- The start addresses of the free frames, the next one to leave first. -/
  stack : List UInt64
  /-- For each frame number, whether the frame is on the stack. -/
  isFree : Array Bool
  /-- How many releases were refused. -/
  rejected : UInt64
  deriving DecidableEq

namespace FramePool

/-- The addresses of the frames numbered below `n`, highest first. -/
def addressesBelow (l : Layout) : Nat → List UInt64
  | 0 => []
  | n + 1 => (UInt64.ofNat n * l.frameSize.toUInt64) :: addressesBelow l n

/-- A pool that holds every frame, the last one on top. -/
def full (l : Layout) : FramePool where
  layout := l
  stack := addressesBelow l l.capacity
  isFree := Array.replicate l.capacity true
  rejected := 0

def capacity (p : FramePool) : Nat :=
  p.layout.capacity

def freeCount (p : FramePool) : Nat :=
  p.stack.length

/-- Takes the frame on top of the stack, or `none` when every frame is in use. -/
def allocate? (p : FramePool) : Option (UInt64 × FramePool) :=
  match p.stack with
  | [] => none
  | addr :: stack =>
    match p.layout.index? addr with
    | some index => some (addr, { p with stack, isFree := p.isFree.setIfInBounds index.toNat false })
    | none => some (addr, { p with stack })

/-- Takes up to `n` frames, in the order in which they leave the stack. -/
def allocateUpTo : Nat → FramePool → List UInt64 × FramePool
  | 0, p => ([], p)
  | n + 1, p =>
    match p.allocate? with
    | none => ([], p)
    | some (addr, p) =>
      let (addrs, p) := allocateUpTo n p
      (addr :: addrs, p)

def reject (p : FramePool) : FramePool :=
  { p with rejected := p.rejected + 1 }

/-- Gives back the frame that holds the address. Refused when the address is outside the umem or its frame is free. -/
def release (p : FramePool) (addr : UInt64) : FramePool :=
  let base := p.layout.frameBase addr
  match p.layout.index? base with
  | none => p.reject
  | some index =>
    if p.isFree.getD index.toNat false then p.reject
    else { p with stack := base :: p.stack, isFree := p.isFree.setIfInBounds index.toNat true }

def releaseAll (p : FramePool) (addrs : List UInt64) : FramePool :=
  addrs.foldl release p

end FramePool

end XdpEcho
