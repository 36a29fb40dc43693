/-!
# Frame geometry

A umem is cut into frames of one size. A frame is found from an address inside it, and an address from the number
of its frame.

* `Layout.ofSizes` accepts a frame size that is a power of two from 2048 to 4096 and any number of frames but zero.
* `Layout.index?`, `Layout.address?` and `Layout.frameBase` go between addresses, frame numbers and frame starts.
-/

namespace XdpEcho

/-- Why two sizes are no geometry. -/
inductive LayoutError where
  /-- The frame size is not an admissible power of two. -/
  | frameSize (size : UInt32)
  | noFrames
  deriving DecidableEq

namespace LayoutError

def message : LayoutError → String
  | frameSize size => s!"frame size {size} must be a power of two in 2048..=4096"
  | noFrames => "frame count must be non-zero"

end LayoutError

/-- A frame is as large as a power of two between half a page and a page. -/
def AdmissibleFrameSize (size : UInt32) : Prop :=
  size.toNat.isPowerOfTwo ∧ 2048 ≤ size ∧ size ≤ 4096

instance (size : UInt32) : Decidable (AdmissibleFrameSize size) :=
  inferInstanceAs (Decidable (_ ∧ _))

/-- The geometry of a umem. -/
structure Layout where
  frameSize : UInt32
  frameCount : UInt32
  frameSize_admissible : AdmissibleFrameSize frameSize
  frameCount_ne_zero : frameCount ≠ 0
  deriving DecidableEq

namespace Layout

/-- The geometry of `frameCount` frames of `frameSize` bytes. -/
def ofSizes (frameSize frameCount : UInt32) : Except LayoutError Layout :=
  if hsize : AdmissibleFrameSize frameSize then
    if hcount : frameCount ≠ 0 then .ok ⟨frameSize, frameCount, hsize, hcount⟩ else .error .noFrames
  else .error (.frameSize frameSize)

def size (l : Layout) : UInt64 :=
  l.frameSize.toUInt64 * l.frameCount.toUInt64

def capacity (l : Layout) : Nat :=
  l.frameCount.toNat

/-- The number of the frame that holds the address, or `none` outside the umem. -/
def index? (l : Layout) (addr : UInt64) : Option UInt32 :=
  if addr < l.size then some (addr / l.frameSize.toUInt64).toUInt32 else none

/-- The address of the frame of the given number, or `none` when there are not so many. -/
def address? (l : Layout) (index : UInt32) : Option UInt64 :=
  if index < l.frameCount then some (index.toUInt64 * l.frameSize.toUInt64) else none

/-- The start of the frame that holds the address. Received packets lie behind the headroom, so their addresses are
not frame starts. -/
def frameBase (l : Layout) (addr : UInt64) : UInt64 :=
  addr &&& ~~~ (l.frameSize.toUInt64 - 1)

end Layout

end XdpEcho
