import XdpEcho.Env

/-!
# A recording link

A link that keeps the frames it is given. It can be told to refuse them, or to claim that a given number of bytes
went out.
-/

namespace XdpEcho

/-- A link and what it was given. -/
structure RecordingLink where
  failure : Option String
  /-- The number of bytes that every send claims, when it is not the length of the frame. -/
  claimed : Option UInt64
  frames : Array Bytes

namespace RecordingLink

/-- A link that sends everything and has sent nothing. -/
def fresh : RecordingLink := ⟨none, none, #[]⟩

def send (frame : Bytes) (env : Env RecordingLink) : Except SystemError UInt64 × Env RecordingLink :=
  match env.world.failure with
  | some text => (.error (.custom text), env)
  | none =>
    (.ok (env.world.claimed.getD (UInt64.ofNat frame.length)),
      env.mapWorld fun link => { link with frames := link.frames.push frame })

end RecordingLink

end XdpEcho
