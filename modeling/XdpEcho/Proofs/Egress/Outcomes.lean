import XdpEcho.Processor

/-!
# What becomes of a packet that is answered out of a link

The packet is not answered, its reply goes out, or the link refuses the reply. Whatever the link does to the surroundings,
little comes on top of it.

* `Processor.egress_of_error`, `Processor.egress_of_sent`, `Processor.egress_of_refused` — the three outcomes.
* `Processor.drops_egress` — the frame is given back in all of them.
* `Link`, `Link.send` — a link of its own, whose calls are on record.
* `Processor.egress_of_ok` — the outcomes over such a link.
-/

namespace XdpEcho

variable {ω κ : Type} {packet reply : Bytes}

namespace Processor

variable {send : Bytes → Env ω → Except SystemError UInt64 × Env ω} {env env' : Env ω}

/-- What is not answered is reported, and no call is made. -/
theorem egress_of_error {reason : DropReason} (unanswered : EchoReply.ipv4 packet = .error reason) (failures : UInt64)
    (env : Env ω) :
    (egress send).process packet failures env = (.drop, packet, failures, env.emit (.packetDropped reason)) := by
  simp only [egress, unanswered]

/-- A reply that has gone out is counted. -/
theorem egress_of_sent {sent : UInt64} (answered : EchoReply.ipv4 packet = .ok reply)
    (called : send reply env = (.ok sent, env')) (failures : UInt64) :
    (egress send).process packet failures env =
      (.drop, reply, failures, { env' with stats := env'.stats.recordTx 1 sent }) := by
  simp only [egress, answered, called]

/-- A reply that has been refused counts as a failure, and is reported now and then. -/
theorem egress_of_refused {error : SystemError} (answered : EchoReply.ipv4 packet = .ok reply)
    (called : send reply env = (.error error, env')) (failures : UInt64) :
    (egress send).process packet failures env = (.drop, reply, failures + 1, { env' with
      log := if reportsFailure (failures + 1) then env'.log.push (.egressFailed error (failures + 1)) else env'.log }) := by
  simp only [egress, answered, called]
  split
  next => rfl
  next => rfl

/-- The frame is given back whatever happens. -/
theorem drops_egress (packet : Bytes) (failures : UInt64) (env : Env ω) :
    ((egress send).process packet failures env).1 = .drop := by
  cases answered : EchoReply.ipv4 packet with
  | error reason => rw [egress_of_error answered]
  | ok reply =>
    obtain ⟨result, env', called⟩ : ∃ result env', send reply env = (result, env') := ⟨_, _, rfl⟩
    cases result with
    | ok sent => rw [egress_of_sent answered called]
    | error error => rw [egress_of_refused answered called]

end Processor

/-! ### Links -/

/-- A link as a function of its own state: it puts a whole frame on a wire and returns how many bytes went out. -/
abbrev Link (κ : Type) := Bytes → κ → Except SystemError UInt64 × κ

/-- One call of a link. -/
structure Transfer where
  /-- What the link was given. -/
  frame : Bytes
  /-- What it has returned. -/
  result : Except SystemError UInt64

/-- A link and the calls of it, the first one first. -/
structure Tapped (κ : Type) where
  link : κ
  calls : List Transfer

/-- Calls a link and puts the call on record. -/
def Link.send (link : Link κ) (frame : Bytes) (env : Env (Tapped κ)) : Except SystemError UInt64 × Env (Tapped κ) :=
  let (result, after) := link frame env.world.link
  (result, { env with world := ⟨after, env.world.calls ++ [⟨frame, result⟩]⟩ })

/-- The frames that have gone out. -/
def copies (calls : List Transfer) : List Bytes :=
  (calls.filter (·.result.isOk)).map (·.frame)

theorem copies_append (before later : List Transfer) : copies (before ++ later) = copies before ++ copies later := by
  rw [copies, List.filter_append, List.map_append]
  rfl

/-- What is answered is turned around first. Then the link is called with the reply, and what it returns decides what is
counted. -/
theorem Processor.egress_of_ok (link : Link κ) (answered : EchoReply.ipv4 packet = .ok reply) (failures : UInt64)
    (env : Env (Tapped κ)) :
    ∃ env', (egress link.send).process packet failures env =
        (.drop, reply, if (link reply env.world.link).1.isOk then failures else failures + 1, env') ∧
      env'.world = ⟨(link reply env.world.link).2, env.world.calls ++ [⟨reply, (link reply env.world.link).1⟩]⟩ ∧
      env'.stats = (match (link reply env.world.link).1 with
        | .ok sent => env.stats.recordTx 1 sent
        | .error _ => env.stats) ∧
      env'.log = (match (link reply env.world.link).1 with
        | .ok _ => env.log
        | .error error =>
          if reportsFailure (failures + 1) then env.log.push (.egressFailed error (failures + 1)) else env.log) := by
  obtain ⟨result, after, transferred⟩ : ∃ result after, link reply env.world.link = (result, after) := ⟨_, _, rfl⟩
  have called : link.send reply env =
      (result, { env with world := ⟨after, env.world.calls ++ [⟨reply, result⟩]⟩ }) := by
    simp only [Link.send, transferred]
  rw [transferred]
  cases result with
  | ok sent => exact ⟨_, egress_of_sent answered called failures, rfl, rfl, rfl⟩
  | error error => exact ⟨_, egress_of_refused answered called failures, rfl, rfl, rfl⟩

end XdpEcho
