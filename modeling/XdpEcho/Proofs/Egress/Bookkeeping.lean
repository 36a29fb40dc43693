import XdpEcho.Proofs.Egress.Untouched

/-!
# What answering out of a link adds up to

One packet makes one entry in the books at most: a call of the link, a sent frame in the counters or a failure, and now
and then a line in the log. This module says what the entries of a whole run of packets add up to.

* `countP_isPowerOfTwo` — a line at every power of two makes logarithmically many lines.
* `Processor.processAll`, `Link.sendAll` — a run of packets, and the calls that a run of frames makes.
* `Recorded` — how the books stand after some calls against how they stood before: `Recorded.none`, `Recorded.trans`.
* `Processor.recorded_egress`, `Processor.recorded_egress_all` — the entries of one packet, and those of a run.
* `Processor.egress_bookkeeping` — the books after any run that starts with none.
-/

namespace XdpEcho

variable {σ ω κ : Type}

/-! ### Powers of two -/

theorem log2_succ {n : Nat} (positive : n ≠ 0) :
    (n + 1).log2 = n.log2 + if (n + 1).isPowerOfTwo then 1 else 0 := by
  obtain ⟨atLeast, below⟩ := (Nat.log2_eq_iff positive).mp rfl
  split
  next power =>
    obtain ⟨k, power⟩ := power
    have upper : k ≤ n.log2 + 1 := (Nat.pow_le_pow_iff_right (by decide)).mp (power.symm.trans_le below)
    have lower : n.log2 < k := (Nat.pow_lt_pow_iff_right (by decide)).mp (atLeast.trans_lt (power ▸ Nat.lt_succ_self n))
    rw [power, Nat.log2_two_pow]
    omega
  next between =>
    have other : n + 1 ≠ 2 ^ (n.log2 + 1) := fun same => between ⟨_, same⟩
    exact (Nat.log2_eq_iff (Nat.succ_ne_zero n)).mpr ⟨Nat.le_succ_of_le atLeast, Nat.lt_of_le_of_ne below other⟩

/-- Of the first `n` numbers, one for every binary digit of `n` is a power of two. -/
theorem countP_isPowerOfTwo (n : Nat) :
    (List.range' 1 n).countP (·.isPowerOfTwo) = if n = 0 then 0 else n.log2 + 1 := by
  induction n with
  | zero => rfl
  | succ n ih =>
    rw [List.range'_1_concat, List.countP_append, ih, if_neg (Nat.succ_ne_zero n)]
    by_cases zero : n = 0
    · subst zero
      decide
    · rw [if_neg zero, log2_succ zero, List.countP_singleton, Nat.add_comm 1 n]
      simp only [decide_eq_true_eq]
      omega

/-! ### Runs -/

/-- Handles packets one after the other: what becomes of each of them and of its frame, and what is left of the state
and of the surroundings. -/
def Processor.processAll (p : Processor σ ω) : List Bytes → σ → Env ω → List (Verdict × Bytes) × σ × Env ω
  | [], state, env => ([], state, env)
  | packet :: rest, state, env =>
    let (verdict, packet, state, env) := p.process packet state env
    let (judged, state, env) := p.processAll rest state env
    ((verdict, packet) :: judged, state, env)

/-- The calls of a link that is given frames one after the other, and its state after them. -/
def Link.sendAll (link : Link κ) : List Bytes → κ → List Transfer × κ
  | [], state => ([], state)
  | frame :: rest, state =>
    let (result, state) := link frame state
    let (calls, state) := link.sendAll rest state
    (⟨frame, result⟩ :: calls, state)

theorem Link.frames_sendAll (link : Link κ) (frames : List Bytes) (state : κ) :
    (link.sendAll frames state).1.map (·.frame) = frames := by
  induction frames generalizing state with
  | nil => rfl
  | cons frame rest ih => exact congrArg (frame :: ·) (ih _)

theorem Link.sendAll_append (link : Link κ) (frames rest : List Bytes) (state : κ) :
    link.sendAll (frames ++ rest) state =
      ((link.sendAll frames state).1 ++ (link.sendAll rest (link.sendAll frames state).2).1,
        (link.sendAll rest (link.sendAll frames state).2).2) := by
  induction frames generalizing state with
  | nil => rfl
  | cons frame frames ih => simp only [List.cons_append, sendAll, ih]

/-- The replies to the packets that are answered. -/
def replies (packets : List Bytes) : List Bytes :=
  packets.filterMap fun packet => (EchoReply.ipv4 packet).toOption

theorem replies_cons (packet : Bytes) (rest : List Bytes) : replies (packet :: rest) = replies [packet] ++ replies rest :=
  List.filterMap_append (l := [packet])

/-- No packet is answered twice. -/
theorem length_replies_le (packets : List Bytes) : (replies packets).length ≤ packets.length :=
  List.length_filterMap_le _ _

/-! ### The books -/

/-- The lengths of which a link says that they have gone out. -/
def lengths (calls : List Transfer) : List UInt64 :=
  calls.filterMap (·.result.toOption)

/-- The errors that a link has returned. -/
def errors (calls : List Transfer) : List SystemError :=
  calls.filterMap fun call =>
    match call.result with
    | .ok _ => none
    | .error error => some error

theorem lengths_append (first later : List Transfer) : lengths (first ++ later) = lengths first ++ lengths later :=
  List.filterMap_append

theorem errors_append (first later : List Transfer) : errors (first ++ later) = errors first ++ errors later :=
  List.filterMap_append

/-- There are no more failures than packets. -/
theorem length_errors_le (link : Link κ) (packets : List Bytes) (state : κ) :
    (errors (link.sendAll (replies packets) state).1).length ≤ packets.length :=
  calc (errors (link.sendAll (replies packets) state).1).length
    _ ≤ (link.sendAll (replies packets) state).1.length := List.length_filterMap_le _ _
    _ = (replies packets).length := by rw [← List.length_map (·.frame), Link.frames_sendAll]
    _ ≤ packets.length := length_replies_le packets

/-- The lines in the log about failures that come after `before` other ones. -/
def reports (before : Nat) (errors : List SystemError) : List Event :=
  (errors.zipIdx (before + 1)).filterMap fun (error, failures) =>
    if failures.isPowerOfTwo then some (.egressFailed error (.ofNat failures)) else none

theorem reports_append (before : Nat) (first later : List SystemError) :
    reports before (first ++ later) = reports before first ++ reports (before + first.length) later := by
  rw [reports, List.zipIdx_append, List.filterMap_append]
  rw [Nat.add_right_comm]
  rfl

theorem reports_singleton (before : Nat) (error : SystemError) :
    reports before [error] =
      if (before + 1).isPowerOfTwo then [.egressFailed error (.ofNat (before + 1))] else [] := by
  by_cases power : (before + 1).isPowerOfTwo
  · simp [reports, power]
  · simp [reports, power]

theorem length_reports (before : Nat) (errors : List SystemError) :
    (reports before errors).length = (List.range' (before + 1) errors.length).countP (·.isPowerOfTwo) := by
  induction errors generalizing before with
  | nil => rfl
  | cons error rest ih =>
    have head : (reports before [error]).length = if decide (before + 1).isPowerOfTwo then 1 else 0 := by
      rw [reports_singleton]
      by_cases power : (before + 1).isPowerOfTwo
      · simp [power]
      · simp [power]
    rw [← List.singleton_append, reports_append, List.length_append, ih, head, List.singleton_append]
    rw [List.length_singleton, List.length_cons, List.range'_succ, List.countP_cons, Nat.add_comm]

/-- All lines about failures are warnings. -/
theorem filter_reports (before : Nat) (errors : List SystemError) :
    (reports before errors).filter (·.level = .warn) = reports before errors := by
  refine List.filter_eq_self.mpr fun event reported => ?_
  obtain ⟨entry, -, event_eq⟩ := List.mem_filterMap.mp reported
  obtain ⟨-, event_eq⟩ := Option.ite_none_right_eq_some.mp event_eq
  cases event_eq
  rfl

/-- How the books stand after some calls of a link, against how they stood before. -/
structure Recorded (calls : List Transfer) (failures failures' : UInt64) (env env' : Env (Tapped κ)) : Prop where
  made : env'.world.calls = env.world.calls ++ calls
  /-- The frames that have gone out are counted, with the lengths that the link has returned, and nothing else is. -/
  sent : env'.stats = env.stats.recordTx (.ofNat (copies calls).length) (.ofNat ((lengths calls).map (·.toNat)).sum)
  failed : failures'.toNat = failures.toNat + (errors calls).length
  /-- All warnings are about failures. -/
  warned : ∃ events, env'.log.toList = env.log.toList ++ events ∧
    events.filter (·.level = .warn) = reports failures.toNat (errors calls)

namespace Recorded

variable {first later : List Transfer} {failures failures' failures'' : UInt64} {env env' env'' : Env (Tapped κ)}

theorem none (failures : UInt64) (env : Env (Tapped κ)) : Recorded [] failures failures env env where
  made := (List.append_nil _).symm
  sent := by simp [Stats.recordTx, copies, lengths]
  failed := rfl
  warned := ⟨[], (List.append_nil _).symm, rfl⟩

theorem trans (before : Recorded first failures failures' env env') (after : Recorded later failures' failures'' env' env'') :
    Recorded (first ++ later) failures failures'' env env'' where
  made := by rw [after.made, before.made, List.append_assoc]
  sent := by
    rw [after.sent, before.sent, copies_append, lengths_append, List.length_append, List.map_append, List.sum_append]
    simp only [Stats.recordTx, UInt64.ofNat_add, UInt64.add_assoc]
  failed := by
    rw [after.failed, before.failed, errors_append, List.length_append, Nat.add_assoc]
  warned := by
    obtain ⟨events, log, warnings⟩ := before.warned
    obtain ⟨events', log', warnings'⟩ := after.warned
    refine ⟨events ++ events', by rw [log', log, List.append_assoc], ?_⟩
    rw [List.filter_append, warnings, warnings', before.failed, errors_append, reports_append]

end Recorded

namespace Processor

/-! ### The entries of a packet, and of many -/

/-- What a packet is afterwards: the reply to it, if there is one. -/
def answerOf (packet : Bytes) : Bytes :=
  (EchoReply.ipv4 packet).toOption.getD packet

/-- One packet: the link is called if there is a reply, and the books are kept. -/
theorem recorded_egress (link : Link κ) (packet : Bytes) (failures : UInt64) (few : failures.toNat + 1 < 2 ^ 64)
    (env : Env (Tapped κ)) :
    ∃ failures' env', (egress link.send).process packet failures env = (.drop, answerOf packet, failures', env') ∧
      env'.world.link = (link.sendAll (replies [packet]) env.world.link).2 ∧
      Recorded (link.sendAll (replies [packet]) env.world.link).1 failures failures' env env' := by
  cases answered : EchoReply.ipv4 packet with
  | error reason =>
    have none : replies [packet] = [] := by simp [replies, answered, Except.toOption]
    rw [none, egress_of_error answered, answerOf, answered]
    have nothing := Recorded.none failures env
    exact ⟨_, _, rfl, rfl, nothing.made, nothing.sent, nothing.failed, [.packetDropped reason], Array.toList_push, rfl⟩
  | ok reply =>
    have one : replies [packet] = [reply] := by simp [replies, answered, Except.toOption]
    obtain ⟨env', processed, world, stats, log⟩ := egress_of_ok link answered failures env
    obtain ⟨result, state, called⟩ : ∃ result state, link reply env.world.link = (result, state) := ⟨_, _, rfl⟩
    have calls : link.sendAll [reply] env.world.link = ([⟨reply, result⟩], state) := by simp only [Link.sendAll, called]
    rw [one, calls, processed, answerOf, answered]
    rw [called] at world stats log ⊢
    have made := congrArg Tapped.calls world
    have state := congrArg Tapped.link world
    cases result with
    | ok sent =>
      refine ⟨_, _, rfl, state, { made, sent := ?_, failed := rfl, warned := ⟨[], by rw [log, List.append_nil], rfl⟩ }⟩
      rw [stats]
      simp [copies, lengths, Except.isOk, Except.toBool, Except.toOption]
    | error error =>
      dsimp only at log
      have next : (failures + 1).toNat = failures.toNat + 1 := by
        rw [UInt64.toNat_add]
        exact Nat.mod_eq_of_lt few
      have same := stats.trans (Recorded.none failures env).sent
      refine ⟨_, _, rfl, state, { made, sent := same, failed := next, warned := ⟨reports failures.toNat [error], ?_, ?_⟩ }⟩
      · rw [log, reports_singleton, ← next, UInt64.ofNat_toNat]
        by_cases reported : reportsFailure (failures + 1) = true
        · rw [if_pos reported, if_pos (of_decide_eq_true reported), Array.toList_push]
        · rw [if_neg reported, if_neg (mt decide_eq_true reported), List.append_nil]
      · exact filter_reports _ _

/-- A run of packets: the link is called with the replies, one after the other, and the books are kept. -/
theorem recorded_egress_all (link : Link κ) (packets : List Bytes) (failures : UInt64)
    (few : failures.toNat + packets.length < 2 ^ 64) (env : Env (Tapped κ)) :
    ∃ failures' env', (egress link.send).processAll packets failures env =
        (packets.map fun packet => (.drop, answerOf packet), failures', env') ∧
      env'.world.link = (link.sendAll (replies packets) env.world.link).2 ∧
      Recorded (link.sendAll (replies packets) env.world.link).1 failures failures' env env' := by
  induction packets generalizing failures env with
  | nil => exact ⟨failures, env, rfl, rfl, .none failures env⟩
  | cons packet rest ih =>
    rw [List.length_cons] at few
    obtain ⟨failures', env', processed, linked, recorded⟩ := recorded_egress link packet failures (by omega) env
    have fewer := length_errors_le link [packet] env.world.link
    rw [← Nat.add_le_add_iff_left, ← recorded.failed, List.length_singleton] at fewer
    obtain ⟨failures'', env'', all, linked', recorded'⟩ := ih failures' (by omega) env'
    refine ⟨failures'', env'', by simp only [processAll, processed, all, List.map_cons], ?_⟩
    rw [replies_cons, Link.sendAll_append, ← linked]
    exact ⟨linked', recorded.trans recorded'⟩

/-- The books after any run of fewer than 2⁶⁴ packets, whatever the link does with each of them. Every frame is given
back. The link is called once for every packet that is answered, with the reply, and not otherwise, so that the frames
that have gone out are the replies that it has taken, in order. They are counted, with the lengths that the link has
returned, and no other counter moves. The failures are counted. The warnings are about the failures whose number is a
power of two: as many as `failures` has binary digits. -/
theorem egress_bookkeeping (link : Link κ) (packets : List Bytes) (few : packets.length < 2 ^ 64)
    (env : Env (Tapped κ)) :
    let calls := (link.sendAll (replies packets) env.world.link).1
    ∃ failures after events,
      (egress link.send).processAll packets 0 env =
        (packets.map fun packet => (.drop, answerOf packet), failures, after) ∧
      after.world.calls = env.world.calls ++ calls ∧
      calls.map (·.frame) = replies packets ∧
      copies after.world.calls = copies env.world.calls ++ copies calls ∧
      after.stats = { env.stats with
        txPackets := env.stats.txPackets + .ofNat (copies calls).length
        txBytes := env.stats.txBytes + .ofNat ((lengths calls).map (·.toNat)).sum } ∧
      failures.toNat = (errors calls).length ∧
      after.log.toList = env.log.toList ++ events ∧
      events.filter (·.level = .warn) = reports 0 (errors calls) ∧
      (events.filter (·.level = .warn)).length = (List.range' 1 failures.toNat).countP (·.isPowerOfTwo) ∧
      (events.filter (·.level = .warn)).length = if failures.toNat = 0 then 0 else failures.toNat.log2 + 1 := by
  intro calls
  obtain ⟨failures, after, processed, -, recorded⟩ := recorded_egress_all link packets 0 (by simpa using few) env
  obtain ⟨events, log, warnings⟩ := recorded.warned
  have failed : failures.toNat = (errors calls).length := recorded.failed.trans (Nat.zero_add _)
  have lines : (events.filter (·.level = .warn)).length = (List.range' 1 failures.toNat).countP (·.isPowerOfTwo) := by
    rw [warnings, length_reports, failed]
    rfl
  refine ⟨failures, after, events, processed, recorded.made, link.frames_sendAll _ _, ?_, recorded.sent, failed, log, warnings,
    lines, lines.trans (countP_isPowerOfTwo _)⟩
  rw [recorded.made, copies_append]

/-- Four echo requests and a runt to a link that fails three times: one reply goes out, and the third failure is the one
that is not in the log. -/
theorem egress_bookkeeping_of_three_failures :
    let request : Bytes := [2, 0, 0, 0, 0, 1, 2, 0, 0, 0, 0, 2, 8, 0,
      0x45, 0, 0, 28, 0, 0, 0, 0, 64, 1, 0, 0, 10, 0, 0, 1, 10, 0, 0, 2, 8, 0, 0xf7, 0xfe, 0, 0, 0, 1]
    let link : Link Nat := fun frame bad =>
      if bad = 0 then (.ok (.ofNat frame.length), bad) else (.error (.custom "link down"), bad - 1)
    ∃ failures after events,
      (egress link.send).processAll [request, request, [1], request, request] 0 (Env.blank ⟨3, []⟩) =
        ([(.drop, answerOf request), (.drop, answerOf request), (.drop, [1]), (.drop, answerOf request),
          (.drop, answerOf request)], failures, after) ∧
      failures.toNat = 3 ∧ copies after.world.calls = [answerOf request] ∧ after.stats = ⟨0, 0, 1, 42, 0⟩ ∧
      after.log.toList = events ∧ (events.filter (·.level = .warn)).length = 2 := by
  intro request link
  obtain ⟨failures, after, events, processed, -, -, sent, stats, failed, log, -, -, lines⟩ :=
    egress_bookkeeping link [request, request, [1], request, request] (by decide) (Env.blank ⟨3, []⟩)
  refine ⟨failures, after, events, processed, ?_, ?_, ?_, log, ?_⟩
  · exact failed.trans (by decide +kernel)
  · exact sent.trans (by decide +kernel)
  · exact stats.trans (by decide +kernel)
  · rw [lines, failed]
    decide +kernel

end Processor

end XdpEcho
