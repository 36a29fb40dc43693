import XdpEcho.Endpoint

/-!
# Metering an endpoint

Counts the calls that an engine makes, and at a call chosen beforehand lets the call fail or raises the stop flag.
-/

namespace XdpEcho

/-- What happens at a chosen call. -/
structure Alarm where
  /-- At which of the coming calls: 1 is the next one. -/
  after : Nat
  /-- The failure, or `none` to raise the stop flag and go on. -/
  failure : Option String

/-- The calls of one kind. -/
structure CallMeter where
  count : Nat
  /-- What is to happen at a coming one. -/
  alarm : Option Alarm

/-- The calls of an endpoint. -/
structure Meter where
  wait : CallMeter
  kick : CallMeter
  wakeup : CallMeter
  /-- The timeout of the latest wait, zero before the first. -/
  lastTimeout : Duration

namespace CallMeter

def zero : CallMeter := ⟨0, none⟩

/-- Sets the alarm. An earlier one is forgotten. -/
def arm (m : CallMeter) (alarm : Alarm) : CallMeter :=
  { m with alarm := some alarm }

/-- Counts a call and returns the alarm when it goes off. -/
def tick (m : CallMeter) : Option Alarm × CallMeter :=
  match m.alarm with
  | none => (none, { m with count := m.count + 1 })
  | some alarm =>
    if alarm.after ≤ 1 then (some alarm, ⟨m.count + 1, none⟩)
    else (none, ⟨m.count + 1, some { alarm with after := alarm.after - 1 }⟩)

end CallMeter

namespace Meter

def zero : Meter := ⟨.zero, .zero, .zero, ⟨0⟩⟩

variable {ω β : Type}

/-- Makes a call under a meter: the alarm that goes off makes it fail before it is made, or raises the stop flag. -/
def guarded (get : ω → CallMeter) (set : CallMeter → ω → ω) (call : Env ω → Except SystemError β × Env ω)
    (env : Env ω) : Except SystemError β × Env ω :=
  let (alarm, meter) := (get env.world).tick
  let env := env.mapWorld (set meter)
  match alarm with
  | none => call env
  | some ⟨_, some failure⟩ => (.error (.custom failure), env)
  | some ⟨_, none⟩ => call { env with stop := true }

def endpoint (get : ω → Meter) (set : Meter → ω → ω) (p : Endpoint ω) : Endpoint ω where
  needWakeup := p.needWakeup
  waitReadable timeout env :=
    guarded (fun w => (get w).wait) (fun m w => set { get w with wait := m } w) (p.waitReadable timeout)
      (env.mapWorld fun w => set { get w with lastTimeout := timeout } w)
  kickTx := guarded (fun w => (get w).kick) (fun m w => set { get w with kick := m } w) p.kickTx
  wakeupRx := guarded (fun w => (get w).wakeup) (fun m w => set { get w with wakeup := m } w) p.wakeupRx

end Meter

end XdpEcho
