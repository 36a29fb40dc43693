import XdpEcho.Proofs.Socket.Calls

/-!
# What getting hold of something fails with

A step that fails ends everything after it, and its error is the error of all. So what making a socket can fail with is
known from its steps, whatever they do to the kernel.

* `Acquisition.reporting_of_error`, `Acquisition.reporting_of_ok` — a call.
* `Acquisition.bind_of_error`, `Acquisition.bind_of_ok` — a step, and what follows it.
* `Acquisition.FailsOnly` — nothing but certain errors comes out.
-/

namespace XdpEcho

open Kernel

namespace Acquisition

variable {α β ε : Type} {env : Env Kernel} {error : SocketError} {m : Acquisition α} {f : α → Acquisition β}

/-! ### Steps -/

theorem bind_apply (m : Acquisition α) (f : α → Acquisition β) (env : Env Kernel) :
    (m >>= f) env = ExceptT.bindCont f (m env).1 (m env).2 := rfl

theorem bind_of_error (failed : (m env).1 = .error error) : (m >>= f) env = (.error error, (m env).2) := by
  rw [bind_apply, failed]
  rfl

theorem bind_of_ok {a : α} (succeeded : (m env).1 = .ok a) : (m >>= f) env = f a (m env).2 := by
  rw [bind_apply, succeeded]
  rfl

theorem reporting_apply (report : ε → SocketError) (call : KernelM (Except ε α)) (env : Env Kernel) :
    reporting report call env = ((call env).1.mapError report, (call env).2) := rfl

theorem reporting_of_error {report : ε → SocketError} {call : KernelM (Except ε α)} {cause : ε}
    (failed : (call env).1 = .error cause) : (reporting report call env).1 = .error (report cause) := by
  rw [reporting_apply, failed]
  rfl

theorem reporting_of_ok {report : ε → SocketError} {call : KernelM (Except ε α)} {a : α}
    (succeeded : (call env).1 = .ok a) : (reporting report call env).1 = .ok a := by
  rw [reporting_apply, succeeded]
  rfl

theorem guarding_fst (release : KernelM Unit) (next : Acquisition α) (env : Env Kernel) :
    (guarding release next env).1 = (next env).1 := by
  change ((next.run >>= _ : KernelM (Except SocketError α)) env).1 = (next.run env).1
  rw [Kernel.bind_apply]
  cases (next.run env).1 with
  | ok a => rfl
  | error error => rfl

/-! ### Errors that may come out -/

/-- Whatever it fails with is one of the allowed errors. -/
def FailsOnly (allowed : SocketError → Prop) (m : Acquisition α) : Prop :=
  ∀ env error, (m env).1 = .error error → allowed error

namespace FailsOnly

variable {allowed : SocketError → Prop}

/-- What never fails. -/
theorem lift (m : KernelM α) : FailsOnly allowed (liftM m) := by
  intro env error failed
  have succeeded : ((liftM m : Acquisition α) env).1 = .ok (m env).1 := rfl
  rw [succeeded] at failed
  cases failed

theorem pure (a : α) : FailsOnly allowed (Pure.pure a) :=
  lift (Pure.pure a)

theorem throw (here : allowed error) : FailsOnly allowed (throw error : Acquisition α) := by
  intro env cause failed
  have thrown : ((throwThe SocketError error : Acquisition α) env).1 = .error error := rfl
  obtain rfl := Except.error.inj (thrown.symm.trans failed)
  exact here

theorem bind (first : FailsOnly allowed m) (next : ∀ a, FailsOnly allowed (f a)) : FailsOnly allowed (m >>= f) := by
  intro env error failed
  cases result : (m env).1 with
  | error cause =>
    rw [bind_of_error result] at failed
    obtain rfl := Except.error.inj failed
    exact first env cause result
  | ok a =>
    rw [bind_of_ok result] at failed
    exact next a _ _ failed

theorem guarding {release : KernelM Unit} (body : FailsOnly allowed m) : FailsOnly allowed (guarding release m) := by
  intro env error failed
  rw [guarding_fst] at failed
  exact body env error failed

/-- Only the reports of failures come out of a call. -/
theorem reporting {report : ε → SocketError} {call : KernelM (Except ε α)} (reports : ∀ cause, allowed (report cause)) :
    FailsOnly allowed (reporting report call) := by
  intro env error failed
  cases result : (call env).1 with
  | ok a =>
    rw [reporting_of_ok result] at failed
    cases failed
  | error cause =>
    rw [reporting_of_error result] at failed
    obtain rfl := Except.error.inj failed
    exact reports cause

end FailsOnly

end Acquisition

end XdpEcho
