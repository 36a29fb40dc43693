import XdpEcho.Stats.Report

/-!
# A reporter on a clock of its own

Counters, a reporter of them, and a clock that moves only as far as the reporter waits.
-/

namespace XdpEcho

/-- A reporter and what it reports. -/
structure Reporting where
  stats : Stats
  clock : Nat
  interval : Duration
  reporter : Option Reporter

namespace Reporting

def idle (interval : Duration) : Reporting := ⟨.zero, 0, interval, none⟩

/-- The counters as they will be when so many milliseconds have passed. -/
def after (s : Reporting) (milliseconds : Nat) : Snapshot :=
  ⟨s.stats, .ofMilliseconds (s.clock + milliseconds)⟩

def renew (s : Reporting) : Reporting :=
  { s with reporter := some ⟨s.interval, s.after 0⟩ }

/-- The reporter, which is made when there is none. -/
def current (s : Reporting) : Reporter :=
  s.reporter.getD ⟨s.interval, s.after 0⟩

def report (s : Reporting) : Rates × List Event × Reporting :=
  let (rates, events, reporter) := s.current.report (s.after 1)
  (rates, events, { s with clock := s.clock + 1, reporter := some reporter })

def run (s : Reporting) (reports : Nat) : List Event × Reporting :=
  let step := s.interval.milliseconds
  let moments := (List.range reports).map fun i => s.after (step * (i + 1))
  let (events, reporter) := s.current.watch (.ofMilliseconds (s.clock + step)) moments
  (events, { s with clock := s.clock + step * reports, reporter := some reporter })

end Reporting

end XdpEcho
