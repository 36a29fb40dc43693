import XdpEcho.Decimal.Fixed
import XdpEcho.Event
import XdpEcho.Stats.Rates

/-!
# Throughput reports

A reporter looks at the counters of a socket from time to time and reports what has been handled since its last
look, in one line for received and one for sent packets.
-/

namespace XdpEcho

/-- Reports at regular intervals. -/
structure Reporter where
  interval : Duration
  /-- The last look at the counters. -/
  previous : Snapshot

namespace Reporter

def line (label : String) (packets bytes : UInt64) (packetRate megabitRate period : Float) : String :=
  let total := Decimal.padLeft 11 (toString packets)
  let kilobytes := Decimal.padLeft 11 (toString (bytes / 1000))
  let perSecond := Decimal.padLeft 10 (Decimal.fixed 0 packetRate)
  let megabits := Decimal.padLeft 6 (Decimal.fixed 0 megabitRate)
  s!"{label}{total} pkts ({perSecond} pps) {kilobytes} Kbytes ({megabits} Mbits/s) period:{Decimal.fixed 6 period}"

/-- Looks at the counters and reports the rates since the last look. -/
def report (r : Reporter) (now : Snapshot) : Rates × List Event × Reporter :=
  let rates := Rates.between r.previous now
  let rx := line "AF_XDP RX: " now.stats.rxPackets now.stats.rxBytes rates.rxPackets rates.rxMegabits rates.period
  let tx := line "       TX: " now.stats.txPackets now.stats.txBytes rates.txPackets rates.txMegabits rates.period
  (rates, [.report rx, .report tx], { r with previous := now })

/-- Looks at the clock again and again, and reports whenever the next report is due. The first report is due at the
moment `due`, and each further one an interval after the one before was due. -/
def watch (r : Reporter) (due : Duration) : List Snapshot → List Event × Reporter
  | [] => ([], r)
  | now :: later =>
    if due.nanoseconds ≤ now.moment.nanoseconds then
      let (_, events, r) := r.report now
      let (more, r) := r.watch ⟨due.nanoseconds + r.interval.nanoseconds⟩ later
      (events ++ more, r)
    else r.watch due later

end Reporter

end XdpEcho
