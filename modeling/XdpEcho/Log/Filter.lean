import XdpEcho.Event
import XdpEcho.Text.Fields

/-!
# Log filters

A filter is a list of rules, written with commas between them. A rule is a level, or a target with or without a level.
The rule with the longest target that fits decides what is logged. Rules that make no sense are left out, and when none
is left only errors are logged.
-/

namespace XdpEcho

/-- How much is logged. -/
inductive Verbosity where
  | off
  | error
  | warn
  | info
  | debug
  | trace
  deriving DecidableEq

namespace Verbosity

/-- Whether an event of the level is logged. -/
def shows (v : Verbosity) (level : LogLevel) : Bool :=
  match v with
  | off => false
  | error => LogLevel.error.rank ≤ level.rank
  | warn => LogLevel.warn.rank ≤ level.rank
  | info => LogLevel.info.rank ≤ level.rank
  | debug | trace => true

/-- Reads a level, given by its name in any case or by its number. -/
def ofText? (text : String) : Option Verbosity :=
  match String.ofList (text.toList.map Char.toLower) with
  | "off" | "0" => some off
  | "error" | "1" => some error
  | "warn" | "2" => some warn
  | "info" | "3" => some info
  | "debug" | "4" => some debug
  | "trace" | "5" => some trace
  | _ => none

end Verbosity

/-- A rule of a log filter. -/
structure LogRule where
  /-- Where the events come from; nothing stands for everywhere. -/
  target : List Char
  verbosity : Verbosity
  deriving DecidableEq

namespace LogRule

/-- Whether a character may stand in a target. -/
def isTargetChar (c : Char) : Bool :=
  c.isAlphanum || c = '_' || c = ':' || c = '-'

/-- Reads a rule. A target without a level lets everything through. -/
def ofText? (text : List Char) : Option LogRule :=
  match Verbosity.ofText? (String.ofList text) with
  | some verbosity => some ⟨[], verbosity⟩
  | none =>
    let target := text.takeWhile isTargetChar
    match target, text.dropWhile isTargetChar with
    | [], _ => none
    | target, [] => some ⟨target, .trace⟩
    | target, ['='] => some ⟨target, .trace⟩
    | target, '=' :: level => (Verbosity.ofText? (String.ofList level)).map (⟨target, ·⟩)
    | _, _ => none

end LogRule

/-- What is logged. -/
structure LogFilter where
  rules : List LogRule
  deriving DecidableEq

namespace LogFilter

def ofText (text : String) : LogFilter :=
  match (Text.fields ',' text.toList).filterMap LogRule.ofText? with
  | [] => ⟨[⟨[], .error⟩]⟩
  | rules => ⟨rules⟩

/-- Where the events of the program come from. -/
def program : List Char := "xskd".toList

/-- The rule that decides: of those that fit, one with a longest target, and of these the last. -/
def deciding? (f : LogFilter) : Option LogRule :=
  (f.rules.filter fun rule => rule.target.isPrefixOf program).foldl (fun best rule =>
    match best with
    | some other => if other.target.length ≤ rule.target.length then some rule else some other
    | none => some rule) none

/-- Whether an event of the program is logged. -/
def shows (f : LogFilter) (event : Event) : Bool :=
  match f.deciding? with
  | some rule => rule.verbosity.shows event.level
  | none => false

end LogFilter

end XdpEcho
