import XdpEcho.Kernel.Basic

/-!
# Scripts in words

A script is written as lines, and a line is a list of words: texts, numbers and groups of words. The first word says
what the line is about. Lines that make no sense are left out.

* `Script.ofLines` reads a script.
* `Action.ofWords?` reads an action, which may also stand in a line.
-/

namespace XdpEcho

/-- A word of a script. -/
inductive ScriptWord where
  | number (n : Int)
  | text (s : String)
  | group (words : List ScriptWord)
  deriving Inhabited

def Action.ofWords? : List ScriptWord → Option Action
  | [.text "deliver", .text packet] => (Bytes.ofHex? packet).map .deliver
  | [.text "complete", .number most] => some (.complete most.toNat)
  | [.text "flags", .text ring, .number value] => (RingRole.ofName? ring).map (.flags · (UInt32.ofInt value))
  | [.text "stop"] => some .stop
  | [.text "sigint"] => some (.signal .interrupt)
  | [.text "sigterm"] => some (.signal .termination)
  | _ => none

def MapShape.ofWords? : List ScriptWord → Option MapShape
  | [.number type, .number keySize, .number valueSize, .number capacity] =>
    some ⟨.ofInt type, .ofInt keySize, .ofInt valueSize, .ofInt capacity⟩
  | _ => none

namespace ObjectFile

/-- Reads a program: its name and its section. -/
def programOfWord? : ScriptWord → Option (String × String)
  | .group [.text name, .text sectionName] => some (name, sectionName)
  | _ => none

/-- Reads a map: its name and what it is made as. -/
def mapOfWord? : ScriptWord → Option (String × MapShape)
  | .group (.text name :: shape) => (MapShape.ofWords? shape).map (name, ·)
  | _ => none

end ObjectFile

namespace Script

/-- Reads a line that says something of a ring. -/
def addRingLine (s : Script) (role : RingRole) (about : String) (values : List ScriptWord) : Script :=
  match about, values with
  | "offsets", [.number producer, .number consumer, .number slots, .number flags] =>
    s.setRing role fun r => { r with offsets := ⟨.ofInt producer, .ofInt consumer, .ofInt slots, .ofInt flags⟩ }
  | "start", [.number start] => s.setRing role fun r => { r with start := .ofInt start }
  | "flags", [.number flags] => s.setRing role fun r => { r with flags := .ofInt flags }
  | _, _ => s

def addCallLine (s : Script) (kind : CallKind) (number : Nat) (about : String) (values : List ScriptWord) : Script :=
  match about, values with
  | "fail", [.number errno] => { s with faults := s.faults ++ [(kind, number, ⟨errno.toNat⟩)] }
  | "at", words =>
    match Action.ofWords? words with
    | some action => { s with triggers := s.triggers ++ [(kind, number, action)] }
    | none => s
  | _, _ => s

def addLine (s : Script) : List ScriptWord → Script
  | [.text "link", .text name, .number index, .text address] =>
    { s with interfaces := s.interfaces ++ [⟨name, .ofInt index, Bytes.ofHex? address⟩] }
  | .text "pin" :: .text path :: shape =>
    { s with pins := s.pins ++ (MapShape.ofWords? shape).toList.map (path, ·) }
  | [.text "file", .text path, .text content] =>
    { s with files := s.files ++ [(path, .other ((Bytes.ofHex? content).getD []))] }
  | [.text "object", .text path, .group programs, .group maps] =>
    let content : ObjectFile :=
      ⟨programs.filterMap ObjectFile.programOfWord?, maps.filterMap ObjectFile.mapOfWord?⟩
    { s with files := s.files ++ [(path, .object content)] }
  | .text "stats" :: counters =>
    { s with statistics := counters.filterMap fun
        | .number n => some (UInt64.ofInt n)
        | _ => none }
  | [.text "stats_len", .number len] => { s with statisticsLength := len.toNat }
  | [.text "poll", .number number, .number result, .number events] =>
    { s with polls := s.polls ++ [(number.toNat, result, events.toNat)] }
  | [.text "sent", .number number, .number result] =>
    { s with sends := s.sends ++ [(number.toNat, .ofInt result)] }
  | .text about :: .text target :: values =>
    match RingRole.ofName? target, CallKind.ofName? target, values with
    | some role, _, values => s.addRingLine role about values
    | none, some kind, .number number :: values => s.addCallLine kind number.toNat about values
    | _, _, _ => s
  | _ => s

def ofLines (lines : List (List ScriptWord)) : Script :=
  lines.foldl addLine empty

end Script

end XdpEcho
