import XdpEcho.CommandLine.OptionKey

/-!
# Help texts

The help text lists every option with its description, its default and its possible values. The short text gives each
description in one line, the long one in paragraphs.
-/

namespace XdpEcho

namespace OptionKey

def description (k : OptionKey) (long : Bool) : String :=
  match k with
  | dev => "Link to bind to"
  | queue => "Hardware RX queue on the link"
  | busyPoll => "Spin on the RX ring instead of blocking in poll(2)"
  | pollTimeout => "Upper bound on a single readiness wait, in milliseconds"
  | frameSize | headroom | batchSize | processor | attachMode => ""
  | frames => "Number of frames in the umem"
  | ringSize => "RX and TX ring size"
  | umemRingSize => "Fill and completion ring size"
  | copy => "Force copy mode"
  | zeroCopy => "Force zero-copy mode"
  | needWakeup => "Bind with XDP_USE_NEED_WAKEUP"
  | statsInterval => "Seconds between statistics lines"
  | egressDev => "Second link for the egress processor"
  | xdpObject =>
    "XDP object to load and attach. Without it the socket map pinned for the link is used and the redirect program " ++
      "must already be attached"
  | xdpProgram => "Program section in --xdp-object"
  | mapName => "Name of the XSKMAP, in --xdp-object or under /sys/fs/bpf/<dev>/"
  | mapPin => "Explicit pin path of the XSKMAP"
  | logLevel => "Log level (trace, debug, info, warn, error), overridden by RUST_LOG"
  | help => if long then "Print help (see a summary with '-h')" else "Print help (see more with '--help')"
  | version => "Print version"

/-- The value that the option has when it is not given. -/
def default? : OptionKey → Option String
  | queue | headroom => "0"
  | pollTimeout => "1000"
  | frameSize | frames => "4096"
  | ringSize | umemRingSize => "2048"
  | batchSize => "64"
  | statsInterval => "2"
  | processor => "icmp"
  | xdpProgram => "xdp_sock_prog"
  | attachMode => "auto"
  | mapName => "xsks_map"
  | logLevel => "info"
  | _ => none

/-- The possible values, with what each means where that has to be said. -/
def choices : OptionKey → List (String × Option String)
  | processor => processors.map fun p => (p.1, some p.2.2)
  | attachMode => attachModes.map fun m => (m.1, none)
  | _ => []

def defaultNote (k : OptionKey) : List String :=
  k.default?.toList.map fun value => s!"[default: {value}]"

def choicesNote (k : OptionKey) : List String :=
  if k.choices.isEmpty then []
  else
    let names := ", ".intercalate (k.choices.map (·.1))
    [s!"[possible values: {names}]"]

/-- The possible values one by one, when they are explained. -/
def explainedChoices (k : OptionKey) : List String :=
  let width := (k.choices.map (·.1.length)).foldl max 0
  let lines := k.choices.filterMap fun (name, meaning) => meaning.map fun meaning =>
    let gap := String.ofList (List.replicate (width + 1 - name.length) ' ')
    s!"- {name}:{gap}{meaning}"
  if lines.isEmpty then [] else "Possible values:" :: lines

def heading (k : OptionKey) : String :=
  match k.short? with
  | some letter => s!"  -{letter}, {k.shown}"
  | none => s!"      {k.shown}"

/-- What is said of the option in one line. -/
def shortEntry (k : OptionKey) : List String :=
  [" ".intercalate ((k.description false :: k.defaultNote ++ k.choicesNote).filter (!·.isEmpty))]

/-- What is said of the option in paragraphs. -/
def longEntry (k : OptionKey) : List String :=
  let notes := if k.explainedChoices.isEmpty then k.defaultNote ++ k.choicesNote else k.defaultNote
  let paragraphs := [[k.description true].filter (!·.isEmpty), k.explainedChoices, notes].filter (!·.isEmpty)
  [""].intercalate paragraphs

/-- The entry of the option: its heading and what is said of it, further to the right. -/
def entry (long : Bool) (k : OptionKey) : String :=
  let lines := (if long then k.longEntry else k.shortEntry).map ("          " ++ ·)
  "\n".intercalate (k.heading :: lines)

end OptionKey

namespace About

def version : String := "xskd 0.1.0\n"

def help (long : Bool) : String :=
  let options := (if long then "\n\n" else "\n").intercalate (OptionKey.all.map (OptionKey.entry long))
  s!"AF_XDP echo responder\n\nUsage: xskd [OPTIONS] --dev <DEV>\n\nOptions:\n{options}\n"

end About

end XdpEcho
