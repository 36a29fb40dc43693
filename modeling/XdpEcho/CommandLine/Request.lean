import XdpEcho.CommandLine.OptionKey

/-!
# Reading a command line

Arguments are read from left to right. A value may be attached to its option or be the next argument; an argument
that waits for its value is settled when the next option comes or the arguments are over. What the command line as a
whole must be is looked at last.

* `Request.ofArguments` says what a command line asks for.
-/

namespace XdpEcho

/-- What is wrong with a command line. -/
inductive UsageError where
  /-- There is no such option, and there are no other arguments. -/
  | unexpected (argument : String)
  | missingValue (key : OptionKey)
  | unexpectedValue (key : OptionKey) (value : String)
  | repeated (key : OptionKey)
  | notListed (key : OptionKey) (value : String)
  | malformed (key : OptionKey) (value reason : String)
  | conflict (key other : OptionKey)
  | missingOption
  deriving DecidableEq

namespace UsageError

def message : UsageError → String
  | unexpected argument => s!"unexpected argument '{argument}' found"
  | missingValue key => s!"a value is required for '{key.shown}' but none was supplied"
  | unexpectedValue key value => s!"unexpected value '{value}' for '{key.shown}' found; no more were expected"
  | repeated key => s!"the argument '{key.shown}' cannot be used multiple times"
  | notListed key value => s!"invalid value '{value}' for '{key.shown}'"
  | malformed key value reason => s!"invalid value '{value}' for '{key.shown}': {reason}"
  | conflict key other => s!"the argument '{key.shown}' cannot be used with '{other.shown}'"
  | missingOption => "the following required arguments were not provided:"

end UsageError

/-- What a command line asks for. -/
inductive Request where
  | run (options : Options)
  | help (long : Bool)
  | version
  | misuse (error : UsageError)
  deriving DecidableEq

namespace Request

/-- How far the arguments have been read. -/
structure Reading where
  options : Options
  /-- The options that were given, the first one first. -/
  given : List OptionKey
  /-- The option that waits for its value or for being settled. -/
  pending : Option (OptionKey × Option String)

namespace Reading

def fresh : Reading := ⟨.standard, [], none⟩

def misuse {α : Type} (error : UsageError) : Except Request α := .error (.misuse error)

def assign (s : Reading) (key : OptionKey) (value : String) : Except Request Reading :=
  if key ∈ s.given then misuse (.repeated key)
  else
    match key.store value s.options with
    | .ok options => .ok { s with options, given := s.given ++ [key] }
    | .error .missing => misuse (.missingValue key)
    | .error .notListed => misuse (.notListed key value)
    | .error (.malformed reason) => misuse (.malformed key value reason)

def settle (s : Reading) : Except Request Reading :=
  match s.pending with
  | none => .ok s
  | some (key, none) => misuse (.missingValue key)
  | some (key, some value) => { s with pending := none }.assign key value

/-- Takes an option that has its value attached. -/
def attach (s : Reading) (key : OptionKey) (value : String) : Except Request Reading := do
  (← s.settle).assign key value

def await (s : Reading) (key : OptionKey) : Except Request Reading := do
  return { ← s.settle with pending := some (key, none) }

/-- Takes an option that has no value. Requests for help and for the version are granted at once. -/
def raise (s : Reading) (key : OptionKey) (long : Bool) : Except Request Reading := do
  let s ← s.settle
  match key with
  | .help => .error (.help long)
  | .version => .error .version
  | key => s.assign key ""

def longArgument (s : Reading) (text : List Char) : Except Request Reading :=
  let name := String.ofList (text.takeWhile (· ≠ '='))
  match OptionKey.ofLong? name, text.dropWhile (· ≠ '=') with
  | none, _ => misuse (.unexpected s!"--{name}")
  | some key, [] => if key.takesValue then s.await key else s.raise key true
  | some key, _ :: value =>
    if key.takesValue then s.attach key (String.ofList value)
    else misuse (.unexpectedValue key (String.ofList value))

/-- Reads what stands after one hyphen: options by letter, of which the first one that has a value takes the rest. -/
def shortArgument (s : Reading) : List Char → Except Request Reading
  | [] => .ok s
  | letter :: rest =>
    match OptionKey.ofShort? letter with
    | none => misuse (.unexpected (String.ofList ['-', letter]))
    | some key =>
      if key.takesValue then
        match rest with
        | [] => s.await key
        | '=' :: value => s.attach key (String.ofList value)
        | value => s.attach key (String.ofList value)
      else do
        (← s.raise key false).shortArgument rest

def argument (s : Reading) (text : String) : Except Request Reading :=
  match text.toList, s.pending with
  | '-' :: '-' :: long, _ => s.longArgument long
  | '-' :: letter :: letters, _ => s.shortArgument (letter :: letters)
  | _, some (key, none) => .ok { s with pending := some (key, some text) }
  | _, _ => misuse (.unexpected text)

/-- Reads all arguments. Two hyphens alone end the options, and there are no other arguments. -/
def arguments (s : Reading) : List String → Except Request Reading
  | [] => s.settle
  | "--" :: [] => s.settle
  | "--" :: text :: _ => misuse (.unexpected text)
  | text :: rest => do (← s.argument text).arguments rest

/-- The first two options that exclude each other. -/
def conflict? (s : Reading) : Option (OptionKey × OptionKey) :=
  s.given.findSome? fun key => (s.given.find? key.conflicts).map (key, ·)

/-- Whether an option is missing: the link always has to be given, and the other link when it is sent on. -/
def isIncomplete (s : Reading) : Bool :=
  !s.given.contains .dev ||
    (s.given.contains .processor && s.options.processor = .egress && !s.given.contains .egressDev)

/-- What has been asked for once everything has been read. -/
def request (s : Reading) : Request :=
  match s.conflict? with
  | some (key, other) => .misuse (.conflict key other)
  | none => if s.isIncomplete then .misuse .missingOption else .run s.options

end Reading

def ofArguments (arguments : List String) : Request :=
  match Reading.fresh.arguments arguments with
  | .ok s => s.request
  | .error request => request

end Request

end XdpEcho
