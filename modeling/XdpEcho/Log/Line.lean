import XdpEcho.Event
import XdpEcho.Text.Quoted

/-!
# Log lines

An event as one line: its level, its message, and its fields as names and values with equals signs between them.
-/

namespace XdpEcho

namespace FieldValue

/-- The value as it stands in a log line. -/
def text : FieldValue → String
  | number n => toString n
  | quoted text => Text.quoted text
  | shown text => text

end FieldValue

namespace Event

def line (event : Event) : String :=
  let (message, fields) := event.describe
  " ".intercalate (event.level.name :: message :: fields.map fun (name, value) => s!"{name}={value.text}")

end Event

end XdpEcho
