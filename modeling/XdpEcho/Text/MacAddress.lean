import XdpEcho.Header.Ethernet
import XdpEcho.Text.Fields
import XdpEcho.Text.Number

/-!
# Link addresses in text

Six numbers in base sixteen with colons between them. Each is read as a number of at most 255, so a plus sign and
leading zeros are let through.
-/

namespace XdpEcho

namespace MacAddress

def octet? (part : List Char) : Option UInt8 :=
  match Number.parse 16 255 part with
  | .ok n => some (UInt8.ofNat n)
  | .error _ => none

/-- The link address that the text spells, when it has exactly six parts and each is a number of at most 255. -/
def parse? (text : List Char) : Option MacAddress :=
  match (Text.fields ':' text).mapM octet? with
  | some octets => if h : octets.length = 6 then some ⟨octets.toArray, by simp [h]⟩ else none
  | none => none

end MacAddress

end XdpEcho
