import XdpEcho.Text.Hidden

/-!
# Quoted text

A text between double quotes in which every character can be seen. A quote and a backslash are escaped, a few
control characters have short escapes, and every other character that cannot be seen is given by its number.
-/

namespace XdpEcho

namespace Text

def escaped (c : Char) : List Char :=
  match c with
  | '\x00' => ['\\', '0']
  | '\t' => ['\\', 't']
  | '\n' => ['\\', 'n']
  | '\r' => ['\\', 'r']
  | '"' => ['\\', '"']
  | '\\' => ['\\', '\\']
  | c => if isHidden c then ['\\', 'u', '\x7b'] ++ Nat.toDigits 16 c.toNat ++ ['\x7d'] else [c]

def quoted (text : String) : String :=
  String.ofList (['"'] ++ text.toList.flatMap escaped ++ ['"'])

end Text

end XdpEcho
