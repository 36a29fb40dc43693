/-!
# Separated fields

A text cut at every occurrence of a separator. A text with `n` separators has `n + 1` fields, some of them empty.
-/

namespace XdpEcho

namespace Text

/-- The fields of a text between occurrences of `separator`. -/
def fields (separator : Char) : List Char → List (List Char)
  | [] => [[]]
  | c :: rest =>
    if c = separator then [] :: fields separator rest
    else
      match fields separator rest with
      | [] => [[c]]
      | field :: others => (c :: field) :: others

end Text

end XdpEcho
