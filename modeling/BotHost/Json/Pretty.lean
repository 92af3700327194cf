/-
The spread text of a structured value: every item and every field has a line of its own, two spaces
deeper than the brackets around it. What is empty stays on its line.
-/

import BotHost.Json.Writer

namespace BotHost.Json

/-- The beginning of a line at so many levels. -/
def indented (depth : Nat) : String :=
  String.ofList ('\n' :: List.replicate (2 * depth) ' ')

mutual

/-- The spread text of a value at so many levels. -/
def spread (depth : Nat) : Json → String
  | .list (item :: rest) =>
    "[" ++ spreadItems (depth + 1) (item :: rest) ++ indented depth ++ "]"
  | .object (field :: rest) =>
    "\x7b" ++ spreadFields (depth + 1) (field :: rest) ++ indented depth ++ "\x7d"
  | .list [] => "[]"
  | .object [] => "\x7b\x7d"
  | .null => write .null
  | .boolean value => write (.boolean value)
  | .number value => write (.number value)
  | .text value => write (.text value)

def spreadItems (depth : Nat) : List Json → String
  | [] => ""
  | [item] => indented depth ++ spread depth item
  | item :: rest => indented depth ++ spread depth item ++ "," ++ spreadItems depth rest

def spreadFields (depth : Nat) : List (String × Json) → String
  | [] => ""
  | [(key, value)] => indented depth ++ writeText key ++ ": " ++ spread depth value
  | (key, value) :: rest =>
    indented depth ++ writeText key ++ ": " ++ spread depth value ++ "," ++
      spreadFields depth rest

end

/-- The spread text of a value. -/
def pretty (value : Json) : String := spread 0 value

end BotHost.Json
