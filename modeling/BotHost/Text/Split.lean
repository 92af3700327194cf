/-
Cutting a text at every occurrence of one character.
-/

namespace BotHost.Text

/-- The parts of a text between the separators; one more than there are separators. -/
def splitOn (separator : Char) : List Char → List (List Char)
  | [] => [[]]
  | character :: rest =>
    if character = separator then [] :: splitOn separator rest
    else
      match splitOn separator rest with
      | [] => [[character]]
      | part :: parts => (character :: part) :: parts

end BotHost.Text
