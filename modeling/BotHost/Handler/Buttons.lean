/-
The button field of a keyboard block. It is a list of rows, each a list of labels, or a text with a
row on each line and commas between labels. A field that is not filled in means the default keyboard.
-/

import BotHost.Json.Writer
import BotHost.Outbound
import BotHost.Text.Blank
import BotHost.Text.Split

namespace BotHost.Buttons

/-- Why a field holds no rows of labels. -/
inductive Fault where
  | notRows (found : Json)
  | rowNotList (row : Nat)
  | rowEmpty (row : Nat)
  | badLabel (row : Nat) (found : Json)
deriving DecidableEq, Repr

def Fault.message : Fault → String
  | .notRows found => "buttons must be a list of rows, got " ++ found.write
  | .rowNotList row => s!"button row {row} is not a list"
  | .rowEmpty row => s!"button row {row} is empty"
  | .badLabel row found => s!"button row {row} has an invalid label " ++ found.write

/-- The keyboard of a block whose buttons are not filled in. -/
def defaultRows : ButtonRows := [["Button 1", "Button 2"]]

/-- A label: a text that is not empty, or a number. -/
def label (row : Nat) : Json → Except Fault String
  | .text value => if value.isEmpty then .error (.badLabel row (.text value)) else .ok value
  | .number value => .ok value.write
  | other => .error (.badLabel row other)

/-- The labels of one row of a list. -/
def labels (row : Nat) : Json → Except Fault (List String)
  | .list [] => .error (.rowEmpty row)
  | .list items => items.mapM (label row)
  | _ => .error (.rowNotList row)

/-- The rows of a list, counted from the number given. -/
def rowsFrom : (row : Nat) → List Json → Except Fault ButtonRows
  | _, [] => .ok []
  | row, item :: rest => do
    let first ← labels row item
    let others ← rowsFrom (row + 1) rest
    .ok (first :: others)

/-- The labels of one line of a text. -/
def lineLabels (line : List Char) : List String :=
  (((Text.splitOn ',' line).map Text.trimBlank).filter fun label => !label.isEmpty).map
    String.ofList

/-- The rows of a text, lines without a label left out. -/
def textRows (text : String) : ButtonRows :=
  ((Text.splitOn '\n' text.toList).map lineLabels).filter fun row => !row.isEmpty

/-- The rows of a field. -/
def rows : Option Json → Except Fault ButtonRows
  | none | some .null | some (.list []) => .ok defaultRows
  | some (.list items) => rowsFrom 0 items
  | some (.text text) =>
    match textRows text with
    | [] => .ok defaultRows
    | rows => .ok rows
  | some other => .error (.notRows other)

end BotHost.Buttons
