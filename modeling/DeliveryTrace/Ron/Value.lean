import DeliveryTrace.Text.Numeral
import DeliveryTrace.Text.Quoted

/-! # Writing object notation

Reports are written in RON, an object notation with named fields, either on one line or indented.
Indented output puts each field of a record and each item of a list on a line of its own and ends
the line with a comma; tuples and wrapped values stay on the line of their parent. A value that
nests too deep is not written.
-/

namespace DeliveryTrace.Ron

/-- A value to write. -/
inductive Value where
  | text (value : Text)
  | number (value : Nat)
  /-- A plain name, such as a truth value. -/
  | name (label : Text)
  /-- A name with one value in brackets. -/
  | wrapped (label : Text) (inner : Value)
  /-- A record, whose name may be empty. -/
  | record (label : Text) (fields : List (Text × Value))
  | list (items : List Value)
  | tuple (items : List Value)

namespace Value

/-- A truth value. -/
def bool (value : Bool) : Value := name (toString value).toList

/-- An optional value: `None`, or `Some` with the value in brackets. -/
def option : Option Value → Value
  | none => name "None".toList
  | some value => wrapped "Some".toList value

/-- How deep a value to write may nest. -/
def nestingLimit : Nat := 128

mutual

/-- How deep a value nests. Each item, field and value in brackets is one step deeper than what it
stands in. -/
def nesting : Value → Nat
  | .text _ | .number _ | .name _ => 0
  | .wrapped _ inner => inner.nesting + 1
  | .record _ fields => nestingFields fields
  | .list items | .tuple items => nestingItems items

/-- How deep the items of a value nest in it. -/
def nestingItems : List Value → Nat
  | [] => 0
  | item :: items => max (item.nesting + 1) (nestingItems items)

/-- How deep the fields of a record nest in it. -/
def nestingFields : List (Text × Value) → Nat
  | [] => 0
  | (_, value) :: fields => max (value.nesting + 1) (nestingFields fields)

end

mutual

/-- The value on one line, without blanks between its parts. -/
def compact : Value → Text
  | .text value => Text.quoted .report value
  | .number value => Text.decimal value
  | .name label => label
  | .wrapped label inner => label ++ ['('] ++ inner.compact ++ [')']
  | .record label fields => label ++ ['('] ++ [','].intercalate (compactFields fields) ++ [')']
  | .list items => ['['] ++ [','].intercalate (compactItems items) ++ [']']
  | .tuple items => ['('] ++ [','].intercalate (compactItems items) ++ [')']

/-- The items on one line each for itself. -/
def compactItems : List Value → List Text
  | [] => []
  | item :: items => item.compact :: compactItems items

/-- The fields on one line each for itself. -/
def compactFields : List (Text × Value) → List Text
  | [] => []
  | (label, value) :: fields => (label ++ [':'] ++ value.compact) :: compactFields fields

end

/-- The blanks in front of a line at a given depth. -/
def indent (depth : Nat) : Text := List.replicate (4 * depth) ' '

/-- Lines between brackets, each with a comma, one step deeper than the brackets. -/
def block (depth : Nat) (opening closing : Char) (lines : List Text) : Text :=
  if lines = [] then [opening, closing]
  else
    [opening, '\n'] ++ lines.flatMap (fun line => indent (depth + 1) ++ line ++ [',', '\n']) ++
      indent depth ++ [closing]

mutual

/-- The value on indented lines, its first line at the given depth. -/
def pretty (depth : Nat) : Value → Text
  | .text value => Text.quoted .report value
  | .number value => Text.decimal value
  | .name label => label
  | .wrapped label inner => label ++ ['('] ++ inner.pretty depth ++ [')']
  | .record label fields => label ++ block depth '(' ')' (prettyFields (depth + 1) fields)
  | .list items => block depth '[' ']' (prettyItems (depth + 1) items)
  | .tuple items => ['('] ++ [',', ' '].intercalate (prettyItems depth items) ++ [')']

/-- The items on indented lines each for itself. -/
def prettyItems (depth : Nat) : List Value → List Text
  | [] => []
  | item :: items => item.pretty depth :: prettyItems depth items

/-- The fields on indented lines each for itself. -/
def prettyFields (depth : Nat) : List (Text × Value) → List Text
  | [] => []
  | (label, value) :: fields =>
    (label ++ [':', ' '] ++ value.pretty depth) :: prettyFields depth fields

end

end Value

end DeliveryTrace.Ron
