import ImageDispatch.Text.Quoted

/-!
# Text of records

The one-line form in which values appear in logs: `Name { field: value, … }` for a record and
`Name(value)` for a tagged value.
-/

namespace ImageDispatch.Text

/-- `Name { field: value, … }`. The values are already text. -/
def record (name : String) (fields : List (String × String)) : String :=
  name ++ " \x7b " ++ ", ".intercalate (fields.map fun f => f.1 ++ ": " ++ f.2) ++ " \x7d"

/-- `Name(value)`. -/
def tagged (name value : String) : String := name ++ "(" ++ value ++ ")"

/-- `Some(value)` or `None`. -/
def optional : Option String → String
  | some value => tagged "Some" value
  | none => "None"

/-- `true` or `false`. -/
def boolean (b : Bool) : String := if b then "true" else "false"

end ImageDispatch.Text
