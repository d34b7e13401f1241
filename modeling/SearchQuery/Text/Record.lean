import SearchQuery.Text.Quoted

/-!
# Values shown as text

How a value is shown to somebody who inspects it: a record by its name and its
fields, a list between square brackets, and a value that may be missing by a word
that tells whether it is there.
-/

namespace SearchQuery

namespace Text

def field (name value : Text) : Text :=
  name ++ ": " ++ value

def record (name : Text) (fields : List Text) : Text :=
  name ++ " \x7b " ++ joinWith ", " fields ++ " \x7d"

def listing (items : List Text) : Text :=
  "[" ++ joinWith ", " items ++ "]"

def optional : Option Text → Text
  | none => "None"
  | some value => "Some(" ++ value ++ ")"

def ofBool : Bool → Text
  | true => "true"
  | false => "false"

end Text

end SearchQuery
