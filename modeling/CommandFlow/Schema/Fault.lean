/-!
# Faults of documents

* `FaultKind` : what is wrong with a part of a document, and its name;
* `PathStep`, `Fault` : the place of the part, from the root;
* `within` : moves faults below a step of a path.
-/

namespace CommandFlow.Schema

/-- What is wrong with a part of a document. -/
inductive FaultKind where
  | missing
  | text
  | textTooShort
  | textTooLong
  | integer
  | integerText
  | integerFraction
  | integerSize
  | finiteNumber
  | number
  | numberText
  | flag
  | flagText
  | list
  | map
  | record
  | attributes
  | choice
  | member
  | noTag
  | unknownTag
  | uuid
  | uuidText
  | json
  deriving DecidableEq

def FaultKind.name : FaultKind → String
  | missing => "missing"
  | text => "string_type"
  | textTooShort => "string_too_short"
  | textTooLong => "string_too_long"
  | integer => "int_type"
  | integerText => "int_parsing"
  | integerFraction => "int_from_float"
  | integerSize => "int_parsing_size"
  | finiteNumber => "finite_number"
  | number => "float_type"
  | numberText => "float_parsing"
  | flag => "bool_type"
  | flagText => "bool_parsing"
  | list => "list_type"
  | map => "dict_type"
  | record => "model_type"
  | attributes => "model_attributes_type"
  | choice => "literal_error"
  | member => "enum"
  | noTag => "union_tag_not_found"
  | unknownTag => "union_tag_invalid"
  | uuid => "uuid_type"
  | uuidText => "uuid_parsing"
  | json => "json_invalid"

/-- One step from a part of a document to a part of that part. -/
inductive PathStep where
  | key (name : String)
  | index (i : Nat)
  deriving DecidableEq

/-- A fault and its place, from the root. -/
structure Fault where
  path : List PathStep
  kind : FaultKind
  deriving DecidableEq

/-- What reading a part gives, or all its faults. -/
abbrev Checked (α : Type) := Except (List Fault) α

def fail {α : Type} (kind : FaultKind) : Checked α := .error [⟨[], kind⟩]

def within {α : Type} (step : PathStep) : Checked α → Checked α
  | .ok a => .ok a
  | .error faults => .error (faults.map fun fault => { fault with path := step :: fault.path })

/-- Both parts, or the faults of the first followed by those of the second. -/
def both {α β : Type} : Checked α → Checked β → Checked (α × β)
  | .ok a, .ok b => .ok (a, b)
  | .ok _, .error faults => .error faults
  | .error faults, .ok _ => .error faults
  | .error faults, .error more => .error (faults ++ more)

end CommandFlow.Schema
