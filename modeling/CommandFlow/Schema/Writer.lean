import CommandFlow.Schema.Shape

/-!
# Writing documents

* `Shape.write`, `Fields.write` : the document of a content. Fields are written under their keys; what
  is null in a record is left out, and numbers without a JSON form become null inside free values;
* `finiteOnly` : a free value as it is written.
-/

namespace CommandFlow.Schema

/-! ## Free values -/

mutual

/-- The value with null in place of infinite numbers and not-a-number. -/
def finiteOnly : Value → Value
  | .float x => if x.isFinite then .float x else .null
  | .list items => .list (finiteItems items)
  | .object members => .object (finiteMembers members)
  | v => v

def finiteItems : List Value → List Value
  | [] => []
  | v :: rest => finiteOnly v :: finiteItems rest

/-- The members of an object as they are written. -/
def finiteMembers : List (String × Value) → List (String × Value)
  | [] => []
  | (name, v) :: rest => (name, finiteOnly v) :: finiteMembers rest

end

/-- The members of a record that are no fields, as they are written. -/
def writeOthers (members : Entries Value) : Entries Value :=
  finiteMembers (members.filter fun member => !member.2.isNull)

/-! ## Shapes -/

def Shape.isAbsent : (shape : Shape) → shape.Carrier → Bool
  | .anything, v => Value.isNull v
  | .optional _, content => Option.isNone content
  | _, _ => false

mutual

def Shape.write : (shape : Shape) → shape.Carrier → Value
  | .text, s => .text s
  | .sized _ _, s => .text s
  | .integer, i => .int i
  | .number, x => .float x
  | .flag, b => .bool b
  | .uuid, u => .text (Uuid.text u)
  | .anything, v => finiteOnly v
  | .word vocabulary _, word => .text (vocabulary.name word)
  | .optional shape, content =>
    match content with
    | none => .null
    | some content => shape.write content
  | .list shape, contents => .list (List.map (fun content => shape.write content) contents)
  | .map shape, contents => .object (Entries.mapValues (fun content => shape.write content) contents)
  | .record fields _, (contents, members) =>
    .object (fields.write contents ++ writeOthers members)
  | .variant tag vocabulary fields, ⟨word, contents, members⟩ =>
    .object ((tag, .text (vocabulary.name word)) ::
      ((fields word).write contents ++ writeOthers members))

/-- The members that the fields of a record are written as. -/
def Fields.write : (fields : Fields) → fields.Carrier → Entries Value
  | .nil, _ => []
  | .cons key _ shape _ rest, (content, contents) =>
    if shape.isAbsent content then rest.write contents
    else (key, shape.write content) :: rest.write contents

end

end CommandFlow.Schema
