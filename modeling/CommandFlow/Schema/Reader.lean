import CommandFlow.Schema.Scalar
import CommandFlow.Schema.Shape

/-!
# Reading documents

* `Source` : where a document comes from, which decides how a part that is no object is refused;
* `Shape.read`, `Fields.read` : the content of a part, or all its faults in the order of the fields;
* `Fields.given` : the keys under which the fields of a record were given;
* `others` : the members that supply no field.
-/

namespace CommandFlow.Schema

inductive Source where
  | store
  | request
  deriving DecidableEq

/-- The fault of a part that should be a record and is no object. -/
def Source.recordFault : Source → FaultKind
  | store => .record
  | request => .attributes

/-! ## Members -/

def firstGiven? (members : Entries Value) : List String → Option (String × Value)
  | [] => none
  | key :: keys =>
    match Entries.get? members key with
    | some v => some (key, v)
    | none => firstGiven? members keys

def Fields.given (members : Entries Value) : Fields → List String
  | .nil => []
  | .cons key keys _ _ rest =>
    match firstGiven? members (key :: keys) with
    | some (used, _) => used :: rest.given members
    | none => rest.given members

/-- The members under other keys than the given ones. -/
def others (members : Entries Value) (keys : List String) : Entries Value :=
  members.filter fun member => !keys.contains member.1

/-! ## Collections -/

/-- Reads every item of a list; faults lie below the index of their item. -/
def readItems {α : Type} (read : Value → Checked α) : Nat → List Value → Checked (List α)
  | _, [] => .ok []
  | i, v :: rest =>
    (both (within (.index i) (read v)) (readItems read (i + 1) rest)).map fun (a, as) => a :: as

/-- Reads every member of an object; faults lie below the name of their member. -/
def readMembers {α : Type} (read : Value → Checked α) : Entries Value → Checked (Entries α)
  | [] => .ok []
  | (name, v) :: rest =>
    (both (within (.key name) (read v)) (readMembers read rest)).map fun (a, as) => (name, a) :: as

/-! ## Shapes -/

mutual

/-- The content of a part of a document, or all its faults. -/
def Shape.read (source : Source) : (shape : Shape) → Value → Checked shape.Carrier
  | .text, v => readText v
  | .sized least most, v => readSized least most v
  | .integer, v => readInteger v
  | .number, v => readNumber v
  | .flag, v => readFlag v
  | .uuid, v => readUuid v
  | .anything, v => .ok v
  | .word vocabulary refusal, v =>
    let fault : FaultKind := match refusal with
      | .choice => .choice
      | .member => .member
    match v with
    | .text s =>
      match vocabulary.ofName? s with
      | some word => .ok word
      | none => fail fault
    | _ => fail fault
  | .optional shape, v =>
    match v with
    | .null => .ok none
    | v => (shape.read source v).map some
  | .list shape, v =>
    match v with
    | .list items => readItems (fun item => shape.read source item) 0 items
    | _ => fail .list
  | .map shape, v =>
    match v with
    | .object members => readMembers (fun member => shape.read source member) members
    | _ => fail .map
  | .record fields keepsOthers, v =>
    match v with
    | .object members =>
      (fields.read source members).map fun content =>
        (content, if keepsOthers then others members (fields.given members) else [])
    | _ => fail source.recordFault
  | .variant tag vocabulary fields, v =>
    match v with
    | .object members =>
      match Entries.get? members tag with
      | none => fail .noTag
      | some (.text s) =>
        match vocabulary.ofName? s with
        | none => fail .unknownTag
        | some word =>
          within (.key s) (((fields word).read source members).map fun content =>
            ⟨word, content, others members (tag :: (fields word).given members)⟩)
      | some _ => fail .unknownTag
    | _ => fail .attributes

/-- The contents of the fields of a record, or all their faults in the order of the fields. -/
def Fields.read (source : Source) : (fields : Fields) → Entries Value → Checked fields.Carrier
  | .nil, _ => .ok ()
  | .cons key keys shape fallback rest, members =>
    let content : Checked shape.Carrier :=
      match firstGiven? members (key :: keys) with
      | some (used, v) => within (.key used) (shape.read source v)
      | none =>
        match fallback with
        | some v => within (.key key) (shape.read source v)
        | none => within (.key key) (fail .missing)
    both content (rest.read source members)

end

end CommandFlow.Schema
