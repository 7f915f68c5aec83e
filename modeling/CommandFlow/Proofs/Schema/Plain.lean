import CommandFlow.Proofs.Entries
import CommandFlow.Proofs.Schema.RoundTrip

/-!
# Documents without null

* `Value.isPlain` : there is no null and no number without a JSON form in a value;
* `Shape.IsSettled`, `Fields.IsSettled` : every fallback of a record is null or plain;
* `Fields.writtenKeys` : the keys that fields are written under; `Fields.mem_given` : what stands there supplies one;
* `readField`, `Fields.read_cons` : fields are read one by one.
-/

namespace CommandFlow

/-! ## Plain values -/

mutual

/-- There is no null and no number without a JSON form in the value. -/
def Value.isPlain : Value → Bool
  | .null => false
  | .float x => x.isFinite
  | .list items => plainItems items
  | .object members => plainMembers members
  | _ => true

def plainItems : List Value → Bool
  | [] => true
  | v :: rest => v.isPlain && plainItems rest

def plainMembers : List (String × Value) → Bool
  | [] => true
  | (_, v) :: rest => v.isPlain && plainMembers rest

end

namespace Schema

mutual

theorem finiteOnly_of_isPlain : {v : Value} → v.isPlain = true → finiteOnly v = v
  | .float _, h => if_pos h
  | .list _, h => congrArg Value.list (finiteItems_of_plain h)
  | .object _, h => congrArg Value.object (finiteMembers_of_plain h)
  | .bool _, _ => rfl
  | .int _, _ => rfl
  | .text _, _ => rfl

theorem finiteItems_of_plain : {items : List Value} → plainItems items = true →
    finiteItems items = items
  | [], _ => rfl
  | _ :: _, h => by
    rw [plainItems, Bool.and_eq_true] at h
    rw [finiteItems, finiteOnly_of_isPlain h.1, finiteItems_of_plain h.2]

theorem finiteMembers_of_plain : {members : List (String × Value)} → plainMembers members = true →
    finiteMembers members = members
  | [], _ => rfl
  | (_, _) :: _, h => by
    rw [plainMembers, Bool.and_eq_true] at h
    rw [finiteMembers, finiteOnly_of_isPlain h.1, finiteMembers_of_plain h.2]

end

/-! ## Fallbacks -/

mutual

/-- Every fallback of a record is null or plain, and nothing is an identifier. -/
def Shape.IsSettled : Shape → Prop
  | .uuid => False
  | .optional shape => shape.IsSettled
  | .list shape => shape.IsSettled
  | .map shape => shape.IsSettled
  | .record fields _ => fields.IsSettled
  | .variant _ _ fields => ∀ word, (fields word).IsSettled
  | _ => True

/-- Every fallback of the fields is null or plain, and nothing is an identifier. -/
def Fields.IsSettled : Fields → Prop
  | .nil => True
  | .cons _ _ shape fallback rest =>
    (∀ v ∈ fallback, v.isNull = true ∨ v.isPlain = true) ∧ shape.IsSettled ∧ rest.IsSettled

end

/-! ## Members -/

theorem firstGiven?_eq_some {members : Entries Value} {keys : List String} {used : String} {v : Value}
    (h : firstGiven? members keys = some (used, v)) : (used, v) ∈ members := by
  induction keys with
  | nil => cases h
  | cons key keys ih =>
    rw [firstGiven?] at h
    split at h
    · rename_i hkey
      cases h
      exact Entries.mem_of_get?_eq_some hkey
    · exact ih h

theorem mem_of_firstGiven?_eq_some {members : Entries Value} {keys : List String} {given : String × Value}
    (h : firstGiven? members keys = some given) : given.1 ∈ keys := by
  induction keys with
  | nil => cases h
  | cons key keys ih =>
    rw [firstGiven?] at h
    split at h
    · cases h
      exact List.mem_cons_self
    · exact List.mem_cons_of_mem key (ih h)

def Fields.writtenKeys : Fields → List String
  | .nil => []
  | .cons key _ _ _ rest => key :: rest.writtenKeys

/-- What stands under the key that a field is written under supplies the field. -/
theorem Fields.mem_given {members : Entries Value} {name : String} {v : Value}
    (hv : Entries.get? members name = some v) : (fields : Fields) → name ∈ fields.writtenKeys →
      name ∈ fields.given members
  | .cons key others _ _ rest, hname => by
    unfold Fields.given
    rcases List.mem_cons.mp hname with rfl | hlater
    · rw [firstGiven?, hv]
      exact List.mem_cons_self
    · have hrest := mem_given hv rest hlater
      split
      · exact List.mem_cons_of_mem _ hrest
      · exact hrest

theorem names_finiteMembers (members : Entries Value) :
    Entries.names (finiteMembers members) = Entries.names members := by
  induction members with
  | nil => rfl
  | cons member rest ih => exact congrArg (List.cons member.1) ih

/-- A name without a member has none among the members that are written beside the fields. -/
theorem get?_writeOthers_of_none {members beside : Entries Value} (h : beside ⊆ members) {name : String}
    (hname : Entries.get? members name = none) : Entries.get? (writeOthers beside) name = none := by
  rw [Entries.get?_eq_none_iff] at hname ⊢
  intro hwritten
  rw [writeOthers, names_finiteMembers] at hwritten
  obtain ⟨member, hmember, rfl⟩ := List.mem_map.mp hwritten
  exact hname (List.mem_map_of_mem (h (List.mem_of_mem_filter hmember)))

/-! ## Reading -/

theorem within_eq_ok {α : Type} {step : PathStep} {x : Checked α} {a : α} :
    within step x = .ok a ↔ x = .ok a := by
  cases x with
  | error faults => exact ⟨fun h => (by cases h), fun h => (by cases h)⟩
  | ok b => exact Iff.rfl

theorem both_eq_ok {α β : Type} {x : Checked α} {y : Checked β} {a : α} {b : β} :
    both x y = .ok (a, b) ↔ x = .ok a ∧ y = .ok b := by
  cases x with
  | error faults => cases y <;> exact ⟨fun h => (by cases h), fun h => (by cases h.1)⟩
  | ok c =>
    cases y with
    | error faults => exact ⟨fun h => (by cases h), fun h => (by cases h.2)⟩
    | ok d => simp [both]

theorem Shape.read_record (source : Source) (fields : Fields) (keepsOthers : Bool) (members : Entries Value) :
    (Shape.record fields keepsOthers).read source (.object members) =
      (fields.read source members).map fun contents =>
        (contents, if keepsOthers then others members (fields.given members) else []) := by
  unfold Shape.read
  rfl

def readField (source : Source) (key : String) (others : List String) (shape : Shape) (fallback : Option Value)
    (members : Entries Value) : Checked shape.Carrier :=
  match firstGiven? members (key :: others) with
  | some (used, v) => within (.key used) (shape.read source v)
  | none =>
    match fallback with
    | some v => within (.key key) (shape.read source v)
    | none => within (.key key) (fail .missing)

theorem Fields.read_cons (source : Source) (key : String) (others : List String) (shape : Shape)
    (fallback : Option Value) (rest : Fields) (members : Entries Value) :
    (Fields.cons key others shape fallback rest).read source members =
      both (readField source key others shape fallback members) (rest.read source members) := by
  simp only [Fields.read]
  rfl

end Schema

end CommandFlow
