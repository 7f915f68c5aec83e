import CommandFlow.Proofs.Schema.Plain

/-!
# Members under another key of their field

A field may be given under several keys. It does not matter under which one, except for the key that faults name.

* `Fault.moved`, `placed` : a fault and what is read, with the places of faults mapped; `atKey`, `inKey`, `inItems` :
  maps of places at the first key, below a key and below the items of a list;
* `Fields.ReadAlike` : every field is read alike from two objects; `Fields.placed_read` : then so are all;
* `Rekeyed` : a member stands under another key, wherever among the others;
* `Renews`, `Fields.AllKeys` : the one key comes right before the other one in the keys of a field;
* `Rekeyed.placed_read` : then the record is read alike, with the same members beside its fields;
* `placed_read_insert`, `placed_read_variant_insert` : so it is if a part is replaced by one that is read alike.
-/

namespace CommandFlow.Schema

/-! ## Places of faults -/

abbrev PlaceMap := List PathStep → List PathStep

def Fault.moved (f : PlaceMap) (fault : Fault) : Fault := { fault with path := f fault.path }

/-- What is read, with the places of its faults mapped. -/
def placed {α : Type} (f : PlaceMap) (x : Checked α) : Checked α := x.mapError (List.map (·.moved f))

def atKey (σ : String → String) : PlaceMap
  | .key name :: path => .key (σ name) :: path
  | path => path

def inKey (key : String) (f : PlaceMap) : PlaceMap
  | .key name :: path => .key name :: if name = key then f path else path
  | path => path

def inItems (f : PlaceMap) : PlaceMap
  | .index i :: path => .index i :: f path
  | path => path

theorem inKey_self (key : String) (f : PlaceMap) (path : List PathStep) :
    inKey key f (.key key :: path) = .key key :: f path := by
  simp [inKey]

section
variable {α β : Type} {f g : PlaceMap}

theorem placed_both (x : Checked α) (y : Checked β) :
    placed f (both x y) = both (placed f x) (placed f y) := by
  cases x <;> cases y <;> simp [placed, both, Except.mapError]

theorem placed_map (x : Checked α) (h : α → β) : placed f (x.map h) = (placed f x).map h := by
  cases x <;> rfl

/-- Faults that are moved below a step are mapped as the step and what lies below it. -/
theorem placed_within {step other : PathStep} (h : ∀ path, f (step :: path) = other :: g path)
    (x : Checked α) : placed f (within step x) = within other (placed g x) := by
  cases x with
  | ok a => rfl
  | error faults =>
    simp only [placed, within, Except.mapError, List.map_map]
    apply congrArg Except.error
    apply List.map_congr_left
    intro fault _
    simp [Fault.moved, h]

theorem placed_eq_ok {x : Checked α} {a : α} : placed f x = .ok a ↔ x = .ok a := by
  cases x with
  | ok b => exact Iff.rfl
  | error faults => exact ⟨fun h => (by cases h), fun h => (by cases h)⟩

theorem placed_eq_error {x : Checked α} {faults : List Fault} :
    placed f x = .error faults ↔ ∃ before, x = .error before ∧ before.map (·.moved f) = faults := by
  cases x with
  | ok b =>
    refine ⟨fun h => (by cases h), ?_⟩
    rintro ⟨before, h, -⟩
    cases h
  | error before =>
    refine ⟨fun h => ⟨before, rfl, Except.error.inj h⟩, ?_⟩
    rintro ⟨_, ⟨⟩, rfl⟩
    rfl

theorem placed_readItems {read : Value → Checked α} {items others : List Value}
    (h : List.Forall₂ (fun v w => placed f (read w) = placed f (read v)) items others) (i : Nat) :
    placed (inItems f) (readItems read i others) = placed (inItems f) (readItems read i items) := by
  induction h generalizing i with
  | nil => rfl
  | @cons v w items others hfirst hrest ih =>
    have hitem (u : Value) : placed (inItems f) (within (.index i) (read u)) =
        within (.index i) (placed f (read u)) := placed_within (f := inItems f) (fun _ => rfl) (read u)
    rw [readItems, readItems, placed_map, placed_map, placed_both, placed_both, hitem, hitem, hfirst,
      ih (i + 1)]

end

/-! ## Fields one by one -/

theorem readField_congr (source : Source) {key : String} {others : List String} (shape : Shape)
    (fallback : Option Value) {members after : Entries Value}
    (h : firstGiven? after (key :: others) = firstGiven? members (key :: others)) :
    readField source key others shape fallback after = readField source key others shape fallback members := by
  unfold readField
  rw [h]

/-- Every one of the fields is read alike from the two objects. -/
def Fields.ReadAlike (source : Source) (f : PlaceMap) (members after : Entries Value) : Fields → Prop
  | .nil => True
  | .cons key others shape fallback rest =>
    placed f (readField source key others shape fallback after) =
      placed f (readField source key others shape fallback members) ∧
    rest.ReadAlike source f members after

theorem Fields.placed_read {source : Source} {f : PlaceMap} {members after : Entries Value} :
    (fields : Fields) → fields.ReadAlike source f members after →
      placed f (fields.read source after) = placed f (fields.read source members)
  | .nil, _ => rfl
  | .cons key others shape fallback rest, ⟨hfield, hrest⟩ => by
    have hlater := placed_read rest hrest
    rw [Fields.read_cons, Fields.read_cons]
    refine (placed_both _ _).trans (Eq.trans ?_ (placed_both _ _).symm)
    rw [hfield, hlater]

/-! ## One key for another -/

/-- A member of the one object stands under another key in the other one, wherever among the other members. -/
structure Rekeyed (old new : String) (members after : Entries Value) : Prop where
  /-- Nothing stands under the other key before. -/
  absent : Entries.get? members new = none
  moved : Entries.get? after new = Entries.get? members old
  /-- The other members stay, in their order. -/
  same : after.filter (·.1 ≠ new) = members.filter (·.1 ≠ old)

/-- The one key in place of the other one. -/
def replaceKey (old new name : String) : String := if name = old then new else name

/-- The one key comes right before the other one, or neither is among the keys. -/
def Renews (old new : String) (keys : List String) : Prop :=
  (old ∉ keys ∧ new ∉ keys) ∨ ∃ rest, keys = new :: old :: rest ∧ old ∉ rest ∧ new ∉ rest

def Fields.AllKeys (P : List String → Prop) : Fields → Prop
  | .nil => True
  | .cons key others _ _ rest => P (key :: others) ∧ rest.AllKeys P

theorem replaceKey_self (old new : String) : replaceKey old new old = new := if_pos rfl

theorem replaceKey_of_ne {old name : String} (h : name ≠ old) (new : String) : replaceKey old new name = name :=
  if_neg h

theorem mem_map_replaceKey {old new name : String} (hold : name ≠ old) (hnew : name ≠ new) {names : List String} :
    name ∈ names.map (replaceKey old new) ↔ name ∈ names := by
  constructor
  · intro hmem
    obtain ⟨other, hother, rfl⟩ := List.mem_map.mp hmem
    have hne : other ≠ old := by
      rintro rfl
      exact hnew (replaceKey_self other new)
    rw [replaceKey_of_ne hne]
    exact hother
  · intro hmem
    exact List.mem_map.mpr ⟨name, hmem, replaceKey_of_ne hold new⟩

theorem others_congr {members : Entries Value} {keys names : List String}
    (h : ∀ member ∈ members, (member.1 ∈ keys ↔ member.1 ∈ names)) :
    others members keys = others members names := by
  unfold others
  apply List.filter_congr
  intro member hmember
  rw [Bool.eq_iff_iff]
  simpa using not_congr (h member hmember)

theorem others_filter_ne {members : Entries Value} {name : String} {keys : List String}
    (h : name ∈ Entries.names members → name ∈ keys) :
    others (members.filter (·.1 ≠ name)) keys = others members keys := by
  unfold others
  rw [List.filter_filter]
  apply List.filter_congr
  intro member hmember
  by_cases hname : member.1 = name
  · have hkeys : member.1 ∈ keys := hname ▸ h (hname ▸ List.mem_map_of_mem hmember)
    simp [hkeys]
  · simp [hname]

namespace Rekeyed

variable {old new : String} {members after : Entries Value} (h : Rekeyed old new members after)
include h

theorem get?_of_ne {name : String} (hold : name ≠ old) (hnew : name ≠ new) :
    Entries.get? after name = Entries.get? members name := by
  rw [← Entries.get?_filter_of_ne after hnew, h.same, Entries.get?_filter_of_ne members hold]

theorem get?_old (hne : old ≠ new) : Entries.get? after old = none := by
  rw [← Entries.get?_filter_of_ne after hne, h.same, Entries.get?_eq_none_iff]
  intro hmem
  obtain ⟨member, hmember, hname⟩ := List.mem_map.mp hmem
  have hkept := (List.mem_filter.mp hmember).2
  simp [hname] at hkept

/-- Keys among which is neither of the two find what they found. -/
theorem firstGiven?_of_not_mem {keys : List String} (hold : old ∉ keys) (hnew : new ∉ keys) :
    firstGiven? after keys = firstGiven? members keys := by
  apply firstGiven?_congr
  intro name hname
  apply h.get?_of_ne
  · rintro rfl
    exact hold hname
  · rintro rfl
    exact hnew hname

/-- The keys of a field find the same value, under the new key instead of the old one. -/
theorem firstGiven?_eq (hne : old ≠ new) {keys : List String} (hkeys : Renews old new keys) :
    firstGiven? after keys =
      (firstGiven? members keys).map fun given => (replaceKey old new given.1, given.2) := by
  have hsame {rest : List String} (hold : old ∉ rest) {given : String × Value}
      (hgiven : firstGiven? members rest = some given) :
      (replaceKey old new given.1, given.2) = given := by
    rw [replaceKey_of_ne]
    rintro rfl
    exact hold (mem_of_firstGiven?_eq_some hgiven)
  have hrest {rest : List String} (hold : old ∉ rest) (hnew : new ∉ rest) :
      firstGiven? after rest = (firstGiven? members rest).map fun given =>
        (replaceKey old new given.1, given.2) := by
    rw [h.firstGiven?_of_not_mem hold hnew]
    cases hgiven : firstGiven? members rest with
    | none => rfl
    | some given => rw [Option.map_some, hsame hold hgiven]
  rcases hkeys with ⟨hold, hnew⟩ | ⟨rest, rfl, hold, hnew⟩
  · exact hrest hold hnew
  · simp only [firstGiven?, h.moved, h.get?_old hne, h.absent]
    cases Entries.get? members old with
    | none => exact hrest hold hnew
    | some v => rw [Option.map_some, replaceKey_self]

/-- The fields are given under the same keys, but for the new one instead of the old one. -/
theorem given_eq (hne : old ≠ new) : (fields : Fields) → fields.AllKeys (Renews old new) →
    fields.given after = (fields.given members).map (replaceKey old new)
  | .nil, _ => rfl
  | .cons key others _ _ rest, ⟨hkeys, hrest⟩ => by
    rw [Fields.given, Fields.given, h.firstGiven?_eq hne hkeys, given_eq hne rest hrest]
    cases firstGiven? members (key :: others) <;> rfl

/-- Every field is read alike, up to the key that its faults name. -/
theorem readAlike (hne : old ≠ new) (source : Source) {σ : String → String} (hσ : σ new = σ old) :
    (fields : Fields) → fields.AllKeys (Renews old new) → fields.ReadAlike source (atKey σ) members after
  | .nil, _ => trivial
  | .cons key others shape fallback rest, ⟨hkeys, hrest⟩ => by
    refine ⟨?_, readAlike hne source hσ rest hrest⟩
    have hstep (name : String) (v : Value) : placed (atKey σ) (within (.key name) (shape.read source v)) =
        within (.key (σ name)) (placed id (shape.read source v)) :=
      placed_within (f := atKey σ) (fun _ => rfl) (shape.read source v)
    unfold readField
    rw [h.firstGiven?_eq hne hkeys]
    cases firstGiven? members (key :: others) with
    | none => rfl
    | some given =>
      show placed (atKey σ) (within (.key (replaceKey old new given.1)) _) = placed (atKey σ) (within _ _)
      rw [hstep, hstep]
      unfold replaceKey
      split
      · rename_i hold
        rw [hold, hσ]
      · rfl

/-- A member under the old key supplies a field that has this key. -/
theorem mem_given_old {v : Value} (hv : Entries.get? members old = some v) : (fields : Fields) →
    fields.AllKeys (Renews old new) → old ∈ fields.keys → old ∈ fields.given members
  | .cons key others _ _ rest, ⟨hkeys, hrest⟩, hold => by
    unfold Fields.given
    rcases hkeys with ⟨hnot, -⟩ | ⟨later, hcons, -, -⟩
    · have hlater := mem_given_old hv rest hrest ((List.mem_append.mp hold).resolve_left hnot)
      split
      · exact List.mem_cons_of_mem _ hlater
      · exact hlater
    · rw [hcons, firstGiven?, firstGiven?, h.absent, hv]
      exact List.mem_cons_self

theorem others_eq {given : List String} (hgiven : ∀ v, Entries.get? members old = some v → old ∈ given) :
    others after (given.map (replaceKey old new)) = others members given := by
  have hnew : new ∈ Entries.names after → new ∈ given.map (replaceKey old new) := by
    intro hmem
    obtain ⟨v, hv⟩ := Entries.exists_get?_of_mem_names hmem
    rw [h.moved] at hv
    exact List.mem_map.mpr ⟨old, hgiven v hv, replaceKey_self old new⟩
  have hold : old ∈ Entries.names members → old ∈ given := by
    intro hmem
    obtain ⟨v, hv⟩ := Entries.exists_get?_of_mem_names hmem
    exact hgiven v hv
  have hother : ∀ member ∈ members.filter (·.1 ≠ old),
      (member.1 ∈ given.map (replaceKey old new) ↔ member.1 ∈ given) := by
    intro member hmember
    obtain ⟨hmember, hne⟩ := List.mem_filter.mp hmember
    apply mem_map_replaceKey (by simpa using hne)
    rintro rfl
    exact (Entries.get?_eq_none_iff members member.1).mp h.absent (List.mem_map_of_mem hmember)
  calc others after (given.map (replaceKey old new))
      = others (after.filter (·.1 ≠ new)) (given.map (replaceKey old new)) := (others_filter_ne hnew).symm
    _ = others (members.filter (·.1 ≠ old)) (given.map (replaceKey old new)) := by rw [h.same]
    _ = others (members.filter (·.1 ≠ old)) given := others_congr hother
    _ = others members given := others_filter_ne hold

/-- A record is read alike, up to the key that faults name. -/
theorem placed_read (hne : old ≠ new) (source : Source) {σ : String → String} (hσ : σ new = σ old)
    {fields : Fields} (hkeys : fields.AllKeys (Renews old new)) (hold : old ∈ fields.keys)
    (keepsOthers : Bool) :
    placed (atKey σ) ((Shape.record fields keepsOthers).read source (.object after)) =
      placed (atKey σ) ((Shape.record fields keepsOthers).read source (.object members)) := by
  have hcontents := fields.placed_read (h.readAlike hne source hσ fields hkeys)
  have hbeside : others after (fields.given after) = others members (fields.given members) := by
    rw [h.given_eq hne fields hkeys]
    exact h.others_eq fun v hv => h.mem_given_old hv fields hkeys hold
  rw [Shape.read_record, Shape.read_record, hbeside]
  exact (placed_map _ _).trans ((congrArg _ hcontents).trans (placed_map _ _).symm)

end Rekeyed

/-! ## One part for another -/

section
variable {source : Source} {name : String} {members : Entries Value} {v : Value}

theorem firstGiven?_insert_of_not_mem {keys : List String} (h : name ∉ keys) (w : Value) :
    firstGiven? (Entries.insert members name w) keys = firstGiven? members keys := by
  apply firstGiven?_congr
  intro key hkey
  rw [Entries.get?_insert, if_neg]
  rintro rfl
  exact h hkey

/-- Another part under the same key changes the value that is given, and not the key. -/
theorem firstGiven?_insert (hv : Entries.get? members name = some v) (w : Value) (keys : List String) :
    (firstGiven? (Entries.insert members name w) keys).map (·.1) = (firstGiven? members keys).map (·.1) := by
  induction keys with
  | nil => rfl
  | cons key keys ih =>
    rw [firstGiven?, firstGiven?, Entries.get?_insert]
    by_cases hkey : name = key
    · rw [if_pos hkey, ← hkey, hv]
      rfl
    · rw [if_neg hkey]
      cases Entries.get? members key with
      | none => exact ih
      | some u => rfl

theorem Fields.given_insert (hv : Entries.get? members name = some v) (w : Value) : (fields : Fields) →
    fields.given (Entries.insert members name w) = fields.given members
  | .nil => rfl
  | .cons key others _ _ rest => by
    have hfirst := firstGiven?_insert hv w (key :: others)
    rw [Fields.given, Fields.given, given_insert hv w rest]
    revert hfirst
    cases firstGiven? (Entries.insert members name w) (key :: others) <;>
      cases firstGiven? members (key :: others) <;> simp

theorem others_insert {keys : List String} (h : name ∈ keys) (w : Value) :
    others (Entries.insert members name w) keys = others members keys := by
  unfold others
  induction members with
  | nil => simp [Entries.insert, h]
  | cons member rest ih =>
    rw [Entries.insert]
    split
    · rename_i hname
      simp [hname, h]
    · rw [List.filter_cons, List.filter_cons, ih]

theorem readAlike_of_not_mem {key : String} {others : List String} (h : name ∉ key :: others) (f : PlaceMap)
    (w : Value) (shape : Shape) (fallback : Option Value) :
    placed f (readField source key others shape fallback (Entries.insert members name w)) =
      placed f (readField source key others shape fallback members) := by
  rw [readField_congr source shape fallback (firstGiven?_insert_of_not_mem h w)]

/-- The field that the part is given for is read alike if the part is. -/
theorem readAlike_insert (hv : Entries.get? members name = some v) {f g : PlaceMap}
    (hplace : ∀ path, f (.key name :: path) = .key name :: g path) {shape : Shape} {w : Value}
    (hread : placed g (shape.read source w) = placed g (shape.read source v)) (fallback : Option Value) :
    placed f (readField source name [] shape fallback (Entries.insert members name w)) =
      placed f (readField source name [] shape fallback members) := by
  unfold readField
  simp only [firstGiven?, Entries.get?_insert_self, hv]
  rw [placed_within hplace, placed_within hplace, hread]

theorem placed_read_insert (hv : Entries.get? members name = some v) {w : Value} {f : PlaceMap}
    {fields : Fields} (hfields : fields.ReadAlike source f members (Entries.insert members name w))
    (hname : name ∈ fields.given members) (keepsOthers : Bool) :
    placed f ((Shape.record fields keepsOthers).read source (.object (Entries.insert members name w))) =
      placed f ((Shape.record fields keepsOthers).read source (.object members)) := by
  rw [Shape.read_record, Shape.read_record, Fields.given_insert hv, others_insert hname]
  exact (placed_map _ _).trans ((congrArg _ (fields.placed_read hfields)).trans (placed_map _ _).symm)

/-- A record of the kind that its tag says is read alike if the fields of this kind are. -/
theorem placed_read_variant_insert (hv : Entries.get? members name = some v) {w : Value} {f : PlaceMap}
    {tag : String} (htag : name ≠ tag) {vocabulary : Vocabulary} {fields : vocabulary.Word → Fields}
    (h : ∀ s word, Entries.get? members tag = some (.text s) → vocabulary.ofName? s = some word →
      name ∈ (fields word).given members ∧ ∃ g : PlaceMap, (∀ path, f (.key s :: path) = .key s :: g path) ∧
        (fields word).ReadAlike source g members (Entries.insert members name w)) :
    placed f ((Shape.variant tag vocabulary fields).read source (.object (Entries.insert members name w))) =
      placed f ((Shape.variant tag vocabulary fields).read source (.object members)) := by
  unfold Shape.read
  dsimp only
  rw [Entries.get?_insert, if_neg htag]
  split
  · rfl
  · rename_i s hs
    split
    · rfl
    · rename_i word hword
      obtain ⟨hname, g, hplace, hfields⟩ := h s word hs hword
      have hlater := List.mem_cons_of_mem tag hname
      rw [Fields.given_insert hv, others_insert hlater, placed_within hplace, placed_within hplace]
      apply congrArg (within (.key s))
      refine (placed_map _ _).trans ((congrArg _ ?_).trans (placed_map _ _).symm)
      exact (fields word).placed_read hfields
  · rfl

end

end CommandFlow.Schema
