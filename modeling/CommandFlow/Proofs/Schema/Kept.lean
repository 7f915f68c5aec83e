import CommandFlow.Proofs.Schema.Plain

/-!
# Members that are kept

What stands in a record beside its fields is written again, unless it is null, and nothing else is.

* `Value.isFinite` : there is no infinite number and no not-a-number in a value, so that it is written as it is;
* `KeepsMembers` : the members of a record that supply no field are those of another one, its fields apart;
  `keepsMembers_write` : the written record is one that has them;
* `Shape.Keeps`, `Fields.Keeps` : so it is for every record in a part of a document;
* `Shape.keeps_write`, `Fields.keeps_write` : what is read from a part keeps its members when it is written.
-/

namespace CommandFlow

/-! ## Finite values -/

mutual

/-- There is no infinite number and no not-a-number in the value. -/
def Value.isFinite : Value → Bool
  | .float x => x.isFinite
  | .list items => areFinite items
  | .object members => haveFinite members
  | _ => true

def areFinite : List Value → Bool
  | [] => true
  | v :: rest => v.isFinite && areFinite rest

def haveFinite : List (String × Value) → Bool
  | [] => true
  | (_, v) :: rest => v.isFinite && haveFinite rest

end

namespace Schema

mutual

theorem finiteOnly_of_isFinite : {v : Value} → v.isFinite = true → finiteOnly v = v
  | .float _, h => if_pos h
  | .list _, h => congrArg Value.list (finiteItems_of_areFinite h)
  | .object _, h => congrArg Value.object (finiteMembers_of_haveFinite h)
  | .null, _ => rfl
  | .bool _, _ => rfl
  | .int _, _ => rfl
  | .text _, _ => rfl

theorem finiteItems_of_areFinite : {items : List Value} → areFinite items = true → finiteItems items = items
  | [], _ => rfl
  | _ :: _, h => by
    rw [areFinite, Bool.and_eq_true] at h
    rw [finiteItems, finiteOnly_of_isFinite h.1, finiteItems_of_areFinite h.2]

theorem finiteMembers_of_haveFinite : {members : List (String × Value)} → haveFinite members = true →
    finiteMembers members = members
  | [], _ => rfl
  | (_, _) :: _, h => by
    rw [haveFinite, Bool.and_eq_true] at h
    rw [finiteMembers, finiteOnly_of_isFinite h.1, finiteMembers_of_haveFinite h.2]

end

theorem finiteItems_eq_self_iff {items : List Value} :
    finiteItems items = items ↔ ∀ v ∈ items, finiteOnly v = v := by
  induction items with
  | nil => simp [finiteItems]
  | cons v rest ih => simp [finiteItems, ih]

theorem finiteMembers_eq_self_iff {members : Entries Value} :
    finiteMembers members = members ↔ ∀ member ∈ members, finiteOnly member.2 = member.2 := by
  induction members with
  | nil => simp [finiteMembers]
  | cons member rest ih =>
    obtain ⟨name, v⟩ := member
    rw [List.forall_mem_cons, finiteMembers, List.cons.injEq, Prod.mk.injEq, ih]
    simp

/-! ## Members -/

/-- The members of the one record that supply no field are members of the other one, unless they are null. The other
one has nothing else, apart from keys of fields. -/
structure KeepsMembers (keys given : List String) (members written : Entries Value) : Prop where
  kept : ∀ {name v}, Entries.get? members name = some v → name ∉ given → v.isNull = false →
    Entries.get? written name = some v
  only : ∀ {name v}, Entries.get? written name = some v →
    name ∈ keys ∨ name ∉ given ∧ (name, v) ∈ members ∧ v.isNull = false

theorem writeOthers_eq_filter {members beside : Entries Value} (hfinite : finiteMembers members = members)
    (hbeside : beside ⊆ members) :
    writeOthers beside = beside.filter fun member => !member.2.isNull := by
  apply finiteMembers_eq_self_iff.mpr
  intro member hmember
  exact finiteMembers_eq_self_iff.mp hfinite member (hbeside (List.mem_of_mem_filter hmember))

/-- Under the key of a field there is nothing beside the fields. -/
theorem get?_others_eq_none {members : Entries Value} {given : List String} {name : String}
    (h : name ∈ given ∨ Entries.get? members name = none) : Entries.get? (others members given) name = none := by
  rw [Entries.get?_eq_none_iff]
  intro hmem
  obtain ⟨member, hmember, rfl⟩ := List.mem_map.mp hmem
  obtain ⟨hmember, hgiven⟩ := List.mem_filter.mp hmember
  rcases h with hin | hnone
  · simp [hin] at hgiven
  · exact (Entries.get?_eq_none_iff members member.1).mp hnone (List.mem_map_of_mem hmember)

/-- A record keeps its members when they are written beside its fields. -/
theorem keepsMembers_write {keys given : List String} {members : Entries Value} (fields : Entries Value)
    (hfinite : finiteMembers members = members) (hfields : Entries.names fields ⊆ keys)
    (hkeys : ∀ {name v}, Entries.get? members name = some v → name ∈ keys → name ∈ given) :
    KeepsMembers keys given members (fields ++ writeOthers (others members given)) := by
  have hbeside : others members given ⊆ members := List.filter_subset_self _
  rw [writeOthers_eq_filter hfinite hbeside]
  constructor
  · intro name v hv hgiven hnull
    have hfield : Entries.get? fields name = none := by
      rw [Entries.get?_eq_none_iff]
      exact fun hmem => hgiven (hkeys hv (hfields hmem))
    rw [Entries.get?_append, hfield, Option.none_or]
    apply Entries.get?_filter_of_pos
    · exact Entries.get?_filter_of_pos hv (by simpa using hgiven)
    · simpa using hnull
  · intro name v hv
    rcases List.mem_append.mp (Entries.mem_of_get?_eq_some hv) with hfield | hbeside
    · exact .inl (hfields (List.mem_map_of_mem hfield))
    · obtain ⟨hother, hnull⟩ := List.mem_filter.mp hbeside
      obtain ⟨hmember, hgiven⟩ := List.mem_filter.mp hother
      exact .inr ⟨by simpa using hgiven, hmember, by simpa using hnull⟩

/-! ## Records in a part -/

mutual

/-- Every record in the part keeps its members in the other part, where the same record stands: at the same index,
under the same name, or under the key of its field. Free values are the same. -/
def Shape.Keeps : Shape → Value → Value → Prop
  | .anything, v, w => w = v
  | .optional shape, v, w => v = .null ∧ w = .null ∨ shape.Keeps v w
  | .list shape, v, w => ∃ items others, v = .list items ∧ w = .list others ∧
      List.Forall₂ (fun item other => shape.Keeps item other) items others
  | .map shape, v, w => ∃ members others, v = .object members ∧ w = .object others ∧
      List.Forall₂ (fun member other : String × Value => other.1 = member.1 ∧ shape.Keeps member.2 other.2)
        members others
  | .record fields keepsOthers, v, w => ∃ members written, v = .object members ∧ w = .object written ∧
      (keepsOthers = true → KeepsMembers fields.writtenKeys (fields.given members) members written) ∧
      fields.Keeps members written
  | .variant tag vocabulary fields, v, w => ∃ members written s word,
      v = .object members ∧ w = .object written ∧ Entries.get? members tag = some (.text s) ∧
      vocabulary.ofName? s = some word ∧
      KeepsMembers (tag :: (fields word).writtenKeys) (tag :: (fields word).given members) members written ∧
      (fields word).Keeps members written
  | _, _, _ => True

/-- Every record in the fields keeps its members, where a field that is not given is its fallback. A field that is
left out was null. -/
def Fields.Keeps (members written : Entries Value) : Fields → Prop
  | .nil => True
  | .cons key others shape fallback rest =>
    (∃ v, ((firstGiven? members (key :: others)).map (·.2)).or fallback = some v ∧
      (Entries.get? written key = none ∧ v = .null ∨
        ∃ w, Entries.get? written key = some w ∧ shape.Keeps v w)) ∧
    rest.Keeps members written

end

/-! ## Writing what was read -/

theorem Fields.names_write : (fields : Fields) → (contents : fields.Carrier) →
    Entries.names (fields.write contents) ⊆ fields.writtenKeys
  | .nil, _ => List.nil_subset _
  | .cons key others shape _ rest, (content, contents) => by
    have hrest := names_write rest contents
    rw [Fields.write]
    split
    · exact List.Subset.trans hrest (List.subset_cons_self _ _)
    · exact List.cons_subset_cons key hrest

theorem Fields.writtenKeys_subset : (fields : Fields) → fields.writtenKeys ⊆ fields.keys
  | .nil => List.nil_subset _
  | .cons _ _ _ _ rest =>
    List.cons_subset_cons _ (List.Subset.trans rest.writtenKeys_subset (List.subset_append_right _ _))

theorem Fields.get?_write_beside (fields : Fields) (contents : fields.Carrier) {members beside : Entries Value}
    {given : List String} (hgiven : fields.given members ⊆ given) (hbeside : beside ⊆ others members given)
    {name : String} (hname : name ∈ fields.writtenKeys) :
    Entries.get? (fields.write contents ++ writeOthers beside) name =
      Entries.get? (fields.write contents) name := by
  have hsupplies : name ∈ given ∨ Entries.get? members name = none := by
    cases hv : Entries.get? members name with
    | none => exact .inr rfl
    | some v => exact .inl (hgiven (fields.mem_given hv hname))
  have hnone := get?_writeOthers_of_none hbeside (get?_others_eq_none hsupplies)
  rw [Entries.get?_append, hnone, Option.or_none]

/-- What is null is left out only where it was null. -/
theorem Shape.eq_null_of_isAbsent {source : Source} : (shape : Shape) → {v : Value} → {content : shape.Carrier} →
    shape.read source v = .ok content → shape.isAbsent content = true → v = .null
  | .anything, v, _, h, habsent => by
    cases h
    cases v with
    | null => rfl
    | _ => cases habsent
  | .optional shape, v, content, h, habsent => by
    cases content with
    | some content => cases habsent
    | none =>
      cases v with
      | null => rfl
      | _ =>
        obtain ⟨_, _, hsome⟩ := map_eq_ok.mp h
        cases hsome

theorem exists_of_readField {source : Source} {key : String} {others : List String} {shape : Shape}
    {fallback : Option Value} {members : Entries Value} {content : shape.Carrier}
    (h : readField source key others shape fallback members = .ok content) :
    ∃ v, ((firstGiven? members (key :: others)).map (·.2)).or fallback = some v ∧
      shape.read source v = .ok content := by
  unfold readField at h
  cases hgiven : firstGiven? members (key :: others) with
  | some given =>
    rw [hgiven] at h
    exact ⟨given.2, rfl, within_eq_ok.mp h⟩
  | none =>
    rw [hgiven] at h
    cases fallback with
    | none => cases h
    | some v => exact ⟨v, rfl, within_eq_ok.mp h⟩

/-- What is given, and a fallback, is written as it is. -/
theorem finiteOnly_of_or {members : Entries Value} {keys : List String} {fallback : Option Value} {v : Value}
    (hfinite : finiteMembers members = members)
    (hfallback : ∀ v ∈ fallback, v.isNull = true ∨ v.isPlain = true)
    (h : ((firstGiven? members keys).map (·.2)).or fallback = some v) : finiteOnly v = v := by
  rcases Option.or_eq_some_iff.mp h with hgiven | ⟨-, hmissing⟩
  · obtain ⟨⟨used, _⟩, hfirst, rfl⟩ := Option.map_eq_some_iff.mp hgiven
    exact finiteMembers_eq_self_iff.mp hfinite _ (firstGiven?_eq_some hfirst)
  · rcases hfallback v hmissing with hnull | hplain
    · cases v with
      | null => rfl
      | _ => cases hnull
    · exact finiteOnly_of_isPlain hplain

theorem keeps_readItems {α : Type} {read : Value → Checked α} {write : α → Value} {R : Value → Value → Prop}
    {items : List Value} {contents : List α} {i : Nat} (h : readItems read i items = .ok contents)
    (hkeeps : ∀ v ∈ items, ∀ content, read v = .ok content → R v (write content)) :
    List.Forall₂ R items (contents.map write) := by
  induction items generalizing i contents with
  | nil =>
    cases h
    exact .nil
  | cons v rest ih =>
    obtain ⟨⟨first, later⟩, hboth, rfl⟩ := map_eq_ok.mp h
    obtain ⟨hfirst, hlater⟩ := both_eq_ok.mp hboth
    refine .cons (hkeeps v List.mem_cons_self first (within_eq_ok.mp hfirst)) (ih hlater ?_)
    exact fun w hw => hkeeps w (List.mem_cons_of_mem v hw)

theorem keeps_readMembers {α : Type} {read : Value → Checked α} {write : α → Value} {R : Value → Value → Prop}
    {members : Entries Value} {contents : Entries α} (h : readMembers read members = .ok contents)
    (hkeeps : ∀ member ∈ members, ∀ content, read member.2 = .ok content → R member.2 (write content)) :
    List.Forall₂ (fun member other : String × Value => other.1 = member.1 ∧ R member.2 other.2) members
      (Entries.mapValues write contents) := by
  induction members generalizing contents with
  | nil =>
    cases h
    exact .nil
  | cons member rest ih =>
    obtain ⟨⟨first, later⟩, hboth, rfl⟩ := map_eq_ok.mp h
    obtain ⟨hfirst, hlater⟩ := both_eq_ok.mp hboth
    refine .cons ⟨rfl, hkeeps member List.mem_cons_self first (within_eq_ok.mp hfirst)⟩ (ih hlater ?_)
    exact fun other hother => hkeeps other (List.mem_cons_of_mem member hother)

mutual

/-- What is read from a part keeps its members when it is written. -/
theorem Shape.keeps_write {source : Source} : (shape : Shape) → shape.IsApart → shape.IsSettled → (v : Value) →
    finiteOnly v = v → (content : shape.Carrier) → shape.read source v = .ok content →
      shape.Keeps v (shape.write content)
  | .text, _, _, _, _, _, _ => trivial
  | .sized _ _, _, _, _, _, _, _ => trivial
  | .integer, _, _, _, _, _, _ => trivial
  | .number, _, _, _, _, _, _ => trivial
  | .flag, _, _, _, _, _, _ => trivial
  | .word _ _, _, _, _, _, _, _ => trivial
  | .anything, _, _, v, hfinite, _, h => by
    cases h
    exact hfinite
  | .optional shape, hapart, hsettled, v, hfinite, content, h => by
    cases hnull : v.isNull with
    | true =>
      cases v with
      | null =>
        cases h
        exact .inl ⟨rfl, rfl⟩
      | _ => cases hnull
    | false =>
      rw [Shape.read_optional hnull] at h
      obtain ⟨again, hagain, rfl⟩ := map_eq_ok.mp h
      exact .inr (shape.keeps_write hapart hsettled v hfinite again hagain)
  | .list shape, hapart, hsettled, .list items, hfinite, contents, h => by
    have hitems := finiteItems_eq_self_iff.mp (Value.list.inj hfinite)
    refine ⟨items, _, rfl, rfl, keeps_readItems h fun v hv content hread => ?_⟩
    exact shape.keeps_write hapart hsettled v (hitems v hv) content hread
  | .map shape, hapart, hsettled, .object members, hfinite, contents, h => by
    have hmembers := finiteMembers_eq_self_iff.mp (Value.object.inj hfinite)
    refine ⟨members, _, rfl, rfl, keeps_readMembers h fun member hmember content hread => ?_⟩
    exact shape.keeps_write hapart hsettled member.2 (hmembers member hmember) content hread
  | .record fields keepsOthers, hapart, hsettled, .object members, hfinite, content, h => by
    have hmembers := Value.object.inj hfinite
    rw [Shape.read_record] at h
    obtain ⟨contents, hcontents, rfl⟩ := map_eq_ok.mp h
    refine ⟨members, _, rfl, rfl, ?_, ?_⟩
    · rintro rfl
      exact keepsMembers_write (fields.write contents) hmembers (fields.names_write contents) fun hv hname =>
        fields.mem_given hv hname
    · apply fields.keeps_write hapart hsettled members hmembers contents hcontents
      intro name hname
      refine fields.get?_write_beside contents (List.Subset.refl (fields.given members)) ?_ hname
      split
      · exact List.Subset.refl _
      · exact List.nil_subset _
  | .variant tag vocabulary fields, hapart, hsettled, .object members, hfinite, content, h => by
    have hmembers := Value.object.inj hfinite
    unfold Shape.read at h
    dsimp only at h
    split at h
    · cases h
    · rename_i s hs
      split at h
      · cases h
      · rename_i word hword
        obtain ⟨contents, hcontents, rfl⟩ := map_eq_ok.mp (within_eq_ok.mp h)
        refine ⟨members, _, s, word, rfl, rfl, hs, hword, ?_, ?_⟩
        · have hnames := List.cons_subset_cons tag ((fields word).names_write contents)
          refine keepsMembers_write ((tag, _) :: (fields word).write contents) hmembers hnames
            fun {name v} hv hname => ?_
          rcases List.mem_cons.mp hname with rfl | hfield
          · exact List.mem_cons_self
          · exact List.mem_cons_of_mem _ ((fields word).mem_given hv hfield)
        · obtain ⟨htag, hfields⟩ := hapart word
          apply (fields word).keeps_write hfields (hsettled word) members hmembers contents hcontents
          intro name hname
          have hne : tag ≠ name := by
            rintro rfl
            exact htag ((fields word).writtenKeys_subset hname)
          rw [Entries.get?, if_neg hne]
          exact (fields word).get?_write_beside contents (List.subset_cons_self tag _)
            (List.Subset.refl _) hname
    · cases h

/-- What is read from fields keeps the members of the records in them, wherever it is written under their keys. -/
theorem Fields.keeps_write {source : Source} : (fields : Fields) → fields.IsApart → fields.IsSettled →
    (members : Entries Value) → finiteMembers members = members → (contents : fields.Carrier) →
      fields.read source members = .ok contents → (written : Entries Value) →
        (∀ name ∈ fields.writtenKeys, Entries.get? written name = Entries.get? (fields.write contents) name) →
          fields.Keeps members written
  | .nil, _, _, _, _, _, _, _, _ => trivial
  | .cons key others shape fallback rest, ⟨hkeys, hapart, hrest⟩, ⟨hfallback, hsettled, hlater⟩, members, hfinite,
      (content, contents), h, written, hwritten => by
    rw [Fields.read_cons] at h
    obtain ⟨hcontent, hcontents⟩ := both_eq_ok.mp h
    obtain ⟨v, hv, hread⟩ := exists_of_readField hcontent
    have hfree : finiteOnly v = v := finiteOnly_of_or hfinite hfallback hv
    have hfresh : key ∉ rest.writtenKeys := fun hmem =>
      hkeys key List.mem_cons_self (rest.writtenKeys_subset hmem)
    refine ⟨⟨v, hv, ?_⟩, rest.keeps_write hrest hlater members hfinite contents hcontents written ?_⟩
    · rw [hwritten key List.mem_cons_self, Fields.write]
      split
      · rename_i habsent
        refine .inl ⟨?_, shape.eq_null_of_isAbsent hread habsent⟩
        rw [Entries.get?_eq_none_iff]
        exact fun hmem => hfresh (rest.names_write contents hmem)
      · rw [Entries.get?, if_pos rfl]
        exact .inr ⟨_, rfl, shape.keeps_write hapart hsettled v hfree content hread⟩
    · intro name hname
      have hne : key ≠ name := by
        rintro rfl
        exact hfresh hname
      rw [hwritten name (List.mem_cons_of_mem key hname), Fields.write]
      split
      · rfl
      · rw [Entries.get?, if_neg hne]

end

end Schema

end CommandFlow
