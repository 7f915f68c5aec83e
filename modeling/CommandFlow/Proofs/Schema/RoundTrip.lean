import CommandFlow.Proofs.Except
import CommandFlow.Schema.Reader
import CommandFlow.Schema.Writer
import Mathlib.Data.List.Basic

/-!
# Documents that are written and read again

* `Shape.IsApart`, `Fields.IsApart` : no two fields of a record have a key in common;
* `Shape.bare`, `Fields.bare` : a content without the members that are no fields;
* `Shape.Survives`, `Fields.Survives` : nothing of a content is lost when it is written;
* `Shape.read_write`, `Fields.read_write` : a content that survives is read again from its document.
-/

namespace CommandFlow.Schema

/-! ## Keys -/

def Fields.keys : Fields → List String
  | .nil => []
  | .cons key others _ _ rest => (key :: others) ++ rest.keys

mutual

/-- No two fields of a record have a key in common, and none has the key of the tag. -/
def Shape.IsApart : Shape → Prop
  | .optional shape => shape.IsApart
  | .list shape => shape.IsApart
  | .map shape => shape.IsApart
  | .record fields _ => fields.IsApart
  | .variant tag _ fields => ∀ word, tag ∉ (fields word).keys ∧ (fields word).IsApart
  | _ => True

def Fields.IsApart : Fields → Prop
  | .nil => True
  | .cons key others shape _ rest =>
    (∀ name ∈ key :: others, name ∉ rest.keys) ∧ shape.IsApart ∧ rest.IsApart

end

theorem Fields.get?_write_append : (fields : Fields) → (contents : fields.Carrier) →
    (members : Entries Value) → {name : String} → name ∉ fields.keys →
      Entries.get? (fields.write contents ++ members) name = Entries.get? members name
  | .nil, _, _, _, _ => rfl
  | .cons key others shape _ rest, (content, contents), members, name, hname => by
    have hkey : key ≠ name := by
      rintro rfl
      exact hname (List.mem_append_left _ List.mem_cons_self)
    have hrest : name ∉ rest.keys := fun hin => hname (List.mem_append_right _ hin)
    rw [Fields.write]
    split
    · exact get?_write_append rest contents members hrest
    · rw [List.cons_append, Entries.get?, if_neg hkey]
      exact get?_write_append rest contents members hrest

/-! ## Contents -/

mutual

/-- The content without the members that are no fields. -/
def Shape.bare : (shape : Shape) → shape.Carrier → shape.Carrier
  | .text, s => s
  | .sized _ _, s => s
  | .integer, i => i
  | .number, x => x
  | .flag, b => b
  | .uuid, u => u
  | .anything, v => v
  | .word _ _, word => word
  | .optional shape, content => Option.map (fun content => shape.bare content) content
  | .list shape, contents => List.map (fun content => shape.bare content) contents
  | .map shape, contents => Entries.mapValues (fun content => shape.bare content) contents
  | .record fields _, (contents, _) => (fields.bare contents, [])
  | .variant _ _ fields, ⟨word, contents, _⟩ => ⟨word, (fields word).bare contents, []⟩

def Fields.bare : (fields : Fields) → fields.Carrier → fields.Carrier
  | .nil, _ => ()
  | .cons _ _ shape _ rest, (content, contents) => (shape.bare content, rest.bare contents)

end

mutual

/-- Nothing of the content is lost when it is written: what is free in it has a JSON form. -/
def Shape.Survives : (shape : Shape) → shape.Carrier → Prop
  | .sized least most, s => least ≤ String.length s ∧ String.length s ≤ most
  | .uuid, u => Uuid.read? (Uuid.text u) = some u
  | .anything, v => finiteOnly v = v
  | .optional shape, content =>
    match content with
    | none => True
    | some content => (shape.write content).isNull = false ∧ shape.Survives content
  | .list shape, contents => List.Forall (fun content => shape.Survives content) contents
  | .map shape, contents =>
    List.Forall (fun member : String × shape.Carrier => shape.Survives member.2) contents
  | .record fields _, (contents, members) => fields.Survives members contents
  | .variant _ _ fields, ⟨word, contents, members⟩ => (fields word).Survives members contents
  | _, _ => True

/-- Nothing of the fields is lost when they are written beside other members. A field that is null is left
out: its fallback has to be null, and no other member may stand under its keys. -/
def Fields.Survives (members : Entries Value) : (fields : Fields) → fields.Carrier → Prop
  | .nil, _ => True
  | .cons key others shape fallback rest, (content, contents) =>
    (shape.isAbsent content = true →
      fallback = some .null ∧ firstGiven? (writeOthers members) (key :: others) = none) ∧
    shape.Survives content ∧ rest.Survives members contents

end

/-! ## Parts -/

theorem readSized_text {least most : Nat} {s : String} (hleast : least ≤ s.length)
    (hmost : s.length ≤ most) : readSized least most (.text s) = .ok s := by
  have hlong : ¬ s.length < least := Nat.not_lt.mpr hleast
  have hshort : ¬ most < s.length := Nat.not_lt.mpr hmost
  simp only [readSized, readText, bind, Except.bind, hlong, hshort, if_false]

theorem readUuid_text {u : Uuid} (h : Uuid.read? u.text = some u) :
    readUuid (.text u.text) = .ok u := by
  simp only [readUuid, h]

theorem Shape.read_word (source : Source) (vocabulary : Vocabulary) (refusal : Refusal)
    (word : vocabulary.Word) :
    (Shape.word vocabulary refusal).read source (.text (vocabulary.name word)) = .ok word := by
  unfold Shape.read
  simp only [vocabulary.ofName?_name]

theorem Shape.read_optional {source : Source} {shape : Shape} {v : Value} (h : v.isNull = false) :
    (Shape.optional shape).read source v = (shape.read source v).map some := by
  cases v with
  | null => cases h
  | _ => rfl

theorem Shape.read_variant (source : Source) (tag : String) (vocabulary : Vocabulary)
    (fields : vocabulary.Word → Fields) (word : vocabulary.Word) (rest : Entries Value) :
    let members := (tag, .text (vocabulary.name word)) :: rest
    (Shape.variant tag vocabulary fields).read source (.object members) =
      within (.key (vocabulary.name word)) (((fields word).read source members).map fun content =>
        ⟨word, content, others members (tag :: (fields word).given members)⟩) := by
  intro members
  unfold Shape.read
  simp only [members, Entries.get?, if_true, vocabulary.ofName?_name]

theorem Shape.read_null (source : Source) : (shape : Shape) → (content : shape.Carrier) →
    shape.isAbsent content = true → shape.read source .null = .ok content
  | .anything, .null, _ => rfl
  | .optional _, none, _ => rfl

section Fields

variable {source : Source} {key : String} {others : List String} {shape : Shape}
  {fallback : Option Value} {rest : Fields} {members : Entries Value} {content : shape.Carrier}
  {contents : rest.Carrier}

theorem Fields.read_given {used : String} {v : Value}
    (hgiven : firstGiven? members (key :: others) = some (used, v))
    (hcontent : shape.read source v = .ok content) (hrest : rest.read source members = .ok contents) :
    (Fields.cons key others shape fallback rest).read source members = .ok (content, contents) := by
  simp only [Fields.read, hgiven, hcontent, hrest]
  rfl

theorem Fields.read_missing (hmissing : firstGiven? members (key :: others) = none)
    (hcontent : shape.read source .null = .ok content) (hrest : rest.read source members = .ok contents) :
    (Fields.cons key others shape (some .null) rest).read source members = .ok (content, contents) := by
  simp only [Fields.read, hmissing, hcontent, hrest]
  rfl

end Fields

theorem firstGiven?_congr {members other : Entries Value} : {keys : List String} →
    (∀ key ∈ keys, Entries.get? members key = Entries.get? other key) →
      firstGiven? members keys = firstGiven? other keys
  | [], _ => rfl
  | key :: keys, h => by
    unfold firstGiven?
    rw [h key List.mem_cons_self,
      firstGiven?_congr fun name hname => h name (List.mem_cons_of_mem key hname)]

theorem readItems_write {α : Type} {read : Value → Checked α} {write : α → Value} {bare : α → α}
    {contents : List α} (i : Nat)
    (h : ∀ content ∈ contents, (read (write content)).map bare = .ok (bare content)) :
    (readItems read i (contents.map write)).map (List.map bare) = .ok (contents.map bare) := by
  induction contents generalizing i with
  | nil => rfl
  | cons content rest ih =>
    obtain ⟨again, hagain, hbare⟩ := map_eq_ok.mp (h content List.mem_cons_self)
    obtain ⟨others, hothers, hrest⟩ := map_eq_ok.mp
      (ih (i + 1) fun other hother => h other (List.mem_cons_of_mem content hother))
    rw [List.map_cons, readItems, hagain, hothers]
    show Except.ok (bare again :: others.map bare) = _
    rw [hbare, hrest]
    rfl

theorem readMembers_write {α : Type} {read : Value → Checked α} {write : α → Value} {bare : α → α}
    {contents : Entries α}
    (h : ∀ member ∈ contents, (read (write member.2)).map bare = .ok (bare member.2)) :
    (readMembers read (Entries.mapValues write contents)).map (Entries.mapValues bare) =
      .ok (Entries.mapValues bare contents) := by
  induction contents with
  | nil => rfl
  | cons member rest ih =>
    obtain ⟨again, hagain, hbare⟩ := map_eq_ok.mp (h member List.mem_cons_self)
    obtain ⟨others, hothers, hrest⟩ := map_eq_ok.mp
      (ih fun other hother => h other (List.mem_cons_of_mem member hother))
    unfold Entries.mapValues at hothers hrest ⊢
    rw [List.map_cons, readMembers, hagain, hothers]
    show Except.ok ((member.1, bare again) :: others.map _) = _
    rw [hbare, hrest]
    rfl

/-! ## Contents that survive -/

mutual

/-- A content that survives is read again from its document. -/
theorem Shape.read_write (source : Source) : (shape : Shape) → shape.IsApart →
    (content : shape.Carrier) → shape.Survives content →
      (shape.read source (shape.write content)).map shape.bare = .ok (shape.bare content)
  | .text, _, _, _ => rfl
  | .sized _ _, _, s, ⟨hleast, hmost⟩ =>
    congrArg (Except.map fun s => s) (readSized_text hleast hmost)
  | .integer, _, _, _ => rfl
  | .number, _, _, _ => rfl
  | .flag, _, _, _ => rfl
  | .uuid, _, _, h => congrArg (Except.map fun u => u) (readUuid_text h)
  | .anything, _, _, h => congrArg Except.ok h
  | .word vocabulary refusal, _, word, _ =>
    congrArg (Except.map fun word => word) (Shape.read_word source vocabulary refusal word)
  | .optional _, _, none, _ => rfl
  | .optional shape, hapart, some content, ⟨hnull, h⟩ => by
    obtain ⟨again, hagain, hbare⟩ := map_eq_ok.mp (shape.read_write source hapart content h)
    refine map_eq_ok.mpr ⟨some again, ?_, congrArg some hbare⟩
    exact (Shape.read_optional hnull).trans (congrArg (Except.map some) hagain)
  | .list shape, hapart, contents, h => by
    have hitems := List.forall_iff_forall_mem.mp h
    exact readItems_write 0 fun content hcontent =>
      shape.read_write source hapart content (hitems content hcontent)
  | .map shape, hapart, contents, h => by
    have hmembers := List.forall_iff_forall_mem.mp h
    exact readMembers_write fun member hmember =>
      shape.read_write source hapart member.2 (hmembers member hmember)
  | .record fields keepsOthers, hapart, (contents, members), h => by
    let written := fields.write contents ++ writeOthers members
    let beside := if keepsOthers then others written (fields.given written) else []
    obtain ⟨again, hagain, hbare⟩ := map_eq_ok.mp
      (fields.read_write source hapart members contents h written fun _ _ => rfl)
    refine map_eq_ok.mpr ⟨(again, beside), ?_, congrArg (fun contents => (contents, [])) hbare⟩
    exact congrArg (Except.map fun contents => (contents, beside)) hagain
  | .variant tag vocabulary fields, hapart, ⟨word, contents, members⟩, h => by
    obtain ⟨htag, hfields⟩ := hapart word
    let rest := (fields word).write contents ++ writeOthers members
    let written := (tag, Value.text (vocabulary.name word)) :: rest
    let beside := others written (tag :: (fields word).given written)
    have hbelow : ∀ name ∈ (fields word).keys, Entries.get? written name = Entries.get? rest name := by
      intro name hname
      have hne : tag ≠ name := by
        rintro rfl
        exact htag hname
      rw [Entries.get?, if_neg hne]
    obtain ⟨again, hagain, hbare⟩ := map_eq_ok.mp
      ((fields word).read_write source hfields members contents h written hbelow)
    refine map_eq_ok.mpr ⟨⟨word, again, beside⟩, ?_, ?_⟩
    · refine (Shape.read_variant source tag vocabulary fields word rest).trans ?_
      rw [hagain]
      rfl
    · exact congrArg (fun contents =>
        (⟨word, contents, []⟩ : (Shape.variant tag vocabulary fields).Carrier)) hbare

/-- Fields that survive are read again from members that have their keys as they are written. -/
theorem Fields.read_write (source : Source) : (fields : Fields) → fields.IsApart →
    (members : Entries Value) → (contents : fields.Carrier) → fields.Survives members contents →
      (written : Entries Value) → (∀ name ∈ fields.keys, Entries.get? written name =
          Entries.get? (fields.write contents ++ writeOthers members) name) →
        (fields.read source written).map fields.bare = .ok (fields.bare contents)
  | .nil, _, _, _, _, _, _ => rfl
  | .cons key others shape fallback rest, ⟨hkeys, hshape, hrest⟩, members, (content, contents),
      ⟨habsent, hcontent, hcontents⟩, written, hwritten => by
    have hlater : ∀ name ∈ rest.keys, Entries.get? written name =
        Entries.get? (rest.write contents ++ writeOthers members) name := by
      intro name hname
      have hne : key ≠ name := by
        rintro rfl
        exact hkeys key List.mem_cons_self hname
      rw [hwritten name (List.mem_append_right _ hname), Fields.write]
      split
      · rfl
      · rw [List.cons_append, Entries.get?, if_neg hne]
    obtain ⟨after, hafter, hbares⟩ := map_eq_ok.mp
      (rest.read_write source hrest members contents hcontents written hlater)
    by_cases hnull : shape.isAbsent content = true
    · obtain ⟨rfl, hnone⟩ := habsent hnull
      -- Nothing is written under the keys of the field, so that its fallback counts.
      have hmissing : firstGiven? written (key :: others) = none := by
        refine (firstGiven?_congr fun name hname => ?_).trans hnone
        rw [hwritten name (List.mem_append_left _ hname), Fields.write, if_pos hnull]
        exact rest.get?_write_append contents (writeOthers members) (hkeys name hname)
      have hread := Fields.read_missing hmissing (shape.read_null source content hnull) hafter
      exact map_eq_ok.mpr ⟨_, hread, congrArg (fun contents => (shape.bare content, contents)) hbares⟩
    · have hgiven : firstGiven? written (key :: others) = some (key, shape.write content) := by
        have hkey := hwritten key (List.mem_append_left _ List.mem_cons_self)
        rw [Fields.write, if_neg hnull, List.cons_append, Entries.get?, if_pos rfl] at hkey
        rw [firstGiven?, hkey]
      obtain ⟨again, hagain, hbare⟩ := map_eq_ok.mp (shape.read_write source hshape content hcontent)
      have hread : (Fields.cons key others shape fallback rest).read source written =
          .ok (again, after) := Fields.read_given hgiven hagain hafter
      exact map_eq_ok.mpr ⟨_, hread, congrArg₂ Prod.mk hbare hbares⟩

end

end CommandFlow.Schema
