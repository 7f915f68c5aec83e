import CommandFlow.Proofs.Json.Numeral
import CommandFlow.Proofs.Json.Quoted
import CommandFlow.Proofs.Value.Representable
import Mathlib.Data.Bool.AllAny

/-!
# Literals that are JSON

The literal form of a value is not meant as JSON, and often is none: texts stand between single marks, and null and the
truth values have names of their own. But where it is JSON, it is read as the value.

* `Value.IsJson` : the value is made up of integers, finite numbers and legible texts;
* `Json.IsRead` : a literal is read as its value, whatever follows; `Json.isRead_of_chars`, `Json.isRead_text`,
  `Json.isRead_list`, `Json.isRead_object` : so are spellings, quoted texts, and what is put together from them;
* `Json.isRead` : so is every literal that is JSON; `Json.read_literal` : and so it is on its own.
-/

namespace CommandFlow

mutual

/-- The literal of the value is JSON: it holds no null and no truth value, only finite numbers and legible texts. -/
def Value.IsJson : Value → Prop
  | .null => False
  | .bool _ => False
  | .int _ => True
  | .float x => x.isFinite = true
  | .text s => Json.IsLegible s
  | .list items => Value.AreJson items
  | .object members => Value.AreJsonMembers members

def Value.AreJson : List Value → Prop
  | [] => True
  | v :: rest => v.IsJson ∧ Value.AreJson rest

def Value.AreJsonMembers : List (String × Value) → Prop
  | [] => True
  | (name, v) :: rest => Json.IsLegible name ∧ v.IsJson ∧ Value.AreJsonMembers rest

end

namespace Json

open Value

/-! ## Beginnings -/

/-- The first character neither is a blank or a byte order mark nor closes a list or an object. -/
def Opens (cs : List Char) : Prop := ∃ c rest, cs = c :: rest ∧ c ∉ [' ', '\t', '\n', '\r', ']', '\x7d', '\uFEFF']

theorem Opens.append {cs : List Char} (h : Opens cs) (rest : List Char) : Opens (cs ++ rest) := by
  obtain ⟨c, others, rfl, hc⟩ := h
  exact ⟨c, others ++ rest, rfl, hc⟩

theorem Opens.skipBlanks_eq {cs : List Char} (h : Opens cs) : skipBlanks cs = cs := by
  obtain ⟨c, rest, rfl, hc⟩ := h
  simp only [List.mem_cons, not_or] at hc
  simp [skipBlanks, hc.1, hc.2.1, hc.2.2.1, hc.2.2.2.1]

theorem Opens.head?_ne {cs : List Char} (h : Opens cs) : cs.head? ≠ some '\uFEFF' := by
  obtain ⟨c, rest, rfl, hc⟩ := h
  rintro ⟨⟩
  simp at hc

theorem opens_chars {s : Text.Spelling} (h : s.IsProper) (negative : Bool) :
    Opens ((if negative then ['-'] else []) ++ s.chars) := by
  obtain ⟨d, rest, hd, hchars⟩ := h.exists_chars_eq_cons
  rw [hchars]
  cases negative with
  | true => exact ⟨_, _, rfl, by decide⟩
  | false => exact ⟨_, _, rfl, by interval_cases d <;> decide⟩

theorem readValue_chars {s : Text.Spelling} (h : s.IsProper) (negative : Bool) (fuel : Nat) (rest : List Char) :
    readValue (fuel + 1) .usual ((if negative then ['-'] else []) ++ s.chars ++ rest) =
      readNumber negative ((if negative then ['-'] else []) ++ s.chars ++ rest) (s.chars ++ rest) := by
  rw [← readAtom_chars h]
  obtain ⟨d, others, hd, hchars⟩ := h.exists_chars_eq_cons
  rw [hchars]
  cases negative <;> interval_cases d <;> rfl

/-! ## Numbers -/

/-- A literal that opens and is read, whatever follows it. -/
structure IsRead (v : Value) : Prop where
  opens : Opens (literal v).toList
  read : ∀ {fuel rest}, (literal v).toList.length ≤ fuel → EndsNumber rest →
    readValue fuel .usual ((literal v).toList ++ rest) = .ok (v, rest)

theorem withSign_natAbs (i : Int) : Text.withSign (i < 0) i.natAbs = i := by
  rw [Text.withSign]
  split
  · rename_i hneg
    have hlt : i < 0 := of_decide_eq_true hneg
    omega
  · rename_i hnonneg
    have hle : ¬ i < 0 := of_decide_eq_false (by simpa using hnonneg)
    omega

/-- A value whose literal is a spelling is read, if the spelling is read as it. -/
theorem isRead_of_chars {v : Value} {s : Text.Spelling} (h : s.IsProper) {negative : Bool}
    (hliteral : (literal v).toList = (if negative then ['-'] else []) ++ s.chars)
    (hnumber : ∀ {rest : List Char}, EndsNumber rest →
      ∀ all, readNumber negative all (s.chars ++ rest) = .ok (v, rest)) :
    IsRead v := by
  have hopens := opens_chars h negative
  rw [← hliteral] at hopens
  refine ⟨hopens, ?_⟩
  intro fuel rest hfuel hrest
  obtain ⟨c, others, hcons, -⟩ := hopens
  obtain ⟨fuel, rfl⟩ : ∃ n, fuel = n + 1 := ⟨fuel - 1, by rw [hcons, List.length_cons] at hfuel; omega⟩
  rw [hliteral, readValue_chars h, hnumber hrest]

theorem isRead_int {i : Int} (h : Binary64.decimalLength i.natAbs ≤ digitLimit) : IsRead (.int i) := by
  obtain ⟨s, hproper, hwhole, htext, hdigits, -, hlength⟩ := exists_spelling_integerText i
  have hliteral : (literal (.int i)).toList = (if decide (i < 0) then ['-'] else []) ++ s.chars := by
    rw [literal, htext, String.toList_ofList]
    simp only [decide_eq_true_eq]
  refine isRead_of_chars hproper hliteral fun hrest all => ?_
  rw [readNumber_of_not_isFractional hproper hrest hwhole (hlength.trans_le h), hdigits, withSign_natAbs]

theorem isRead_float {x : Binary64} (hfinite : x.isFinite = true) (hformat : x.InFormat) : IsRead (.float x) := by
  cases x with
  | nan => cases hfinite
  | infinite negative => cases hfinite
  | finite negative steps =>
    obtain ⟨s, hproper, hfractional, hchars, hnumber⟩ := Binary64.exists_spelling_magnitudeText hformat.isStored
    have hliteral : (literal (.float (.finite negative steps))).toList = (if negative then ['-'] else []) ++
      s.chars := by
      rw [literal, Binary64.text, hchars, String.toList_ofList]
    refine isRead_of_chars hproper hliteral fun hrest all => ?_
    rw [readNumber_of_isFractional hproper hrest hfractional, hnumber]

/-! ## Texts -/

theorem isRead_text {s : String} (h : IsLegible s) : IsRead (.text s) := by
  have hliteral : (literal (.text s)).toList = '"' :: (s.toList.flatMap (Text.quoteChar '"') ++ ['"']) := h.quote_eq
  refine ⟨⟨_, _, hliteral, by decide⟩, ?_⟩
  intro fuel rest hfuel _
  obtain ⟨fuel, rfl⟩ : ∃ n, fuel = n + 1 := ⟨fuel - 1, by rw [hliteral, List.length_cons] at hfuel; omega⟩
  rw [hliteral, List.cons_append, List.append_assoc, List.singleton_append, readValue, readText_quote h]
  rfl

/-! ## Lists -/

def itemChars (items : List Value) : List Char := (", ".intercalate (literals items)).toList

theorem itemChars_singleton (v : Value) : itemChars [v] = (literal v).toList := by
  simp [itemChars, literals]

theorem itemChars_cons_cons (v w : Value) (items : List Value) :
    itemChars (v :: w :: items) = (literal v).toList ++ ',' :: ' ' :: itemChars (w :: items) := by
  simp [itemChars, literals, String.intercalate_cons_cons]

theorem opens_itemChars {v : Value} (h : Opens (literal v).toList) (items : List Value) :
    Opens (itemChars (v :: items)) := by
  cases items with
  | nil =>
    rw [itemChars_singleton]
    exact h
  | cons w items =>
    rw [itemChars_cons_cons]
    exact h.append _

theorem endsNumber_cons {c : Char} (hc : c ∈ [',', ']', '\x7d']) (rest : List Char) : EndsNumber (c :: rest) := by
  have hends : ∀ c ∈ [',', ']', '\x7d'], ('0' ≤ c && c ≤ '9') = false ∧ c ≠ '.' ∧ c ≠ 'e' ∧ c ≠ 'E' :=
    List.all_iff_forall_prop.mp rfl
  rintro d ⟨⟩
  exact hends c hc

theorem readItems_last {v : Value} (h : IsRead v) {fuel : Nat} (hfuel : (itemChars [v]).length + 1 ≤ fuel)
    (rest : List Char) : readItems fuel .usual (itemChars [v] ++ ']' :: rest) = .ok ([v], rest) := by
  rw [itemChars_singleton] at hfuel ⊢
  obtain ⟨fuel, rfl⟩ : ∃ n, fuel = n + 1 := ⟨fuel - 1, by omega⟩
  rw [readItems, h.read (by omega) (endsNumber_cons (by decide) rest)]
  rfl

theorem readItems_head {v : Value} (h : IsRead v) {w : Value} {items : List Value}
    (hopens : Opens (itemChars (w :: items)))
    {fuel : Nat} (hfuel : (itemChars (v :: w :: items)).length ≤ fuel) (rest : List Char) :
    readItems (fuel + 1) .usual (itemChars (v :: w :: items) ++ ']' :: rest) =
      mapPart (v :: ·) (readItems fuel .usual (itemChars (w :: items) ++ ']' :: rest)) := by
  rw [itemChars_cons_cons, List.length_append] at hfuel
  rw [itemChars_cons_cons, List.append_assoc, List.cons_append, List.cons_append, readItems,
    h.read (by omega) (endsNumber_cons (by decide) _)]
  have hblank : skipBlanks (' ' :: (itemChars (w :: items) ++ ']' :: rest)) = itemChars (w :: items) ++ ']' :: rest :=
    (hopens.append _).skipBlanks_eq
  show mapPart (v :: ·) (readItems fuel .usual (skipBlanks (' ' :: (itemChars (w :: items) ++ ']' :: rest)))) = _
  rw [hblank]

theorem length_itemChars_lt (v w : Value) (items : List Value) :
    (itemChars (w :: items)).length < (itemChars (v :: w :: items)).length := by
  rw [itemChars_cons_cons, List.length_append, List.length_cons, List.length_cons]
  omega

def AreRead (items : List Value) : Prop :=
  Opens (itemChars items) ∧ ∀ {fuel rest}, (itemChars items).length + 1 ≤ fuel →
    readItems fuel .usual (itemChars items ++ ']' :: rest) = .ok (items, rest)

theorem areRead_singleton {v : Value} (h : IsRead v) : AreRead [v] :=
  ⟨opens_itemChars h.opens [], fun hfuel => readItems_last h hfuel _⟩

theorem areRead_cons {v w : Value} {items : List Value} (h : IsRead v) (hrest : AreRead (w :: items)) :
    AreRead (v :: w :: items) := by
  refine ⟨opens_itemChars h.opens _, ?_⟩
  intro fuel rest hfuel
  obtain ⟨fuel, rfl⟩ : ∃ n, fuel = n + 1 := ⟨fuel - 1, by omega⟩
  have hshorter := length_itemChars_lt v w items
  rw [readItems_head h hrest.1 (by omega), hrest.2 (by omega)]
  rfl

theorem readValue_list {cs : List Char} (h : Opens cs) (fuel : Nat) :
    readValue (fuel + 1) .usual ('[' :: cs) = mapPart .list (readItems fuel .usual cs) := by
  simp only [readValue, Reading.inner?_usual, h.skipBlanks_eq]
  obtain ⟨c, rest, rfl, hc⟩ := h
  split
  · rename_i heq
    simp [(List.cons.inj heq).1] at hc
  · rfl

theorem toList_literal_list (items : List Value) :
    (literal (.list items)).toList = '[' :: (itemChars items ++ [']']) := by
  rw [literal_list, String.toList_ofList, itemChars]

theorem isRead_list {items : List Value} (h : items = [] ∨ AreRead items) : IsRead (.list items) := by
  refine ⟨⟨_, _, toList_literal_list items, by decide⟩, ?_⟩
  intro fuel rest hfuel _
  rw [toList_literal_list, List.length_cons, List.length_append, List.length_singleton] at hfuel
  obtain ⟨fuel, rfl⟩ : ∃ n, fuel = n + 1 := ⟨fuel - 1, by omega⟩
  rw [toList_literal_list, List.cons_append, List.append_assoc, List.singleton_append]
  rcases h with rfl | ⟨hopens, hread⟩
  · rfl
  · rw [readValue_list (hopens.append _), hread (by omega)]
    rfl

/-! ## Objects -/

def memberChars (members : List (String × Value)) : List Char := (", ".intercalate (memberLiterals members)).toList

theorem memberChars_singleton (name : String) (v : Value) :
    memberChars [(name, v)] = (Text.quote name).toList ++ ':' :: ' ' :: (literal v).toList := by
  simp [memberChars, memberLiterals]

theorem memberChars_cons_cons (name : String) (v : Value) (member : String × Value) (members : List (String × Value)) :
    memberChars ((name, v) :: member :: members) =
      (Text.quote name).toList ++
        ':' :: ' ' :: ((literal v).toList ++ ',' :: ' ' :: memberChars (member :: members)) := by
  obtain ⟨other, w⟩ := member
  simp [memberChars, memberLiterals, String.intercalate_cons_cons]

theorem exists_quote_eq_cons (s : String) : ∃ mark rest, (Text.quote s).toList = mark :: rest ∧ mark ∈ ['"', '\''] := by
  rw [Text.quote, String.toList_ofList]
  refine ⟨_, _, rfl, ?_⟩
  unfold Text.delimiter
  split <;> decide

theorem opens_memberChars (name : String) (v : Value) (members : List (String × Value)) :
    Opens (memberChars ((name, v) :: members)) := by
  obtain ⟨mark, rest, hquote, hmark⟩ := exists_quote_eq_cons name
  have hopens : Opens (Text.quote name).toList := by
    refine ⟨mark, rest, hquote, ?_⟩
    rcases List.mem_pair.mp hmark with rfl | rfl <;> decide
  cases members with
  | nil =>
    rw [memberChars_singleton]
    exact hopens.append _
  | cons member members =>
    rw [memberChars_cons_cons]
    exact hopens.append _

theorem length_memberChars_lt (name : String) (v : Value) (member : String × Value) (members : List (String × Value)) :
    (memberChars (member :: members)).length < (memberChars ((name, v) :: member :: members)).length := by
  rw [memberChars_cons_cons]
  simp only [List.length_append, List.length_cons]
  omega

section
variable {name : String} (hname : IsLegible name) {v : Value} (h : IsRead v) {fuel : Nat}

include hname h

theorem readMembers_member (hfuel : (literal v).toList.length ≤ fuel) {rest : List Char} (hrest : EndsNumber rest) :
    readMembers (fuel + 1) .usual ((Text.quote name).toList ++ ':' :: ' ' :: ((literal v).toList ++ rest)) =
      match skipBlanks rest with
      | '\x7d' :: after => .ok ([(name, v)], after)
      | ',' :: after => mapPart ((name, v) :: ·) (readMembers fuel .usual (skipBlanks after))
      | other => problemAt .commaExpected other := by
  have hblank : skipBlanks (' ' :: ((literal v).toList ++ rest)) = (literal v).toList ++ rest :=
    (h.opens.append rest).skipBlanks_eq
  rw [hname.quote_eq, List.cons_append, List.append_assoc, List.singleton_append, readMembers, readText_quote hname]
  show andThen (readValue fuel .usual (skipBlanks (' ' :: ((literal v).toList ++ rest)))) _ = _
  rw [hblank, h.read hfuel hrest]
  rfl

theorem readMembers_last (hfuel : (memberChars [(name, v)]).length + 1 ≤ fuel) (rest : List Char) :
    readMembers fuel .usual (memberChars [(name, v)] ++ '\x7d' :: rest) = .ok ([(name, v)], rest) := by
  rw [memberChars_singleton, List.length_append, List.length_cons, List.length_cons] at hfuel
  obtain ⟨fuel, rfl⟩ : ∃ n, fuel = n + 1 := ⟨fuel - 1, by omega⟩
  rw [memberChars_singleton, List.append_assoc, List.cons_append, List.cons_append,
    readMembers_member hname h (by omega) (endsNumber_cons (by decide) rest)]
  rfl

theorem readMembers_head {member : String × Value} {members : List (String × Value)}
    (hfuel : (memberChars ((name, v) :: member :: members)).length ≤ fuel) (rest : List Char) :
    readMembers (fuel + 1) .usual (memberChars ((name, v) :: member :: members) ++ '\x7d' :: rest) =
      mapPart ((name, v) :: ·) (readMembers fuel .usual (memberChars (member :: members) ++ '\x7d' :: rest)) := by
  rw [memberChars_cons_cons, List.length_append, List.length_cons, List.length_cons, List.length_append] at hfuel
  have hblank : skipBlanks (' ' :: (memberChars (member :: members) ++ '\x7d' :: rest)) =
      memberChars (member :: members) ++ '\x7d' :: rest :=
    ((opens_memberChars member.1 member.2 members).append _).skipBlanks_eq
  rw [memberChars_cons_cons, List.append_assoc, List.cons_append, List.cons_append, List.append_assoc, List.cons_append,
    List.cons_append, readMembers_member hname h (by omega) (endsNumber_cons (by decide) _)]
  show mapPart ((name, v) :: ·)
    (readMembers fuel .usual (skipBlanks (' ' :: (memberChars (member :: members) ++ '\x7d' :: rest)))) = _
  rw [hblank]

end

/-- The members, up to the brace that closes the object, are read. -/
def AreMembersRead (members : List (String × Value)) : Prop :=
  Opens (memberChars members) ∧ ∀ {fuel rest}, (memberChars members).length + 1 ≤ fuel →
    readMembers fuel .usual (memberChars members ++ '\x7d' :: rest) = .ok (members, rest)

theorem areMembersRead_singleton {name : String} (hname : IsLegible name) {v : Value} (h : IsRead v) :
    AreMembersRead [(name, v)] :=
  ⟨opens_memberChars name v [], fun hfuel => readMembers_last hname h hfuel _⟩

theorem areMembersRead_cons {name : String} (hname : IsLegible name) {v : Value} (h : IsRead v)
    {member : String × Value} {members : List (String × Value)} (hrest : AreMembersRead (member :: members)) :
    AreMembersRead ((name, v) :: member :: members) := by
  refine ⟨opens_memberChars name v _, ?_⟩
  intro fuel rest hfuel
  obtain ⟨fuel, rfl⟩ : ∃ n, fuel = n + 1 := ⟨fuel - 1, by omega⟩
  have hshorter := length_memberChars_lt name v member members
  rw [readMembers_head hname h (by omega), hrest.2 (by omega)]
  rfl

theorem readValue_object {cs : List Char} (h : Opens cs) (fuel : Nat) :
    readValue (fuel + 1) .usual ('\x7b' :: cs) = mapPart (.object ∘ Entries.ofPairs) (readMembers fuel .usual cs) := by
  simp only [readValue, Reading.inner?_usual, h.skipBlanks_eq]
  obtain ⟨c, rest, rfl, hc⟩ := h
  split
  · rename_i heq
    simp [(List.cons.inj heq).1] at hc
  · rfl

theorem toList_literal_object (members : List (String × Value)) :
    (literal (.object members)).toList = '\x7b' :: (memberChars members ++ ['\x7d']) := by
  rw [literal_object, String.toList_ofList, memberChars]

theorem isRead_object {members : List (String × Value)} (hnames : (Entries.names members).Nodup)
    (h : members = [] ∨ AreMembersRead members) : IsRead (.object members) := by
  refine ⟨⟨_, _, toList_literal_object members, by decide⟩, ?_⟩
  intro fuel rest hfuel _
  rw [toList_literal_object, List.length_cons, List.length_append, List.length_singleton] at hfuel
  obtain ⟨fuel, rfl⟩ : ∃ n, fuel = n + 1 := ⟨fuel - 1, by omega⟩
  rw [toList_literal_object, List.cons_append, List.append_assoc, List.singleton_append]
  rcases h with rfl | ⟨hopens, hread⟩
  · rfl
  · rw [readValue_object (hopens.append _), hread (by omega)]
    exact congrArg (fun pairs => Except.ok (Value.object pairs, rest)) (Entries.ofPairs_eq_self hnames)

/-! ## Values -/

mutual

/-- A literal that is JSON is read as its value. -/
theorem isRead : {v : Value} → v.IsRepresentable → v.IsJson → IsRead v
  | .int _, hv, _ => isRead_int hv
  | .float _, hv, h => isRead_float h hv
  | .text _, _, h => isRead_text h
  | .list _, hv, h => isRead_list (areRead hv h)
  | .object _, hv, h => isRead_object hv.1 (areMembersRead hv.2 h)

theorem areRead : {items : List Value} → Value.AreRepresentable items → Value.AreJson items →
    items = [] ∨ AreRead items
  | [], _, _ => .inl rfl
  | v :: rest, hv, h => by
    have hread : IsRead v := isRead hv.1 h.1
    cases hitems : rest with
    | nil => exact .inr (areRead_singleton hread)
    | cons w items =>
      have hrest := (areRead hv.2 h.2).resolve_left (by simp [hitems])
      rw [hitems] at hrest
      exact .inr (areRead_cons hread hrest)

theorem areMembersRead : {members : List (String × Value)} → Value.AreRepresentableMembers members →
    Value.AreJsonMembers members → members = [] ∨ AreMembersRead members
  | [], _, _ => .inl rfl
  | (name, v) :: rest, hv, h => by
    have hread : IsRead v := isRead hv.1 h.2.1
    cases hmembers : rest with
    | nil => exact .inr (areMembersRead_singleton h.1 hread)
    | cons member members =>
      have hrest := (areMembersRead hv.2 h.2.2).resolve_left (by simp [hmembers])
      rw [hmembers] at hrest
      exact .inr (areMembersRead_cons h.1 hread hrest)

end

theorem read_literal {v : Value} (h : IsRead v) : read (literal v) = .ok v := by
  have hread := h.read (Nat.le_succ _) endsNumber_nil
  rw [List.append_nil] at hread
  have hwhole : readWhole .usual (literal v).toList = .ok v := by
    rw [readWhole, h.opens.skipBlanks_eq, hread]
    rfl
  simp only [read, if_neg h.opens.head?_ne, readChecked, hwhole]
  rfl

end Json

end CommandFlow
