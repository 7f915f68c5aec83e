import CommandFlow.Proofs.Json.Literal
import Mathlib.Logic.Basic

/-!
# Literals that are no JSON

* `Json.Fails` : a part cannot be read; `Json.fails_readChars` : a text between double marks cannot if it holds a
  character that is not legible;
* `Json.quote_of_not_isLegible` : what else is not legible stands between single marks;
* `Json.IsRefused` : a literal on which reading fails, whatever follows; `Json.isRefused_text`, `Json.isRefused_list`,
  `Json.isRefused_object` : so are texts that are not legible, and what holds such a literal;
* `Json.isRefused` : so is every literal that is no JSON; `Json.exists_read_literal_eq_error` : and so it is on its own.
-/

namespace CommandFlow.Json

open Value

variable {α β : Type}

/-- The part cannot be read. -/
def Fails (part : Part α) : Prop := ∃ e, part = .error e

theorem Fails.andThen {part : Part α} (h : Fails part) (next : α → List Char → Part β) :
    Fails (Json.andThen part next) := by
  obtain ⟨e, rfl⟩ := h
  exact ⟨e, rfl⟩

theorem Fails.mapPart {part : Part α} (h : Fails part) (f : α → β) : Fails (Json.mapPart f part) := h.andThen _

/-! ## Texts -/

/-- The escape of a character that is not legible is none that is known. -/
theorem fails_readChars_quoteChar {c : Char} (h : ¬ IsLegibleChar c) (half : Nat → Char) (start : Nat)
    (rest : List Char) :
    Fails (readChars half start (Text.quoteChar '"' c ++ rest)) := by
  simp only [IsLegibleChar, not_or, not_and] at h
  obtain ⟨hhidden, hline, hwide⟩ := h
  unfold Text.quoteChar
  split_ifs with hescape hnewline hreturn htab
  · refine absurd ?_ hhidden
    simp only [Bool.or_eq_true, beq_iff_eq] at hescape
    rcases hescape with rfl | rfl <;> decide
  · simp [beq_iff_eq.mp hnewline] at hline
  · simp [beq_iff_eq.mp hreturn] at hline
  · simp [beq_iff_eq.mp htab] at hline
  · unfold Text.escapeHidden
    split_ifs with hlow hmiddle
    · exact ⟨_, rfl⟩
    · exact absurd hmiddle (hwide (Nat.not_lt.mp hlow))
    · exact ⟨_, rfl⟩

theorem fails_readChars {cs : List Char} (h : ∃ c ∈ cs, ¬ IsLegibleChar c) (hquote : '"' ∉ cs) (half : Nat → Char)
    (start : Nat) (rest : List Char) :
    Fails (readChars half start (cs.flatMap (Text.quoteChar '"') ++ '"' :: rest)) := by
  induction cs with
  | nil => simp at h
  | cons c cs ih =>
    rw [List.mem_cons, not_or] at hquote
    rw [List.flatMap_cons, List.append_assoc]
    by_cases hc : IsLegibleChar c
    · rw [readChars_quoteChar hc (Ne.symm hquote.1) half start (by simp)]
      obtain ⟨d, hmem, hd⟩ := h
      have hrest : d ∈ cs := (List.mem_cons.mp hmem).resolve_left fun heq => hd (heq ▸ hc)
      exact (ih ⟨d, hrest, hd⟩ hquote.2).mapPart _
    · exact fails_readChars_quoteChar hc half start _

/-- What is not legible stands between single marks, or cannot be read. -/
theorem quote_of_not_isLegible {s : String} (h : ¬ IsLegible s) :
    (∃ rest, (Text.quote s).toList = '\'' :: rest) ∨
      ∃ inner, (Text.quote s).toList = '"' :: (inner ++ ['"']) ∧ ∀ half rest,
        Fails (readText half (inner ++ '"' :: rest)) := by
  rw [Text.quote, String.toList_ofList]
  by_cases hmark : '\'' ∈ s.toList ∧ '"' ∉ s.toList
  · right
    have hdelimiter : Text.delimiter s.toList = '"' := by simp [Text.delimiter, hmark.1, hmark.2]
    have hforeign : ∃ c ∈ s.toList, ¬ IsLegibleChar c := by
      by_contra hnone
      exact h ⟨hmark.1, hmark.2, fun c hc => by_contra fun hforeign => hnone ⟨c, hc, hforeign⟩⟩
    rw [hdelimiter]
    exact ⟨_, rfl, fun half rest => (fails_readChars hforeign hmark.2 half _ rest).mapPart _⟩
  · left
    have hdelimiter : Text.delimiter s.toList = '\'' := by
      rw [Text.delimiter, if_neg (by simpa using hmark)]
    rw [hdelimiter]
    exact ⟨_, rfl⟩

/-- A literal that opens and is not read, whatever follows it. -/
structure IsRefused (v : Value) : Prop where
  opens : Opens (literal v).toList
  fails : ∀ {fuel}, (literal v).toList.length ≤ fuel → ∀ rest,
    Fails (readValue fuel .usual ((literal v).toList ++ rest))

theorem isRefused_text {s : String} (h : ¬ IsLegible s) : IsRefused (.text s) := by
  rcases quote_of_not_isLegible h with ⟨after, hquote⟩ | ⟨inner, hquote, hfails⟩
  · refine ⟨⟨_, _, hquote, by decide⟩, ?_⟩
    intro fuel hfuel rest
    obtain ⟨fuel, rfl⟩ : ∃ n, fuel = n + 1 := ⟨fuel - 1, by rw [literal, hquote, List.length_cons] at hfuel; omega⟩
    rw [literal, hquote]
    exact ⟨_, rfl⟩
  · refine ⟨⟨_, _, hquote, by decide⟩, ?_⟩
    intro fuel hfuel rest
    obtain ⟨fuel, rfl⟩ : ∃ n, fuel = n + 1 := ⟨fuel - 1, by rw [literal, hquote, List.length_cons] at hfuel; omega⟩
    rw [literal, hquote, List.cons_append, List.append_assoc, List.singleton_append, readValue]
    exact (hfails _ rest).mapPart _

/-- The words for null, the truth values and the numbers that are not finite are none of JSON. -/
theorem isRefused_word {v : Value} {c : Char} {cs : List Char} (hliteral : (literal v).toList = c :: cs)
    (hopens : c ∉ [' ', '\t', '\n', '\r', ']', '\x7d', '\uFEFF'])
    (hfails : ∀ fuel rest, Fails (readValue (fuel + 1) .usual (c :: cs ++ rest))) : IsRefused v := by
  refine ⟨⟨c, cs, hliteral, hopens⟩, ?_⟩
  intro fuel hfuel rest
  obtain ⟨fuel, rfl⟩ : ∃ n, fuel = n + 1 := ⟨fuel - 1, by rw [hliteral, List.length_cons] at hfuel; omega⟩
  rw [hliteral]
  exact hfails fuel rest

/-! ## Lists -/

/-- The items, up to the bracket that closes the list, are not read. -/
def AreRefused (items : List Value) : Prop :=
  Opens (itemChars items) ∧ ∀ {fuel}, (itemChars items).length + 1 ≤ fuel → ∀ rest,
    Fails (readItems fuel .usual (itemChars items ++ ']' :: rest))

theorem exists_itemChars_eq_append (v : Value) (items : List Value) :
    ∃ tail, itemChars (v :: items) = (literal v).toList ++ tail := by
  cases items with
  | nil => exact ⟨[], by rw [itemChars_singleton, List.append_nil]⟩
  | cons w items => exact ⟨_, itemChars_cons_cons v w items⟩

theorem areRefused_of_head {v : Value} (h : IsRefused v) (items : List Value) : AreRefused (v :: items) := by
  refine ⟨opens_itemChars h.opens items, ?_⟩
  intro fuel hfuel rest
  obtain ⟨tail, htail⟩ := exists_itemChars_eq_append v items
  rw [htail, List.length_append] at hfuel
  obtain ⟨fuel, rfl⟩ : ∃ n, fuel = n + 1 := ⟨fuel - 1, by omega⟩
  rw [htail, List.append_assoc, readItems]
  exact (h.fails (by omega) _).andThen _

theorem areRefused_of_tail {v : Value} (h : IsRead v) {w : Value} {items : List Value}
    (hrest : AreRefused (w :: items)) :
    AreRefused (v :: w :: items) := by
  refine ⟨opens_itemChars h.opens _, ?_⟩
  intro fuel hfuel rest
  obtain ⟨fuel, rfl⟩ : ∃ n, fuel = n + 1 := ⟨fuel - 1, by omega⟩
  have hshorter := length_itemChars_lt v w items
  rw [readItems_head h hrest.1 (by omega)]
  exact (hrest.2 (by omega) rest).mapPart _

theorem isRefused_list {items : List Value} (h : AreRefused items) : IsRefused (.list items) := by
  refine ⟨⟨_, _, toList_literal_list items, by decide⟩, ?_⟩
  intro fuel hfuel rest
  rw [toList_literal_list, List.length_cons, List.length_append, List.length_singleton] at hfuel
  obtain ⟨fuel, rfl⟩ : ∃ n, fuel = n + 1 := ⟨fuel - 1, by omega⟩
  rw [toList_literal_list, List.cons_append, List.append_assoc, List.singleton_append, readValue_list (h.1.append _)]
  exact (h.2 (by omega) rest).mapPart _

/-! ## Objects -/

/-- The members, up to the brace that closes the object, are not read. -/
def AreMembersRefused (members : List (String × Value)) : Prop :=
  Opens (memberChars members) ∧ ∀ {fuel}, (memberChars members).length + 1 ≤ fuel → ∀ rest,
    Fails (readMembers fuel .usual (memberChars members ++ '\x7d' :: rest))

theorem exists_memberChars_eq_append (name : String) (v : Value) (members : List (String × Value)) :
    ∃ tail, memberChars ((name, v) :: members) =
      (Text.quote name).toList ++ ':' :: ' ' :: ((literal v).toList ++ tail) := by
  cases members with
  | nil => exact ⟨[], by rw [memberChars_singleton, List.append_nil]⟩
  | cons member members => exact ⟨_, memberChars_cons_cons name v member members⟩

theorem areMembersRefused_of_name {name : String} (h : ¬ IsLegible name) (v : Value) (members : List (String × Value)) :
    AreMembersRefused ((name, v) :: members) := by
  refine ⟨opens_memberChars name v members, ?_⟩
  intro fuel hfuel rest
  obtain ⟨fuel, rfl⟩ : ∃ n, fuel = n + 1 := ⟨fuel - 1, by omega⟩
  obtain ⟨tail, htail⟩ := exists_memberChars_eq_append name v members
  rw [htail]
  rcases quote_of_not_isLegible h with ⟨after, hquote⟩ | ⟨inner, hquote, hfails⟩
  · rw [hquote]
    exact ⟨_, rfl⟩
  · rw [hquote]
    simp only [List.cons_append, List.append_assoc, List.nil_append]
    rw [readMembers]
    exact (hfails _ _).andThen _

theorem areMembersRefused_of_value {name : String} (hname : IsLegible name) {v : Value} (h : IsRefused v)
    (members : List (String × Value)) : AreMembersRefused ((name, v) :: members) := by
  refine ⟨opens_memberChars name v members, ?_⟩
  intro fuel hfuel rest
  obtain ⟨tail, htail⟩ := exists_memberChars_eq_append name v members
  rw [htail, List.length_append, List.length_cons, List.length_cons, List.length_append] at hfuel
  obtain ⟨fuel, rfl⟩ : ∃ n, fuel = n + 1 := ⟨fuel - 1, by omega⟩
  rw [htail, hname.quote_eq]
  simp only [List.cons_append, List.append_assoc, List.nil_append]
  rw [readMembers, readText_quote hname]
  show Fails (andThen (readValue fuel .usual (skipBlanks (' ' :: ((literal v).toList ++ (tail ++ '\x7d' :: rest))))) _)
  have hblank : skipBlanks (' ' :: ((literal v).toList ++ (tail ++ '\x7d' :: rest))) =
      (literal v).toList ++ (tail ++ '\x7d' :: rest) := (h.opens.append _).skipBlanks_eq
  rw [hblank]
  exact (h.fails (by omega) _).andThen _

theorem areMembersRefused_of_tail {name : String} (hname : IsLegible name) {v : Value} (h : IsRead v)
    {member : String × Value} {members : List (String × Value)} (hrest : AreMembersRefused (member :: members)) :
    AreMembersRefused ((name, v) :: member :: members) := by
  refine ⟨opens_memberChars name v _, ?_⟩
  intro fuel hfuel rest
  obtain ⟨fuel, rfl⟩ : ∃ n, fuel = n + 1 := ⟨fuel - 1, by omega⟩
  have hshorter := length_memberChars_lt name v member members
  rw [readMembers_head hname h (by omega)]
  exact (hrest.2 (by omega) rest).mapPart _

theorem isRefused_object {members : List (String × Value)} (h : AreMembersRefused members) :
    IsRefused (.object members) := by
  refine ⟨⟨_, _, toList_literal_object members, by decide⟩, ?_⟩
  intro fuel hfuel rest
  rw [toList_literal_object, List.length_cons, List.length_append, List.length_singleton] at hfuel
  obtain ⟨fuel, rfl⟩ : ∃ n, fuel = n + 1 := ⟨fuel - 1, by omega⟩
  rw [toList_literal_object, List.cons_append, List.append_assoc, List.singleton_append,
    readValue_object (h.1.append _)]
  exact (h.2 (by omega) rest).mapPart _

/-! ## Values -/

mutual

/-- A literal that is no JSON is not read. -/
theorem isRefused : {v : Value} → v.IsRepresentable → ¬ v.IsJson → IsRefused v
  | .null, _, _ => isRefused_word rfl (by decide) fun _ _ => ⟨_, rfl⟩
  | .bool true, _, _ => isRefused_word rfl (by decide) fun _ _ => ⟨_, rfl⟩
  | .bool false, _, _ => isRefused_word rfl (by decide) fun _ _ => ⟨_, rfl⟩
  | .int _, _, h => absurd trivial h
  | .float .nan, _, _ => isRefused_word rfl (by decide) fun _ _ => ⟨_, rfl⟩
  | .float (.infinite true), _, _ => isRefused_word rfl (by decide) fun _ _ => ⟨_, rfl⟩
  | .float (.infinite false), _, _ => isRefused_word rfl (by decide) fun _ _ => ⟨_, rfl⟩
  | .float (.finite _ _), _, h => absurd rfl h
  | .text _, _, h => isRefused_text h
  | .list _, hv, h => isRefused_list (areRefused hv h)
  | .object _, hv, h => isRefused_object (areMembersRefused hv.2 h)

theorem areRefused : {items : List Value} → Value.AreRepresentable items → ¬ Value.AreJson items → AreRefused items
  | [], _, h => absurd trivial h
  | v :: rest, hv, h => by
    rcases not_and_or.mp h with hhead | htail
    · exact areRefused_of_head (isRefused hv.1 hhead) rest
    · by_cases hjson : v.IsJson
      · have hrest := areRefused hv.2 htail
        cases hitems : rest with
        | nil => exact absurd (hitems ▸ trivial) htail
        | cons w items =>
          rw [hitems] at hrest
          exact areRefused_of_tail (isRead hv.1 hjson) hrest
      · exact areRefused_of_head (isRefused hv.1 hjson) rest

theorem areMembersRefused : {members : List (String × Value)} → Value.AreRepresentableMembers members →
    ¬ Value.AreJsonMembers members → AreMembersRefused members
  | [], _, h => absurd trivial h
  | (name, v) :: rest, hv, h => by
    by_cases hname : IsLegible name
    · by_cases hjson : v.IsJson
      · have htail : ¬ Value.AreJsonMembers rest := fun hrest => h ⟨hname, hjson, hrest⟩
        have hrest := areMembersRefused hv.2 htail
        cases hmembers : rest with
        | nil => exact absurd (hmembers ▸ trivial) htail
        | cons member members =>
          rw [hmembers] at hrest
          exact areMembersRefused_of_tail hname (isRead hv.1 hjson) hrest
      · exact areMembersRefused_of_value hname (isRefused hv.1 hjson) rest
    · exact areMembersRefused_of_name hname v rest

end

theorem exists_read_literal_eq_error {v : Value} (h : IsRefused v) : ∃ fault, read (literal v) = .error fault := by
  obtain ⟨e, hread⟩ := h.fails (Nat.le_succ _) []
  rw [List.append_nil] at hread
  have hwhole : readWhole .usual (literal v).toList = .error e := by
    rw [readWhole, h.opens.skipBlanks_eq, hread]
    rfl
  simp only [read, if_neg h.opens.head?_ne, readChecked, hwhole]
  exact ⟨_, rfl⟩

end CommandFlow.Json
