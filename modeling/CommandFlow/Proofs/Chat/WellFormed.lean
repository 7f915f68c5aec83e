import CommandFlow.Chat.Invocation
import CommandFlow.Proofs.Except

/-!
# Messages that are well-formed

* `Value.IsRecord` : an object, or something that stands for none;
* `Chat.Invocation.IsOption`, `Chat.Invocation.IsOptions` : options as they can be read;
* `Chat.Invocation.IsWellFormed` : the members of a message that tells an invocation;
  `Chat.Invocation.exists_ofMembers_iff` : an invocation is read from these and from no others.
-/

namespace CommandFlow

theorem Operator.occursIn_iff {part cs : List Char} : occursIn part cs = true ↔ part <:+: cs := by
  induction cs with
  | nil => simp [occursIn]
  | cons c rest ih => rw [occursIn, List.infix_cons_iff, Bool.or_eq_true, ih, List.isPrefixOf_iff_prefix]

/-! ## Objects -/

namespace Value

/-- The value is an object, or is empty and stands for one without members. -/
def IsRecord (v : Value) : Prop := v.isTruthy = true → ∃ members, v = object members

def entries : Value → Entries Value
  | object members => members
  | _ => []

theorem isRecord_object (members : Entries Value) : (object members).IsRecord := fun _ => ⟨members, rfl⟩

theorem entries_eq_nil {v : Value} (h : ¬ v.isTruthy = true) : v.entries = [] := by
  cases v with
  | object members => simpa [isTruthy, entries] using h
  | _ => rfl

theorem isRecord_orElse {v : Value} : (v.orElse (object [])).IsRecord ↔ v.IsRecord := by
  rw [orElse]
  split
  · exact Iff.rfl
  · rename_i hempty
    exact ⟨fun _ h => absurd h hempty, fun _ => isRecord_object []⟩

theorem entries_orElse (v : Value) : (v.orElse (object [])).entries = v.entries := by
  rw [orElse]
  split
  · rfl
  · rename_i hempty
    exact (entries_eq_nil hempty).symm

end Value

namespace Chat.Invocation

open Value

theorem objectMembers_eq_ok {v : Value} {members : Entries Value} :
    objectMembers v = .ok members ↔ v.IsRecord ∧ members = v.entries := by
  unfold objectMembers
  split
  · rename_i own
    rw [Except.ok.injEq]
    exact ⟨fun h => ⟨isRecord_object own, h.symm⟩, fun h => h.2.symm⟩
  · rename_i hobject
    split
    · rename_i htruthy
      refine ⟨fun h => (by cases h), fun h => ?_⟩
      obtain ⟨own, rfl⟩ := h.1 htruthy
      exact absurd rfl (hobject own)
    · rename_i hempty
      rw [entries_eq_nil hempty, Except.ok.injEq]
      exact ⟨fun h => ⟨fun htruthy => absurd htruthy hempty, h.symm⟩, fun h => h.2.symm⟩

/-! ## Options -/

/-- An item that can be read as an option. It may be no option at all: an object without a name, or a text or a list in
which the word for the name does not occur. -/
inductive IsOption : Value → Prop where
  | named {members : Entries Value} {name : Value} (hname : Entries.get? members nameWord = some name)
      (hlist : ∀ items, name ≠ .list items) (hobject : ∀ inner, name ≠ .object inner) : IsOption (.object members)
  | unnamed {members : Entries Value} (hname : Entries.get? members nameWord = none) : IsOption (.object members)
  | text {s : String} (h : ¬ nameWord.toList <:+: s.toList) : IsOption (.text s)
  | list {items : List Value} (h : Value.text nameWord ∉ items) : IsOption (.list items)

/-- A value that can be read as options: a list of such items, an object whose names are such items, any text, or
something empty. -/
inductive IsOptions : Value → Prop where
  | list {items : List Value} (h : ∀ item ∈ items, IsOption item) : IsOptions (.list items)
  | object {members : Entries Value} (h : ∀ name ∈ Entries.names members, IsOption (.text name)) :
      IsOptions (.object members)
  | text (s : String) : IsOptions (.text s)
  | empty {v : Value} (h : v.isTruthy = false) : IsOptions v

theorem exists_optionName_iff {name : Value} :
    (∃ s, optionName name = .ok s) ↔ (∀ items, name ≠ .list items) ∧ ∀ inner, name ≠ .object inner := by
  cases name <;> simp [optionName]

theorem exists_optionOf_object_iff {members : Entries Value} :
    (∃ option, optionOf (.object members) = .ok option) ↔
      ∀ name, Entries.get? members nameWord = some name → ∃ s, optionName name = .ok s := by
  rw [optionOf]
  cases Entries.get? members nameWord with
  | none => simp
  | some name =>
    simp only [map_eq_ok, Option.some.injEq, forall_eq']
    constructor
    · rintro ⟨-, s, hs, -⟩
      exact ⟨s, hs⟩
    · rintro ⟨s, hs⟩
      exact ⟨_, s, hs, rfl⟩

theorem exists_optionOf_text_iff {s : String} :
    (∃ option, optionOf (.text s) = .ok option) ↔ ¬ nameWord.toList <:+: s.toList := by
  rw [optionOf, ← Operator.occursIn_iff]
  split <;> simp [*]

theorem exists_optionOf_list_iff {items : List Value} :
    (∃ option, optionOf (.list items) = .ok option) ↔ Value.text nameWord ∉ items := by
  rw [optionOf]
  split
  · rename_i hany
    obtain ⟨item, hitem, hname⟩ := List.any_eq_true.mp hany
    split at hname
    · rename_i s
      obtain rfl : s = nameWord := by simpa using hname
      simp [hitem]
    · cases hname
  · rename_i hany
    refine iff_of_true ⟨none, rfl⟩ fun hmem => hany (List.any_eq_true.mpr ⟨_, hmem, ?_⟩)
    simp

theorem exists_optionOf_iff {item : Value} : (∃ option, optionOf item = .ok option) ↔ IsOption item := by
  constructor
  · intro h
    cases item with
    | object members =>
      cases hname : Entries.get? members nameWord with
      | none => exact .unnamed hname
      | some name =>
        obtain ⟨hlist, hobject⟩ := exists_optionName_iff.mp (exists_optionOf_object_iff.mp h name hname)
        exact .named hname hlist hobject
    | text s => exact .text (exists_optionOf_text_iff.mp h)
    | list items => exact .list (exists_optionOf_list_iff.mp h)
    | _ => simp [optionOf] at h
  · intro h
    cases h with
    | named hname hlist hobject =>
      refine exists_optionOf_object_iff.mpr fun name hown => ?_
      obtain rfl := Option.some.inj (hname.symm.trans hown)
      exact exists_optionName_iff.mpr ⟨hlist, hobject⟩
    | unnamed hname => exact exists_optionOf_object_iff.mpr (by simp [hname])
    | text h => exact exists_optionOf_text_iff.mpr h
    | list h => exact exists_optionOf_list_iff.mpr h

theorem optionItems_of_empty {v : Value} (h : v.isTruthy = false) : optionItems v = .ok [] := by
  cases v with
  | list items =>
    obtain rfl : items = [] := by simpa [isTruthy] using h
    rfl
  | object members =>
    obtain rfl : members = [] := by simpa [isTruthy] using h
    rfl
  | text s =>
    obtain rfl : s = "" := by simpa [isTruthy] using h
    rfl
  | _ => simp [optionItems, h]

theorem exists_optionItems_iff {v : Value} :
    (∃ items, optionItems v = .ok items ∧ ∀ item ∈ items, IsOption item) ↔ IsOptions v := by
  constructor
  · rintro ⟨items, hitems, hoptions⟩
    unfold optionItems at hitems
    split at hitems
    · cases hitems
      exact .list hoptions
    · cases hitems
      refine .object fun name hname => ?_
      obtain ⟨pair, hpair, rfl⟩ := List.mem_map.mp hname
      exact hoptions _ (List.mem_map_of_mem hpair)
    · exact .text _
    · split at hitems
      · cases hitems
      · rename_i hempty
        exact .empty (by simpa using hempty)
  · intro h
    cases h with
    | @list items h => exact ⟨items, rfl, h⟩
    | @object members h =>
      refine ⟨_, rfl, fun item hitem => ?_⟩
      obtain ⟨pair, hpair, rfl⟩ := List.mem_map.mp hitem
      exact h pair.1 (List.mem_map_of_mem hpair)
    | text s =>
      refine ⟨_, rfl, fun item hitem => ?_⟩
      obtain ⟨c, -, rfl⟩ := List.mem_map.mp hitem
      -- the word has more than one character
      exact .text fun hword => by simpa [nameWord] using hword.length_le
    | empty hempty => exact ⟨[], optionItems_of_empty hempty, by simp⟩

theorem exists_readOptions_iff {v : Value} : (∃ options, readOptions v = .ok options) ↔ IsOptions v := by
  rw [← exists_optionItems_iff]
  simp only [← exists_optionOf_iff, ← exists_mapM_eq_ok_iff]
  constructor
  · rintro ⟨options, h⟩
    obtain ⟨items, hitems, hrest⟩ := bind_eq_ok.mp h
    obtain ⟨found, hfound, -⟩ := bind_eq_ok.mp hrest
    exact ⟨items, hitems, found, hfound⟩
  · rintro ⟨items, hitems, found, hfound⟩
    exact ⟨_, bind_eq_ok.mpr ⟨items, hitems, bind_eq_ok.mpr ⟨found, hfound, rfl⟩⟩⟩

/-! ## Messages -/

/-- The members of a message that tells an invocation: what should be an object is one, or is empty, and the options can
be read. The user is that of the member if there is one, else that of the message. -/
structure IsWellFormed (message : Entries Value) : Prop where
  data : (member message "data").IsRecord
  member : (member message "member").IsRecord
  user : ((Invocation.member (Invocation.member message "member").entries "user").orElse
    (Invocation.member message "user")).IsRecord
  channel : (Invocation.member message "channel").IsRecord
  options : IsOptions (Invocation.member (Invocation.member message "data").entries "options")

theorem exists_ofMembers_iff (message : Entries Value) :
    (∃ invocation, ofMembers message = .ok invocation) ↔ IsWellFormed message := by
  constructor
  · rintro ⟨invocation, h⟩
    obtain ⟨member', hmember, h⟩ := bind_eq_ok.mp h
    obtain ⟨data, hdata, h⟩ := bind_eq_ok.mp h
    obtain ⟨user, huser, h⟩ := bind_eq_ok.mp h
    obtain ⟨channel, hchannel, h⟩ := bind_eq_ok.mp h
    obtain ⟨options, hoptions, -⟩ := bind_eq_ok.mp h
    rw [objectMembers_eq_ok] at hmember hdata huser hchannel
    obtain ⟨hmember, rfl⟩ := hmember
    obtain ⟨hdata, rfl⟩ := hdata
    rw [entries_orElse] at hoptions
    exact {
      data := isRecord_orElse.mp hdata
      member := hmember
      user := isRecord_orElse.mp huser.1
      channel := isRecord_orElse.mp hchannel.1
      options := exists_readOptions_iff.mp ⟨options, hoptions⟩ }
  · intro h
    obtain ⟨options, hoptions⟩ := exists_readOptions_iff.mpr h.options
    rw [← entries_orElse] at hoptions
    exact ⟨_, bind_eq_ok.mpr ⟨_, objectMembers_eq_ok.mpr ⟨h.member, rfl⟩, bind_eq_ok.mpr ⟨_,
      objectMembers_eq_ok.mpr ⟨isRecord_orElse.mpr h.data, rfl⟩, bind_eq_ok.mpr ⟨_,
      objectMembers_eq_ok.mpr ⟨isRecord_orElse.mpr h.user, rfl⟩, bind_eq_ok.mpr ⟨_,
      objectMembers_eq_ok.mpr ⟨isRecord_orElse.mpr h.channel, rfl⟩, bind_eq_ok.mpr ⟨_, hoptions, rfl⟩⟩⟩⟩⟩⟩

end Chat.Invocation

end CommandFlow
