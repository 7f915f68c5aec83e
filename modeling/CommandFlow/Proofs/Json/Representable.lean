import CommandFlow.Json.Reader
import CommandFlow.Proofs.Except
import CommandFlow.Proofs.Value.Representable

/-!
# What is read from JSON

* `Json.mapPart_eq_ok_iff`, `Json.andThen_eq_ok_iff` : what was read if a further part was;
* `Json.isRepresentable_of_readNumber` : a number that is read is of the format, or an integer that is not too long;
* `Json.readsRepresentable` : every value that is read is one that a document can hold; `Json.isRepresentable_of_read` :
  also that of a whole text.
-/

namespace CommandFlow

namespace Json

variable {α β : Type}

theorem andThen_eq_ok_iff {part : Part α} {next : α → List Char → Part β} {read : β × List Char} :
    andThen part next = .ok read ↔ ∃ a rest, part = .ok (a, rest) ∧ next a rest = .ok read := by
  unfold andThen
  split
  · rename_i a rest
    refine ⟨fun h => ⟨a, rest, rfl, h⟩, ?_⟩
    rintro ⟨_, _, ⟨⟩, h⟩
    exact h
  · exact ⟨nofun, nofun⟩

theorem mapPart_eq_ok_iff {f : α → β} {part : Part α} {b : β} {rest : List Char} :
    mapPart f part = .ok (b, rest) ↔ ∃ a, part = .ok (a, rest) ∧ f a = b := by
  rw [mapPart, andThen_eq_ok_iff]
  constructor
  · rintro ⟨a, _, hpart, ⟨⟩⟩
    exact ⟨a, hpart, rfl⟩
  · rintro ⟨a, hpart, rfl⟩
    exact ⟨a, rest, hpart, rfl⟩

/-! ## Numbers -/

theorem isDigits_takeDigits (cs : List Char) : Text.IsDigits (takeDigits cs).1 := by
  induction cs with
  | nil => simp [takeDigits, Text.IsDigits]
  | cons c rest ih =>
    rw [takeDigits]
    split
    · rename_i hdigit
      simp only [Bool.and_eq_true, decide_eq_true_eq] at hdigit
      have hmost : c.toNat ≤ '9'.toNat := hdigit.2
      have hnine : '9'.toNat = 57 := rfl
      intro d hd
      rcases List.mem_cons.mp hd with rfl | hd
      · omega
      · exact ih d hd
    · simp [Text.IsDigits]

theorem isDigits_takeWhole {cs rest : List Char} {whole : List Nat} (h : takeWhole cs = (some whole, rest)) :
    Text.IsDigits whole := by
  unfold takeWhole at h
  split at h
  · cases h
    simp [Text.IsDigits]
  · split at h
    · cases h
    · rename_i htake
      cases h
      have hdigits := isDigits_takeDigits cs
      rwa [htake] at hdigits

theorem isRepresentable_of_readNumber {negative : Bool} {all unsigned : List Char} {v : Value} {rest : List Char}
    (h : readNumber negative all unsigned = .ok (v, rest)) : v.IsRepresentable := by
  unfold readNumber at h
  split at h
  · cases h
  · rename_i whole afterWhole hwhole
    dsimp only at h
    split at h
    · split at h
      · cases h
      · rename_i hlong
        obtain ⟨rfl, -⟩ := Prod.mk.inj (Except.ok.inj h)
        have hlt := Text.ofDigits_lt (isDigits_takeWhole hwhole)
        have hpow : 10 ^ whole.length ≤ 10 ^ digitLimit := Nat.pow_le_pow_right (by decide) (Nat.not_lt.mp hlong)
        rw [Value.IsRepresentable, Binary64.decimalLength_le_iff (by decide)]
        cases negative with
        | true => simpa using hlt.trans_le hpow
        | false => simpa using hlt.trans_le hpow
    · obtain ⟨rfl, -⟩ := Prod.mk.inj (Except.ok.inj h)
      exact Binary64.inFormat_ofDecimal _ _ _

theorem isRepresentable_of_readAtom {cs : List Char} {v : Value} {rest : List Char}
    (h : readAtom cs = .ok (v, rest)) : v.IsRepresentable := by
  unfold readAtom at h
  split at h
  · rename_i found hfound
    obtain ⟨⟨word, w⟩, hmem, htake⟩ := List.exists_of_findSome?_eq_some hfound
    obtain ⟨after, -, rfl⟩ := Option.map_eq_some_iff.mp htake
    obtain ⟨rfl, -⟩ := Prod.mk.inj (Except.ok.inj h)
    simp only [words, List.mem_cons, Prod.mk.injEq, List.not_mem_nil, or_false] at hmem
    rcases hmem with ⟨-, rfl⟩ | ⟨-, rfl⟩ | ⟨-, rfl⟩ | ⟨-, rfl⟩ | ⟨-, rfl⟩ | ⟨-, rfl⟩
    · trivial
    · trivial
    · trivial
    all_goals exact Binary64.inFormat_of_isFinite_eq_false rfl
  · split at h
    · exact isRepresentable_of_readNumber h
    · exact isRepresentable_of_readNumber h

/-! ## Values -/

/-- Every value that is read with the fuel, and what is read of a list or of an object, can stand in a document. -/
structure ReadsRepresentable (fuel : Nat) : Prop where
  value : ∀ {reading cs v rest}, readValue fuel reading cs = .ok (v, rest) → v.IsRepresentable
  items : ∀ {reading cs items rest}, readItems fuel reading cs = .ok (items, rest) → Value.AreRepresentable items
  members : ∀ {reading cs members rest}, readMembers fuel reading cs = .ok (members, rest) →
    Value.AreRepresentableMembers members

section
variable {fuel : Nat} (ih : ReadsRepresentable fuel) {reading : Reading} {cs rest : List Char}

include ih

theorem isRepresentable_of_readValue {v : Value} (h : readValue (fuel + 1) reading cs = .ok (v, rest)) :
    v.IsRepresentable := by
  rw [readValue.eq_def] at h
  dsimp only at h
  split at h
  · obtain ⟨s, -, rfl⟩ := mapPart_eq_ok_iff.mp h
    trivial
  · split at h
    · cases h
    · split at h
      · obtain ⟨rfl, -⟩ := Prod.mk.inj (Except.ok.inj h)
        trivial
      · obtain ⟨items, hread, rfl⟩ := mapPart_eq_ok_iff.mp h
        exact ih.items hread
  · split at h
    · cases h
    · split at h
      · obtain ⟨rfl, -⟩ := Prod.mk.inj (Except.ok.inj h)
        exact ⟨List.nodup_nil, trivial⟩
      · obtain ⟨pairs, hread, rfl⟩ := mapPart_eq_ok_iff.mp h
        refine ⟨Entries.nodup_names_ofPairs pairs, ?_⟩
        have hpairs := Value.areRepresentableMembers_iff.mp (ih.members hread)
        refine Value.areRepresentableMembers_iff.mpr fun member hmem => hpairs member ?_
        exact (Entries.mem_merge hmem).resolve_left List.not_mem_nil
  · exact isRepresentable_of_readAtom h

theorem areRepresentable_of_readItems {items : List Value} (h : readItems (fuel + 1) reading cs = .ok (items, rest)) :
    Value.AreRepresentable items := by
  rw [readItems] at h
  obtain ⟨v, after, hv, hnext⟩ := andThen_eq_ok_iff.mp h
  split at hnext
  · obtain ⟨rfl, -⟩ := Prod.mk.inj (Except.ok.inj hnext)
    exact ⟨ih.value hv, trivial⟩
  · obtain ⟨others, hread, rfl⟩ := mapPart_eq_ok_iff.mp hnext
    exact ⟨ih.value hv, ih.items hread⟩
  · cases hnext

theorem areRepresentable_of_readMembers {members : Entries Value}
    (h : readMembers (fuel + 1) reading cs = .ok (members, rest)) : Value.AreRepresentableMembers members := by
  rw [readMembers.eq_def] at h
  dsimp only at h
  split at h
  · obtain ⟨name, afterName, -, hcolon⟩ := andThen_eq_ok_iff.mp h
    split at hcolon
    · obtain ⟨v, after, hv, hnext⟩ := andThen_eq_ok_iff.mp hcolon
      split at hnext
      · obtain ⟨rfl, -⟩ := Prod.mk.inj (Except.ok.inj hnext)
        exact ⟨ih.value hv, trivial⟩
      · obtain ⟨others, hread, rfl⟩ := mapPart_eq_ok_iff.mp hnext
        exact ⟨ih.value hv, ih.members hread⟩
      · cases hnext
    · cases hcolon
  · cases h

end

theorem readsRepresentable (fuel : Nat) : ReadsRepresentable fuel := by
  induction fuel with
  | zero => exact ⟨nofun, nofun, nofun⟩
  | succ fuel ih =>
    exact ⟨isRepresentable_of_readValue ih, areRepresentable_of_readItems ih, areRepresentable_of_readMembers ih⟩

theorem isRepresentable_of_readWhole {reading : Reading} {text : List Char} {v : Value}
    (h : readWhole reading text = .ok v) : v.IsRepresentable := by
  rw [readWhole] at h
  obtain ⟨⟨w, rest⟩, hread, hrest⟩ := bind_eq_ok.mp h
  dsimp only at hrest
  split at hrest
  · obtain rfl := Except.ok.inj hrest
    exact (readsRepresentable _).value hread
  · cases hrest

theorem isRepresentable_of_readChecked {reading : Reading} {text : List Char} {v : Value}
    (h : readChecked reading text = .ok v) : v.IsRepresentable := by
  rw [readChecked] at h
  cases hwhole : readWhole reading text with
  | error e =>
    rw [hwhole] at h
    cases h
  | ok w =>
    rw [hwhole] at h
    obtain rfl := Except.ok.inj h
    exact isRepresentable_of_readWhole hwhole

/-- The value of a JSON text is one that a document can hold. -/
theorem isRepresentable_of_read {s : String} {v : Value} (h : read s = .ok v) : v.IsRepresentable := by
  unfold read at h
  dsimp only at h
  split at h
  · cases h
  · exact isRepresentable_of_readChecked h

end Json

end CommandFlow
