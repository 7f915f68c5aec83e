import CommandFlow.Proofs.Template.Segments
import CommandFlow.Run.Outcome

/-!
# References

The left side of a condition may be a bare name or the name between double braces.

* `Template.resolveReference_braced`, `Template.resolveReference_bare` : both refer to the value of the name;
* `Template.resolveOperand_braced`, `Template.resolveOperand_bare` : and so does the left side of a condition, but
  for a bare numeral without a value; `Template.fillOperand_braced`, `Template.fillOperand_bare` : nothing has to be
  filled in;
* `Template.outcome_braced` : a condition on the one is a condition on the other.
-/

namespace CommandFlow.Template

/-! ## Names between braces -/

section
variable {before after : List Char} (hbefore : ∀ c ∈ before, Text.isBlank c = true)
  (hafter : ∀ c ∈ after, Text.isBlank c = true) {p : Placeholder} (hp : p.IsProper)

include hbefore hafter in
theorem stripChars_braced (p : Placeholder) : Text.stripChars (before ++ (p.source ++ after)) = p.source := by
  have hopen : Text.isBlank '\x7b' = false := by decide
  have hclose : Text.isBlank '\x7d' = false := by decide
  have hfront : (p.source ++ after).dropWhile Text.isBlank = p.source ++ after := by
    simp [Placeholder.source, hopen]
  have hback : p.source.reverse.dropWhile Text.isBlank = p.source.reverse := by
    simp [Placeholder.source, hclose]
  rw [Text.stripChars, List.dropWhile_append_of_pos hbefore, hfront, Text.stripEnd, List.reverse_append,
    List.dropWhile_append_of_pos (by simpa using hafter), hback, List.reverse_reverse]

include hp

theorem soleName?_source : soleName? p.source = some (String.ofList p.name) := by
  rw [soleName?, takePlaceholder?_source hp]

theorem pieces_source : pieces p.source = [.hole p] := by
  rw [pieces_of_takePlaceholder? (takePlaceholder?_source hp), pieces]

theorem interpolate_source (bindings : Variables) (context : Context) :
    interpolate (String.ofList p.source) bindings context =
      ((lookup (String.ofList p.name) bindings context).elim (String.ofList p.source) Value.toText) := by
  rw [interpolate, String.toList_ofList, pieces_source hp, List.flatMap_singleton, Piece.render]
  cases lookup (String.ofList p.name) bindings context with
  | none => rfl
  | some v => exact String.ofList_toList

theorem fill_source {bindings : Variables} {context : Context} {v : Value}
    (hvalue : lookup (String.ofList p.name) bindings context = some v) (hwritable : v.isWritable = true) :
    fill (String.ofList p.source) bindings context = .ok v.toText := by
  refine Value.ifShort_eq_ok.mpr ⟨?_, by rw [interpolate_source hp, hvalue, Option.elim_some]⟩
  simp [isFillable, pieces_source hp, Piece.isWritable, hvalue, hwritable]

include hbefore hafter

theorem resolveReference_braced (bindings : Variables) (context : Context) :
    resolveReference (String.ofList (before ++ (p.source ++ after))) bindings context =
      (lookup (String.ofList p.name) bindings context).getD .null := by
  simp only [resolveReference, String.toList_ofList, stripChars_braced hbefore hafter, soleName?_source hp,
    Option.getD_some]

theorem resolveOperand_braced (bindings : Variables) (context : Context) :
    resolveOperand (String.ofList (before ++ (p.source ++ after))) bindings context =
      (lookup (String.ofList p.name) bindings context).getD .null := by
  rw [resolveOperand, resolveReference_braced hbefore hafter hp]
  simp only [String.toList_ofList, stripChars_braced hbefore hafter, soleName?_source hp, Option.isSome_some,
    reduceIte]
  split
  · rename_i hnull
    exact hnull.symm
  · rfl

/-- A single placeholder is not filled in: the value that it refers to is the operand. -/
theorem fillOperand_braced (bindings : Variables) (context : Context) :
    fillOperand (String.ofList (before ++ (p.source ++ after))) bindings context =
      .ok ((lookup (String.ofList p.name) bindings context).getD .null) := by
  refine Value.ifShort_eq_ok.mpr ⟨?_, resolveOperand_braced hbefore hafter hp bindings context⟩
  simp only [isReference, String.toList_ofList, stripChars_braced hbefore hafter, soleName?_source hp,
    Option.isSome_some, Bool.or_true, Bool.true_or]

end

/-! ## Bare names -/

theorem not_begins_of_not_mem {cs : List Char} (h : '\x7b' ∉ cs) : ¬ Begins cs := by
  rintro ⟨p, rest, -, rfl⟩
  exact h (by simp [Placeholder.source])

theorem pieces_of_not_mem {cs : List Char} (h : '\x7b' ∉ cs) : pieces cs = cs.map .plain := by
  induction cs with
  | nil => rw [pieces, List.map_nil]
  | cons c rest ih =>
    have hrest := ih fun hmem => h (List.mem_cons_of_mem c hmem)
    rw [pieces_cons (takePlaceholder?_eq_none_iff.mpr (not_begins_of_not_mem h)), hrest, List.map_cons]

theorem hasPlaceholder_eq_false {cs : List Char} (h : '\x7b' ∉ cs) : hasPlaceholder cs = false := by
  simp [hasPlaceholder, pieces_of_not_mem h]

theorem interpolate_of_not_mem {text : String} (h : '\x7b' ∉ text.toList) (bindings : Variables) (context : Context) :
    interpolate text bindings context = text := by
  have hrender : text.toList.flatMap (fun c => Piece.render bindings context (.plain c)) = text.toList :=
    List.flatMap_singleton' _
  rw [interpolate, pieces_of_not_mem h, List.flatMap_map, hrender, String.ofList_toList]

theorem isFillable_of_not_mem {text : String} (h : '\x7b' ∉ text.toList) (bindings : Variables) (context : Context) :
    isFillable text bindings context = true := by
  rw [isFillable, pieces_of_not_mem h, List.all_map, List.all_eq_true]
  intro c _
  rfl

theorem fill_of_not_mem {text : String} (h : '\x7b' ∉ text.toList) (bindings : Variables) (context : Context) :
    fill text bindings context = .ok text :=
  Value.ifShort_eq_ok.mpr ⟨isFillable_of_not_mem h bindings context, interpolate_of_not_mem h bindings context⟩

section
variable {name : List Char} (h : IsName name)

include h

theorem IsName.not_mem : '\x7b' ∉ name := by
  intro hmem
  have hchar := h.chars _ hmem
  revert hchar
  decide

theorem IsName.stripChars : Text.stripChars name = name :=
  Text.stripChars_eq_self fun c hc => isBlank_eq_false_of_isNameChar (h.chars c hc)

theorem IsName.soleName? : soleName? name = none := by
  rw [Template.soleName?, takePlaceholder?_eq_none_iff.mpr (not_begins_of_not_mem h.not_mem)]

theorem resolveReference_bare (bindings : Variables) (context : Context) :
    resolveReference (String.ofList name) bindings context =
      (lookup (String.ofList name) bindings context).getD .null := by
  simp only [resolveReference, String.toList_ofList, h.stripChars, h.soleName?, Option.getD_none]

/-- A bare name refers to its value, unless it is a numeral and has none, or null. -/
theorem resolveOperand_bare {bindings : Variables} {context : Context}
    (hvalue : (lookup (String.ofList name) bindings context).getD .null ≠ .null ∨ Text.isNumeral name = false) :
    resolveOperand (String.ofList name) bindings context =
      (lookup (String.ofList name) bindings context).getD .null := by
  rw [resolveOperand, resolveReference_bare h]
  split
  · rename_i hnull
    have hnumeral := hvalue.resolve_left (not_not.mpr hnull)
    simp only [String.toList_ofList, h.stripChars, h.soleName?, hnumeral, hasPlaceholder_eq_false h.not_mem,
      Option.isSome_none, Bool.or_false, Bool.false_eq_true, reduceIte]
    exact hnull.symm
  · rfl

theorem fillOperand_bare {bindings : Variables} {context : Context}
    (hvalue : (lookup (String.ofList name) bindings context).getD .null ≠ .null ∨ Text.isNumeral name = false) :
    fillOperand (String.ofList name) bindings context =
      .ok ((lookup (String.ofList name) bindings context).getD .null) := by
  have hfillable : isFillable (String.ofList (Text.stripChars (String.ofList name).toList)) bindings context =
    true := by
    rw [String.toList_ofList, h.stripChars]
    exact isFillable_of_not_mem (by simpa using h.not_mem) bindings context
  exact Value.ifShort_eq_ok.mpr ⟨Bool.or_eq_true_iff.mpr (.inr hfillable), resolveOperand_bare h hvalue⟩

end

/-! ## Conditions -/

/-- A condition on a name comes to the same whether the name is bare or between double braces, with blanks inside and
outside, unless the name is a numeral and has no value, or null. Where the name has a value, the braces are replaced by
the text of what they refer to. -/
theorem outcome_braced {p : Placeholder} (hp : p.IsProper) {before after : List Char}
    (hbefore : ∀ c ∈ before, Text.isBlank c = true) (hafter : ∀ c ∈ after, Text.isBlank c = true)
    (bindings : Variables) (context : Context) :
    let bare := String.ofList p.name
    let braced := String.ofList (before ++ (p.source ++ after))
    ((∃ v, lookup bare bindings context = some v ∧ v ≠ .null) ∨ Text.isNumeral p.name = false →
      ∀ (id : String) (position : Position) (test : Test) (declared : Entries Declaration) (generator : Generator),
        (Node.mk id position (.ifCondition { test with left := braced })).outcome bindings context declared
            generator =
          (Node.mk id position (.ifCondition { test with left := bare })).outcome bindings context declared
            generator) ∧
    ((lookup bare bindings context).isSome →
      interpolate (String.ofList p.source) bindings context = (resolveOperand braced bindings context).toText) := by
  intro bare braced
  have hbraced : resolveOperand braced bindings context = (lookup bare bindings context).getD .null :=
    resolveOperand_braced hbefore hafter hp bindings context
  constructor
  · intro h id position test declared generator
    have hvalue : (lookup bare bindings context).getD .null ≠ .null ∨ Text.isNumeral p.name = false := by
      refine h.imp_left ?_
      rintro ⟨v, hv, hne⟩
      rw [hv]
      exact hne
    have hfilled : fillOperand braced bindings context = fillOperand bare bindings context :=
      (fillOperand_braced hbefore hafter hp bindings context).trans (fillOperand_bare hp.name hvalue).symm
    simp only [Node.outcome, Test.outcome, hfilled]
  · intro h
    obtain ⟨v, hv⟩ := Option.isSome_iff_exists.mp h
    rw [interpolate_source hp, hbraced]
    show (lookup bare bindings context).elim _ _ = _
    rw [hv]
    rfl

/-- A numeral that is the name of a variable. -/
theorem outcome_braced_numeral :
    let p : Placeholder := ⟨['\t'], ['2', '.', '5'], []⟩
    let bindings : Variables := [("2.5", .text "much")]
    let test : Test := ⟨"", .startsWith, .text "mu", none, none⟩
    p.IsProper ∧ Text.isBlank ' ' = true ∧
      (∃ v, lookup "2.5" bindings .standIn = some v ∧ v ≠ .null) ∧
      (Node.mk "if" ⟨.zero, .zero⟩
        (.ifCondition { test with left := String.ofList ([' '] ++ (p.source ++ [])) })).outcome
          bindings .standIn [] (.ofSeed 0) =
        (Node.mk "if" ⟨.zero, .zero⟩ (.ifCondition { test with left := String.ofList p.name })).outcome
          bindings .standIn [] (.ofSeed 0) ∧
      interpolate (String.ofList p.source) bindings .standIn =
        (resolveOperand (String.ofList ([' '] ++ (p.source ++ []))) bindings .standIn).toText := by
  intro p bindings test
  have hp : p.IsProper := ⟨List.all_eq_true.mp rfl, ⟨List.cons_ne_nil _ _, List.all_eq_true.mp rfl⟩, by simp [p]⟩
  have hblank : ∀ c ∈ [' '], Text.isBlank c = true := List.all_eq_true.mp rfl
  have hvalue : lookup "2.5" bindings .standIn = some (.text "much") := rfl
  have hnone : ∀ c ∈ ([] : List Char), Text.isBlank c = true := by simp
  have hsame := outcome_braced hp hblank hnone bindings .standIn
  exact ⟨hp, by decide, ⟨_, hvalue, by simp⟩, hsame.1 (.inl ⟨_, hvalue, by simp⟩) _ _ test _ _,
    hsame.2 (by rw [show String.ofList p.name = "2.5" from rfl, hvalue]; rfl)⟩

end CommandFlow.Template
