import CommandFlow.Proofs.Template.Reference

/-!
# A placeholder within a text

* `Template.Placeholder.not_mem_tail` : after its first two characters a placeholder has no opening brace;
  `Template.not_begins_append` : so none begins in the text before another and ends within that;
* `Template.pieces_append` : a placeholder parts the text before it from the rest;
* `Template.interpolate_append_source` : it is replaced, and the texts around it as if they stood alone;
  `Template.interpolate_append_of_lookup` : it is replaced by what is found under its name;
* `Template.interpolate_append_of_hyphen` : but what is written like a placeholder for a name with a hyphen stays.
-/

namespace CommandFlow.Template

/-- The characters of a placeholder after its two opening braces. -/
def Placeholder.tail (p : Placeholder) : List Char := p.lead ++ p.name ++ p.trail ++ ['\x7d', '\x7d']

theorem Placeholder.tail_ne_nil (p : Placeholder) : p.tail ≠ [] := by simp [tail]

theorem Placeholder.not_mem_tail {p : Placeholder} (hlead : ∀ c ∈ p.lead, Text.isBlank c = true)
    (hname : '\x7b' ∉ p.name) (htrail : ∀ c ∈ p.trail, Text.isBlank c = true) : '\x7b' ∉ p.tail := by
  have hblank : ∀ c, Text.isBlank c = true → c ≠ '\x7b' := by
    rintro c hc rfl
    revert hc
    decide
  intro hmem
  simp only [tail, List.mem_append] at hmem
  rcases hmem with ((hmem | hmem) | hmem) | hclose
  · exact hblank _ (hlead _ hmem) rfl
  · exact hname hmem
  · exact hblank _ (htrail _ hmem) rfl
  · revert hclose
    decide

section
variable {p : Placeholder} (hp : p.IsProper)

include hp

theorem Placeholder.IsProper.not_mem_tail : '\x7b' ∉ p.tail :=
  Placeholder.not_mem_tail hp.lead hp.name.not_mem hp.trail

omit hp in
/-- No placeholder begins before another one and ends within it. -/
theorem not_begins_append {c : Char} {before : List Char} (h : ¬ Begins (c :: before)) (p : Placeholder)
    (after : List Char) :
    ¬ Begins (c :: before ++ (p.source ++ after)) := by
  rintro ⟨q, rest, hq, heq⟩
  rcases List.append_eq_append_iff.mp heq with ⟨inner, hsource, hinner⟩ | ⟨between, hbefore, -⟩
  · cases inner with
    | nil => exact h ⟨q, [], hq, by simpa using hsource.symm⟩
    | cons first inner =>
      -- the overlap begins with two braces, of which a placeholder has none after its own two
      obtain ⟨rfl, hrest⟩ : '\x7b' = first ∧ '\x7b' :: p.tail ++ after = inner ++ rest := List.cons.inj hinner
      obtain ⟨-, htail⟩ : '\x7b' = c ∧ '\x7b' :: q.tail = before ++ '\x7b' :: inner := List.cons.inj hsource
      refine hq.not_mem_tail ?_
      cases before with
      | nil =>
        obtain rfl : q.tail = inner := (List.cons.inj htail).2
        obtain ⟨d, others, hcons⟩ := List.exists_cons_of_ne_nil q.tail_ne_nil
        rw [hcons] at hrest ⊢
        rw [(List.cons.inj hrest).1]
        exact List.mem_cons_self
      | cons d others =>
        rw [(List.cons.inj htail).2]
        simp
  · exact h ⟨q, between, hq, hbefore⟩

omit hp in
/-- What is written like a placeholder, with whatever for a name, parts the text before it from the rest. -/
theorem pieces_append (before : List Char) (p : Placeholder) (after : List Char) :
    pieces (before ++ (p.source ++ after)) = pieces before ++ pieces (p.source ++ after) := by
  induction before using pieces.induct with
  | case1 => rw [pieces, List.nil_append, List.nil_append]
  | case2 c rest q between h ih =>
    obtain ⟨hq, hbefore⟩ := takePlaceholder?_eq_some_iff.mp h
    rw [pieces_of_takePlaceholder? h, hbefore, List.append_assoc,
      pieces_of_takePlaceholder? (takePlaceholder?_source_append hq _), ih, List.cons_append]
  | case3 c rest h ih =>
    have hnone : takePlaceholder? (c :: (rest ++ (p.source ++ after))) = none :=
      takePlaceholder?_eq_none_iff.mpr (not_begins_append (takePlaceholder?_eq_none_iff.mp h) p after)
    rw [pieces_cons h, List.cons_append, pieces_cons hnone, ih, List.cons_append]

omit hp in
theorem interpolate_append (before : List Char) (p : Placeholder) (after : List Char) (bindings : Variables)
    (context : Context) :
    interpolate (String.ofList (before ++ (p.source ++ after))) bindings context =
      interpolate (String.ofList before) bindings context ++
        interpolate (String.ofList (p.source ++ after)) bindings context := by
  rw [interpolate, String.toList_ofList, pieces_append, List.flatMap_append, String.ofList_append]
  simp only [interpolate, String.toList_ofList]

/-- A placeholder is replaced wherever it stands, and the texts around it as if they stood alone. -/
theorem interpolate_append_source (before after : List Char) (bindings : Variables) (context : Context) :
    interpolate (String.ofList (before ++ (p.source ++ after))) bindings context =
      interpolate (String.ofList before) bindings context ++
        (interpolate (String.ofList p.source) bindings context ++
          interpolate (String.ofList after) bindings context) := by
  have hpieces (rest : List Char) : pieces (p.source ++ rest) = .hole p :: pieces rest :=
    pieces_of_takePlaceholder? (takePlaceholder?_source_append hp rest)
  have hsole : pieces p.source = [.hole p] := by
    simpa [pieces] using hpieces []
  rw [interpolate_append]
  refine congrArg (interpolate (String.ofList before) bindings context ++ ·) ?_
  rw [interpolate, String.toList_ofList, hpieces, List.flatMap_cons, String.ofList_append]
  simp only [interpolate, String.toList_ofList, hsole, List.flatMap_singleton]

theorem interpolate_append_of_lookup {bindings : Variables} {context : Context} {v : Value}
    (h : lookup (String.ofList p.name) bindings context = some v) (before after : List Char) :
    interpolate (String.ofList (before ++ (p.source ++ after))) bindings context =
      interpolate (String.ofList before) bindings context ++
        (v.toText ++ interpolate (String.ofList after) bindings context) := by
  rw [interpolate_append_source hp, interpolate_source hp, h, Option.elim_some]

/-- A text can be filled in if the texts around a placeholder can and its value can be written. -/
theorem isFillable_append_of_lookup {bindings : Variables} {context : Context} {v : Value}
    (h : lookup (String.ofList p.name) bindings context = some v) (before after : List Char) :
    isFillable (String.ofList (before ++ (p.source ++ after))) bindings context =
      (isFillable (String.ofList before) bindings context &&
        (v.isWritable && isFillable (String.ofList after) bindings context)) := by
  have hpieces : pieces (p.source ++ after) = .hole p :: pieces after :=
    pieces_of_takePlaceholder? (takePlaceholder?_source_append hp after)
  simp only [isFillable, String.toList_ofList, pieces_append, hpieces, List.all_append, List.all_cons,
    Piece.isWritable, h, Option.all_some]

end

/-! ## Names with hyphens -/

theorem pieces_append_of_not_mem {cs : List Char} (h : '\x7b' ∉ cs) (after : List Char) :
    pieces (cs ++ after) = cs.map .plain ++ pieces after := by
  induction cs with
  | nil => rfl
  | cons c rest ih =>
    rw [List.mem_cons, not_or] at h
    have hnone : takePlaceholder? (c :: (rest ++ after)) = none := by
      rw [takePlaceholder?.eq_def]
      split
      · rename_i heq
        exact absurd (List.cons.inj heq).1.symm h.1
      · rfl
    rw [List.cons_append, pieces_cons hnone, ih h.2]
    rfl

section
variable {p : Placeholder} (hlead : ∀ c ∈ p.lead, Text.isBlank c = true) (htrail : ∀ c ∈ p.trail, Text.isBlank c = true)
  (hname : ∀ c ∈ p.name, isNameChar c = true ∨ c = '-') (hhyphen : '-' ∈ p.name)

include hlead hname hhyphen

theorem takePlaceholder?_of_hyphen (after : List Char) : takePlaceholder? (p.source ++ after) = none := by
  obtain ⟨word, others, hsplit, hnot⟩ := List.eq_append_cons_of_mem hhyphen
  have hblank : Text.isBlank '-' = false := by decide
  have hchar : isNameChar '-' = false := by decide
  have hword : ∀ c ∈ word, isNameChar c = true := by
    intro c hc
    refine (hname c (by simp [hsplit, hc])).resolve_right ?_
    rintro rfl
    exact hnot hc
  -- the name is taken up to its first hyphen, where two closing braces are expected
  have hleads := takeWhile_append_of_head hlead
    (word ++ '-' :: (others ++ (p.trail ++ '\x7d' :: '\x7d' :: after))) (by
      intro c hc
      cases hempty : word with
      | nil =>
        rw [hempty] at hc
        obtain rfl : '-' = c := by simpa using hc
        exact hblank
      | cons first _ =>
        rw [hempty] at hc
        obtain rfl : first = c := by simpa using hc
        exact isBlank_eq_false_of_isNameChar (hword first (by simp [hempty])))
  have hwords := takeWhile_append_of_head hword ('-' :: (others ++ (p.trail ++ '\x7d' :: '\x7d' :: after))) (by
    rintro c ⟨⟩
    exact hchar)
  simp only [Placeholder.source, hsplit, List.cons_append, List.append_assoc, List.nil_append, takePlaceholder?, hleads,
    hwords, List.dropWhile_cons, hblank, Bool.false_eq_true, reduceIte]
  rfl

include htrail

/-- A name with a hyphen is none: what is written like a placeholder for it stays as it is. -/
theorem interpolate_append_of_hyphen (before after : List Char) (bindings : Variables) (context : Context) :
    interpolate (String.ofList (before ++ (p.source ++ after))) bindings context =
      interpolate (String.ofList before) bindings context ++
        (String.ofList p.source ++ interpolate (String.ofList after) bindings context) := by
  have hbrace : '\x7b' ∉ p.name := by
    intro hmem
    have hchar := hname _ hmem
    revert hchar
    decide
  have htail : '\x7b' ∉ p.tail := Placeholder.not_mem_tail hlead hbrace htrail
  have hpieces : pieces (p.source ++ after) = p.source.map .plain ++ pieces after := by
    have hfirst : pieces (p.source ++ after) = .plain '\x7b' :: pieces ('\x7b' :: (p.tail ++ after)) :=
      pieces_cons (takePlaceholder?_of_hyphen hlead hname hhyphen after)
    have hsecond : takePlaceholder? ('\x7b' :: (p.tail ++ after)) = none := by
      obtain ⟨d, others, hcons⟩ := List.exists_cons_of_ne_nil p.tail_ne_nil
      rw [hcons, List.mem_cons, not_or] at htail
      rw [takePlaceholder?.eq_def, hcons]
      split
      · rename_i heq
        exact absurd (List.cons.inj (List.cons.inj heq).2).1.symm htail.1
      · rfl
    rw [hfirst, pieces_cons hsecond, pieces_append_of_not_mem htail]
    rfl
  have hrender : p.source.flatMap (fun c => Piece.render bindings context (.plain c)) = p.source :=
    List.flatMap_singleton' _
  rw [interpolate_append]
  refine congrArg (interpolate (String.ofList before) bindings context ++ ·) ?_
  rw [interpolate, String.toList_ofList, hpieces, List.flatMap_append, String.ofList_append, List.flatMap_map, hrender]
  simp only [interpolate, String.toList_ofList]

end

end CommandFlow.Template
