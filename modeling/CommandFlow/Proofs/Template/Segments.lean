import CommandFlow.Template
import Mathlib.Data.List.TakeWhile
import Mathlib.Tactic.IntervalCases

/-!
# The segments of a template

A text is plain text with placeholders between, in one way only, and that is how it is interpolated.

* `Template.IsName`, `Template.Placeholder.IsProper` : what may stand between double braces;
* `Template.takePlaceholder?_eq_some_iff` : a placeholder is taken from a text just if the text begins with it;
* `Template.Segments` : plain texts with placeholders between them; `Segments.IsProper` : no placeholder begins
  within the plain texts;
* `Template.Segments.ofPieces` : the segments that pieces make up; `Template.segments` : those of a text;
* `Template.Segments.isProper_iff` : they are the only proper segments that are written so;
* `Template.Segments.filled` : segments with the placeholders replaced; `Template.interpolate_eq_filled` : what an
  interpolation gives.
-/

namespace CommandFlow

/-! ## Blanks and names -/

namespace Text

theorem isWord_ofNat_of_mem {range : Nat × Nat} (h : range ∈ blankRanges) {code : Nat} (hleast : range.1 ≤ code)
    (hmost : code ≤ range.2) : isWord (Char.ofNat code) = false := by
  simp only [blankRanges, List.mem_cons, List.not_mem_nil, or_false] at h
  rcases h with rfl | rfl | rfl | rfl | rfl | rfl | rfl | rfl | rfl | rfl <;>
  · dsimp only at hleast hmost
    interval_cases code <;> decide +kernel

theorem isWord_eq_false_of_isBlank {c : Char} (h : isBlank c = true) : isWord c = false := by
  simp only [isBlank, inRanges, List.any_eq_true, Bool.and_eq_true, decide_eq_true_eq] at h
  obtain ⟨range, hrange, hleast, hmost⟩ := h
  rw [← c.ofNat_toNat]
  exact isWord_ofNat_of_mem hrange hleast hmost

end Text

namespace Template

theorem isNameChar_eq_false_of_isBlank {c : Char} (h : Text.isBlank c = true) : isNameChar c = false := by
  have hpoint : c ≠ '.' := by
    rintro rfl
    revert h
    decide
  simp [isNameChar, Text.isWord_eq_false_of_isBlank h, hpoint]

theorem isBlank_eq_false_of_isNameChar {c : Char} (h : isNameChar c = true) : Text.isBlank c = false := by
  cases hblank : Text.isBlank c with
  | false => rfl
  | true => exact absurd h (by simp [isNameChar_eq_false_of_isBlank hblank])

/-- A name: word characters and points, at least one. -/
structure IsName (cs : List Char) : Prop where
  nonempty : cs ≠ []
  chars : ∀ c ∈ cs, isNameChar c = true

/-! ## Placeholders -/

/-- A name with nothing but blanks around it. -/
structure Placeholder.IsProper (p : Placeholder) : Prop where
  lead : ∀ c ∈ p.lead, Text.isBlank c = true
  name : IsName p.name
  trail : ∀ c ∈ p.trail, Text.isBlank c = true

/-- A row of characters of one kind ends where another kind begins. -/
theorem takeWhile_append_of_head {kind : Char → Bool} {row : List Char} (hrow : ∀ c ∈ row, kind c = true)
    (rest : List Char) (hrest : ∀ c ∈ rest.head?, kind c = false) :
    (row ++ rest).takeWhile kind = row ∧ (row ++ rest).dropWhile kind = rest := by
  rw [List.takeWhile_append_of_pos hrow, List.dropWhile_append_of_pos hrow]
  cases rest with
  | nil => simp
  | cons c rest => simp [hrest c rfl]

/-- A placeholder is taken from the front of a text just if the text begins with it. -/
theorem takePlaceholder?_eq_some_iff {cs rest : List Char} {p : Placeholder} :
    takePlaceholder? cs = some (p, rest) ↔ p.IsProper ∧ cs = p.source ++ rest := by
  constructor
  · intro h
    refine ⟨?_, (source_append_of_takePlaceholder? h).symm⟩
    unfold takePlaceholder? at h
    split at h
    · dsimp only at h
      split at h
      · split at h
        · cases h
        · rename_i hname
          cases h
          exact ⟨fun _ => List.mem_takeWhile_imp, ⟨by simpa using hname, fun _ => List.mem_takeWhile_imp⟩,
            fun _ => List.mem_takeWhile_imp⟩
      · cases h
    · cases h
  · rintro ⟨h, rfl⟩
    obtain ⟨first, others, hname⟩ := List.exists_cons_of_ne_nil h.name.nonempty
    -- the blanks, the name and the blanks after it end where the next begins
    have hlead := takeWhile_append_of_head h.lead (p.name ++ (p.trail ++ '\x7d' :: '\x7d' :: rest)) (by
      rw [hname]
      rintro c ⟨⟩
      exact isBlank_eq_false_of_isNameChar (h.name.chars _ (by simp [hname])))
    have hchars := takeWhile_append_of_head h.name.chars (p.trail ++ '\x7d' :: '\x7d' :: rest) (by
      intro c hc
      cases htrail : p.trail with
      | nil =>
        rw [htrail] at hc
        obtain rfl : '\x7d' = c := by simpa using hc
        decide
      | cons blank _ =>
        rw [htrail] at hc
        obtain rfl : blank = c := by simpa using hc
        exact isNameChar_eq_false_of_isBlank (h.trail _ (by simp [htrail])))
    have htrail := takeWhile_append_of_head h.trail ('\x7d' :: '\x7d' :: rest) (by
      rintro c ⟨⟩
      decide)
    have hnonempty : p.name.isEmpty = false := by simp [hname]
    simp only [Placeholder.source, List.cons_append, List.append_assoc, List.nil_append, takePlaceholder?,
      hlead, hchars, htrail, hnonempty, Bool.false_eq_true, reduceIte]

theorem takePlaceholder?_source_append {p : Placeholder} (h : p.IsProper) (rest : List Char) :
    takePlaceholder? (p.source ++ rest) = some (p, rest) :=
  takePlaceholder?_eq_some_iff.mpr ⟨h, rfl⟩

theorem takePlaceholder?_source {p : Placeholder} (h : p.IsProper) : takePlaceholder? p.source = some (p, []) := by
  have htake := takePlaceholder?_source_append h []
  rwa [List.append_nil] at htake

/-- The text begins with a placeholder. -/
def Begins (cs : List Char) : Prop := ∃ (p : Placeholder) (rest : List Char), p.IsProper ∧ cs = p.source ++ rest

theorem takePlaceholder?_eq_none_iff {cs : List Char} : takePlaceholder? cs = none ↔ ¬ Begins cs := by
  constructor
  · rintro h ⟨p, rest, hp⟩
    cases h.symm.trans (takePlaceholder?_eq_some_iff.mpr hp)
  · intro h
    cases htake : takePlaceholder? cs with
    | none => rfl
    | some taken => exact absurd ⟨taken.1, taken.2, takePlaceholder?_eq_some_iff.mp htake⟩ h

/-! ## Segments -/

inductive Segments where
  /-- Plain text alone. -/
  | last (plain : List Char)
  /-- Plain text, a placeholder, and the segments after it. -/
  | next (plain : List Char) (p : Placeholder) (rest : Segments)

/-- No placeholder begins within the plain text, where some text follows it. -/
def IsPlain (plain after : List Char) : Prop :=
  ∀ rest, rest <:+ plain → rest ≠ [] → ¬ Begins (rest ++ after)

theorem isPlain_nil (after : List Char) : IsPlain [] after := fun _ hrest hne => absurd (List.suffix_nil.mp hrest) hne

theorem isPlain_cons {c : Char} {plain after : List Char} :
    IsPlain (c :: plain) after ↔ ¬ Begins (c :: (plain ++ after)) ∧ IsPlain plain after := by
  simp only [IsPlain, List.suffix_cons_iff]
  constructor
  · exact fun h => ⟨h _ (.inl rfl) (List.cons_ne_nil _ _), fun rest hrest => h rest (.inr hrest)⟩
  · rintro ⟨hfirst, hothers⟩ rest (rfl | hrest) hne
    · exact hfirst
    · exact hothers rest hrest hne

namespace Segments

def source : Segments → List Char
  | last plain => plain
  | next plain p rest => plain ++ (p.source ++ rest.source)

/-- What stands between double braces are names with blanks around, and no placeholder begins within the plain
texts. -/
def IsProper : Segments → Prop
  | last plain => IsPlain plain []
  | next plain p rest => IsPlain plain (p.source ++ rest.source) ∧ p.IsProper ∧ rest.IsProper

def names : Segments → List String
  | last _ => []
  | next _ p rest => String.ofList p.name :: rest.names

/-- The segments with the placeholders replaced by the texts of their names' values. A placeholder whose name has
no value stays as it is written. -/
def filled (bindings : Variables) (context : Context) : Segments → List Char
  | last plain => plain
  | next plain p rest =>
    plain ++ (((lookup (String.ofList p.name) bindings context).elim p.source fun v => v.toText.toList) ++
      rest.filled bindings context)

def cons (c : Char) : Segments → Segments
  | last plain => last (c :: plain)
  | next plain p rest => next (c :: plain) p rest

def ofPieces : List Piece → Segments
  | [] => last []
  | .plain c :: rest => (ofPieces rest).cons c
  | .hole p :: rest => next [] p (ofPieces rest)

@[simp] theorem source_cons (c : Char) (s : Segments) : (s.cons c).source = c :: s.source := by
  cases s <;> rfl

@[simp] theorem filled_cons (bindings : Variables) (context : Context) (c : Char) (s : Segments) :
    (s.cons c).filled bindings context = c :: s.filled bindings context := by
  cases s <;> rfl

theorem isProper_cons {c : Char} {s : Segments} :
    (s.cons c).IsProper ↔ ¬ Begins (c :: s.source) ∧ s.IsProper := by
  cases s with
  | last plain => simp only [cons, IsProper, isPlain_cons, source, List.append_nil]
  | next plain p rest => simp only [cons, IsProper, isPlain_cons, source, and_assoc]

theorem source_ofPieces (items : List Piece) : (ofPieces items).source = items.flatMap Piece.source := by
  induction items with
  | nil => rfl
  | cons item rest ih =>
    cases item with
    | plain c => simp [ofPieces, Piece.source, ih]
    | hole p => simp [ofPieces, source, Piece.source, ih]

theorem filled_ofPieces (bindings : Variables) (context : Context) (items : List Piece) :
    (ofPieces items).filled bindings context = items.flatMap (Piece.render bindings context) := by
  induction items with
  | nil => rfl
  | cons item rest ih =>
    cases item with
    | plain c => simp [ofPieces, Piece.render, ih]
    | hole p =>
      simp only [ofPieces, filled, Piece.render, List.flatMap_cons, List.nil_append, ih]
      cases lookup (String.ofList p.name) bindings context <;> rfl

theorem isProper_ofPieces (cs : List Char) : (ofPieces (pieces cs)).IsProper := by
  induction cs using pieces.induct with
  | case1 =>
    rw [pieces]
    exact isPlain_nil []
  | case2 c rest p after h ih =>
    rw [pieces_of_takePlaceholder? h]
    exact ⟨isPlain_nil _, (takePlaceholder?_eq_some_iff.mp h).1, ih⟩
  | case3 c rest h ih =>
    rw [pieces_cons h]
    refine isProper_cons.mpr ⟨?_, ih⟩
    rw [source_ofPieces, flatMap_source_pieces]
    exact takePlaceholder?_eq_none_iff.mp h

theorem foldr_cons_last (plain : List Char) : plain.foldr cons (last []) = last plain := by
  induction plain with
  | nil => rfl
  | cons c plain ih => rw [List.foldr_cons, ih, cons]

theorem foldr_cons_next (plain : List Char) (p : Placeholder) (rest : Segments) :
    plain.foldr cons (next [] p rest) = next plain p rest := by
  induction plain with
  | nil => rfl
  | cons c plain ih => rw [List.foldr_cons, ih, cons]

theorem ofPieces_append {plain after : List Char} (h : IsPlain plain after) :
    ofPieces (pieces (plain ++ after)) = plain.foldr cons (ofPieces (pieces after)) := by
  induction plain with
  | nil => rfl
  | cons c plain ih =>
    obtain ⟨hfirst, hothers⟩ := isPlain_cons.mp h
    rw [List.cons_append, pieces_cons (takePlaceholder?_eq_none_iff.mpr hfirst), ofPieces, ih hothers]
    rfl

theorem ofPieces_source {s : Segments} (h : s.IsProper) : ofPieces (pieces s.source) = s := by
  induction s with
  | last plain =>
    have hfront : ofPieces (pieces (plain ++ [])) = plain.foldr cons (ofPieces (pieces [])) := ofPieces_append h
    rw [List.append_nil, pieces] at hfront
    exact hfront.trans (foldr_cons_last plain)
  | next plain p rest ih =>
    obtain ⟨hplain, hp, hrest⟩ := h
    have hfront := ofPieces_append hplain
    rw [pieces_of_takePlaceholder? (takePlaceholder?_source_append hp _), ofPieces, ih hrest] at hfront
    exact hfront.trans (foldr_cons_next plain p rest)

theorem filled_congr {s : Segments} {bindings other : Variables} (context : Context)
    (h : ∀ name ∈ s.names, Entries.get? bindings name = Entries.get? other name) :
    s.filled bindings context = s.filled other context := by
  induction s with
  | last plain => rfl
  | next plain p rest ih =>
    obtain ⟨hname, hnames⟩ := List.forall_mem_cons.mp h
    have hlookup : lookup (String.ofList p.name) bindings context = lookup (String.ofList p.name) other context := by
      rw [lookup, lookup, hname]
    rw [filled, filled, hlookup, ih hnames]

end Segments

/-! ## Texts -/

def segments (cs : List Char) : Segments := .ofPieces (pieces cs)

/-- A text has one way to be written as proper segments. -/
theorem isProper_iff {cs : List Char} {s : Segments} : s.source = cs ∧ s.IsProper ↔ s = segments cs := by
  constructor
  · rintro ⟨rfl, h⟩
    exact (Segments.ofPieces_source h).symm
  · rintro rfl
    exact ⟨(Segments.source_ofPieces _).trans (flatMap_source_pieces cs), Segments.isProper_ofPieces cs⟩

theorem interpolate_eq_filled (text : String) (bindings : Variables) (context : Context) :
    interpolate text bindings context = String.ofList ((segments text.toList).filled bindings context) := by
  rw [interpolate, segments, Segments.filled_ofPieces]

/-- A text falls in one way into plain texts within which no placeholder begins and placeholders between them. An
interpolation keeps the plain texts and replaces the placeholders by the texts of their names' values; so what is put
in is not searched for placeholders, and only the variables of these names count. -/
theorem exists_unique_segments (text : String) :
    (∃! s : Segments, s.source = text.toList ∧ s.IsProper) ∧
    ∀ s : Segments, s.source = text.toList → s.IsProper →
      (∀ bindings context, interpolate text bindings context = String.ofList (s.filled bindings context)) ∧
      ∀ bindings other context,
        (∀ name ∈ s.names, Entries.get? bindings name = Entries.get? other name) →
        interpolate text bindings context = interpolate text other context := by
  refine ⟨⟨segments text.toList, isProper_iff.mpr rfl, fun s h => isProper_iff.mp h⟩, ?_⟩
  intro s hsource hproper
  obtain rfl := isProper_iff.mp ⟨hsource, hproper⟩
  refine ⟨interpolate_eq_filled text, fun bindings other context hnames => ?_⟩
  rw [interpolate_eq_filled, interpolate_eq_filled, Segments.filled_congr context hnames]

/-- A brace too many, a placeholder with blanks and one without. -/
def braces : Segments := .next ['\x7b'] ⟨[' '], ['a'], ['\t']⟩ (.next [' '] ⟨[], ['b'], []⟩ (.last []))

/-- The value of `a` is written as a placeholder, and `b` has none. -/
theorem exists_unique_segments_braces :
    let text := "\x7b\x7b\x7b a\t\x7d\x7d \x7b\x7bb\x7d\x7d"
    let bindings : Variables := [("a", .text "\x7b\x7bc\x7d\x7d"), ("c", .int 1)]
    braces.source = text.toList ∧ braces.IsProper ∧
      interpolate text bindings .standIn = "\x7b\x7b\x7bc\x7d\x7d \x7b\x7bb\x7d\x7d" ∧
      (∀ name ∈ braces.names, Entries.get? bindings name = Entries.get? (Entries.erase bindings "c") name) ∧
      interpolate text bindings .standIn = interpolate text (Entries.erase bindings "c") .standIn := by
  intro text bindings
  have hsource : braces.source = text.toList := by decide
  have hplain : ∀ (c : Char) (after : List Char), takePlaceholder? (c :: after) = none → IsPlain [c] after :=
    fun c after h => isPlain_cons.mpr ⟨takePlaceholder?_eq_none_iff.mp h, isPlain_nil after⟩
  have hall : ∀ {kind : Char → Bool} {cs : List Char}, cs.all kind = true → ∀ c ∈ cs, kind c = true :=
    List.all_eq_true.mp
  have hproper : braces.IsProper :=
    ⟨hplain _ _ (by decide), ⟨hall rfl, ⟨List.cons_ne_nil _ _, hall rfl⟩, hall rfl⟩,
      hplain _ _ (by decide), ⟨hall rfl, ⟨List.cons_ne_nil _ _, hall rfl⟩, hall rfl⟩, isPlain_nil []⟩
  have hnames : ∀ name ∈ braces.names,
      Entries.get? bindings name = Entries.get? (Entries.erase bindings "c") name := by
    intro name hname
    rcases List.mem_cons.mp hname with rfl | hname
    · rfl
    · obtain rfl := List.mem_singleton.mp hname
      rfl
  have hfilled := (exists_unique_segments text).2 braces hsource hproper
  exact ⟨hsource, hproper, (hfilled.1 bindings .standIn).trans (by decide), hnames, hfilled.2 _ _ _ hnames⟩

end Template

end CommandFlow
