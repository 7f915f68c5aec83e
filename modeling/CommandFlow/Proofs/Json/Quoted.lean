import CommandFlow.Json.Reader
import CommandFlow.Text.Quoted
import Mathlib.Data.List.Basic
import Mathlib.Tactic.IntervalCases

/-!
# Quoted texts as JSON

* `Text.hexPadded_four` : the four hexadecimal digits of a code unit; `Json.codeUnit?_digitChars` : they are read as it;
* `Json.IsLegibleChar` : a character whose quoted form is not foreign to JSON; `Json.readChars_quoteChar` : it is read
  as itself;
* `Json.IsLegible` : a text whose quoted form is JSON; `Json.readText_quote` : it is read as the text.
-/

namespace CommandFlow

/-! ## Hexadecimal digits -/

theorem Text.hexPadded_succ {width : Nat} (hwidth : 0 < width) (n : Nat) :
    hexPadded (width + 1) n = hexPadded width (n / 0x10) ++ [Nat.digitChar (n % 0x10)] := by
  unfold hexPadded
  dsimp only
  rcases Nat.lt_or_ge n 0x10 with hlt | hge
  · obtain ⟨k, rfl⟩ : ∃ k, width = k + 1 := ⟨width - 1, by omega⟩
    rw [Nat.toDigits_of_lt_base hlt, Nat.div_eq_of_lt hlt, Nat.mod_eq_of_lt hlt]
    simp [Nat.toDigits_of_lt_base, List.replicate_succ', Nat.digitChar]
  · rw [Nat.toDigits_of_base_le (by decide) hge, List.length_append, List.length_singleton, Nat.add_sub_add_right,
      List.append_assoc]

theorem Text.hexPadded_four {n : Nat} (h : n < 0x10000) : hexPadded 4 n =
    [Nat.digitChar (n / 0x1000), Nat.digitChar (n / 0x100 % 0x10), Nat.digitChar (n / 0x10 % 0x10),
      Nat.digitChar (n % 0x10)] := by
  have hfirst : n / 0x10 / 0x10 / 0x10 = n / 0x1000 := by omega
  have hone : hexPadded 1 (n / 0x1000) = [Nat.digitChar (n / 0x1000)] := by
    rw [hexPadded, Nat.toDigits_of_lt_base (by omega)]
    rfl
  rw [hexPadded_succ (by decide), hexPadded_succ (by decide), hexPadded_succ (by decide), hfirst, hone]
  simp only [Nat.div_div_eq_div_mul, Nat.reduceMul, List.cons_append, List.nil_append]

namespace Json

theorem hexValue?_digitChar {d : Nat} (h : d < 0x10) : Text.hexValue? (Nat.digitChar d) = some d := by
  interval_cases d <;> decide

theorem codeUnit?_digitChars {n : Nat} (h : n < 0x10000) :
    codeUnit? (Nat.digitChar (n / 0x1000)) (Nat.digitChar (n / 0x100 % 0x10)) (Nat.digitChar (n / 0x10 % 0x10))
      (Nat.digitChar (n % 0x10)) = some n := by
  have hvalue : Text.ofDigits 16 [n / 0x1000, n / 0x100 % 0x10, n / 0x10 % 0x10, n % 0x10] = n := by
    simp only [Text.ofDigits, List.foldl_cons, List.foldl_nil]
    omega
  simp only [codeUnit?, List.mapM_cons, List.mapM_nil, hexValue?_digitChar (show n / 0x1000 < 0x10 by omega),
    hexValue?_digitChar (Nat.mod_lt _ (show 0 < 0x10 by decide)), Option.pure_def, Option.bind_eq_bind,
    Option.bind_some, Option.map_some, hvalue]

theorem isSurrogate_toNat (c : Char) : isHighSurrogate c.toNat = false ∧ isLowSurrogate c.toNat = false := by
  have hvalid : c.toNat < 0xD800 ∨ 0xDFFF < c.toNat := by
    rcases c.valid with hlow | hhigh
    · exact .inl hlow
    · exact .inr hhigh.1
  simp only [isHighSurrogate, isLowSurrogate, Bool.and_eq_false_iff, decide_eq_false_iff_not]
  omega

theorem ofCodeUnit_toNat (half : Nat → Char) (c : Char) : ofCodeUnit half c.toNat = c := by
  obtain ⟨hhigh, hlow⟩ := isSurrogate_toNat c
  rw [ofCodeUnit, hhigh, hlow, Bool.or_false, if_neg Bool.false_ne_true, Char.ofNat_toNat]

/-! ## The characters of a quoted text -/

theorem readChars_plain {c : Char} (hquote : c ≠ '"') (hescape : c ≠ '\\') (hcontrol : ¬ c.toNat < 0x20)
    (half : Nat → Char) (start : Nat)
    (rest : List Char) : readChars half start (c :: rest) = prepend c (readChars half start rest) := by
  rw [readChars, if_neg hcontrol]
  · exact hquote
  · exact fun h _ => hescape h
  · exact fun _ _ _ _ _ h _ => hescape h
  · exact fun _ h _ => hescape h
  · exact fun _ _ h _ => hescape h

theorem readChars_unitEscape {a b c d : Char} {n : Nat} (hunit : codeUnit? a b c d = some n)
    (hhigh : isHighSurrogate n = false) (half : Nat → Char) (start : Nat) {rest : List Char} (hrest : rest ≠ []) :
    readChars half start ('\\' :: 'u' :: a :: b :: c :: d :: rest) =
      prepend (ofCodeUnit half n) (readChars half start rest) := by
  rw [readChars, if_neg (by simpa using hrest), hunit]
  dsimp only
  split
  · rw [hhigh, Bool.false_and, if_neg Bool.false_ne_true]
  · rfl

/-- What a quoted form may show of a text that is read as JSON: visible characters, and those whose escape JSON has. -/
def IsLegibleChar (c : Char) : Prop :=
  Text.isPrintable c = true ∨ c ∈ ['\n', '\r', '\t'] ∨ 0x100 ≤ c.toNat ∧ c.toNat < 0x10000

instance : DecidablePred IsLegibleChar := fun c =>
  inferInstanceAs (Decidable (Text.isPrintable c = true ∨ c ∈ ['\n', '\r', '\t'] ∨ 0x100 ≤ c.toNat ∧ c.toNat < 0x10000))

theorem le_of_isPrintable {c : Char} (h : Text.isPrintable c = true) : ¬ c.toNat < 0x20 := by
  intro hlt
  rw [Text.isPrintable, if_pos (by omega)] at h
  simp only [Bool.and_eq_true, decide_eq_true_eq] at h
  omega

theorem readChars_quoteChar {c : Char} (h : IsLegibleChar c) (hquote : c ≠ '"') (half : Nat → Char) (start : Nat)
    {rest : List Char} (hrest : rest ≠ []) :
    readChars half start (Text.quoteChar '"' c ++ rest) = prepend c (readChars half start rest) := by
  unfold Text.quoteChar
  split_ifs with hescape hline hreturn htab hprintable
  · obtain rfl : c = '\\' := by simpa [hquote] using hescape
    rfl
  · obtain rfl : c = '\n' := by simpa using hline
    rfl
  · obtain rfl : c = '\r' := by simpa using hreturn
    rfl
  · obtain rfl : c = '\t' := by simpa using htab
    rfl
  · have hne : c ≠ '\\' := fun hslash => hescape (by simp [hslash])
    exact readChars_plain hquote hne (le_of_isPrintable hprintable) half start rest
  · simp only [beq_iff_eq] at hline hreturn htab
    have hwide : 0x100 ≤ c.toNat ∧ c.toNat < 0x10000 := by
      rcases h with hvisible | hmem | hwide
      · exact absurd hvisible hprintable
      · simp [hline, hreturn, htab] at hmem
      · exact hwide
    rw [Text.escapeHidden, if_neg (Nat.not_lt.mpr hwide.1), if_pos hwide.2, Text.hexPadded_four hwide.2]
    exact (readChars_unitEscape (codeUnit?_digitChars hwide.2) (isSurrogate_toNat c).1 half start hrest).trans
      (by rw [ofCodeUnit_toNat])

theorem readChars_quoted {cs : List Char} (h : ∀ c ∈ cs, IsLegibleChar c) (hquote : '"' ∉ cs) (half : Nat → Char)
    (start : Nat)
    (rest : List Char) : readChars half start (cs.flatMap (Text.quoteChar '"') ++ '"' :: rest) = .ok (cs, rest) := by
  induction cs with
  | nil => rfl
  | cons c cs ih =>
    rw [List.mem_cons, not_or] at hquote
    rw [List.flatMap_cons, List.append_assoc, readChars_quoteChar (h c List.mem_cons_self) (Ne.symm hquote.1) half start
      (by simp), ih (fun d hd => h d (List.mem_cons_of_mem c hd)) hquote.2]
    rfl

/-! ## Texts -/

/-- The quoted form of a text is JSON: it stands between double marks, and each character is legible. -/
structure IsLegible (s : String) : Prop where
  single : '\'' ∈ s.toList
  double : '"' ∉ s.toList
  chars : ∀ c ∈ s.toList, IsLegibleChar c

theorem IsLegible.quote_eq {s : String} (h : IsLegible s) :
    (Text.quote s).toList = '"' :: (s.toList.flatMap (Text.quoteChar '"') ++ ['"']) := by
  have hmark : Text.delimiter s.toList = '"' := by simp [Text.delimiter, h.single, h.double]
  rw [Text.quote, hmark, String.toList_ofList]

theorem readText_quote {s : String} (h : IsLegible s) (half : Nat → Char) (rest : List Char) :
    readText half (s.toList.flatMap (Text.quoteChar '"') ++ '"' :: rest) = .ok (s, rest) := by
  rw [readText, readChars_quoted h.chars h.double]
  exact congrArg (fun read => Except.ok (read, rest)) String.ofList_toList

end Json

end CommandFlow
