import CommandFlow.Text.Ranges

/-!
# White space

* `isBlank` : white space of any script;
* `strip` : a text without the white space at its two ends;
* `stripChars_eq_self` : a row of characters without white space is its own stripped form.
-/

namespace CommandFlow.Text

/-- The white space characters, as closed ranges of code points. -/
def blankRanges : List (Nat × Nat) := [
  (0x9, 0xD), (0x1C, 0x20), (0x85, 0x85), (0xA0, 0xA0), (0x1680, 0x1680), (0x2000, 0x200A),
  (0x2028, 0x2029), (0x202F, 0x202F), (0x205F, 0x205F), (0x3000, 0x3000)]

/-- A white space character; the zero-width space and the byte order mark are none. -/
def isBlank (c : Char) : Bool := inRanges blankRanges c.toNat

def stripEnd (cs : List Char) : List Char := (cs.reverse.dropWhile isBlank).reverse

def stripChars (cs : List Char) : List Char := stripEnd (cs.dropWhile isBlank)

/-- The text without the white space at its two ends. -/
def strip (s : String) : String := String.ofList (stripChars s.toList)

theorem stripChars_eq_self {cs : List Char} (h : ∀ c ∈ cs, isBlank c = false) :
    stripChars cs = cs := by
  have drop : ∀ ds : List Char, (∀ c ∈ ds, isBlank c = false) → ds.dropWhile isBlank = ds := by
    intro ds hds
    cases ds with
    | nil => rfl
    | cons d rest => simp [hds d (by simp)]
  rw [stripChars, drop cs h, stripEnd, drop _ (by simpa using h), List.reverse_reverse]

end CommandFlow.Text
