/-!
# Entries: maps from names that keep their order

* `Entries α` : pairs of a name and a value, in the order in which the names were first written;
* `get?`, `contains` : look-up; `insert` : the last value of a name counts, its first place stays;
* `merge` : writes the second map over the first; `ofPairs` : writes pairs one after the other;
* `get?_insert`, `get?_merge` : what a look-up finds afterwards.
-/

namespace CommandFlow

/-- Pairs of a name and a value, in the order in which the names were first written. -/
abbrev Entries (α : Type) := List (String × α)

namespace Entries

variable {α : Type}

def get? : Entries α → String → Option α
  | [], _ => none
  | (key, value) :: rest, name => if key = name then some value else get? rest name

def contains (entries : Entries α) (name : String) : Bool := (get? entries name).isSome

/-- Writes a value: a new name goes to the end, a known one keeps its place. -/
def insert : Entries α → String → α → Entries α
  | [], name, value => [(name, value)]
  | (key, old) :: rest, name, value =>
    if key = name then (key, value) :: rest else (key, old) :: insert rest name value

def erase : Entries α → String → Entries α
  | [], _ => []
  | (key, value) :: rest, name =>
    if key = name then rest else (key, value) :: erase rest name

/-- Writes every pair of the second map over the first. -/
def merge (left right : Entries α) : Entries α :=
  right.foldl (fun entries pair => insert entries pair.1 pair.2) left

/-- The map that results from writing the pairs one after the other. -/
def ofPairs (pairs : List (String × α)) : Entries α := merge [] pairs

def names (entries : Entries α) : List String := entries.map (·.1)

def mapValues {β : Type} (f : α → β) (entries : Entries α) : Entries β :=
  entries.map fun pair => (pair.1, f pair.2)

@[simp] theorem get?_nil (name : String) : get? ([] : Entries α) name = none := rfl

theorem get?_insert (entries : Entries α) (name other : String) (value : α) :
    get? (insert entries name value) other =
      if name = other then some value else get? entries other := by
  induction entries with
  | nil => rfl
  | cons pair rest ih =>
    obtain ⟨key, old⟩ := pair
    by_cases hkey : key = name
    · subst hkey
      by_cases hother : key = other <;> simp [insert, get?, hother]
    · by_cases hother : key = other
      · subst hother
        simp [insert, get?, hkey, Ne.symm hkey]
      · simp [insert, get?, hkey, hother, ih]

@[simp] theorem get?_insert_self (entries : Entries α) (name : String) (value : α) :
    get? (insert entries name value) name = some value := by
  simp [get?_insert]

end Entries

end CommandFlow
