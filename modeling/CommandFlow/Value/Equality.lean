import CommandFlow.Value.Basic

/-!
# Equality of values

* `Value.same` : the two values are the same, which can be computed; `Value.same_iff` : it is equality.
-/

namespace CommandFlow.Value

mutual

def same : Value → Value → Bool
  | null, null => true
  | bool b, bool b' => b == b'
  | int i, int i' => i == i'
  | float x, float x' => x == x'
  | text s, text s' => s == s'
  | list items, list items' => areSame items items'
  | object members, object members' => membersSame members members'
  | _, _ => false

def areSame : List Value → List Value → Bool
  | [], [] => true
  | v :: rest, v' :: rest' => same v v' && areSame rest rest'
  | _, _ => false

def membersSame : List (String × Value) → List (String × Value) → Bool
  | [], [] => true
  | (name, v) :: rest, (name', v') :: rest' => name == name' && same v v' && membersSame rest rest'
  | _, _ => false

end

mutual

theorem same_iff : {v w : Value} → (same v w = true ↔ v = w)
  | .null, w => by cases w <;> simp [same]
  | .bool b, w => by cases w <;> simp [same]
  | .int i, w => by cases w <;> simp [same]
  | .float x, w => by cases w <;> simp [same]
  | .text s, w => by cases w <;> simp [same]
  | .list items, w => by cases w <;> simp [same, areSame_iff]
  | .object members, w => by cases w <;> simp [same, membersSame_iff]

theorem areSame_iff : {items items' : List Value} → (areSame items items' = true ↔ items = items')
  | [], items' => by cases items' <;> simp [areSame]
  | v :: rest, items' => by cases items' <;> simp [areSame, same_iff, areSame_iff]

theorem membersSame_iff : {members members' : List (String × Value)} →
    (membersSame members members' = true ↔ members = members')
  | [], members' => by cases members' <;> simp [membersSame]
  | (name, v) :: rest, members' => by
    cases members' <;> simp [membersSame, same_iff, membersSame_iff, Prod.ext_iff]

end

instance : DecidableEq Value := fun _ _ => decidable_of_iff _ same_iff

end CommandFlow.Value
