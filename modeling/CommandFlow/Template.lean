import CommandFlow.Context
import CommandFlow.Text.Numeral
import CommandFlow.Text.Word
import CommandFlow.Value.Text

/-!
# Templates: texts with placeholders

A placeholder is a name between double braces, with blanks around the name if wanted.

* `Placeholder`, `Placeholder.source` : a placeholder and the way it is written;
* `takePlaceholder?` : the placeholder at the front of a text;
* `pieces` : a text as its plain characters and placeholders, from left to right;
* `lookup` : the value of a name: a variable, or an attribute of the context;
* `interpolate` : the text with every placeholder whose name has a value replaced by its text;
* `resolveReference`, `resolveOperand` : the value that a field of a node refers to;
* `fill`, `fillValue`, `fillOperand` : the same as nodes come by it, unless a value on the way cannot be written;
* `flatMap_source_pieces` : the pieces of a text, as written, are the text.
-/

namespace CommandFlow.Template

/-! ## Placeholders -/

/-- A placeholder: the blanks before the name, the name, and the blanks after it. -/
structure Placeholder where
  lead : List Char
  name : List Char
  trail : List Char

def Placeholder.source (p : Placeholder) : List Char :=
  '\x7b' :: '\x7b' :: (p.lead ++ p.name ++ p.trail ++ ['\x7d', '\x7d'])

def isNameChar (c : Char) : Bool := Text.isWord c || c == '.'

def takePlaceholder? : List Char → Option (Placeholder × List Char)
  | '\x7b' :: '\x7b' :: inside =>
    let atName := inside.dropWhile Text.isBlank
    let afterName := atName.dropWhile isNameChar
    let name := atName.takeWhile isNameChar
    match afterName.dropWhile Text.isBlank with
    | '\x7d' :: '\x7d' :: rest =>
      if name.isEmpty then none
      else some (⟨inside.takeWhile Text.isBlank, name, afterName.takeWhile Text.isBlank⟩, rest)
    | _ => none
  | _ => none

theorem source_append_of_takePlaceholder? {cs rest : List Char} {p : Placeholder}
    (h : takePlaceholder? cs = some (p, rest)) : p.source ++ rest = cs := by
  unfold takePlaceholder? at h
  split at h
  · rename_i inside
    dsimp only at h
    split at h
    · rename_i after hafter
      split at h
      · cases h
      · cases h
        have h1 := List.takeWhile_append_dropWhile (p := Text.isBlank) (l := inside)
        have h2 := List.takeWhile_append_dropWhile (p := isNameChar)
          (l := inside.dropWhile Text.isBlank)
        have h3 := List.takeWhile_append_dropWhile (p := Text.isBlank)
          (l := (inside.dropWhile Text.isBlank).dropWhile isNameChar)
        rw [hafter] at h3
        simp only [Placeholder.source, List.cons_append, List.append_assoc, List.nil_append]
        rw [h3, h2, h1]
    · cases h
  · cases h

theorem length_lt_of_takePlaceholder? {cs rest : List Char} {p : Placeholder}
    (h : takePlaceholder? cs = some (p, rest)) : rest.length < cs.length := by
  rw [← source_append_of_takePlaceholder? h]
  simp [Placeholder.source]
  omega

/-! ## Pieces -/

inductive Piece where
  | plain (c : Char)
  | hole (p : Placeholder)

def Piece.source : Piece → List Char
  | plain c => [c]
  | hole p => p.source

/-- A text as its plain characters and placeholders, from left to right. -/
def pieces (cs : List Char) : List Piece :=
  match cs with
  | [] => []
  | c :: rest =>
    match _ : takePlaceholder? (c :: rest) with
    | some (p, after) => .hole p :: pieces after
    | none => .plain c :: pieces rest
termination_by cs.length
decreasing_by
  · exact length_lt_of_takePlaceholder? (by assumption)
  · simp

theorem pieces_of_takePlaceholder? {cs rest : List Char} {p : Placeholder}
    (h : takePlaceholder? cs = some (p, rest)) : pieces cs = .hole p :: pieces rest := by
  cases cs with
  | nil => cases h
  | cons c after =>
    rw [pieces]
    split
    · rename_i q tail hq
      cases hq.symm.trans h
      rfl
    · rename_i hnone
      cases hnone.symm.trans h

theorem pieces_cons {c : Char} {rest : List Char} (h : takePlaceholder? (c :: rest) = none) :
    pieces (c :: rest) = .plain c :: pieces rest := by
  rw [pieces]
  split
  · rename_i q tail hq
    cases hq.symm.trans h
  · rfl

theorem flatMap_source_pieces (cs : List Char) : (pieces cs).flatMap Piece.source = cs := by
  induction cs using pieces.induct with
  | case1 => simp [pieces]
  | case2 c rest p after h ih =>
    simpa [pieces_of_takePlaceholder? h, Piece.source, ih] using source_append_of_takePlaceholder? h
  | case3 c rest h ih => simp [pieces_cons h, Piece.source, ih]

/-! ## Names -/

def placeAttribute? (place : Place) : String → Option Value
  | "id" => some (.text place.id)
  | "name" => some (.text place.name)
  | _ => none

def userAttribute? (user : User) : String → Option Value
  | "id" => some (.text user.id)
  | "username" => some (.text user.username)
  | "mention" => some (.text user.mention)
  | _ => none

/-- The parts of a name before and after its first point. -/
def splitName (name : String) : String × String :=
  let cs := name.toList
  (String.ofList (cs.takeWhile (· != '.')), String.ofList ((cs.dropWhile (· != '.')).drop 1))

def contextValue? (context : Context) (head member : String) : Option Value :=
  if member.isEmpty then none
  else match head with
  | "user" => userAttribute? context.user member
  | "guild" => context.guild.bind (placeAttribute? · member)
  | "channel" => placeAttribute? context.channel member
  | "options" => Entries.get? context.options member
  | _ => none

/-- The value of a name: a variable of that name, or else an attribute of the context. -/
def lookup (name : String) (bindings : Variables) (context : Context) : Option Value :=
  match Entries.get? bindings name with
  | some v => some v
  | none =>
    let (head, member) := splitName name
    contextValue? context head member

/-! ## Substitution -/

/-- What takes the place of a piece: a placeholder whose name has no value stays as written. -/
def Piece.render (bindings : Variables) (context : Context) : Piece → List Char
  | plain c => [c]
  | hole p =>
    match lookup (String.ofList p.name) bindings context with
    | some v => v.toText.toList
    | none => p.source

def interpolate (text : String) (bindings : Variables) (context : Context) : String :=
  String.ofList ((pieces text.toList).flatMap (Piece.render bindings context))

/-- A text with its placeholders replaced; any other value as it is. -/
def interpolateValue (v : Value) (bindings : Variables) (context : Context) : Value :=
  match v with
  | .text s => .text (interpolate s bindings context)
  | v => v

/-- What takes the place of a piece has a text. -/
def Piece.isWritable (bindings : Variables) (context : Context) : Piece → Bool
  | plain _ => true
  | hole p => (lookup (String.ofList p.name) bindings context).all Value.isWritable

/-- What takes the place of the placeholders of a text has a text itself. -/
def isFillable (text : String) (bindings : Variables) (context : Context) : Bool :=
  (pieces text.toList).all (Piece.isWritable bindings context)

/-- The text with its placeholders replaced, if what they stand for can be written. -/
def fill (text : String) (bindings : Variables) (context : Context) : Except IntegerFault String :=
  Value.ifShort (isFillable text bindings context) (interpolate text bindings context)

/-- A text with its placeholders replaced, if what they stand for can be written; any other value as it is. -/
def fillValue (v : Value) (bindings : Variables) (context : Context) : Except IntegerFault Value :=
  match v with
  | .text s => (fill s bindings context).map .text
  | v => .ok v

/-! ## References -/

/-- The name in a text that is one placeholder and nothing else. -/
def soleName? (cs : List Char) : Option String :=
  match takePlaceholder? cs with
  | some (p, []) => some (String.ofList p.name)
  | _ => none

/-- The value that a bare name or a single placeholder refers to. -/
def resolveReference (reference : String) (bindings : Variables) (context : Context) : Value :=
  let cs := Text.stripChars reference.toList
  let name := (soleName? cs).getD (String.ofList cs)
  (lookup name bindings context).getD .null

def hasPlaceholder (cs : List Char) : Bool :=
  (pieces cs).any fun
    | .hole _ => true
    | .plain _ => false

/-- The value of the left side of a condition: what it refers to if that is a value, else the text
itself if it is a numeral or a template. -/
def resolveOperand (reference : String) (bindings : Variables) (context : Context) : Value :=
  match resolveReference reference bindings context with
  | .null =>
    let cs := Text.stripChars reference.toList
    if (soleName? cs).isSome then .null
    else if Text.isNumeral cs || hasPlaceholder cs then
      .text (interpolate (String.ofList cs) bindings context)
    else .null
  | v => v

/-- The value of the left side of a condition is what it refers to, or null: nothing has to be filled in. -/
def isReference (reference : String) (bindings : Variables) (context : Context) : Bool :=
  let cs := Text.stripChars reference.toList
  !(resolveReference reference bindings context).isNull || (soleName? cs).isSome ||
    !(Text.isNumeral cs || hasPlaceholder cs)

/-- The value of the left side of a condition, if what its placeholders stand for can be written. -/
def fillOperand (reference : String) (bindings : Variables) (context : Context) : Except IntegerFault Value :=
  Value.ifShort
    (isReference reference bindings context ||
      isFillable (String.ofList (Text.stripChars reference.toList)) bindings context)
    (resolveOperand reference bindings context)

end CommandFlow.Template
