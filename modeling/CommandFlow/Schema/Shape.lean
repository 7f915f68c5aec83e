import CommandFlow.Uuid
import CommandFlow.Value.Basic

/-!
# Shapes of documents

* `Vocabulary` : a closed set of words that a field may hold;
* `Shape`, `Fields` : what a part of a document and the fields of a record may hold;
* `Shape.Carrier`, `Fields.Carrier` : the type of what is read from such a part. A record that keeps
  unknown members carries them beside its fields.
-/

namespace CommandFlow.Schema

/-- A closed set of words, each with its name. -/
structure Vocabulary where
  Word : Type
  name : Word → String
  ofName? : String → Option Word
  ofName?_name : ∀ word, ofName? (name word) = some word

/-- How a word that is none of its set is refused. -/
inductive Refusal where
  | choice
  | member
  deriving DecidableEq

mutual

/-- What a part of a document may hold. -/
inductive Shape : Type 1 where
  /-- A text. -/
  | text
  /-- A text whose length is within bounds. -/
  | sized (least most : Nat)
  /-- An integer. -/
  | integer
  /-- A floating-point number. -/
  | number
  /-- A truth value. -/
  | flag
  /-- An identifier. -/
  | uuid
  /-- Any value. -/
  | anything
  /-- A word of a closed set. -/
  | word (vocabulary : Vocabulary) (refusal : Refusal)
  /-- Null, or what the shape says. -/
  | optional (shape : Shape)
  /-- A list of parts of one shape. -/
  | list (shape : Shape)
  /-- An object whose members all have one shape. -/
  | map (shape : Shape)
  /-- An object with known fields; other members are kept or dropped. -/
  | record (fields : Fields) (keepsOthers : Bool)
  /-- An object whose fields depend on the word that a tag holds; other members are kept. -/
  | variant (tag : String) (vocabulary : Vocabulary) (fields : vocabulary.Word → Fields)

/-- The fields of a record. A field has a key, under which it is written, and other keys under which
it may be given; the first that is present counts. A field without a fallback has to be given. -/
inductive Fields : Type 1 where
  | nil
  | cons (key : String) (others : List String) (shape : Shape) (fallback : Option Value)
      (rest : Fields)

end

mutual

def Shape.Carrier : Shape → Type
  | .text => String
  | .sized _ _ => String
  | .integer => Int
  | .number => Binary64
  | .flag => Bool
  | .uuid => Uuid
  | .anything => Value
  | .word vocabulary _ => vocabulary.Word
  | .optional shape => Option shape.Carrier
  | .list shape => List shape.Carrier
  | .map shape => Entries shape.Carrier
  | .record fields _ => fields.Carrier × Entries Value
  | .variant _ vocabulary fields =>
    (word : vocabulary.Word) × ((fields word).Carrier × Entries Value)

def Fields.Carrier : Fields → Type
  | .nil => Unit
  | .cons _ _ shape _ rest => shape.Carrier × rest.Carrier

end

end CommandFlow.Schema
