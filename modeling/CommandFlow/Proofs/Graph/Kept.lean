import CommandFlow.Proofs.Graph.Saving
import CommandFlow.Proofs.Schema.Kept

/-!
# What editors write beside the fields

* `GraphDocument.keeps_of_read` : a document that is read and written has the same members beside its fields;
* `GraphDocument.annotated` : a document with such members in all its records.
-/

namespace CommandFlow.GraphDocument

open Schema

/-- No data of editors is lost. In the graph, its nodes with their data and positions, its edges and variables, the
fields of embeds and the filters of replies, every member that supplies no field and is not null is written at the
same place with the same value. Nothing else is written, apart from the keys of the fields. -/
theorem keeps_of_read {source : Source} {v : Value} {document : GraphDocument} (hfinite : v.isFinite = true)
    (h : read source v = .ok document) : graphShape.Keeps v document.write := by
  obtain ⟨hapart, hsettled⟩ := graphShape_sound
  exact graphShape.keeps_write hapart hsettled v (finiteOnly_of_isFinite hfinite) document h

/-! ## An example -/

/-- A document with members beside the fields in every kind of record, some of them null and some with null inside. -/
def annotated : Value :=
  let note : Value := .object [("seen", .null), ("by", .list [.null, .int 1])]
  let position : Value := .object [("x", .float .zero), ("y", .float .zero), ("note", note)]
  .object [("nodes", .list [
      .object [("type", .text "SEND_EMBED"), ("id", .text "show"), ("position", position), ("width", .null),
        ("data", .object [("fields", .list [.object [("name", .text "first"), ("note", note)]]),
          ("variable", note)])],
      .object [("type", .text "AWAIT_REPLY"), ("id", .text "ask"), ("position", position), ("note", note),
        ("data", .object [("variable_name", .text "x"), ("leftValue", .null),
          ("filter", .object [("userId", .null), ("user_id", note)])])]]),
    ("edges", .list [.object [("id", .text "1"), ("source", .text "show"), ("target", .text "ask"),
      ("note", note)]]),
    ("variables", .object [("x", .object [("name", .text "x"), ("note", note)])]),
    ("draft", .null), ("note", note)]

theorem keeps_annotated : annotated.isFinite = true ∧
    ∃ document, read .request annotated = .ok document ∧ graphShape.Keeps annotated document.write := by
  have hread : ∃ document, read .request annotated = .ok document := ⟨_, rfl⟩
  obtain ⟨document, h⟩ := hread
  exact ⟨rfl, document, h, keeps_of_read rfl h⟩

end CommandFlow.GraphDocument
