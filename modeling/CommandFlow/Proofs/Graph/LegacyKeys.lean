import CommandFlow.Graph.Document
import CommandFlow.Proofs.Schema.Rekeyed
import Mathlib.Data.List.Forall2

/-!
# Legacy keys

The data of conditions, of random numbers and of calculations may be given under keys that older editors wrote.

* `NodeType.legacyKeys` : these keys with the current ones; `DataRenewed`, `NodeRenewed` : some of them are replaced
  by the current ones, in the data and in a node;
* `currentPlace` : the place of a fault with the current key instead of a legacy one;
* `placed_read_data`, `placed_read_node` : data and nodes are read alike when they are renewed;
* `GraphDocument.read_renewed` : so is the document of a graph.
-/

namespace CommandFlow

open Schema

/-! ## Keys -/

/-- The legacy keys of the data of a node of the kind, each with the current key of its field. -/
def NodeType.legacyKeys : NodeType → Entries String
  | ifCondition => [("leftValue", "variable"), ("rightValue", "value")]
  | random => [("outputVariable", "variableName")]
  | mathOperation =>
    [("leftOperand", "operand1"), ("rightOperand", "operand2"), ("outputVariable", "resultVariable")]
  | _ => []

/-- The current key of what stands under a key in the data of a node of the kind. -/
def NodeType.currentKey (type : NodeType) (name : String) : String :=
  (Entries.get? type.legacyKeys name).getD name

/-- A current key is the one that its field is written under, and the legacy key is the next to be looked for. -/
theorem NodeType.legacyKeys_sound {type : NodeType} {legacy current : String}
    (h : (legacy, current) ∈ type.legacyKeys) :
    legacy ≠ current ∧ type.currentKey current = type.currentKey legacy ∧
      (dataFields type).AllKeys (Renews legacy current) ∧ legacy ∈ (dataFields type).keys := by
  cases type <;> simp only [legacyKeys, List.mem_cons, List.not_mem_nil, or_false, Prod.mk.injEq] at h
  case ifCondition =>
    rcases h with ⟨rfl, rfl⟩ | ⟨rfl, rfl⟩ <;>
      simp [currentKey, legacyKeys, Entries.get?, dataFields, testFields, textField, optionalText,
        Fields.AllKeys, Fields.keys, Renews]
  case random =>
    obtain ⟨rfl, rfl⟩ := h
    simp [currentKey, legacyKeys, Entries.get?, dataFields, drawFields, textField, Fields.AllKeys,
      Fields.keys, Renews]
  case mathOperation =>
    rcases h with ⟨rfl, rfl⟩ | ⟨rfl, rfl⟩ | ⟨rfl, rfl⟩ <;>
      simp [currentKey, legacyKeys, Entries.get?, dataFields, arithmeticFields, textField, Fields.AllKeys,
        Fields.keys, Renews]

/-! ## Data -/

/-- Some legacy keys of the data are replaced by their current ones, each where nothing stands under this one. -/
inductive DataRenewed (type : NodeType) (data : Entries Value) : Entries Value → Prop
  | same : DataRenewed type data data
  | renew {before after : Entries Value} {legacy current : String} : DataRenewed type data before →
      (legacy, current) ∈ type.legacyKeys → Rekeyed legacy current before after → DataRenewed type data after

/-- Data are read alike, up to the key that faults name. -/
theorem placed_read_data (source : Source) {type : NodeType} {data after : Entries Value}
    (h : DataRenewed type data after) :
    let shape := Shape.record (dataFields type) true
    placed (atKey type.currentKey) (shape.read source (.object after)) =
      placed (atKey type.currentKey) (shape.read source (.object data)) := by
  intro shape
  induction h with
  | same => rfl
  | renew _ hkeys hrekeyed ih =>
    obtain ⟨hne, hcurrent, hrenews, hlegacy⟩ := NodeType.legacyKeys_sound hkeys
    exact (hrekeyed.placed_read hne source hcurrent hrenews hlegacy true).trans ih

/-! ## Nodes -/

/-- The kind that the document of a node says. -/
def nodeType? (members : Entries Value) : Option NodeType :=
  match Entries.get? members "type" with
  | some (.text s) => NodeType.ofName? s
  | _ => none

/-- Some legacy keys in the data of the node are replaced. A node of no kind has no data to speak of. -/
inductive NodeRenewed : Value → Value → Prop
  | same (v : Value) : NodeRenewed v v
  | data {members data after : Entries Value} : Entries.get? members "data" = some (.object data) →
      (∀ type, nodeType? members = some type → DataRenewed type data after) →
      NodeRenewed (.object members) (.object (Entries.insert members "data" (.object after)))

/-- The place of a fault of a node with the current key instead of a legacy one. -/
def currentNodePlace : PlaceMap
  | .key name :: path =>
    match NodeType.ofName? name with
    | some type => .key name :: inKey "data" (atKey type.currentKey) path
    | none => .key name :: path
  | path => path

/-- Nodes are read alike, up to the key that faults name. -/
theorem placed_read_node (source : Source) {v after : Value} (h : NodeRenewed v after) :
    placed currentNodePlace (nodeShape.read source after) =
      placed currentNodePlace (nodeShape.read source v) := by
  cases h with
  | same => rfl
  | @data members data after hdata hrenewed =>
    apply placed_read_variant_insert hdata (by decide)
    intro s type hs htype
    have hkind : nodeType? members = some type := by
      unfold nodeType?
      rw [hs]
      exact htype
    refine ⟨(nodeFields type).mem_given hdata (by simp [nodeFields, Fields.writtenKeys]),
      inKey "data" (atKey type.currentKey), ?_, ?_, ?_, ?_, trivial⟩
    · intro path
      show (match NodeType.ofName? s with
        | some type => PathStep.key s :: inKey "data" (atKey type.currentKey) path
        | none => .key s :: path) = _
      rw [show NodeType.ofName? s = some type from htype]
    · exact readAlike_of_not_mem (by decide) _ _ _ _
    · exact readAlike_of_not_mem (by decide) _ _ _ _
    · exact readAlike_insert hdata (inKey_self "data" (atKey type.currentKey))
        (placed_read_data source (hrenewed type hkind)) _

/-! ## Graphs -/

/-- The place of a fault of a graph with the current key instead of a legacy one. -/
def currentPlace : PlaceMap := inKey "nodes" (inItems currentNodePlace)

namespace GraphDocument

/-- Legacy keys in the data of nodes mean the same as the current ones: with some of them replaced, a document that is
accepted is read as before, members that are no fields included, and a document that is refused is refused with the
same kinds of faults at the same places, up to the key. -/
theorem read_renewed (source : Source) {members : Entries Value} {nodes renewed : List Value}
    (hnodes : Entries.get? members "nodes" = some (.list nodes))
    (h : List.Forall₂ NodeRenewed nodes renewed) :
    let after := Value.object (Entries.insert members "nodes" (.list renewed))
    (∀ document, read source (.object members) = .ok document → read source after = .ok document) ∧
    (∀ faults, read source (.object members) = .error faults → ∃ again, read source after = .error again ∧
      again.map (·.moved currentPlace) = faults.map (·.moved currentPlace)) := by
  intro after
  have hitems : placed (inItems currentNodePlace) ((Shape.list nodeShape).read source (.list renewed)) =
      placed (inItems currentNodePlace) ((Shape.list nodeShape).read source (.list nodes)) := by
    apply placed_readItems
    exact h.imp fun _ _ hnode => placed_read_node source hnode
  have hread : placed currentPlace (read source after) = placed currentPlace (read source (.object members)) := by
    apply placed_read_insert hnodes _ (graphFields.mem_given hnodes (by simp [graphFields, Fields.writtenKeys]))
    refine ⟨?_, ?_, ?_, ?_, trivial⟩
    · exact readAlike_insert hnodes (inKey_self "nodes" (inItems currentNodePlace)) hitems _
    · exact readAlike_of_not_mem (by decide) _ _ _ _
    · exact readAlike_of_not_mem (by decide) _ _ _ _
    · exact readAlike_of_not_mem (by decide) _ _ _ _
  refine ⟨fun document hdocument => ?_, fun faults hfaults => ?_⟩
  · rw [placed_eq_ok.mpr hdocument] at hread
    exact placed_eq_ok.mp hread
  · rw [hfaults] at hread
    obtain ⟨again, hagain, hmoved⟩ := placed_eq_error.mp hread
    exact ⟨again, hagain, hmoved⟩

def origin : Value := .object [("x", .float .zero), ("y", .float .zero)]

/-- A condition and a draw with legacy keys, beside members that are no fields. The draw writes into the target. -/
def outdated (target : Value) : List Value :=
  [.object [("type", .text "IF_CONDITION"), ("id", .text "test"), ("position", origin),
      ("data", .object [("leftValue", .text "x"), ("rightValue", .null), ("note", .null)])],
    .object [("type", .text "RANDOM"), ("data", .object [("outputVariable", target),
      ("variable_name", .text "kept")]), ("id", .text "draw"), ("position", origin)]]

/-- The same with current keys, which stand behind the others in the condition. -/
def updated (target : Value) : List Value :=
  [.object [("type", .text "IF_CONDITION"), ("id", .text "test"), ("position", origin),
      ("data", .object [("note", .null), ("variable", .text "x"), ("value", .null)])],
    .object [("type", .text "RANDOM"), ("data", .object [("variableName", target),
      ("variable_name", .text "kept")]), ("id", .text "draw"), ("position", origin)]]

theorem renewed_updated (target : Value) : List.Forall₂ NodeRenewed (outdated target) (updated target) := by
  refine .cons ?_ (.cons ?_ .nil)
  · refine NodeRenewed.data rfl fun type htype => ?_
    cases htype
    have hfirst : DataRenewed .ifCondition
        [("leftValue", .text "x"), ("rightValue", .null), ("note", .null)]
        [("rightValue", .null), ("note", .null), ("variable", .text "x")] :=
      .renew .same List.mem_cons_self ⟨rfl, rfl, rfl⟩
    exact .renew hfirst (List.mem_cons_of_mem _ List.mem_cons_self) ⟨rfl, rfl, rfl⟩
  · refine NodeRenewed.data rfl fun type htype => ?_
    cases htype
    exact .renew .same List.mem_cons_self ⟨rfl, rfl, rfl⟩

theorem read_renewed_updated :
    List.Forall₂ NodeRenewed (outdated (.text "die")) (updated (.text "die")) ∧
    (∃ document, read .request (.object [("nodes", .list (outdated (.text "die")))]) = .ok document ∧
      read .request (.object [("nodes", .list (updated (.text "die")))]) = .ok document) ∧
    List.Forall₂ NodeRenewed (outdated (.int 6)) (updated (.int 6)) ∧
    ∃ faults again, read .request (.object [("nodes", .list (outdated (.int 6)))]) = .error faults ∧
      read .request (.object [("nodes", .list (updated (.int 6)))]) = .error again ∧
      again.map (·.moved currentPlace) = faults.map (·.moved currentPlace) := by
  have hnodes (target : Value) : Entries.get? [("nodes", Value.list (outdated target))] "nodes" =
      some (.list (outdated target)) := rfl
  have haccepted := (read_renewed .request (hnodes (.text "die")) (renewed_updated (.text "die"))).1 _ rfl
  obtain ⟨again, hagain, hmoved⟩ :=
    (read_renewed .request (hnodes (.int 6)) (renewed_updated (.int 6))).2 _ rfl
  exact ⟨renewed_updated _, ⟨_, rfl, haccepted⟩, renewed_updated _, _, again, rfl, hagain, hmoved⟩

/-- The place of the fault is the same, but for the key. -/
example :
    (read .request (.object [("nodes", .list (outdated (.int 6)))])).mapError (·.map (·.path)) =
      .error [[.key "nodes", .index 1, .key "RANDOM", .key "data", .key "outputVariable"]] ∧
    (read .request (.object [("nodes", .list (updated (.int 6)))])).mapError (·.map (·.path)) =
      .error [[.key "nodes", .index 1, .key "RANDOM", .key "data", .key "variableName"]] := by
  exact ⟨rfl, rfl⟩

end GraphDocument

end CommandFlow
