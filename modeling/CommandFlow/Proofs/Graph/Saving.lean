import CommandFlow.Graph.Document
import CommandFlow.Proofs.Schema.Plain
import CommandFlow.Run.Simulation

/-!
# Saved graphs

* `GraphDocument.Survives` : nothing of a document is lost when it is written;
* `GraphDocument.graph_bare` : the members that are no fields say nothing about the graph;
* `GraphDocument.read_store_write` : a document that survives is read again with the same fields, and runs
  as before;
* `GraphDocument.graph_ne_of_null` : an assignment of null does not survive.
-/

namespace CommandFlow

open Schema

/-! ## The shape of graphs -/

theorem dataFields_sound (type : NodeType) :
    (dataFields type).IsApart ∧ (dataFields type).IsSettled := by
  cases type <;>
    simp [dataFields, labelFields, messageFields, embedFields, embedFieldFields, testFields,
      assignmentFields, readoutFields, replyWaitFields, filterFields, roleChangeFields, callFields,
      delayFields, drawFields, arithmeticFields, textField, optionalText, flagField, scopeField,
      typeField, emptyObject, Fields.IsApart, Shape.IsApart, Fields.IsSettled, Shape.IsSettled,
      Fields.keys, Value.isNull, Value.isPlain, plainItems, plainMembers]

theorem nodeShape_sound : nodeShape.IsApart ∧ nodeShape.IsSettled := by
  have hpart (type : NodeType) : "type" ∉ (nodeFields type).keys ∧ (nodeFields type).IsApart ∧
      (nodeFields type).IsSettled := by
    have h := dataFields_sound type
    simp [nodeFields, positionFields, emptyObject, Fields.IsApart, Shape.IsApart, Fields.IsSettled,
      Shape.IsSettled, Fields.keys, Value.isNull, Value.isPlain, plainMembers, h]
  exact ⟨fun type => ⟨(hpart type).1, (hpart type).2.1⟩, fun type => (hpart type).2.2⟩

theorem graphShape_sound : graphShape.IsApart ∧ graphShape.IsSettled := by
  have h := nodeShape_sound
  simp [graphShape, graphFields, edgeShape, edgeFields, declarationShape, declarationFields,
    optionalText, typeField, scopeField, emptyObject, Fields.IsApart, Shape.IsApart, Fields.IsSettled,
    Shape.IsSettled, Fields.keys, Value.isNull, Value.isPlain, plainItems, plainMembers, h]

/-! ## Graphs and their fields -/

theorem map_bare {α β : Type} {f : α → β} {bare : α → α} (h : ∀ a, f (bare a) = f a)
    (contents : List α) :
    List.map f (List.map bare contents) = List.map f contents :=
  List.map_map.trans (List.map_congr_left fun a _ => h a)

theorem mapValues_bare {α β : Type} {f : α → β} {bare : α → α} (h : ∀ a, f (bare a) = f a)
    (contents : Entries α) :
    Entries.mapValues f (Entries.mapValues bare contents) = Entries.mapValues f contents :=
  map_bare (fun pair => congrArg (Prod.mk pair.1) (h pair.2)) contents

theorem EmbedField.ofContent_bare (content : (Shape.record embedFieldFields true).Carrier) :
    EmbedField.ofContent ((Shape.record embedFieldFields true).bare content) =
      EmbedField.ofContent content := rfl

theorem bare_optionalText (content : (Shape.optional .text).Carrier) :
    (Shape.optional .text).bare content = content := by
  cases content <;> rfl

theorem Behavior.ofContent_bare (type : NodeType) (content : (dataFields type).Carrier) :
    Behavior.ofContent type ((dataFields type).bare content) = Behavior.ofContent type content := by
  cases type with
  | sendMessage =>
    obtain ⟨content, channelId, ephemeral, ⟨⟩⟩ := content
    exact congrArg (fun channelId => Behavior.sendMessage ⟨content, channelId, ephemeral⟩)
      (bare_optionalText channelId)
  | sendEmbed =>
    obtain ⟨title, description, color, footer, thumbnail, image, fields, channelId, ephemeral, ⟨⟩⟩ :=
      content
    have hfields := map_bare EmbedField.ofContent_bare fields
    cases color <;> cases channelId <;>
      exact congrArg (fun fields => Behavior.sendEmbed
        ⟨title, description, _, footer, thumbnail, image, fields, _, ephemeral⟩) hfields
  | ifCondition =>
    obtain ⟨left, operator, right, trueLabel, falseLabel, ⟨⟩⟩ := content
    cases trueLabel <;> cases falseLabel <;> rfl
  | awaitReply =>
    obtain ⟨prompt, timeout, target, ⟨⟨userId, channelId, ⟨⟩⟩, _⟩, ⟨⟩⟩ := content
    cases userId <;> cases channelId <;> rfl
  | apiCall =>
    obtain ⟨url, method, headers, body, resultVariable, errorVariable, ⟨⟩⟩ := content
    have hheaders : (Shape.map .text).bare headers = headers := List.map_id headers
    cases body <;> cases errorVariable <;>
      exact congrArg (fun headers => Behavior.apiCall ⟨url, method, headers, _, resultVariable, _⟩) hheaders
  | _ => rfl

theorem Node.ofContent_bare (content : nodeShape.Carrier) :
    Node.ofContent (nodeShape.bare content) = Node.ofContent content := by
  obtain ⟨type, ⟨id, ⟨⟨x, y, ⟨⟩⟩, _⟩, ⟨data, _⟩, ⟨⟩⟩, _⟩ := content
  exact congrArg (Node.mk id ⟨x, y⟩) (Behavior.ofContent_bare type data)

theorem Edge.ofContent_bare (content : edgeShape.Carrier) :
    Edge.ofContent (edgeShape.bare content) = Edge.ofContent content := by
  obtain ⟨⟨id, source, target, sourceHandle, targetHandle, label, ⟨⟩⟩, _⟩ := content
  cases sourceHandle <;> cases targetHandle <;> cases label <;> rfl

theorem Declaration.ofContent_bare (content : declarationShape.Carrier) :
    Declaration.ofContent (declarationShape.bare content) = Declaration.ofContent content := by
  obtain ⟨⟨name, type, scope, initial, description, ⟨⟩⟩, _⟩ := content
  cases description <;> rfl

namespace GraphDocument
theorem graph_bare (document : GraphDocument) :
    graph (graphShape.bare document) = document.graph := by
  obtain ⟨⟨nodes, edges, declarations, metadata, ⟨⟩⟩, _⟩ := document
  have hnodes := map_bare Node.ofContent_bare nodes
  have hedges := map_bare Edge.ofContent_bare edges
  have hdeclarations := mapValues_bare Declaration.ofContent_bare declarations
  have hgraph := congr (congrArg₂ Graph.mk hnodes hedges) hdeclarations
  exact hgraph

/-! ## Saving -/

/-- Nothing of the document is lost when it is written. -/
def Survives (document : GraphDocument) : Prop := graphShape.Survives document

/-- A document that survives is read again with the same fields, and runs as before. -/
theorem read_store_write (document : GraphDocument) (h : document.Survives) :
    ∃ again, read .store document.write = .ok again ∧
      graphShape.bare again = graphShape.bare document ∧ again.graph = document.graph ∧
      ∀ settings context generator,
        simulate settings again.graph context generator =
          simulate settings document.graph context generator := by
  obtain ⟨again, hread, hbare⟩ := map_eq_ok.mp
    (graphShape.read_write .store graphShape_sound.1 document h)
  have hgraph : graph again = document.graph := by
    rw [← graph_bare again, hbare, graph_bare]
  refine ⟨again, hread, hbare, hgraph, fun settings context generator => ?_⟩
  rw [hgraph]

/-! ## What is lost -/

/-- The document of a single node at the origin, with data and members beside them. -/
def single (type : NodeType) (data : (dataFields type).Carrier) (beside : Entries Value) : GraphDocument :=
  let node : nodeShape.Carrier := ⟨type, ("n", ((.zero, .zero, ()), []), (data, beside), ()), []⟩
  (([node], [], [], none, ()), [])

theorem read_store_write_null :
    let document := single .getVariable ("x", .local, .null, ()) [("note", .null)]
    document.Survives ∧ ∃ again, read .store document.write = .ok again ∧
      graphShape.bare again = graphShape.bare document ∧ again.graph = document.graph ∧
      ∀ settings context generator,
        simulate settings again.graph context generator =
          simulate settings document.graph context generator := by
  intro document
  have h : document.Survives := by
    simp [document, single, Survives, graphShape, graphFields, nodeShape, nodeFields, positionFields,
      dataFields, readoutFields, textField, scopeField, writeOthers, finiteMembers, firstGiven?,
      Shape.Survives, Fields.Survives, Shape.isAbsent, finiteOnly, Value.isNull]
  exact ⟨h, read_store_write document h⟩

/-- An assignment of null comes back as an assignment of the empty text. -/
theorem graph_ne_of_null :
    ∃ document again,
      read .request (.object [("nodes", .list [.object [
        ("type", .text "SET_VARIABLE"), ("id", .text "n"),
        ("position", .object [("x", .float .zero), ("y", .float .zero)]),
        ("data", .object [("variableName", .text "x"), ("value", .null), ("type", .text "number")])]])]) =
          .ok document ∧
      read .store document.write = .ok again ∧ again.graph ≠ document.graph := by
  refine ⟨single .setVariable ("x", .null, .local, .number, ()) [],
    single .setVariable ("x", .text "", .local, .number, ()) [], rfl, rfl, fun h => ?_⟩
  have hbehaviors : [Behavior.setVariable ⟨"x", .text "", .local, .number⟩] =
      [Behavior.setVariable ⟨"x", .null, .local, .number⟩] :=
    congrArg (fun graph => graph.nodes.map (·.behavior)) h
  simp at hbehaviors

-- A channel that is null under one spelling and a number under the other is accepted once and then refused.
example : (read .store (single .sendMessage ("", none, false, ()) [("channel_id", .int 5)]).write).toOption =
    none := by rfl

end GraphDocument

end CommandFlow
