import CommandFlow.Graph.Basic
import CommandFlow.Schema.Reader
import CommandFlow.Schema.Writer

/-!
# Documents of graphs

* `nodeShape`, `edgeShape`, `declarationShape`, `graphShape` : what a document of a graph may hold;
* `GraphDocument` : what is read from a document, members that are no fields included;
* `GraphDocument.read`, `GraphDocument.write` : from a document and back;
* `GraphDocument.graph` : the graph that a document describes.
-/

namespace CommandFlow

open Schema

/-! ## Words -/

def nodeTypes : Vocabulary := ⟨NodeType, NodeType.name, NodeType.ofName?, NodeType.ofName?_name⟩

def operators : Vocabulary := ⟨Operator, Operator.name, Operator.ofName?, Operator.ofName?_name⟩

def variableTypes : Vocabulary :=
  ⟨VariableType, VariableType.name, VariableType.ofName?, VariableType.ofName?_name⟩

def variableScopes : Vocabulary :=
  ⟨VariableScope, VariableScope.name, VariableScope.ofName?, VariableScope.ofName?_name⟩

def mathOperations : Vocabulary :=
  ⟨MathOperation, MathOperation.name, MathOperation.ofName?, MathOperation.ofName?_name⟩

def callMethods : Vocabulary :=
  ⟨CallMethod, CallMethod.name, CallMethod.ofName?, CallMethod.ofName?_name⟩

/-! ## Shapes -/

def emptyObject : Option Value := some (.object [])

/-- An optional text, null unless given. -/
def optionalText (key : String) (others : List String) (rest : Fields) : Fields :=
  .cons key others (.optional .text) (some .null) rest

/-- A text with a fallback. -/
def textField (key : String) (others : List String) (fallback : String) (rest : Fields) : Fields :=
  .cons key others .text (some (.text fallback)) rest

/-- A truth value, false unless given. -/
def flagField (key : String) (rest : Fields) : Fields :=
  .cons key [] .flag (some (.bool false)) rest

def scopeField (rest : Fields) : Fields :=
  .cons "scope" [] (.word variableScopes .choice) (some (.text "local")) rest

def typeField (rest : Fields) : Fields :=
  .cons "type" [] (.word variableTypes .choice) (some (.text "string")) rest

def positionFields : Fields :=
  .cons "x" [] .number (some (.int 0)) (.cons "y" [] .number (some (.int 0)) .nil)

/-- The data of a node with nothing but a label. -/
def labelFields : Fields := textField "label" [] "" .nil

def messageFields : Fields :=
  textField "content" [] "" <| optionalText "channelId" ["channel_id"] <| flagField "ephemeral" .nil

def embedFieldFields : Fields :=
  textField "name" [] "" <| textField "value" [] "" <| flagField "inline" .nil

def embedFields : Fields :=
  textField "title" [] "" <| textField "description" [] "" <| optionalText "color" [] <|
  textField "footer" [] "" <| textField "thumbnail" [] "" <| textField "image" [] "" <|
  .cons "fields" [] (.list (.record embedFieldFields true)) (some (.list [])) <|
  optionalText "channelId" ["channel_id"] <| flagField "ephemeral" .nil

def testFields : Fields :=
  textField "variable" ["leftValue"] "" <|
  .cons "operator" [] (.word operators .member) (some (.text "equals")) <|
  .cons "value" ["rightValue"] .anything (some (.text "")) <|
  optionalText "trueLabel" ["true_label"] <| optionalText "falseLabel" ["false_label"] .nil

def assignmentFields : Fields :=
  textField "variableName" ["variable_name"] "variable" <|
  .cons "value" [] .anything (some (.text "")) <| scopeField <| typeField .nil

def readoutFields : Fields :=
  textField "variableName" ["variable_name"] "variable" <| scopeField <|
  .cons "defaultValue" ["default_value"] .anything (some .null) .nil

def filterFields : Fields :=
  optionalText "userId" ["user_id"] <| optionalText "channelId" ["channel_id"] .nil

def replyWaitFields : Fields :=
  textField "prompt" [] "" <| .cons "timeout" [] .integer (some (.int 30000)) <|
  textField "variableName" ["variable_name"] "reply" <|
  .cons "filter" [] (.record filterFields true) emptyObject .nil

def roleChangeFields : Fields :=
  textField "userId" ["user_id"] "" <| textField "roleId" ["role_id"] "" .nil

def callFields : Fields :=
  textField "url" [] "" <| .cons "method" [] (.word callMethods .choice) (some (.text "GET")) <|
  .cons "headers" [] (.map .text) emptyObject <| optionalText "body" [] <|
  textField "responseVariable" ["response_variable"] "response" <|
  optionalText "errorVariable" ["error_variable"] .nil

def delayFields : Fields := .cons "duration" [] .integer (some (.int 1000)) .nil

def drawFields : Fields :=
  .cons "min" [] .integer (some (.int 0)) <| .cons "max" [] .integer (some (.int 100)) <|
  textField "variableName" ["outputVariable", "variable_name"] "random" .nil

def arithmeticFields : Fields :=
  .cons "operation" [] (.word mathOperations .choice) (some (.text "add")) <|
  .cons "operand1" ["leftOperand"] .anything (some (.text "0")) <|
  .cons "operand2" ["rightOperand"] .anything (some (.text "0")) <|
  textField "resultVariable" ["outputVariable", "result_variable"] "result" .nil

def dataFields : NodeType → Fields
  | .start => labelFields
  | .sendMessage => messageFields
  | .sendEmbed => embedFields
  | .ifCondition => testFields
  | .setVariable => assignmentFields
  | .getVariable => readoutFields
  | .awaitReply => replyWaitFields
  | .addRole => roleChangeFields
  | .removeRole => roleChangeFields
  | .apiCall => callFields
  | .delay => delayFields
  | .random => drawFields
  | .mathOperation => arithmeticFields
  | .finish => labelFields

/-- The fields of a node of a kind, the tag apart. -/
def nodeFields (type : NodeType) : Fields :=
  .cons "id" [] .text none <|
  .cons "position" [] (.record positionFields true) emptyObject <|
  .cons "data" [] (.record (dataFields type) true) emptyObject .nil

def nodeShape : Shape := .variant "type" nodeTypes nodeFields

def edgeFields : Fields :=
  .cons "id" [] .text none <| .cons "source" [] .text none <| .cons "target" [] .text none <|
  optionalText "sourceHandle" ["source_handle"] <|
  optionalText "targetHandle" ["target_handle"] <| optionalText "label" [] .nil

def edgeShape : Shape := .record edgeFields true

def declarationFields : Fields :=
  .cons "name" [] .text none <| typeField <| scopeField <|
  .cons "defaultValue" ["default_value"] .anything (some .null) <|
  optionalText "description" [] .nil

def declarationShape : Shape := .record declarationFields true

def graphFields : Fields :=
  .cons "nodes" [] (.list nodeShape) (some (.list [])) <|
  .cons "edges" [] (.list edgeShape) (some (.list [])) <|
  .cons "variables" [] (.map declarationShape) emptyObject <|
  .cons "metadata" [] (.optional (.map .anything)) (some .null) .nil

def graphShape : Shape := .record graphFields true

/-! ## Contents -/

def EmbedField.ofContent : (Shape.record embedFieldFields true).Carrier → EmbedField
  | ((name, value, inRow, ()), _) => ⟨name, value, inRow⟩

/-- The behaviour of a node of a kind with the data that was read. -/
def Behavior.ofContent : (type : NodeType) → (dataFields type).Carrier → Behavior
  | .start, (label, ()) => .start label
  | .sendMessage, (content, channelId, ephemeral, ()) =>
    .sendMessage ⟨content, channelId, ephemeral⟩
  | .sendEmbed, (title, description, color, footer, thumbnail, image, fields, channelId, ephemeral,
      ()) =>
    .sendEmbed ⟨title, description, color, footer, thumbnail, image,
      List.map EmbedField.ofContent fields, channelId, ephemeral⟩
  | .ifCondition, (left, operator, right, trueLabel, falseLabel, ()) =>
    .ifCondition ⟨left, operator, right, trueLabel, falseLabel⟩
  | .setVariable, (name, value, scope, type, ()) => .setVariable ⟨name, value, scope, type⟩
  | .getVariable, (name, scope, fallback, ()) => .getVariable ⟨name, scope, fallback⟩
  | .awaitReply, (prompt, timeout, target, ((userId, channelId, ()), _), ()) =>
    .awaitReply ⟨prompt, timeout, target, userId, channelId⟩
  | .addRole, (userId, roleId, ()) => .addRole ⟨userId, roleId⟩
  | .removeRole, (userId, roleId, ()) => .removeRole ⟨userId, roleId⟩
  | .apiCall, (url, method, headers, body, resultVariable, errorVariable, ()) =>
    .apiCall ⟨url, method, headers, body, resultVariable, errorVariable⟩
  | .delay, (duration, ()) => .delay duration
  | .random, (least, most, target, ()) => .random ⟨least, most, target⟩
  | .mathOperation, (operation, left, right, target, ()) =>
    .mathOperation ⟨operation, left, right, target⟩
  | .finish, (label, ()) => .finish label

def Node.ofContent : nodeShape.Carrier → Node
  | ⟨type, (id, ((x, y, ()), _), (data, _), ()), _⟩ => ⟨id, ⟨x, y⟩, Behavior.ofContent type data⟩

def Edge.ofContent : edgeShape.Carrier → Edge
  | ((id, source, target, sourceHandle, targetHandle, label, ()), _) =>
    ⟨id, source, target, sourceHandle, targetHandle, label⟩

def Declaration.ofContent : declarationShape.Carrier → Declaration
  | ((name, type, scope, initial, description, ()), _) => ⟨name, type, scope, initial, description⟩

/-! ## Documents -/

abbrev GraphDocument := graphShape.Carrier

namespace GraphDocument

def read (source : Source) (v : Value) : Checked GraphDocument := graphShape.read source v

def write (document : GraphDocument) : Value := graphShape.write document

def graph : GraphDocument → Graph
  | ((nodes, edges, declarations, _, ()), _) =>
    { nodes := List.map Node.ofContent nodes
      edges := List.map Edge.ofContent edges
      declarations := Entries.mapValues Declaration.ofContent declarations }

end GraphDocument

end CommandFlow
