import Unisockets.JsStd.Json
import Unisockets.Signaling.Operation

/-!
# Messages as texts

What `send` and `receive` of `signaling-service.ts` put on a socket and take off
it.  An operation is an object with the members `data` and `opcode`; a field
that is `undefined` is left out of the text.

`receive` looks at the opcode only: the data is what the sender has written, and
the handlers read its fields where they need them.  `ISignalingOperation.typed`
reads all of them.  `receive_stringify` is the round trip: the peer reads every
operation back from its text.
-/

namespace Unisockets.Signaling

open JsStd

/-! ## Texts of operations -/

def ofText (s : String) : Option Json := some (.string (units s))

def ofFlag (b : Bool) : Option Json := some (.bool b)

namespace Operation

/-- The fields of `data`, in the order in which the senders write them. -/
def fields : Operation → List (String × Option Json)
  | .goodbye data => [("id", ofText data.id)]
  | .knock data => [("subnet", ofText data.subnet), ("parentWs", ofText data.parentWs)]
  | .acknowledged data => [("id", ofText data.id), ("rejected", ofFlag data.rejected)]
  | .greeting data => [("offererId", ofText data.offererId), ("answererId", ofText data.answererId)]
  | .offer data =>
    [("offererId", ofText data.offererId), ("answererId", ofText data.answererId),
      ("offer", ofText data.offer)]
  | .answer data =>
    [("offererId", ofText data.offererId), ("answererId", ofText data.answererId),
      ("answer", ofText data.answer)]
  | .candidate data =>
    [("offererId", ofText data.offererId), ("answererId", ofText data.answererId),
      ("candidate", ofText data.candidate)]
  | .bind data => [("id", ofText data.id), ("alias", ofText data.alias)]
  | .accepting data => [("id", ofText data.id), ("alias", ofText data.alias)]
  | .alias data =>
    [("id", ofText data.id), ("alias", ofText data.alias), ("set", ofFlag data.set),
      ("clientConnectionId", data.clientConnectionId.bind ofText),
      ("isConnectionAlias", data.isConnectionAlias.bind ofFlag)]
  | .shutdown data => [("id", ofText data.id), ("alias", ofText data.alias)]
  | .connect data =>
    [("id", ofText data.id), ("clientConnectionId", ofText data.clientConnectionId),
      ("remoteAlias", ofText data.remoteAlias)]
  | .accept data =>
    [("boundAlias", ofText data.boundAlias), ("clientAlias", ofText data.clientAlias),
      ("clientId", data.clientId.bind ofText), ("alias", data.alias.bind ofText)]

/-- The object that is sent.  The constructor of the operation assigns `data`
before `opcode`. -/
def toJson (operation : Operation) : Json :=
  .ofFields [("data", some (.ofFields operation.fields)), ("opcode", ofText operation.opcode)]

/-- `JSON.stringify(operation)`. -/
def stringify (operation : Operation) : CodeUnits := JSON.stringify operation.toJson

end Operation

/-! ## `receive` -/

/-- What `receive` throws. -/
inductive ReceiveError where
  | SyntaxError
  | TypeError
  | UnimplementedOperationError (opcode : Option Json)

/-- An operation as it is received: the data has not been looked at. -/
structure ISignalingOperation where
  opcode : String
  data : Option Json

/-- The values of `ESIGNALING_OPCODES`. -/
def opcodes : List String :=
  ["goodbye", "knock", "acknowledged", "greeting", "offer", "answer", "candidate", "bind",
    "accepting", "alias", "shutdown", "connect", "accept"]

/-- `receive`. -/
def receive (rawOperation : CodeUnits) : Except ReceiveError ISignalingOperation :=
  match JSON.parse rawOperation with
  | none => .error .SyntaxError
  | some .null => .error .TypeError
  | some operation =>
    match opcodes.find? fun opcode => (operation.field "opcode").bind Json.text = some opcode with
    | some opcode => .ok ⟨opcode, operation.field "data"⟩
    | none => .error (.UnimplementedOperationError (operation.field "opcode"))

/-! ## The fields of the data -/

/-- A field that must be there. -/
private def required {α : Type} (read : Json → Option α) (data : Json) (name : String) : Option α :=
  (data.field name).bind read

/-- A field that may be `undefined`. -/
private def optional {α : Type} (read : Json → Option α) (data : Json) (name : String) :
    Option (Option α) :=
  match data.field name with
  | none => some none
  | some v => (read v).map some

/-- The operation of an opcode whose data has all fields of its interface. -/
def Operation.ofData (opcode : String) (data : Json) : Option Operation :=
  match opcode with
  | "goodbye" => do
    pure (.goodbye { id := ← required Json.text data "id" })
  | "knock" => do
    pure (.knock {
      subnet := ← required Json.text data "subnet"
      parentWs := ← required Json.text data "parentWs" })
  | "acknowledged" => do
    pure (.acknowledged {
      id := ← required Json.text data "id"
      rejected := ← required Json.flag data "rejected" })
  | "greeting" => do
    pure (.greeting {
      offererId := ← required Json.text data "offererId"
      answererId := ← required Json.text data "answererId" })
  | "offer" => do
    pure (.offer {
      offererId := ← required Json.text data "offererId"
      answererId := ← required Json.text data "answererId"
      offer := ← required Json.text data "offer" })
  | "answer" => do
    pure (.answer {
      offererId := ← required Json.text data "offererId"
      answererId := ← required Json.text data "answererId"
      answer := ← required Json.text data "answer" })
  | "candidate" => do
    pure (.candidate {
      offererId := ← required Json.text data "offererId"
      answererId := ← required Json.text data "answererId"
      candidate := ← required Json.text data "candidate" })
  | "bind" => do
    pure (.bind {
      id := ← required Json.text data "id"
      «alias» := ← required Json.text data "alias" })
  | "accepting" => do
    pure (.accepting {
      id := ← required Json.text data "id"
      «alias» := ← required Json.text data "alias" })
  | "alias" => do
    pure (.alias {
      id := ← required Json.text data "id"
      «alias» := ← required Json.text data "alias"
      set := ← required Json.flag data "set"
      clientConnectionId := ← optional Json.text data "clientConnectionId"
      isConnectionAlias := ← optional Json.flag data "isConnectionAlias" })
  | "shutdown" => do
    pure (.shutdown {
      id := ← required Json.text data "id"
      «alias» := ← required Json.text data "alias" })
  | "connect" => do
    pure (.connect {
      id := ← required Json.text data "id"
      remoteAlias := ← required Json.text data "remoteAlias"
      clientConnectionId := ← required Json.text data "clientConnectionId" })
  | "accept" => do
    pure (.accept {
      boundAlias := ← required Json.text data "boundAlias"
      clientAlias := ← required Json.text data "clientAlias"
      clientId := ← optional Json.text data "clientId"
      «alias» := ← optional Json.text data "alias" })
  | _ => none

/-- The operation that has been received, if its data has all fields. -/
def ISignalingOperation.typed (operation : ISignalingOperation) : Option Operation :=
  operation.data.bind (Operation.ofData operation.opcode)

/-! ## The round trip -/

/-- Every field of the data is read back. -/
theorem Operation.ofData_fields (operation : Operation) :
    ofData operation.opcode (.ofFields operation.fields) = some operation := by
  cases operation with
  | «alias» data =>
    obtain ⟨id, «alias», set, clientConnectionId, isConnectionAlias⟩ := data
    cases clientConnectionId <;> cases isConnectionAlias <;>
      simp [ofData, opcode, fields, required, optional, Json.field_ofFields, ofText, ofFlag,
        Json.flag]
  | accept data =>
    obtain ⟨boundAlias, clientAlias, clientId, «alias»⟩ := data
    cases clientId <;> cases «alias» <;>
      simp [ofData, opcode, fields, required, optional, Json.field_ofFields, ofText]
  | _ => simp [ofData, opcode, fields, required, Json.field_ofFields, ofText, ofFlag, Json.flag]

theorem opcode_mem_opcodes (operation : Operation) : operation.opcode ∈ opcodes := by
  cases operation <;> simp [Operation.opcode, opcodes]

theorem find_opcode : ∀ opcode ∈ opcodes,
    (opcodes.find? fun opcode' => some opcode = some opcode') = some opcode := by
  decide

/-- What `receive` makes of the text of an operation. -/
theorem received_stringify (operation : Operation) :
    receive operation.stringify = .ok ⟨operation.opcode, some (.ofFields operation.fields)⟩ := by
  have hopcode : (operation.toJson.field "opcode").bind Json.text = some operation.opcode := by
    simp [Operation.toJson, Json.field_ofFields, ofText]
  have hdata : operation.toJson.field "data" = some (.ofFields operation.fields) := by
    simp [Operation.toJson, Json.field_ofFields, ofText]
  have hobject : operation.toJson ≠ .null := fun h => by cases h
  rw [receive, Operation.stringify, JSON.parse_stringify]
  split
  · rename_i h
    cases h
  · rename_i h
    exact absurd (Option.some.inj h) hobject
  · rename_i v _ h
    cases h
    rw [hopcode, find_opcode _ (opcode_mem_opcodes operation), hdata]

/-- The peer reads every operation back from its text. -/
theorem receive_stringify (operation : Operation) :
    ∃ received, receive operation.stringify = .ok received ∧
      received.opcode = operation.opcode ∧ received.typed = some operation :=
  ⟨_, received_stringify operation, rfl, operation.ofData_fields⟩

end Unisockets.Signaling
