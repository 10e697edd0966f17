import Mathlib.Tactic.TypeStar

/-!
# The messages of the signaling protocol

One constructor of `Operation` for each value of `ESIGNALING_OPCODES`, with the
data interface of `pkg/web/signaling/operations` under its own name.  A field
that the source marks optional, or that a sender leaves out, is an `Option`.
`JSON.stringify` and `JSON.parse` carry these records over a socket unchanged.
-/

namespace Unisockets.Signaling

/-- One WebSocket.  Every connection that is opened gets its own number. -/
abbrev Socket := Nat

structure IGoodbyeData where
  id : String
  deriving DecidableEq, Repr

structure IKnockData where
  subnet : String
  parentWs : String
  deriving DecidableEq, Repr

structure IAcknowledgementData where
  id : String
  rejected : Bool
  deriving DecidableEq, Repr

structure IGreetingData where
  offererId : String
  answererId : String
  deriving DecidableEq, Repr

structure IOfferData where
  offererId : String
  answererId : String
  offer : String
  deriving DecidableEq, Repr

structure IAnswerData where
  offererId : String
  answererId : String
  answer : String
  deriving DecidableEq, Repr

structure ICandidateData where
  offererId : String
  answererId : String
  candidate : String
  deriving DecidableEq, Repr

structure IBindData where
  id : String
  «alias» : String
  deriving DecidableEq, Repr

structure IAcceptingData where
  id : String
  «alias» : String
  deriving DecidableEq, Repr

structure IAliasData where
  id : String
  «alias» : String
  set : Bool
  clientConnectionId : Option String := none
  isConnectionAlias : Option Bool := none
  deriving DecidableEq, Repr

structure IShutdownData where
  id : String
  «alias» : String
  deriving DecidableEq, Repr

structure IConnectData where
  id : String
  remoteAlias : String
  clientConnectionId : String
  deriving DecidableEq, Repr

/-- The server leaves out `clientId` and `alias`. -/
structure IAcceptData where
  boundAlias : String
  clientAlias : String
  clientId : Option String := none
  «alias» : Option String := none
  deriving DecidableEq, Repr

/-- `ISignalingOperation<TSignalingData>`. -/
inductive Operation where
  | goodbye (data : IGoodbyeData)
  | knock (data : IKnockData)
  | acknowledged (data : IAcknowledgementData)
  | greeting (data : IGreetingData)
  | offer (data : IOfferData)
  | answer (data : IAnswerData)
  | candidate (data : ICandidateData)
  | bind (data : IBindData)
  | accepting (data : IAcceptingData)
  | «alias» (data : IAliasData)
  | shutdown (data : IShutdownData)
  | connect (data : IConnectData)
  | accept (data : IAcceptData)
  deriving DecidableEq, Repr

/-- The value of `ESIGNALING_OPCODES`. -/
def Operation.opcode : Operation → String
  | .goodbye _ => "goodbye"
  | .knock _ => "knock"
  | .acknowledged _ => "acknowledged"
  | .greeting _ => "greeting"
  | .offer _ => "offer"
  | .answer _ => "answer"
  | .candidate _ => "candidate"
  | .bind _ => "bind"
  | .accepting _ => "accepting"
  | .alias _ => "alias"
  | .shutdown _ => "shutdown"
  | .connect _ => "connect"
  | .accept _ => "accept"

/-- The errors of `pkg/web/signaling/errors` that the signaling code throws,
and the `TypeError` of a property read on `undefined`. -/
inductive SignalingError where
  | ClientClosedError
  | ClientDoesNotExistError
  | PortAlreadyAllocatedError
  | SubnetDoesNotExistError
  | SuffixDoesNotExistError
  | UnimplementedOperationError (opcode : String)
  | TypeError
  deriving DecidableEq, Repr

end Unisockets.Signaling
