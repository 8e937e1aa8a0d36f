import ZcashVoting.Lib.Interaction
import ZcashVoting.ChainSubmission.Protocol

/-!
# ZcashVoting.ChainSubmission.Coordinator

The protocol client of the chain-submission coordinator, as far as it posts a derived
submission: which endpoint takes it, what is checked before the request is released, and how
the end of the wait is read.  A POST is a program over the calls of `ChainOp`.
-/

namespace ZcashVoting

open Interaction

/-! ## Calls and answers -/

/-- Why the host stopped a pass. -/
inductive Interruption where
  | cancelled
  | staleEpoch
  deriving DecidableEq

/-- One POST as it is handed to the transport, and the generation it is for. -/
structure PostRequest where
  generation : ChainSubmissionGeneration
  url : String
  endpoint : String
  expectedBatchDigest : Option Bytes32
  attemptToken : Option String
  body : Bytes
  deriving DecidableEq

/-- What ends the wait for a POST: the host, with the state of the dispatch
marker, or the client's own deadline and the transport. -/
inductive PostProgress where
  | interrupted (reason : Interruption) (dispatchPossible : Bool)
  | finished (result : PostResult)
  deriving DecidableEq

/-- The calls of a POST. -/
inductive ChainOp where
  /-- A fresh token for one POST, if there is entropy for it. -/
  | attemptToken
  /-- Hand a POST to the transport: from here on it may be delivered. -/
  | release (post : PostRequest)
  | awaitPost

@[reducible] def ChainOp.Ans : ChainOp → Type
  | .attemptToken => Option String
  | .release _ => Unit
  | .awaitPost => PostProgress

/-- The programs of the coordinator. -/
abbrev Coord := Prog ChainOp ChainOp.Ans ChainSubmissionFailure

namespace Coord

/-- One call. -/
def ask (o : ChainOp) : Coord o.Ans := Prog.perform o

end Coord

/-! ## The protocol client -/

/-- The coordinator's protocol client and its endpoints. -/
structure ChainSubmissionCoordinator where
  codec : ChainCodec
  endpoints : List String

/-- `Interruption::after_dispatch_message`. -/
def Interruption.afterDispatchMessage : Interruption → String
  | .cancelled => "submission was cancelled after dispatch could not be excluded"
  | .staleEpoch => "host operation epoch changed after dispatch could not be excluded"

/-- How the wait for one POST ended: withdrawn by the host before it could be
dispatched, or with an outcome. -/
inductive PostEnd where
  | withdrawn (reason : Interruption)
  | outcome (outcome : PostAttemptOutcome)

/-- What an answered wait means, as the two loops read it. -/
def postEnd (C : ChainCodec) (post : PostRequest) : PostProgress → PostEnd
  | .interrupted reason false => .withdrawn reason
  | .interrupted reason true => .outcome (.possiblyDispatched
      (.fromRedactedMessage .ambiguousDispatch reason.afterDispatchMessage))
  | .finished result => .outcome
      (classifyPostResult C post.endpoint post.expectedBatchDigest post.attemptToken result)

/-- `join_chain_url`. -/
def joinChainUrl (baseUrl : String) (segments : List String) : String :=
  (["shielded-vote", "v1"] ++ segments).foldl (fun url segment => url ++ "/" ++ segment) baseUrl

namespace ChainSubmissionCoordinator

open Coord

variable (cfg : ChainSubmissionCoordinator)

/-- A POST that fails before it is handed to the transport. -/
def failLocally (message : String) : Coord PostEnd :=
  return .outcome (.localFailure (invalidProtocol message))

/-- `post`: check the request, release it, wait for it. -/
def post (endpointIndex : Nat) (endpoint : String) (generation : ChainSubmissionGeneration)
    (body : Bytes) (expectedBatchDigest : Option Bytes32) : Coord PostEnd :=
  if body.length > maxChainHttpRequestBytes then
    failLocally s!"vote-chain request exceeds {maxChainHttpRequestBytes} byte limit"
  else
  match cfg.endpoints[endpointIndex]? with
  | none => failLocally "vote-chain endpoint index is out of range"
  | some baseUrl => do
    let token ← ask .attemptToken
    let request : PostRequest :=
      ⟨generation, joinChainUrl baseUrl [endpoint], endpoint, expectedBatchDigest, token, body⟩
    ask (.release request)
    let progress ← ask .awaitPost
    return postEnd cfg.codec request progress

/-- `submit_to_endpoint`. -/
def submitToEndpoint (endpointIndex : Nat) (derived : DerivedChainSubmission) : Coord PostEnd :=
  let generation := derived.generation
  let batchDigest := generation.identity.target.batchDigest
  match derived.request with
  | .delegation body => cfg.post endpointIndex "delegate-vote" generation body none
  | .importedDelegation _ => return .outcome (.localFailure (.fromRedactedMessage
      .invalidProtocolResponse "a capability-imported delegation cannot be dispatched by the voter"))
  | .vote body => cfg.post endpointIndex "cast-vote" generation body none
  | .voteBatch bodies =>
    match cfg.codec.voteBatchJson bodies with
    | .error error => failLocally s!"serialize vote-batch request failed: {error}"
    | .ok body => cfg.post endpointIndex "cast-vote-batch" generation body batchDigest
  | .delegateAndVoteBatch delegation bodies =>
    match cfg.codec.delegateAndVoteBatchJson delegation bodies with
    | .error error => failLocally s!"serialize combined request failed: {error}"
    | .ok body => cfg.post endpointIndex "delegate-and-cast-vote-batch" generation body batchDigest

end ChainSubmissionCoordinator

end ZcashVoting
