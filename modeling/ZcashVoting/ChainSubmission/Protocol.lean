import ZcashVoting.ChainSubmission.Generation
import ZcashVoting.Texts

/-!
# ZcashVoting.ChainSubmission.Protocol

Interpretation of what the vote chain's REST endpoints answer to a POST: which
outcome the attempt has.

What the third-party crate `serde_json` reads and writes is given by the fields of
`ChainCodec`; nothing is assumed about them.
-/

namespace ZcashVoting

/-! ## Transport -/

/-- Dispatch certainty attached to a transport failure. -/
inductive ChainTransportFailureKind where
  | definitelyUnsent
  | possiblyDispatched
  deriving DecidableEq

/-- Failure of one vote-chain HTTP request. -/
structure ChainTransportError where
  kind : ChainTransportFailureKind
  message : String
  deriving DecidableEq

/-- `ChainTransportError::definitely_unsent`. -/
def ChainTransportError.definitelyUnsent (message : String) : ChainTransportError :=
  ⟨.definitelyUnsent, boundedRedactedText message⟩

/-- `ChainTransportError::possibly_dispatched`. -/
def ChainTransportError.possiblyDispatched (message : String) : ChainTransportError :=
  ⟨.possiblyDispatched, boundedRedactedText message⟩

structure ChainHttpResponse where
  status : Nat
  contentType : Option String
  body : Bytes
  deriving DecidableEq

/-- `MAX_CHAIN_HTTP_RESPONSE_BYTES`. -/
def maxChainHttpResponseBytes : Nat := 256 * 1024

/-- `MAX_CHAIN_HTTP_REQUEST_BYTES`. -/
def maxChainHttpRequestBytes : Nat := 1024 * 1024

/-! ## Decoded bodies -/

/-- `TransactionResultJson`; an absent `batch_digest` is `none`. -/
structure TransactionResultJson where
  txHash : Option String
  code : Nat
  log : String
  batchDigest : Option String

/-- `TimeoutReceipt`. -/
structure TimeoutReceipt where
  version : Nat
  code : String
  dispatch : String
  attempt : String

/-- What the client takes from third-party crates and the standard library. -/
structure ChainCodec where
  transactionResult : Bytes → Option TransactionResultJson
  /-- The `error` text of a `GatewayErrorJson`. -/
  gatewayError : Bytes → Option String
  /-- The receipt of an `IngressFailure`. -/
  ingressFailure : Bytes → Option TimeoutReceipt
  /-- `String::from_utf8_lossy`. -/
  utf8Lossy : Bytes → String
  /-- `VoteCommitmentBatchWire::to_json`. -/
  voteBatchJson : List Bytes → Except String Bytes
  /-- `DelegateAndVoteBatchWire::to_json`. -/
  delegateAndVoteBatchJson : Bytes → List Bytes → Except String Bytes

/-! ## Texts -/

/-- `normalize_candidate_hash`: 64 hexadecimal digits of either case. -/
def normalizeCandidateHash (value : String) : Option CandidateTransactionHash := do
  let bytes ← hexBytes value.toList
  if h : bytes.length = 32 then some ⟨bytes, h⟩ else none

/-- `invalid_protocol`. -/
def invalidProtocol (message : String) : ChainSubmissionDiagnostic :=
  .fromRedactedMessage .invalidProtocolResponse message

/-! ## Answers to a POST -/

inductive ChainRejectionKind where
  | nullifierAlreadySpent
  | other
  deriving DecidableEq

/-- `NULLIFIER_ALREADY_SPENT_CODE`. -/
def nullifierAlreadySpentCode : Nat := 2

/-- What is known about one POST attempt. -/
inductive PostAttemptOutcome where
  | accepted (candidate : CandidateTransactionHash)
  | rejected (code : Nat) (kind : ChainRejectionKind) (diagnostic : ChainSubmissionDiagnostic)
      (candidate : Option CandidateTransactionHash)
  | localFailure (diagnostic : ChainSubmissionDiagnostic)
  | definitelyUnsent (error : ChainTransportError)
  | notDispatchedByServer
  | possiblyDispatched (diagnostic : ChainSubmissionDiagnostic)
  deriving DecidableEq

section Parsing

variable (C : ChainCodec)

/-- `has_media_type`. -/
def hasMediaType (response : ChainHttpResponse) (mediaType : String) : Bool :=
  match response.contentType with
  | none => false
  | some contentType =>
    let observed := String.ofList (contentType.toList.takeWhile (· ≠ ';'))
    (trim observed).toLower == mediaType

/-- The content type an answer is reported with. -/
def observedContentType (response : ChainHttpResponse) : String :=
  response.contentType.getD "(absent)"

/-- `validate_json_response`. -/
def validateJsonResponse (response : ChainHttpResponse) :
    Except ChainSubmissionDiagnostic Unit :=
  if response.body.length > maxChainHttpResponseBytes then
    .error (invalidProtocol
      s!"vote-chain response exceeds {maxChainHttpResponseBytes} byte limit")
  else if !hasMediaType response "application/json" then
    let observed := observedContentType response
    let excerpt := trim (C.utf8Lossy response.body)
    .error (invalidProtocol
      (if excerpt = "" then
        s!"vote-chain response Content-Type must be application/json, got {observed} " ++
          "with an empty body"
      else
        s!"vote-chain response Content-Type must be application/json, got {observed}: " ++
          s!"{excerpt}"))
  else .ok ()

/-- `gateway_shaped_route_answer`. -/
def gatewayShapedRouteAnswer (response : ChainHttpResponse) (endpoint : String) :
    Option ChainSubmissionDiagnostic :=
  if response.body.length > maxChainHttpResponseBytes then none
  else
    let status := response.status
    if (status ≠ 404 ∧ status ≠ 405) ∨ !hasMediaType response "application/json" then none
    else (C.gatewayError response.body).map fun _ =>
      .fromRedactedMessage .endpointUnsupported
        (s!"vote-chain endpoint may not serve /shielded-vote/v1/{endpoint} " ++
          s!"(HTTP {status}, gateway-shaped error envelope); the POST may have reached the " ++
          "chain; check the gateway route and vote-sdk release")

/-- `replaced_route_answer`. -/
def replacedRouteAnswer (response : ChainHttpResponse) (endpoint : String) :
    Option ChainSubmissionDiagnostic :=
  if response.body.length > maxChainHttpResponseBytes then none
  else
    let status := response.status
    if status = 404 ∨ status = 405 ∨ (status = 200 ∧ hasMediaType response "text/html") then
      let observed := observedContentType response
      some (.fromRedactedMessage .routeAnswerReplaced
        (s!"vote-chain endpoint may not serve /shielded-vote/v1/{endpoint} " ++
          s!"(HTTP {status}, Content-Type {observed}); the POST may have reached the chain; " ++
          "check the gateway route and vote-sdk release"))
    else none

/-- The batch digest of an answer against the one that was posted. -/
def checkBatchDigest (expected : Option Bytes32) (observed : Option String) :
    Except ChainSubmissionDiagnostic Unit :=
  match expected, observed with
  | some digest, some text =>
    if text = hex digest.val then .ok ()
    else .error (invalidProtocol "vote-batch response contained an invalid batch digest")
  | some _, none => .error (invalidProtocol "vote-batch response omitted its batch digest")
  | none, some _ =>
    .error (invalidProtocol "non-batch vote-chain response contained a batch digest")
  | none, none => .ok ()

/-- The text of a chain rejection. -/
def rejectionDiagnostic (code : Nat) (log : String) : ChainSubmissionDiagnostic :=
  let log := trim log
  .fromRedactedMessage .chainRejected
    (if log = "" then s!"vote chain rejected transaction with code {code}"
    else s!"vote chain rejected transaction with code {code}: {log}")

/-- The verdict of a decoded transaction result. -/
def parseTransactionResult (status : Nat) (parsed : TransactionResultJson) :
    PostAttemptOutcome :=
  if status = 200 ∧ parsed.code = 0 then
    match parsed.txHash.bind normalizeCandidateHash with
    | some candidate => .accepted candidate
    | none => .possiblyDispatched (invalidProtocol
        "accepted vote-chain response omitted a canonical transaction hash")
  else if status = 422 ∧ parsed.code ≠ 0 then
    let code := parsed.code
    let kind := if code = nullifierAlreadySpentCode then .nullifierAlreadySpent else .other
    match parsed.txHash with
    | none | some "" => .rejected code kind (rejectionDiagnostic code parsed.log) none
    | some hash =>
      match normalizeCandidateHash hash with
      | some hash => .rejected code kind (rejectionDiagnostic code parsed.log) (some hash)
      | none => .possiblyDispatched (invalidProtocol
          "rejected vote-chain response contained an invalid transaction hash")
  else if 300 ≤ status ∧ status ≤ 399 then
    .possiblyDispatched (invalidProtocol "vote-chain mutation redirect was rejected")
  else
    let code := parsed.code
    .possiblyDispatched (invalidProtocol
      s!"unsupported vote-chain mutation response status={status} code={code}")

/-- `parse_post_response`. -/
def parsePostResponse (response : ChainHttpResponse) (endpoint : String)
    (expectedBatchDigest : Option Bytes32) : PostAttemptOutcome :=
  match gatewayShapedRouteAnswer C response endpoint with
  | some diagnostic => .possiblyDispatched diagnostic
  | none =>
  match replacedRouteAnswer response endpoint with
  | some diagnostic => .possiblyDispatched diagnostic
  | none =>
  match validateJsonResponse C response with
  | .error diagnostic => .possiblyDispatched diagnostic
  | .ok () =>
  match C.transactionResult response.body with
  | none => .possiblyDispatched (invalidProtocol
      "vote-chain transaction response is malformed JSON")
  | some parsed =>
  match checkBatchDigest expectedBatchDigest parsed.batchDigest with
  | .error diagnostic => .possiblyDispatched diagnostic
  | .ok () => parseTransactionResult response.status parsed

/-- `ingress_timeout::is_not_dispatched`: a complete receipt for this attempt. -/
def isNotDispatched (response : ChainHttpResponse) (attempt : Option String) : Bool :=
  match attempt with
  | none => false
  | some attempt =>
    response.status = 408 && match C.ingressFailure response.body with
    | none => false
    | some receipt =>
      receipt.version = 1 && receipt.code = "request_body_timeout" &&
        receipt.dispatch = "not_started" && receipt.attempt = attempt

/-- What the wait for a POST brought, under the client's deadline: the deadline
with the state of the dispatch marker, or what the transport returned. -/
inductive PostResult where
  | timedOut (dispatchPossible : Bool)
  | failed (error : ChainTransportError)
  | response (response : ChainHttpResponse)
  deriving DecidableEq

/-- The classification in `post` of what the transport returned for an attempt. -/
def classifyPostResult (endpoint : String) (expectedBatchDigest : Option Bytes32)
    (attemptToken : Option String) : PostResult → PostAttemptOutcome
  | .timedOut false => .definitelyUnsent (.definitelyUnsent
      "vote-chain submission timed out before the transport released the request")
  | .timedOut true => .possiblyDispatched (.fromRedactedMessage .ambiguousDispatch
      "vote-chain submission timed out")
  | .failed error =>
    if error.kind = .definitelyUnsent then .definitelyUnsent error
    else .possiblyDispatched (.fromRedactedMessage .ambiguousDispatch error.message)
  | .response response =>
    if (validateJsonResponse C response).isOk && isNotDispatched C response attemptToken then
      .notDispatchedByServer
    else parsePostResponse C response endpoint expectedBatchDigest

/-! ## The kinds of diagnostics -/

/-- A parsed answer says that the POST arrived, or nothing. -/
def PostAttemptOutcome.arrivedOrUnknown : PostAttemptOutcome → Bool
  | .accepted _ | .rejected _ _ _ _ | .possiblyDispatched _ => true
  | _ => false

theorem arrivedOrUnknown_parsePostResponse (response : ChainHttpResponse) (endpoint : String)
    (expected : Option Bytes32) :
    (parsePostResponse C response endpoint expected).arrivedOrUnknown = true := by
  unfold parsePostResponse
  repeat' split
  all_goals try rfl
  unfold parseTransactionResult
  repeat' split
  all_goals rfl

end Parsing

end ZcashVoting
