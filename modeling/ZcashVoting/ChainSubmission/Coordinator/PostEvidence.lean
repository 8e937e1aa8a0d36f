import ZcashVoting.ChainSubmission.Coordinator

/-!
# ZcashVoting.ChainSubmission.Coordinator.PostEvidence

What the outcome of a POST attempt rests on.  A definite outcome permits another POST or
ends the submission, so each of them needs evidence about this very attempt
(`PostAttemptOutcome.Evidence`); whatever is not such evidence leaves the dispatch in doubt.
-/

namespace ZcashVoting

open Interaction

/-! ## Hashes -/

/-- The text is the 64 hexadecimal digits of the hash, of either case. -/
def Spells (text : String) (hash : CandidateTransactionHash) : Prop :=
  text.toList.map Char.toLower = (hex hash.val).toList

theorem normalizeCandidateHash_eq_some {text : String} {hash : CandidateTransactionHash} :
    normalizeCandidateHash text = some hash ↔ Spells text hash := by
  obtain ⟨bytes, hlength⟩ := hash
  rw [Spells, ← hexBytes_eq_some]
  simp only [normalizeCandidateHash, bind, Option.bind_eq_some_iff]
  constructor
  · rintro ⟨read, hread, h⟩
    split at h
    · cases h
      exact hread
    · cases h
  · intro h
    exact ⟨bytes, h, by rw [dif_pos hlength]⟩

/-! ## Evidence -/

/-- A complete JSON answer. -/
def ChainHttpResponse.IsJson (response : ChainHttpResponse) : Prop :=
  response.body.length ≤ maxChainHttpResponseBytes ∧ hasMediaType response "application/json" = true

section

variable (C : ChainCodec)

/-- A complete JSON answer with the status that decodes to a transaction result with the
digest of the posted batch, or with no digest if no batch was posted. -/
structure AnsweredWith (expectedBatchDigest : Option Bytes32) (status : Nat)
    (response : ChainHttpResponse) (parsed : TransactionResultJson) : Prop where
  status : response.status = status
  json : response.IsJson
  decoded : C.transactionResult response.body = some parsed
  digest : parsed.batchDigest = expectedBatchDigest.map fun digest => hex digest.val

/-- The hash a rejection may carry. -/
def RejectedHash (txHash : Option String) : Option CandidateTransactionHash → Prop
  | none => txHash = none ∨ txHash = some ""
  | some hash => ∃ text, txHash = some text ∧ Spells text hash

/-- What each definite outcome rests on.  The client has no other ground for one. -/
def PostAttemptOutcome.Evidence (expectedBatchDigest : Option Bytes32)
    (attemptToken : Option String) (result : PostResult) : PostAttemptOutcome → Prop
  | .accepted candidate => ∃ response parsed text, result = .response response ∧
      AnsweredWith C expectedBatchDigest 200 response parsed ∧ parsed.code = 0 ∧
      parsed.txHash = some text ∧ Spells text candidate
  | .rejected code kind diagnostic candidate => ∃ response parsed, result = .response response ∧
      AnsweredWith C expectedBatchDigest 422 response parsed ∧ parsed.code = code ∧ code ≠ 0 ∧
      kind = (if code = nullifierAlreadySpentCode then .nullifierAlreadySpent else .other) ∧
      diagnostic = rejectionDiagnostic code parsed.log ∧ RejectedHash parsed.txHash candidate
  | .notDispatchedByServer => ∃ response attempt, result = .response response ∧
      response.status = 408 ∧ response.IsJson ∧ attemptToken = some attempt ∧
      C.ingressFailure response.body = some ⟨1, "request_body_timeout", "not_started", attempt⟩
  | .definitelyUnsent error =>
      result = .timedOut false ∧ error = .definitelyUnsent
        "vote-chain submission timed out before the transport released the request" ∨
      result = .failed error ∧ error.kind = .definitelyUnsent
  | .localFailure _ => False
  | .possiblyDispatched _ => True

/-- The outcome leaves no doubt about the dispatch. -/
def PostAttemptOutcome.isDefinite : PostAttemptOutcome → Bool
  | .possiblyDispatched _ => false
  | _ => true

variable {C} {response : ChainHttpResponse} {endpoint : String} {expected : Option Bytes32}
  {token : Option String} {outcome : PostAttemptOutcome}

/-! ## Transaction results -/

theorem validateJsonResponse_eq_ok : validateJsonResponse C response = .ok () ↔ response.IsJson := by
  unfold validateJsonResponse ChainHttpResponse.IsJson
  split
  · next h => simp only [reduceCtorEq, false_iff, not_and]; omega
  · next h =>
    rw [Nat.not_lt] at h
    cases hasMediaType response "application/json" <;> simp [h]

theorem checkBatchDigest_eq_ok {observed : Option String} :
    checkBatchDigest expected observed = .ok () ↔
      observed = expected.map fun digest => hex digest.val := by
  cases expected <;> cases observed <;> simp [checkBatchDigest]

theorem parseTransactionResult_eq_accepted {status : Nat} {parsed : TransactionResultJson}
    {candidate : CandidateTransactionHash} :
    parseTransactionResult status parsed = .accepted candidate ↔
      status = 200 ∧ parsed.code = 0 ∧ ∃ text, parsed.txHash = some text ∧
        Spells text candidate := by
  simp only [← normalizeCandidateHash_eq_some, ← Option.bind_eq_some_iff, ← and_assoc]
  unfold parseTransactionResult
  split
  · next h =>
    cases hhash : parsed.txHash.bind normalizeCandidateHash <;> simp [h]
  · next h =>
    simp only [h, false_and, iff_false]
    repeat' split
    all_goals simp

theorem normalizeCandidateHash_empty : normalizeCandidateHash "" = none := rfl

/-- The hash of a rejection, as the answer's text gives it. -/
theorem rejectedHash_iff {txHash : Option String} {candidate : Option CandidateTransactionHash} :
    RejectedHash txHash candidate ↔
      (txHash = none ∨ txHash = some "") ∧ candidate = none ∨
      ∃ text hash, txHash = some text ∧ normalizeCandidateHash text = some hash ∧
        candidate = some hash := by
  cases candidate <;> simp [RejectedHash, normalizeCandidateHash_eq_some]

theorem parseTransactionResult_eq_rejected {status code : Nat} {parsed : TransactionResultJson}
    {kind : ChainRejectionKind} {diagnostic : ChainSubmissionDiagnostic}
    {candidate : Option CandidateTransactionHash} :
    parseTransactionResult status parsed = .rejected code kind diagnostic candidate ↔
      status = 422 ∧ parsed.code = code ∧ code ≠ 0 ∧
      kind = (if code = nullifierAlreadySpentCode then .nullifierAlreadySpent else .other) ∧
      diagnostic = rejectionDiagnostic code parsed.log ∧ RejectedHash parsed.txHash candidate := by
  rw [rejectedHash_iff]
  unfold parseTransactionResult
  by_cases h200 : status = 200 ∧ parsed.code = 0
  · rw [if_pos h200, h200.1]
    split <;> simp
  rw [if_neg h200]
  by_cases h422 : status = 422 ∧ parsed.code ≠ 0
  · rw [if_pos h422]
    obtain ⟨hstatus, hcode⟩ := h422
    dsimp only
    split
    · next h => grind
    · next h => grind [normalizeCandidateHash_empty]
    · next text hempty h => split <;> grind
  · rw [if_neg h422]
    have hnot : ¬ (status = 422 ∧ parsed.code = code ∧ code ≠ 0) := by
      rintro ⟨hstatus, rfl, hcode⟩
      exact h422 ⟨hstatus, hcode⟩
    split <;> simp <;> grind

/-- An answer that is not JSON, or comes from another route, says nothing. -/
theorem parsePostResponse_doubtful
    (h : ¬ response.IsJson ∨ response.status = 404 ∨ response.status = 405) :
    ∃ diagnostic, parsePostResponse C response endpoint expected = .possiblyDispatched diagnostic := by
  unfold parsePostResponse
  split
  · exact ⟨_, rfl⟩
  split
  · exact ⟨_, rfl⟩
  · next hreplaced =>
    split
    · exact ⟨_, rfl⟩
    · next hvalid =>
      have hjson := validateJsonResponse_eq_ok.mp hvalid
      have hroute : response.status = 404 ∨ response.status = 405 := h.resolve_left (not_not.mpr hjson)
      unfold replacedRouteAnswer at hreplaced
      rw [if_neg (Nat.not_lt.mpr hjson.1)] at hreplaced
      dsimp only at hreplaced
      split at hreplaced
      · cases hreplaced
      · next hother => exact absurd (hroute.imp id .inl) hother

/-- An answer of the route is read from its JSON. -/
theorem parsePostResponse_of_json (hjson : response.IsJson) (h404 : response.status ≠ 404)
    (h405 : response.status ≠ 405) :
    parsePostResponse C response endpoint expected =
      match C.transactionResult response.body with
      | none => .possiblyDispatched (invalidProtocol
          "vote-chain transaction response is malformed JSON")
      | some parsed =>
        match checkBatchDigest expected parsed.batchDigest with
        | .error diagnostic => .possiblyDispatched diagnostic
        | .ok () => parseTransactionResult response.status parsed := by
  have hhtml : hasMediaType response "text/html" = false := by
    have := hjson.2
    unfold hasMediaType at this ⊢
    split at this
    · cases this
    · simp_all
  have hgateway : gatewayShapedRouteAnswer C response endpoint = none := by
    simp [gatewayShapedRouteAnswer, h404, h405]
  have hreplaced : replacedRouteAnswer response endpoint = none := by
    simp [replacedRouteAnswer, h404, h405, hhtml]
  unfold parsePostResponse
  rewrite [hgateway, hreplaced, validateJsonResponse_eq_ok.mpr hjson]
  rfl

/-- A definite reading of an answer is that of its transaction result. -/
theorem parsePostResponse_eq_iff (hdefinite : outcome.isDefinite = true) :
    parsePostResponse C response endpoint expected = outcome ↔
      response.status ≠ 404 ∧ response.status ≠ 405 ∧
      ∃ parsed, AnsweredWith C expected response.status response parsed ∧
        parseTransactionResult response.status parsed = outcome := by
  have hdoubt : ∀ diagnostic, PostAttemptOutcome.possiblyDispatched diagnostic ≠ outcome := by
    rintro diagnostic rfl
    cases hdefinite
  by_cases h : ¬ response.IsJson ∨ response.status = 404 ∨ response.status = 405
  · obtain ⟨diagnostic, hparse⟩ :
      ∃ diagnostic, parsePostResponse C response endpoint expected = .possiblyDispatched diagnostic :=
      parsePostResponse_doubtful h
    simp only [hparse, hdoubt, false_iff]
    rintro ⟨h404, h405, parsed, hanswer, -⟩
    exact h.elim (· hanswer.json) (·.elim h404 h405)
  simp only [not_or, not_not] at h
  obtain ⟨hjson, h404, h405⟩ := h
  rw [parsePostResponse_of_json hjson h404 h405]
  constructor
  · intro hparse
    split at hparse
    · exact absurd hparse (hdoubt _)
    · next parsed hdecoded =>
      split at hparse
      · exact absurd hparse (hdoubt _)
      · next hdigest =>
        exact ⟨h404, h405, parsed, ⟨rfl, hjson, hdecoded, checkBatchDigest_eq_ok.mp hdigest⟩, hparse⟩
  · rintro ⟨-, -, parsed, hanswer, hparse⟩
    rw [hanswer.decoded]
    dsimp only
    rw [checkBatchDigest_eq_ok.mpr hanswer.digest]
    exact hparse

/-! ## The classification -/

/-- A complete receipt for the attempt. -/
theorem isNotDispatched_iff : isNotDispatched C response token = true ↔
    response.status = 408 ∧ ∃ attempt, token = some attempt ∧
      C.ingressFailure response.body = some ⟨1, "request_body_timeout", "not_started", attempt⟩ := by
  cases token with
  | none => simp [isNotDispatched]
  | some attempt =>
    simp only [isNotDispatched, Bool.and_eq_true, decide_eq_true_eq, Option.some.injEq,
      exists_eq_left', and_congr_right_iff]
    intro _
    cases C.ingressFailure response.body with
    | none => simp
    | some receipt =>
      obtain ⟨version, code, dispatch, own⟩ := receipt
      simp [and_assoc]

/-- Whether a JSON answer is a receipt for the attempt, as `post` asks it. -/
theorem isReceipt_iff :
    ((validateJsonResponse C response).isOk && isNotDispatched C response token) = true ↔
      PostAttemptOutcome.Evidence C expected token (.response response) .notDispatchedByServer := by
  have hjson : (validateJsonResponse C response).isOk = true ↔ response.IsJson := by
    rw [← validateJsonResponse_eq_ok]
    cases validateJsonResponse C response <;> simp [Except.isOk, Except.toBool]
  rw [Bool.and_eq_true, hjson, isNotDispatched_iff]
  simp only [PostAttemptOutcome.Evidence, PostResult.response.injEq, ↓existsAndEq, true_and]
  grind

/-- An answer that is not a receipt is evidence of what its transaction result says. -/
theorem parsePostResponse_evidence (hdefinite : outcome.isDefinite = true)
    (hreceipt : outcome ≠ .notDispatchedByServer) :
    parsePostResponse C response endpoint expected = outcome ↔
      outcome.Evidence C expected token (.response response) := by
  have harrived : parsePostResponse C response endpoint expected = outcome →
      outcome.arrivedOrUnknown = true := by
    rintro rfl
    exact arrivedOrUnknown_parsePostResponse C response endpoint expected
  cases outcome with
  | accepted candidate =>
    rw [parsePostResponse_eq_iff hdefinite]
    simp only [parseTransactionResult_eq_accepted, PostAttemptOutcome.Evidence,
      PostResult.response.injEq, ↓existsAndEq, true_and]
    constructor
    · rintro ⟨-, -, parsed, hanswer, hstatus, hcode, text, htext, hspells⟩
      exact ⟨parsed, text, hstatus ▸ hanswer, hcode, htext, hspells⟩
    · rintro ⟨parsed, text, hanswer, hcode, htext, hspells⟩
      rw [hanswer.status]
      exact ⟨by decide, by decide, parsed, hanswer, rfl, hcode, text, htext, hspells⟩
  | rejected code kind diagnostic candidate =>
    rw [parsePostResponse_eq_iff hdefinite]
    simp only [parseTransactionResult_eq_rejected, PostAttemptOutcome.Evidence,
      PostResult.response.injEq, ↓existsAndEq, true_and]
    constructor
    · rintro ⟨-, -, parsed, hanswer, hstatus, hrejected⟩
      exact ⟨parsed, hstatus ▸ hanswer, hrejected⟩
    · rintro ⟨parsed, hanswer, hrejected⟩
      rw [hanswer.status]
      exact ⟨by decide, by decide, parsed, hanswer, rfl, hrejected⟩
  | localFailure diagnostic => simpa [PostAttemptOutcome.Evidence] using fun h => nomatch harrived h
  | definitelyUnsent error => simpa [PostAttemptOutcome.Evidence] using fun h => nomatch harrived h
  | notDispatchedByServer => exact absurd rfl hreceipt
  | possiblyDispatched diagnostic => cases hdefinite

/-- **The definite outcomes are the evidenced ones.** -/
theorem classifyPostResult_eq_iff {result : PostResult} (hdefinite : outcome.isDefinite = true) :
    classifyPostResult C endpoint expected token result = outcome ↔
      outcome.Evidence C expected token result := by
  cases result with
  | timedOut possible =>
    cases possible <;> cases outcome <;>
      simp_all [classifyPostResult, PostAttemptOutcome.Evidence, PostAttemptOutcome.isDefinite, eq_comm]
  | failed error =>
    cases outcome <;>
      grind [classifyPostResult, PostAttemptOutcome.Evidence, PostAttemptOutcome.isDefinite]
  | response response =>
    simp only [classifyPostResult]
    split
    · next h =>
      have hstatus : response.status = 408 := (isNotDispatched_iff.mp (Bool.and_eq_true_iff.mp h).2).1
      -- The status of a receipt is not that of a transaction result.
      cases outcome with
      | accepted candidate =>
        simp only [reduceCtorEq, false_iff]
        rintro ⟨_, parsed, text, ⟨⟩, hanswer, -⟩
        exact absurd (hstatus.symm.trans hanswer.status) (by decide)
      | rejected code kind diagnostic candidate =>
        simp only [reduceCtorEq, false_iff]
        rintro ⟨_, parsed, ⟨⟩, hanswer, -⟩
        exact absurd (hstatus.symm.trans hanswer.status) (by decide)
      | notDispatchedByServer => simpa using isReceipt_iff.mp h
      | localFailure diagnostic => simp [PostAttemptOutcome.Evidence]
      | definitelyUnsent error => simp [PostAttemptOutcome.Evidence]
      | possiblyDispatched diagnostic => cases hdefinite
    · next h =>
      by_cases hreceipt : outcome = .notDispatchedByServer
      · subst hreceipt
        rw [← isReceipt_iff]
        refine iff_of_false (fun hparse => ?_) h
        have harrived := arrivedOrUnknown_parsePostResponse C response endpoint expected
        rw [hparse] at harrived
        cases harrived
      · exact parsePostResponse_evidence hdefinite hreceipt

/-! ## A POST -/

end

/-- The batch digest that the answer to a request must repeat. -/
def DerivedChainSubmission.expectedBatchDigest (derived : DerivedChainSubmission) :
    Option Bytes32 :=
  match derived.request with
  | .voteBatch _ | .delegateAndVoteBatch _ _ => derived.generation.identity.target.batchDigest
  | _ => none

/-- What a POST reports, by how the wait for it ended.  The host's interruption withdraws a
POST that is certainly unsent. -/
def PostEnd.Justified (C : ChainCodec) (request : PostRequest) :
    PostProgress → PostEnd → Prop
  | .interrupted reason false, reported => reported = .withdrawn reason
  | .interrupted _ true, reported => ∃ diagnostic, reported = .outcome (.possiblyDispatched diagnostic)
  | .finished result, reported => ∃ outcome, reported = .outcome outcome ∧
      (∀ definite : PostAttemptOutcome, definite.isDefinite = true →
        (outcome = definite ↔
          definite.Evidence C request.expectedBatchDigest request.attemptToken result)) ∧
      ((∀ definite : PostAttemptOutcome, definite.isDefinite = true →
          ¬ definite.Evidence C request.expectedBatchDigest request.attemptToken result) →
        ∃ diagnostic, outcome = .possiblyDispatched diagnostic)

theorem postEnd_justified (C : ChainCodec) (request : PostRequest) (progress : PostProgress) :
    PostEnd.Justified C request progress (postEnd C request progress) := by
  cases progress with
  | interrupted reason possible =>
    cases possible with
    | false => rfl
    | true => exact ⟨_, rfl⟩
  | finished result =>
    refine ⟨_, rfl, fun definite hdefinite => classifyPostResult_eq_iff hdefinite, fun hnone => ?_⟩
    generalize houtcome :
      classifyPostResult C request.endpoint request.expectedBatchDigest request.attemptToken result = outcome
    cases outcome with
    | possiblyDispatched diagnostic => exact ⟨diagnostic, rfl⟩
    | _ => exact absurd ((classifyPostResult_eq_iff rfl).mp houtcome) (hnone _ rfl)

/-- What the calls of a POST and its report are to each other: it fails locally without
calling the transport, or hands over one request and reports what the wait for it brought. -/
def PostReported (C : ChainCodec) (expectedBatchDigest : Option Bytes32)
    (calls : List (Call ChainOp ChainOp.Ans)) (result : Except ChainSubmissionFailure PostEnd) :
    Prop :=
  (∃ diagnostic, result = .ok (.outcome (.localFailure diagnostic)) ∧ calls = []) ∨
  ∃ token request progress reported, result = .ok reported ∧
    calls = [⟨.attemptToken, token⟩, ⟨.release request, ()⟩, ⟨.awaitPost, progress⟩] ∧
    request.attemptToken = token ∧ request.expectedBatchDigest = expectedBatchDigest ∧
    PostEnd.Justified C request progress reported

theorem post_reported {W : Type} (react : W → (o : ChainOp) → o.Ans × W) (w : W)
    (cfg : ChainSubmissionCoordinator) (endpointIndex : Nat) (endpoint : String)
    (generation : ChainSubmissionGeneration) (body : Bytes) (expected : Option Bytes32) :
    Concludes react (cfg.post endpointIndex endpoint generation body expected) w
      fun calls _ result => PostReported cfg.codec expected calls result := by
  unfold ChainSubmissionCoordinator.post
  split
  · exact .inl ⟨_, rfl, rfl⟩
  split
  · exact .inl ⟨_, rfl, rfl⟩
  · exact .inr ⟨_, _, _, _, rfl, rfl, rfl, rfl, postEnd_justified _ _ _⟩

/-- **Every POST is classified by its evidence.**  Whatever the transport and the host do, a
POST fails locally only if the transport was not called.  Otherwise it was called once, with
the token of this POST, and each definite outcome is reported exactly on its evidence; on
anything else the POST counts as possibly dispatched. -/
theorem submitToEndpoint_reported {W : Type} (react : W → (o : ChainOp) → o.Ans × W) (w : W)
    (cfg : ChainSubmissionCoordinator) (endpointIndex : Nat) (derived : DerivedChainSubmission) :
    Concludes react (cfg.submitToEndpoint endpointIndex derived) w fun calls _ result =>
      PostReported cfg.codec derived.expectedBatchDigest calls result := by
  unfold ChainSubmissionCoordinator.submitToEndpoint DerivedChainSubmission.expectedBatchDigest
  cases derived.request with
  | delegation body => exact post_reported react w cfg _ _ _ body none
  | importedDelegation hash => exact .inl ⟨_, rfl, rfl⟩
  | vote body => exact post_reported react w cfg _ _ _ body none
  | voteBatch bodies =>
    dsimp only
    split
    · exact .inl ⟨_, rfl, rfl⟩
    · next body _ => exact post_reported react w cfg _ _ _ body _
  | delegateAndVoteBatch delegation bodies =>
    dsimp only
    split
    · exact .inl ⟨_, rfl, rfl⟩
    · next body _ => exact post_reported react w cfg _ _ _ body _

end ZcashVoting
