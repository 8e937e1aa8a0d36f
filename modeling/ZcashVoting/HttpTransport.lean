import ZcashVoting.ChainSubmission.Protocol
import ZcashVoting.Lib.Trace

/-!
# ZcashVoting.HttpTransport

What the SDK's HTTP transport says about a request that failed.  An executor brings the request
to the network and calls a hook before the first byte; the transport runs it under a deadline of
its own and reports a failure as definite only if no byte can have left.

A request is an attempt that changes as the executor calls the hook, lets bytes out and answers,
and as the deadline or the caller ends it.  Bytes may leave after it has ended.
-/

namespace ZcashVoting.HttpTransport

open Trace

/-! ## Deadlines -/

/-- `DIRECT_CONNECT_DEADLINE_LEAD`, in nanoseconds. -/
def directConnectDeadlineLead : Nat := 25000000

/-- `Instant::checked_add`, where `latest` is the last instant. -/
def checkedAdd (latest instant duration : Nat) : Option Nat :=
  if instant + duration ≤ latest then some (instant + duration) else none

/-- `direct_connect_deadline`.  Instants count from the first one. -/
def directConnectDeadline (backstop timeout : Nat) : Nat :=
  let lead := min directConnectDeadlineLead (timeout / 4)
  if lead ≤ backstop then backstop - lead else backstop

/-- `connect_deadline`. -/
def connectDeadline (latest backstop timeout started : Nat) (budget : Option Nat) : Nat :=
  let derived := directConnectDeadline backstop timeout
  match budget.bind (checkedAdd latest started) with
  | some bounded => min derived bounded
  | none => derived

/-! ## Executors -/

/-- `RoutePhase`. -/
inductive RoutePhase where
  | beforeDispatch
  | afterDispatch
  | responseRead
  deriving DecidableEq

/-- `RouteError`. -/
structure RouteError where
  phase : RoutePhase
  message : String
  deriving DecidableEq

/-- `RouteResponse`. -/
structure RouteResponse where
  status : Nat
  headers : List (String × String)
  body : Bytes
  deriving DecidableEq

/-- `str::eq_ignore_ascii_case`. -/
def eqIgnoreAsciiCase (a b : String) : Bool :=
  a.toList.map Char.toLower = b.toList.map Char.toLower

/-- `RouteResponse::content_type`. -/
def RouteResponse.contentType (response : RouteResponse) : Option String :=
  (response.headers.find? fun (name, _) => eqIgnoreAsciiCase name "content-type").map (·.2)

/-- What a `RouteHttp` executor declares about itself. -/
structure Route where
  hookPrecedesConnectionSetup : Bool
  enforcesConnectTimeout : Bool

/-- How the transport's wait for an executor ends. -/
inductive Ending where
  /-- The executor's result, and when it is read. -/
  | answered (result : Except RouteError RouteResponse) (now : Nat)
  /-- The deadline of the SDK. -/
  | elapsed
  /-- The future is dropped. -/
  | dropped

/-- One request. -/
structure Attempt where
  /-- `dispatched` of `execute`. -/
  dispatched : Bool := false
  /-- `ChainPostDispatch`. -/
  possible : Bool := false
  /-- A byte of the request can have left. -/
  sent : Bool := false
  ending : Option Ending := none

/-- The executor says that no byte left, and means it. -/
def Attempt.Refused (route : Route) (a : Attempt) : Prop :=
  route.hookPrecedesConnectionSetup = true ∧
    ∃ message now, a.ending = some (.answered (.error ⟨.beforeDispatch, message⟩) now)

/-- What happens to a request. -/
inductive Event where
  | hook
  | byte
  | ends (ending : Ending)

/-- The actions of an executor that honours its contract, and of the transport.  `marks` is
whether the caller handed over a marker. -/
inductive Step (route : Route) (marks : Bool) (a : Attempt) : Event → Attempt → Prop where
  /-- `on_dispatch`, which cannot outlive the request. -/
  | hook (hlive : a.ending = none) :
      Step route marks a .hook { a with dispatched := true, possible := a.possible || marks }
  /-- Only after the hook, and never if connection setup has failed. -/
  | byte (hhook : a.dispatched = true) (hrefused : ¬ a.Refused route) :
      Step route marks a .byte { a with sent := true }
  | answer (result : Except RouteError RouteResponse) (now : Nat) (hlive : a.ending = none)
      (htruth : route.hookPrecedesConnectionSetup = true →
        ∀ error, result = .error error → error.phase = .beforeDispatch → a.sent = false) :
      Step route marks a (.ends (.answered result now))
        { a with ending := some (.answered result now) }
  | elapse (hlive : a.ending = none) :
      Step route marks a (.ends .elapsed) { a with ending := some .elapsed }
  | drop (hlive : a.ending = none) :
      Step route marks a (.ends .dropped) { a with ending := some .dropped }

/-! ## The transport -/

/-- `RoutedFailure`. -/
structure RoutedFailure where
  dispatched : Bool
  timedOut : Bool
  connectDeadlineExpired : Bool
  error : RouteError
  deriving DecidableEq

/-- The time limits of a request, and when it starts. -/
structure Limits where
  /-- The last instant that can be represented. -/
  latest : Nat
  started : Nat
  timeout : Nat
  connectTimeout : Option Nat

/-- The failure that an executor reports.  Its word that nothing was dispatched counts after the
hook only if it has to call the hook early. -/
def answeredFailure (route : Route) (deadline now : Nat) (dispatched : Bool) (error : RouteError) :
    RoutedFailure where
  dispatched := match error.phase with
    | .beforeDispatch => dispatched && !route.hookPrecedesConnectionSetup
    | .afterDispatch | .responseRead => true
  timedOut := false
  connectDeadlineExpired :=
    error.phase = .beforeDispatch && route.enforcesConnectTimeout && deadline ≤ now
  error := error

/-- The failure of a request that ran into the SDK's deadline. -/
def elapsedFailure (dispatched : Bool) : RoutedFailure where
  dispatched := dispatched
  timedOut := true
  connectDeadlineExpired := false
  error := ⟨if dispatched then .afterDispatch else .beforeDispatch, "HTTP request timed out"⟩

/-- `execute`.  Nothing is returned by a request that was dropped, is still going on, or whose
deadline cannot be represented: then it panics before it polls the executor. -/
def execute (route : Route) (limits : Limits) (a : Attempt) :
    Option (Except RoutedFailure RouteResponse) := do
  let backstop ← checkedAdd limits.latest limits.started limits.timeout
  let deadline := connectDeadline limits.latest backstop limits.timeout limits.started
    limits.connectTimeout
  match ← a.ending with
  | .answered (.ok response) _ => some (.ok response)
  | .answered (.error error) now =>
    some (.error (answeredFailure route deadline now a.dispatched error))
  | .elapsed => some (.error (elapsedFailure a.dispatched))
  | .dropped => none

/-- `HelperTransportError`. -/
inductive HelperTransportError where
  | timeout
  | ambiguous (message : String)
  | response (message : String)
  | transport (message : String)
  deriving DecidableEq

/-- `HelperResponse`. -/
structure HelperResponse where
  status : Nat
  body : Bytes
  contentType : Option String
  deriving DecidableEq

/-- How `helper_request` reports a failure. -/
def helperTransportError (failure : RoutedFailure) : HelperTransportError :=
  let message := failure.error.message
  if !failure.dispatched then .transport s!"helper request failed before dispatch: {message}"
  else if failure.timedOut then .timeout
  else if failure.error.phase = .responseRead then .response s!"read helper response: {message}"
  else .ambiguous s!"send helper request: {message}"

/-- `helper_request`. -/
def helperRequest (route : Route) (limits : Limits) (a : Attempt) :
    Option (Except HelperTransportError HelperResponse) :=
  (execute route { limits with connectTimeout := none } a).map fun
    | .ok response => .ok ⟨response.status, response.body, response.contentType⟩
    | .error failure => .error (helperTransportError failure)

/-- How `chain_request` reports a failure. -/
def chainTransportError (failure : RoutedFailure) : ChainTransportError :=
  let message := failure.error.message
  if !failure.dispatched then
    .definitelyUnsent s!"vote-chain request failed before dispatch: {message}"
  else .possiblyDispatched s!"vote-chain request failed: {message}"

/-- `chain_request`. -/
def chainRequest (route : Route) (limits : Limits) (a : Attempt) :
    Option (Except ChainTransportError ChainHttpResponse) :=
  (execute route { limits with connectTimeout := none } a).map fun
    | .ok response => .ok ⟨response.status, response.contentType, response.body⟩
    | .error failure => .error (chainTransportError failure)

/-! ## The direct route -/

/-- What Hyper makes of a request. -/
inductive HyperResult where
  | unbuilt (error : String)
  | failed (isConnect : Bool) (chain : String)
  | unread (error : String)
  | complete (response : RouteResponse)

/-- `DirectRoute`, built with a connect deadline or not. -/
def directRoute (enforcesConnectTimeout : Bool) : Route := ⟨true, enforcesConnectTimeout⟩

/-- How `DirectRoute::execute` reports what Hyper made of the request. -/
def directResult (maxResponseBytes : Nat) : HyperResult → Except RouteError RouteResponse
  | .unbuilt error => .error ⟨.beforeDispatch, s!"build HTTP request: {error}"⟩
  | .failed isConnect chain => .error
      ⟨if isConnect then .beforeDispatch else .afterDispatch, s!"send HTTP request: {chain}"⟩
  | .unread error => .error ⟨.responseRead,
      s!"read HTTP response body (limit {maxResponseBytes} bytes): {error}"⟩
  | .complete response => .ok response

/-- The direct route honours its contract if Hyper reports a connect error, or cannot build the
request, only when no byte has left. -/
theorem directResult_honest {maxResponseBytes : Nat} {result : HyperResult} {sent : Bool}
    (hunbuilt : ∀ error, result = .unbuilt error → sent = false)
    (hconnect : ∀ chain, result = .failed true chain → sent = false) (error : RouteError)
    (herror : directResult maxResponseBytes result = .error error)
    (hphase : error.phase = .beforeDispatch) : sent = false := by
  cases result with
  | unbuilt message => exact hunbuilt message rfl
  | failed isConnect chain =>
    cases herror
    cases isConnect with
    | true => exact hconnect chain rfl
    | false => simp at hphase
  | unread message =>
    cases herror
    simp at hphase
  | complete response => cases herror

/-! ## Truth of the reports -/

/-- What every attempt keeps. -/
structure Truthful (route : Route) (marks : Bool) (a : Attempt) : Prop where
  hooked : a.sent = true → a.dispatched = true
  marked : a.dispatched = true → marks = true → a.possible = true
  refused : a.Refused route → a.sent = false

variable {route : Route} {marks : Bool} {a a' : Attempt} {event : Event}

theorem Truthful.step (hstep : Step route marks a event a') (h : Truthful route marks a) :
    Truthful route marks a' := by
  cases hstep with
  | hook hlive =>
    exact ⟨fun _ => rfl, fun _ hmarks => by simp [hmarks], h.refused⟩
  | byte hhook hrefused =>
    exact ⟨fun _ => hhook, h.marked, fun hnow => absurd hnow hrefused⟩
  | answer result now hlive htruth =>
    refine ⟨h.hooked, h.marked, ?_⟩
    rintro ⟨hprecedes, message, _, heq⟩
    cases heq
    exact htruth hprecedes _ rfl rfl
  | elapse hlive | drop hlive =>
    refine ⟨h.hooked, h.marked, ?_⟩
    rintro ⟨_, message, _, heq⟩
    cases heq

theorem truthful_of_reachable (ha : Reachable (· = {}) (Step route marks) a) :
    Truthful route marks a :=
  ha.invariant (I := Truthful route marks)
    (fun w (hinit : w = {}) => hinit ▸ ⟨by simp, by simp, fun _ => rfl⟩)
    fun _ _ _ h hstep => h.step hstep

/-- A failure that is not reported as dispatched let no byte out. -/
theorem Truthful.sent_eq_false (h : Truthful route marks a) {limits : Limits}
    {failure : RoutedFailure} (hexecute : execute route limits a = some (.error failure))
    (hdispatched : failure.dispatched = false) : a.sent = false := by
  have hnot : a.dispatched = false → a.sent = false := by
    intro hnone
    by_contra hsent
    simp [h.hooked (by simpa using hsent)] at hnone
  unfold execute at hexecute
  simp only [Option.bind_eq_bind, Option.bind_eq_some_iff] at hexecute
  obtain ⟨backstop, -, ending, hending, hexecute⟩ := hexecute
  rcases ending with ⟨⟨phase, message⟩ | response, now⟩ | _ | _
  · cases hexecute
    cases phase with
    | beforeDispatch =>
      -- Either the hook was not called, or the executor may call it early and says so.
      simp only [answeredFailure, Bool.and_eq_false_iff, Bool.not_eq_false'] at hdispatched
      rcases hdispatched with hnone | hprecedes
      · exact hnot hnone
      · exact h.refused ⟨hprecedes, message, now, hending⟩
    | afterDispatch | responseRead => simp [answeredFailure] at hdispatched
  · cases hexecute
  · cases hexecute
    exact hnot hdispatched
  · cases hexecute

theorem connectDeadline_le (latest backstop timeout started : Nat) (budget : Option Nat) :
    connectDeadline latest backstop timeout started budget ≤ directConnectDeadline backstop timeout := by
  unfold connectDeadline
  split
  · exact Nat.min_le_left _ _
  · exact Nat.le_refl _

theorem directConnectDeadline_le (backstop timeout : Nat) :
    directConnectDeadline backstop timeout ≤ backstop := by
  unfold directConnectDeadline
  simp only
  split <;> omega

/-- For every executor that honours its contract and every order of events, a definite failure is
reported only if no byte can have left, now or later; the marker is set whenever one can have;
and no connect budget moves the deadline of connection setup past the one that the deadline of
the request gives. -/
theorem transport_reports_true (route : Route) (marks : Bool) (limits : Limits) (a : Attempt)
    (ha : Reachable (· = {}) (Step route marks) a) :
    (∀ error, chainRequest route limits a = some (.error error) →
      error.kind = .definitelyUnsent → a.sent = false) ∧
    (∀ message, helperRequest route limits a = some (.error (.transport message)) →
      a.sent = false) ∧
    (a.sent = true → marks = true → a.possible = true) ∧
    ∀ backstop, checkedAdd limits.latest limits.started limits.timeout = some backstop →
      connectDeadline limits.latest backstop limits.timeout limits.started limits.connectTimeout ≤
          directConnectDeadline backstop limits.timeout ∧
        directConnectDeadline backstop limits.timeout ≤ backstop := by
  have h := truthful_of_reachable ha
  refine ⟨?_, ?_, fun hsent => h.marked (h.hooked hsent), fun backstop _ =>
    ⟨connectDeadline_le _ _ _ _ _, directConnectDeadline_le _ _⟩⟩
  · intro error hrequest hkind
    obtain ⟨result, hexecute, heq⟩ := Option.map_eq_some_iff.mp hrequest
    cases result with
    | ok response => cases heq
    | error failure =>
      refine h.sent_eq_false hexecute ?_
      cases heq
      by_contra hdispatched
      simp [chainTransportError, hdispatched, ChainTransportError.possiblyDispatched] at hkind
  · intro message hrequest
    obtain ⟨result, hexecute, heq⟩ := Option.map_eq_some_iff.mp hrequest
    cases result with
    | ok response => cases heq
    | error failure =>
      refine h.sent_eq_false hexecute ?_
      by_contra hdispatched
      simp only [helperTransportError, Except.error.injEq] at heq
      grind

/-- The direct route calls the hook and then fails to connect, which is reported as unsent. -/
theorem transport_reports_true_sample : ∃ a : Attempt,
    Reachable (· = {}) (Step (directRoute true) true) a ∧ a.possible = true ∧
      (∃ error, chainRequest (directRoute true) ⟨100, 0, 40, none⟩ a = some (.error error) ∧
        error.kind = .definitelyUnsent) ∧ a.sent = false := by
  have hinit : Reachable (· = {}) (Step (directRoute true) true) ({} : Attempt) := .init rfl
  have hhooked := hinit.step (.hook rfl)
  have hfailed := hhooked.step (.answer (directResult 0 (.failed true "refused")) 1 rfl
    fun _ => directResult_honest (fun _ _ => rfl) fun _ _ => rfl)
  have hunsent := (transport_reports_true _ _ ⟨100, 0, 40, none⟩ _ hfailed).1 _ rfl rfl
  exact ⟨_, hfailed, rfl, ⟨_, rfl, rfl⟩, hunsent⟩

end ZcashVoting.HttpTransport
