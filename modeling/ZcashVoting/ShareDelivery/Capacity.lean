import ZcashVoting.Lib.Trace
import ZcashVoting.ShareTracking.DeliveryPlan

/-!
# ZcashVoting.ShareDelivery.Capacity

The ceiling on initial share delivery.  Every delivery takes a charge of one process-wide
semaphore, so weighted that it bounds the workflows and the sum of their targets together, and
keeps it until its fan-out is over.  A wave of the fan-out is no longer than the acceptances
that are still needed, so the POSTs in flight are bounded by the targets.

Waiting for permits may be given to a waiter piece by piece, in any order.  The second
semaphore, of single POSTs, is left out: what is shown holds without it.
-/

namespace ZcashVoting.ShareDelivery

open Trace Transaction

/-- `MAX_CONCURRENT_SHARE_DELIVERIES`. -/
def maxConcurrentShareDeliveries : Nat := 50

/-- `SHARE_HELPER_MAX_CONCURRENT_POSTS`. -/
def shareHelperMaxConcurrentPosts : Nat := 128

/-- `DELIVERY_CAPACITY`. -/
def deliveryCapacity : Nat := shareHelperMaxConcurrentPosts * maxConcurrentShareDeliveries

/-- `charge` of `acquire`. -/
def charge (plannedTarget : Nat) : Nat :=
  max (plannedTarget * maxConcurrentShareDeliveries % 2 ^ 32) shareHelperMaxConcurrentPosts

/-! ## The fan-out of one share -/

/-- Where a turn of the loop is. -/
inductive Turn where
  /-- Helpers are reserved for the wave. -/
  | reserving (wave : List String)
  /-- The wave is posted: the requests that wait for a slot, and those in flight. -/
  | posting (wave queued inFlight : List String)
  deriving DecidableEq

/-- The locals of `dispatch_share_to_canonical_helpers`. -/
structure Dispatch where
  definiteAcceptanceTarget : Nat
  accepted : List String
  remaining : List String
  turn : Turn := .reserving []
  deriving DecidableEq

/-- One action of the fan-out; before its loop there is no dispatch. -/
inductive Dispatch.Step (targetCount : Nat) : Option Dispatch → Dispatch → Prop where
  | start (accepted remaining : List String) :
      Step targetCount none
        { definiteAcceptanceTarget := min targetCount (accepted.length + remaining.length)
          accepted, remaining }
  /-- `Started`. -/
  | reserve (d : Dispatch) (wave : List String) (url : String) (hturn : d.turn = .reserving wave)
      (hneed : wave.length < d.definiteAcceptanceTarget - d.accepted.length)
      (hurl : url ∈ d.remaining) :
      Step targetCount (some d)
        { d with
          remaining := d.remaining.filter (· ≠ url)
          turn := .reserving (wave ++ [url]) }
  /-- `AlreadyRecorded`. -/
  | skip (d : Dispatch) (wave : List String) (url : String) (hturn : d.turn = .reserving wave)
      (hurl : url ∈ d.remaining) :
      Step targetCount (some d) { d with remaining := d.remaining.filter (· ≠ url) }
  | send (d : Dispatch) (wave : List String) (hturn : d.turn = .reserving wave)
      (hwave : wave ≠ []) : Step targetCount (some d) { d with turn := .posting wave wave [] }
  /-- A request gets a slot and is posted. -/
  | post (d : Dispatch) (wave queued inFlight : List String) (url : String)
      (hturn : d.turn = .posting wave queued inFlight) (hurl : url ∈ queued) :
      Step targetCount (some d) { d with turn := .posting wave (queued.erase url) (url :: inFlight) }
  /-- A request ends before it is posted. -/
  | refuse (d : Dispatch) (wave queued inFlight : List String) (url : String)
      (hturn : d.turn = .posting wave queued inFlight) (hurl : url ∈ queued) :
      Step targetCount (some d) { d with turn := .posting wave (queued.erase url) inFlight }
  | answer (d : Dispatch) (wave queued inFlight : List String) (url : String)
      (hturn : d.turn = .posting wave queued inFlight) (hurl : url ∈ inFlight) :
      Step targetCount (some d) { d with turn := .posting wave queued (inFlight.erase url) }
  /-- All have ended, and the loop goes on with what was accepted. -/
  | resolve (d : Dispatch) (wave accepted : List String) (hturn : d.turn = .posting wave [] [])
      (haccepted : ∀ url ∈ accepted, url ∈ d.accepted ∨ url ∈ wave) :
      Step targetCount (some d) { d with accepted, turn := .reserving [] }

namespace Dispatch

/-- The POSTs in flight. -/
def posts (d : Dispatch) : Nat :=
  match d.turn with
  | .reserving _ => 0
  | .posting _ _ inFlight => inFlight.length

/-- A wave is no longer than the target. -/
def Bounded (targetCount : Nat) (d : Dispatch) : Prop :=
  d.definiteAcceptanceTarget ≤ targetCount ∧
    match d.turn with
    | .reserving wave => wave.length ≤ targetCount
    | .posting _ queued inFlight => queued.length + inFlight.length ≤ targetCount

variable {targetCount : Nat} {before : Option Dispatch} {d : Dispatch}

theorem Bounded.posts_le (h : d.Bounded targetCount) : d.posts ≤ targetCount := by
  unfold Bounded posts at *
  cases hturn : d.turn <;> simp only [hturn] at h ⊢ <;> omega

theorem Step.bounded (hstep : Step targetCount before d)
    (h : ∀ d ∈ before, d.Bounded targetCount) : d.Bounded targetCount := by
  cases hstep with
  | start accepted remaining => exact ⟨Nat.min_le_left _ _, Nat.zero_le _⟩
  | reserve d wave url hturn hneed _ =>
    obtain ⟨htarget, hwave⟩ := h d rfl
    rw [hturn] at hwave
    exact ⟨htarget, by simp only [List.length_append, List.length_singleton]; omega⟩
  | skip d wave url hturn _ => exact h d rfl
  | send d wave hturn _ =>
    obtain ⟨htarget, hwave⟩ := h d rfl
    rw [hturn] at hwave
    exact ⟨htarget, by simpa using hwave⟩
  | post d wave queued inFlight url hturn hurl =>
    obtain ⟨htarget, hwave⟩ := h d rfl
    rw [hturn] at hwave
    have hlength := List.length_erase_of_mem hurl
    have hpos := List.length_pos_of_mem hurl
    exact ⟨htarget, by simp only [List.length_cons] at hwave ⊢; omega⟩
  | refuse d wave queued inFlight url hturn hurl | answer d wave queued inFlight url hturn hurl =>
    obtain ⟨htarget, hwave⟩ := h d rfl
    rw [hturn] at hwave
    have hlength := List.length_erase_of_mem hurl
    exact ⟨htarget, by simp only at hwave ⊢; omega⟩
  | resolve d wave accepted hturn _ => exact ⟨(h d rfl).1, Nat.zero_le _⟩

end Dispatch

/-! ## All deliveries -/

/-- A call of `ShareJob::deliver`. -/
inductive Delivery where
  /-- In `acquire`, with the permits that the semaphore has assigned to it so far. -/
  | waiting (plannedTarget assigned : Nat)
  /-- With its permit; in the fan-out if there is a dispatch. -/
  | active (plannedTarget : Nat) (dispatch : Option Dispatch)

namespace Delivery

/-- The permits that are not available because of the delivery. -/
def held : Delivery → Nat
  | .waiting _ assigned => assigned
  | .active plannedTarget _ => charge plannedTarget

/-- It holds delivery capacity. -/
def isActive : Delivery → Bool
  | .waiting .. => false
  | .active .. => true

def plannedTarget : Delivery → Nat
  | .waiting plannedTarget _ | .active plannedTarget _ => plannedTarget

/-- Its POSTs in flight. -/
def posts : Delivery → Nat
  | .active _ (some dispatch) => dispatch.posts
  | _ => 0

end Delivery

/-- `DELIVERY_PERMITS` and the deliveries of the process. -/
structure State where
  available : Nat := deliveryCapacity
  deliveries : List Delivery := []

/-- Whether a delivery ends, and as what. -/
inductive Event where
  | goes
  | ends (delivery : Delivery)

/-- One action of one delivery. -/
inductive Step (U : UrlCrate) : State → Event → State → Prop where
  /-- A share of a plan that passed validation. -/
  | arrive (available : Nat) (deliveries : List Delivery) (plan : ShareDeliveryPlan)
      (shareCount : Nat) (plannedFleet : List String) (sharePlan : ShareSubmissionPlan)
      (hplan : validateShareDeliveryPlan U plan shareCount = .ok plannedFleet)
      (hshare : sharePlan ∈ plan.sharePlans) :
      Step U ⟨available, deliveries⟩ .goes
        ⟨available, .waiting sharePlan.targetCount 0 :: deliveries⟩
  | assign (available : Nat) (others others' : List Delivery) (target assigned more : Nat)
      (hmore : more ≤ available) (hneeded : assigned + more ≤ charge target) :
      Step U ⟨available, others ++ .waiting target assigned :: others'⟩ .goes
        ⟨available - more, others ++ .waiting target (assigned + more) :: others'⟩
  | admitted (available : Nat) (others others' : List Delivery) (target : Nat) :
      Step U ⟨available, others ++ .waiting target (charge target) :: others'⟩ .goes
        ⟨available, others ++ .active target none :: others'⟩
  | dispatch (available : Nat) (others others' : List Delivery) (target : Nat)
      (dispatch : Option Dispatch) (dispatch' : Dispatch)
      (hstep : Dispatch.Step target dispatch dispatch') :
      Step U ⟨available, others ++ .active target dispatch :: others'⟩ .goes
        ⟨available, others ++ .active target (some dispatch') :: others'⟩
  /-- It returns, is cancelled, fails or is dropped, wherever it is. -/
  | leave (available : Nat) (others others' : List Delivery) (delivery : Delivery) :
      Step U ⟨available, others ++ delivery :: others'⟩ (.ends delivery)
        ⟨available + delivery.held, others ++ others'⟩

/-- What holds of one delivery. -/
def Delivery.Sound (delivery : Delivery) : Prop :=
  delivery.plannedTarget ≤ shareHelperTargetCountCap ∧
    match delivery with
    | .waiting .. => True
    | .active target dispatch => ∀ d ∈ dispatch, d.Bounded target

/-- Every permit is available or held. -/
structure Accounted (s : State) : Prop where
  conserved : s.available + (s.deliveries.map Delivery.held).sum = deliveryCapacity
  sound : ∀ delivery ∈ s.deliveries, delivery.Sound

variable {U : UrlCrate} {s s' : State} {event : Event}

theorem countAssignments_targetCount {plannedFleet : List String} {sharePlans : List ShareSubmissionPlan}
    {shareIndex : Nat} {assignments result : ServerUsage}
    (h : countAssignments U plannedFleet shareIndex assignments sharePlans = .ok result) :
    ∀ sharePlan ∈ sharePlans,
      sharePlan.targetCount = shareSubmissionTargetCount plannedFleet.length := by
  induction sharePlans generalizing shareIndex assignments with
  | nil => simp
  | cons sharePlan sharePlans ih =>
    rw [countAssignments] at h
    obtain ⟨targets, htargets, h⟩ := except_bind_eq_ok.mp h
    rw [validateShareTargets] at htargets
    obtain ⟨_, -, htargets⟩ := except_bind_eq_ok.mp htargets
    obtain ⟨_, hcheck, -⟩ := except_bind_eq_ok.mp htargets
    have hcount := check_eq_ok.mp hcheck
    simp only [Bool.and_eq_true, decide_eq_true_eq] at hcount
    exact List.forall_mem_cons.mpr ⟨hcount.2, ih h⟩

/-- A plan that passed validation has targets within the cap of the protocol. -/
theorem targetCount_le_of_validated {plan : ShareDeliveryPlan} {shareCount : Nat}
    {plannedFleet : List String} {sharePlan : ShareSubmissionPlan}
    (h : validateShareDeliveryPlan U plan shareCount = .ok plannedFleet)
    (hshare : sharePlan ∈ plan.sharePlans) : sharePlan.targetCount ≤ shareHelperTargetCountCap := by
  rw [validateShareDeliveryPlan] at h
  obtain ⟨_, -, h⟩ := except_bind_eq_ok.mp h
  obtain ⟨fleet, -, h⟩ := except_bind_eq_ok.mp h
  obtain ⟨_, -, h⟩ := except_bind_eq_ok.mp h
  obtain ⟨_, hcounted, -⟩ := except_bind_eq_ok.mp h
  rw [countAssignments_targetCount hcounted sharePlan hshare]
  exact Nat.min_le_right _ _

/-- One delivery changes, and with it what is available. -/
theorem Accounted.replace {available available' : Nat} {others others' : List Delivery}
    {delivery delivery' : Delivery} (h : Accounted ⟨available, others ++ delivery :: others'⟩)
    (hheld : available' + delivery'.held = available + delivery.held)
    (hsound : delivery.Sound → delivery'.Sound) :
    Accounted ⟨available', others ++ delivery' :: others'⟩ where
  conserved := by
    have hconserved := h.conserved
    simp only [List.map_append, List.map_cons, List.sum_append, List.sum_cons] at hconserved ⊢
    omega
  sound := by
    have hall := h.sound
    simp only [List.forall_mem_append, List.forall_mem_cons] at hall ⊢
    exact ⟨hall.1, hsound hall.2.1, hall.2.2⟩

theorem Accounted.step (hstep : Step U s event s') (h : Accounted s) : Accounted s' := by
  cases hstep with
  | arrive available deliveries plan shareCount plannedFleet sharePlan hplan hshare =>
    refine ⟨?_, List.forall_mem_cons.mpr
      ⟨⟨targetCount_le_of_validated hplan hshare, trivial⟩, h.sound⟩⟩
    simpa [Delivery.held] using h.conserved
  | assign available others others' target assigned more hmore hneeded =>
    exact h.replace (by simp only [Delivery.held]; omega) id
  | admitted available others others' target =>
    exact h.replace rfl fun hsound => ⟨hsound.1, by simp⟩
  | dispatch available others others' target dispatch dispatch' hstep =>
    refine h.replace rfl fun hsound => ⟨hsound.1, ?_⟩
    rintro _ ⟨⟩
    exact hstep.bounded hsound.2
  | leave available others others' delivery =>
    have hconserved := h.conserved
    have hall := h.sound
    simp only [List.map_append, List.map_cons, List.sum_append, List.sum_cons] at hconserved
    simp only [List.forall_mem_append, List.forall_mem_cons] at hall
    refine ⟨?_, List.forall_mem_append.mpr ⟨hall.1, hall.2.2⟩⟩
    simp only [List.map_append, List.sum_append]
    omega

/-! ## The ceilings -/

/-- A charge covers a fiftieth of the capacity and each target's share of it. -/
theorem le_charge {target : Nat} (h : target ≤ shareHelperTargetCountCap) :
    shareHelperMaxConcurrentPosts ≤ charge target ∧
      target * maxConcurrentShareDeliveries ≤ charge target := by
  unfold charge shareHelperTargetCountCap maxConcurrentShareDeliveries
    shareHelperMaxConcurrentPosts at *
  rw [Nat.mod_eq_of_lt (by omega)]
  omega

/-- The deliveries that hold delivery capacity. -/
def State.holders (s : State) : List Delivery := s.deliveries.filter Delivery.isActive

/-- The POSTs in flight. -/
def State.posts (s : State) : Nat := (s.deliveries.map Delivery.posts).sum

theorem sum_holders_le {deliveries : List Delivery} (h : ∀ delivery ∈ deliveries, delivery.Sound) :
    (deliveries.filter Delivery.isActive).length * shareHelperMaxConcurrentPosts ≤
        (deliveries.map Delivery.held).sum ∧
      ((deliveries.filter Delivery.isActive).map Delivery.plannedTarget).sum *
          maxConcurrentShareDeliveries ≤ (deliveries.map Delivery.held).sum ∧
      (deliveries.map Delivery.posts).sum ≤
        ((deliveries.filter Delivery.isActive).map Delivery.plannedTarget).sum := by
  induction deliveries with
  | nil => simp
  | cons delivery deliveries ih =>
    obtain ⟨⟨htarget, hbounded⟩, h⟩ := List.forall_mem_cons.mp h
    obtain ⟨hcount, htargets, hposts⟩ := ih h
    cases delivery with
    | waiting target assigned =>
      simp only [List.filter_cons, Delivery.isActive, List.map_cons, List.sum_cons, Delivery.held,
        Delivery.posts, Bool.false_eq_true, if_false]
      omega
    | active target dispatch =>
      obtain ⟨hone, hall⟩ := le_charge htarget
      simp only [Delivery.plannedTarget] at hone hall
      have hown : (Delivery.active target dispatch).posts ≤ target := by
        cases dispatch with
        | none => exact Nat.zero_le _
        | some d => exact (hbounded d rfl).posts_le
      simp only [List.filter_cons, Delivery.isActive, List.map_cons, List.sum_cons, Delivery.held,
        List.length_cons, Delivery.plannedTarget, if_true, Nat.add_mul, Nat.one_mul]
      omega

/-- Whatever deliveries do, at most 50 hold capacity, their targets add up to at most 128, at
most 128 POSTs are in flight, and a delivery that ends gives back all it took. -/
theorem share_posts_within_ceiling (U : UrlCrate) (s : State)
    (hs : Reachable (· = {}) (Step U) s) :
    s.holders.length ≤ 50 ∧ (s.holders.map Delivery.plannedTarget).sum ≤ 128 ∧ s.posts ≤ 128 ∧
      s.available + (s.deliveries.map Delivery.held).sum = 6400 ∧
      ∀ delivery s', Step U s (.ends delivery) s' →
        s'.available = s.available + delivery.held ∧ s.deliveries.Perm (delivery :: s'.deliveries) := by
  have h : Accounted s := hs.invariant (I := Accounted)
    (fun w (hinit : w = {}) => hinit ▸ ⟨rfl, by simp⟩) fun _ _ _ h hstep => h.step hstep
  obtain ⟨hcount, htargets, hposts⟩ := sum_holders_le h.sound
  have hconserved := h.conserved
  unfold deliveryCapacity at hconserved
  simp only [shareHelperMaxConcurrentPosts, maxConcurrentShareDeliveries] at *
  refine ⟨?_, ?_, ?_, hconserved, ?_⟩
  · unfold State.holders
    omega
  · unfold State.holders
    omega
  · unfold State.posts
    omega
  · intro delivery s' hstep
    cases hstep with
    | leave available others others' delivery => exact ⟨rfl, List.perm_middle⟩

/-- One share of a plan for one helper. -/
def samplePlan : ShareDeliveryPlan := ⟨["u"], [⟨false, 0, 1, ["u"]⟩], .strict⟩

/-- A delivery whose POST is in flight. -/
def sampleActive : Delivery := .active 1 (some ⟨1, [], [], .posting ["u"] [] ["u"]⟩)

/-- One delivery is posting, one is admitted, and a third waits with a part of its charge.  When
the first ends, its charge is available again. -/
theorem share_posts_within_ceiling_sample : ∃ s : State,
    Reachable (· = {}) (Step sampleUrls) s ∧
      s.deliveries = [.waiting 1 100, .active 1 none, sampleActive] ∧ s.posts = 1 ∧
      s.posts ≤ 128 ∧ s.holders.length ≤ 50 ∧
      s.available + (s.deliveries.map Delivery.held).sum = 6400 ∧
      ∀ s', Step sampleUrls s (.ends sampleActive) s' → s'.available = s.available + 128 := by
  have hplan : validateShareDeliveryPlan sampleUrls samplePlan 1 = .ok ["u"] := by decide +kernel
  have harrive : ∀ available deliveries, Step sampleUrls ⟨available, deliveries⟩ .goes
      ⟨available, .waiting 1 0 :: deliveries⟩ := fun available deliveries =>
    .arrive available deliveries samplePlan 1 ["u"] ⟨false, 0, 1, ["u"]⟩ hplan (by decide)
  have hinit : Reachable (· = {}) (Step sampleUrls) ({} : State) := .init rfl
  have hfirst := ((hinit.step (harrive _ _)).step (.assign _ [] [] 1 0 128 (by decide)
    (by decide))).step (.admitted _ [] [] 1)
  have hstarted := hfirst.step (.dispatch _ [] [] 1 none _ (.start [] ["u"]))
  have hreserved := hstarted.step (.dispatch _ [] [] 1 _ _
    (.reserve _ [] "u" rfl (by decide) (by decide)))
  have hsent := hreserved.step (.dispatch _ [] [] 1 _ _ (.send _ ["u"] rfl (by decide)))
  have hposted := hsent.step (.dispatch _ [] [] 1 _ _ (.post _ ["u"] ["u"] [] "u" rfl (by decide)))
  have hsecond := ((hposted.step (harrive _ _)).step (.assign _ [] _ 1 0 128 (by decide)
    (by decide))).step (.admitted _ [] _ 1)
  have hthird := (hsecond.step (harrive _ _)).step (.assign _ [] _ 1 0 100 (by decide) (by decide))
  obtain ⟨hholders, -, hposts, hconserved, hends⟩ := share_posts_within_ceiling _ _ hthird
  exact ⟨_, hthird, rfl, by decide, hposts, hholders, hconserved, fun s' h => (hends _ s' h).1⟩

end ZcashVoting.ShareDelivery
