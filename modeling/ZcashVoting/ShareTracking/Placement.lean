import ZcashVoting.SharePolicy.BatchBalance
import ZcashVoting.ShareTracking.DeliveryPlan

/-!
# ZcashVoting.ShareTracking.Placement

The planner and the check of persisted plans agree: a complete vote is always placed, and
what is placed passes the check, as long as the helpers are different ones.
-/

namespace ZcashVoting

open LeastLoaded Transaction

/-- The arguments plan a complete normal vote over distinct helper URLs, with entropy of the
required length.  No slice is longer than `isize::MAX` bytes. -/
structure PlacementParams.CompleteBatch (params : PlacementParams) : Prop where
  shareCount : params.shareCount = voteCommitmentShareCount
  normal : params.singleShare = false
  nonempty : params.rankedServerUrls ≠ []
  distinct : params.rankedServerUrls.Nodup
  preferred : params.preferredServerCount ≤ params.rankedServerUrls.length
  immediate : params.immediateShareIndex.all (· < voteCommitmentShareCount)
  submitAt_bytes : (shareSubmissionRandomBytesRequired params.shareCount
    params.rankedServerUrls.length params.nowSeconds params.voteEndTimeSeconds
    params.lastMomentBufferSeconds params.singleShare).submitAtRandomBytes ≤
      params.submitAtRandomBytes.length
  server_bytes : (shareSubmissionRandomBytesRequired params.shareCount
    params.rankedServerUrls.length params.nowSeconds params.voteEndTimeSeconds
    params.lastMomentBufferSeconds params.singleShare).serverRandomBytes ≤
      params.serverRandomBytes.length
  submitAt_slice : params.submitAtRandomBytes.length ≤ isizeMax
  server_slice : params.serverRandomBytes.length ≤ isizeMax

/-- A requirement that a slice meets is below the saturation. -/
theorem le_of_saturated_le {needed length : Nat} (h : min needed usizeMax ≤ length)
    (hslice : length ≤ isizeMax) : needed ≤ length := by
  unfold isizeMax at hslice
  unfold usizeMax at h
  omega

theorem checkedRandomBytesRequired_eq_ok {perShare shareCount length : Nat}
    (h : perShare * shareCount ≤ length) (hslice : length ≤ isizeMax) (name : String) :
    checkedRandomBytesRequired perShare shareCount name = .ok (perShare * shareCount) := by
  have hfits : isizeMax ≤ usizeMax := by decide
  exact if_pos (by omega)

namespace PlacementParams.CompleteBatch

variable {params : PlacementParams}

theorem complete (h : params.CompleteBatch) : params.completeNormalBatch = true := by
  simp [completeNormalBatch, h.shareCount, h.normal]

theorem submitAt_enough (h : params.CompleteBatch) :
    params.submitAtBytesPerShare * params.shareCount ≤ params.submitAtRandomBytes.length :=
  le_of_saturated_le h.submitAt_bytes h.submitAt_slice

theorem server_enough (h : params.CompleteBatch) :
    params.serverBytesPerShare * params.shareCount ≤ params.serverRandomBytes.length :=
  le_of_saturated_le h.server_bytes h.server_slice

/-- The pool has the helpers of a share, and of two helpers or more it has room for the
whole vote under the quota. -/
theorem pool_bounds (h : params.CompleteBatch) :
    let fleet := params.rankedServerUrls.length
    let pool := params.planningServers.length
    params.minimumPlanningServerCount ≤ fleet ∧ shareSubmissionTargetCount fleet ≤ pool ∧
      (2 ≤ fleet → 2 ≤ pool ∧ 16 * shareSubmissionTargetCount fleet ≤ 12 * pool) := by
  have hpool : params.planningServers.length = min
      (max params.preferredServerCount params.minimumPlanningServerCount)
      params.rankedServerUrls.length := by
    rw [planningServers, List.length_take]
    omega
  have hmin : params.minimumPlanningServerCount =
      (shareServerSelectionPolicy params.rankedServerUrls.length).minServerCount := by
    rw [minimumPlanningServerCount, h.complete, if_pos rfl]
  have hne : params.rankedServerUrls.length ≠ 0 := by simpa using h.nonempty
  dsimp only
  by_cases hone : params.rankedServerUrls.length = 1
  · rw [hone] at hpool hmin ⊢
    have hminOne : (shareServerSelectionPolicy 1).minServerCount = 1 := rfl
    have htarget : shareSubmissionTargetCount 1 = 1 := rfl
    omega
  · obtain ⟨htarget, hle, htwo, hroom⟩ :=
      minServerCount_bounds (show 2 ≤ params.rankedServerUrls.length by omega)
    omega

theorem feasible (h : params.CompleteBatch) : params.Feasible where
  nodup := h.distinct.sublist (List.take_sublist _ _)
  target_le := h.pool_bounds.2.1
  room := by
    intro quota hquota
    rw [maxSharesPerServer, h.complete, Bool.true_and] at hquota
    split at hquota
    · next hpool =>
      have hle : params.planningServers.length ≤ params.rankedServerUrls.length := by
        rw [planningServers, List.length_take]
        omega
      obtain ⟨-, hroom⟩ := h.pool_bounds.2.2 (by simp at hpool; omega)
      cases hquota
      rw [h.shareCount]
      exact hroom
    · cases hquota
  submitAt_bytes := by
    rw [Nat.mul_comm]
    exact h.submitAt_enough
  server_bytes := by
    rw [Nat.mul_comm]
    exact h.server_enough

theorem checkPlacement_eq_ok (h : params.CompleteBatch) : checkPlacement params = .ok () := by
  simp only [checkPlacement, requireShareServers, requireUniqueShareServers,
    checkedRandomBytesRequired_eq_ok h.submitAt_enough h.submitAt_slice,
    checkedRandomBytesRequired_eq_ok h.server_enough h.server_slice, except_bind_eq_ok, check_eq_ok]
  exact ⟨(), ⟨(), by simpa using h.nonempty, by simpa using h.distinct⟩, (),
    by simpa using h.preferred, _, rfl, _, rfl, (), by simpa using h.submitAt_enough, (),
    by simpa using h.server_enough, by simpa using h.pool_bounds.1⟩

/-- Planning a complete vote gives a plan for each share, each from some loads of the
helpers before it, and balanced loads in the end. -/
theorem planned (h : params.CompleteBatch) : ∃ plans,
    planShareSubmissionsWithPreferredServers params = .ok plans ∧
      List.Forall₂ (fun index plan => ∃ before, PlansShare params index before plan)
        (List.range voteCommitmentShareCount) plans ∧
      Balanced (assigned plans) params.planningServers ∧
      ∀ quota ∈ params.maxSharesPerServer, ∀ server, assigned plans server ≤ quota := by
  have hempty : ∀ server, ServerUsage.of ∅ server = 0 := fun server => by
    simp [ServerUsage.of]
  have htotal : total (ServerUsage.of ∅) params.planningServers =
      0 * shareSubmissionTargetCount params.rankedServerUrls.length := by
    rw [funext hempty]
    simp [total]
  obtain ⟨plans, hplans, hshares, hbalanced, hquota⟩ :=
    planShares_eq_ok h.feasible (Nat.zero_add _) (balanced_of_const fun server _ => hempty server)
      htotal (fun quota _ server => by simp [hempty])
  have hcount : params.shareCount ≠ 0 := by
    rw [h.shareCount]
    decide
  refine ⟨plans, ?_, ?_, ?_, ?_⟩
  · simp only [planShareSubmissionsWithPreferredServers, except_bind_eq_ok, check_eq_ok, hcount,
      if_false, h.checkPlacement_eq_ok]
    exact ⟨(), by simp [h.normal], (), by simpa [h.shareCount] using h.immediate, (), trivial, hplans⟩
  · rw [List.range_eq_range', ← h.shareCount]
    exact hshares
  · simpa only [hempty, Nat.zero_add] using hbalanced
  · simpa only [hempty, Nat.zero_add] using hquota

end PlacementParams.CompleteBatch

/-! ## The check of what is planned -/

section

variable {U : UrlCrate} {configured : List String} {canonical : String → String}

/-- How many of the shares go to the helper of a canonical form. -/
def assignedTo (plans : List ShareSubmissionPlan) (canonical : String → String) (url : String) :
    Nat :=
  plans.countP (url ∈ ·.targetServers.map canonical)

/-- What the check asks of the plan of one share, over a fleet of different helpers. -/
structure TargetsWithin (configured : List String) (plan : ShareSubmissionPlan) : Prop where
  subset : plan.targetServers ⊆ configured
  nodup : plan.targetServers.Nodup
  length : plan.targetServers.length = shareSubmissionTargetCount configured.length
  targetCount : plan.targetCount = shareSubmissionTargetCount configured.length

theorem validateShareTargets_eq_ok (hfleet : CanonicallyDistinct U configured canonical)
    {plan : ShareSubmissionPlan} (h : TargetsWithin configured plan) (shareIndex : Nat) :
    validateShareTargets U (configured.map canonical) shareIndex plan =
      .ok (plan.targetServers.map canonical) := by
  have hinside : (plan.targetServers.map canonical).find? (· ∉ configured.map canonical) = none := by
    rw [List.find?_eq_none]
    intro url hurl
    obtain ⟨server, hserver, rfl⟩ := List.mem_map.mp hurl
    simpa using ⟨server, h.subset hserver, rfl⟩
  simp only [validateShareTargets, (hfleet.of_subset h.subset h.nodup).list, except_bind_eq_ok,
    check_eq_ok]
  refine ⟨_, rfl, (), by simp [h.length, h.targetCount], ?_⟩
  rw [hinside]
  rfl

/-- The loop of the check counts what each helper is assigned. -/
theorem countAssignments_eq_ok (hfleet : CanonicallyDistinct U configured canonical)
    {plans : List ShareSubmissionPlan} (h : ∀ plan ∈ plans, TargetsWithin configured plan)
    (shareIndex : Nat) (assignments : ServerUsage) :
    ∃ final, countAssignments U (configured.map canonical) shareIndex assignments plans =
        .ok final ∧
      ∀ url, final.of url = assignments.of url + assignedTo plans canonical url := by
  induction plans generalizing shareIndex assignments with
  | nil => exact ⟨assignments, rfl, fun url => rfl⟩
  | cons plan plans ih =>
    have hplan := h plan List.mem_cons_self
    have hdistinct := (hfleet.of_subset hplan.subset hplan.nodup).distinct
    obtain ⟨final, hfinal, hcounts⟩ := ih (fun other hother => h other (List.mem_cons_of_mem _ hother))
      (shareIndex + 1) ((plan.targetServers.map canonical).foldl ServerUsage.add assignments)
    refine ⟨final, ?_, fun url => ?_⟩
    · simp only [countAssignments, except_bind_eq_ok]
      exact ⟨_, validateShareTargets_eq_ok hfleet hplan shareIndex, hfinal⟩
    · rw [hcounts, ServerUsage.of_foldl_add hdistinct, charge, assignedTo, assignedTo,
        List.countP_cons]
      simp only [decide_eq_true_eq]
      omega

/-- Different helpers keep their loads apart. -/
theorem assignedTo_canonical (hfleet : CanonicallyDistinct U configured canonical)
    {plans : List ShareSubmissionPlan} (h : ∀ plan ∈ plans, plan.targetServers ⊆ configured)
    {server : String} (hserver : server ∈ configured) :
    assignedTo plans canonical (canonical server) = assigned plans server := by
  refine List.countP_congr fun plan hplan => ?_
  simp only [decide_eq_true_eq, List.mem_map]
  constructor
  · rintro ⟨other, hother, heq⟩
    rwa [← List.inj_on_of_nodup_map hfleet.distinct (h plan hplan hother) hserver heq]
  · exact fun hmem => ⟨server, hmem, rfl⟩

/-- A bound on what every helper is assigned bounds what every canonical form is. -/
theorem assignedTo_le (hfleet : CanonicallyDistinct U configured canonical)
    {plans : List ShareSubmissionPlan} (h : ∀ plan ∈ plans, plan.targetServers ⊆ configured)
    {quota : Nat} (hquota : ∀ server, assigned plans server ≤ quota) (url : String) :
    assignedTo plans canonical url ≤ quota := by
  by_cases hmem : url ∈ configured.map canonical
  · obtain ⟨server, hserver, rfl⟩ := List.mem_map.mp hmem
    rw [assignedTo_canonical hfleet h hserver]
    exact hquota server
  · have hzero : assignedTo plans canonical url = 0 := by
      refine List.countP_eq_zero.mpr fun plan hplan => ?_
      simp only [decide_eq_true_eq]
      exact fun hurl => hmem (List.map_subset _ (h plan hplan) hurl)
    omega

theorem checkAssignments_eq_ok {shareCount : Nat} {plannedFleet : List String}
    {assignments : ServerUsage}
    (h : shareCount = voteCommitmentShareCount → 2 ≤ plannedFleet.length →
      ∀ url, assignments.of url ≤ shareHelperMaxInitialSharesPerServer) :
    checkAssignments shareCount plannedFleet assignments = .ok () := by
  unfold checkAssignments
  dsimp only
  split
  · next hcomplete =>
    have hnone : (assignments.ascending (· ≤ ·)).find? (fun entry =>
        shareHelperMaxInitialSharesPerServer < entry.2) = none := by
      rw [List.find?_eq_none]
      rintro ⟨url, count⟩ hentry
      have hle := h hcomplete.1 hcomplete.2 url
      rw [ServerUsage.of, Table.mem_ascending.mp hentry, Option.getD_some] at hle
      simpa using hle
    rw [hnone]
  · rfl

/-- A plan over different helpers that keeps to the policy's counts passes. -/
theorem validateShareDeliveryPlan_eq_ok (hfleet : CanonicallyDistinct U configured canonical)
    (hne : configured ≠ []) {plans : List ShareSubmissionPlan}
    (h : ∀ plan ∈ plans, TargetsWithin configured plan)
    (hquota : plans.length = voteCommitmentShareCount → 2 ≤ configured.length →
      ∀ server, assigned plans server ≤ shareHelperMaxInitialSharesPerServer)
    (guarantee : SharePlacementGuarantee) :
    validateShareDeliveryPlan U ⟨configured, plans, guarantee⟩ plans.length =
      .ok (configured.map canonical) := by
  obtain ⟨assignments, hcount, hcounts⟩ := countAssignments_eq_ok hfleet h 0 ∅
  have hbelow : checkAssignments plans.length (configured.map canonical) assignments = .ok () := by
    refine checkAssignments_eq_ok fun hcomplete htwo url => ?_
    rw [List.length_map] at htwo
    rw [hcounts url, show ServerUsage.of ∅ url = 0 by simp [ServerUsage.of], Nat.zero_add]
    exact assignedTo_le hfleet (fun plan hplan => (h plan hplan).subset) (hquota hcomplete htwo) url
  simp only [validateShareDeliveryPlan, hfleet.list, except_bind_eq_ok, check_eq_ok,
    except_pure_eq_ok]
  exact ⟨(), by simp, _, rfl, (), by simpa using hne, assignments, hcount, (), hbelow, rfl⟩

end

/-! ## Complete votes -/

theorem PlansShare.targetsWithin {params : PlacementParams} {index : Nat} {before : ServerUsage}
    {plan : ShareSubmissionPlan} (h : PlansShare params index before plan)
    {configured : List String} (hperm : configured.Perm params.rankedServerUrls) :
    TargetsWithin configured plan where
  subset := fun _ hserver =>
    hperm.mem_iff.mpr ((List.take_sublist _ _).subset (h.least.subset hserver))
  nodup := h.least.nodup
  length := by rw [hperm.length_eq, h.length]
  targetCount := by rw [hperm.length_eq, h.targetCount]

/-- A complete vote is always placed, whatever the entropy: every share goes to
`min(⌈n / 2⌉, 10)` distinct helpers of the planning pool, the pool is loaded evenly, no
helper of two or more gets over three quarters of the vote, and the persisted plan passes
its check if the `n` URLs are valid and name different helpers. -/
theorem complete_vote_placed_evenly (params : PlacementParams) (h : params.CompleteBatch) :
    ∃ plans, planShareSubmissionsWithPreferredServers params = .ok plans ∧ plans.length = 16 ∧
      (∀ plan ∈ plans, plan.targetServers.length =
          min ((params.rankedServerUrls.length + 1) / 2) 10 ∧
        plan.targetServers.Nodup ∧ plan.targetServers ⊆ params.planningServers) ∧
      (∀ a ∈ params.planningServers, ∀ b ∈ params.planningServers,
        assigned plans a ≤ assigned plans b + 1) ∧
      (2 ≤ params.rankedServerUrls.length → ∀ server, assigned plans server ≤ 12) ∧
      ∀ (U : UrlCrate) (configured : List String) (canonical : String → String)
        (guarantee : SharePlacementGuarantee), configured.Perm params.rankedServerUrls →
        CanonicallyDistinct U configured canonical →
        validateShareDeliveryPlan U ⟨configured, plans, guarantee⟩ 16 =
          .ok (configured.map canonical) := by
  obtain ⟨plans, hplans, hshares, hbalanced, hquota⟩ := h.planned
  have hlength : plans.length = 16 := by
    rw [← hshares.length_eq, List.length_range]
    rfl
  have hplan : ∀ plan ∈ plans, ∃ index before, PlansShare params index before plan := by
    intro plan hmem
    obtain ⟨position, rfl⟩ := List.mem_iff_get.mp hmem
    have hposition : position.val < (List.range voteCommitmentShareCount).length := by
      rw [hshares.length_eq]
      exact position.isLt
    exact ⟨_, hshares.get hposition position.isLt⟩
  have hbelow : 2 ≤ params.rankedServerUrls.length → ∀ server, assigned plans server ≤ 12 := by
    intro htwo
    have hpool := (h.pool_bounds.2.2 htwo).1
    refine hquota 12 ?_
    rw [PlacementParams.maxSharesPerServer, h.complete, Bool.true_and,
      if_pos (decide_eq_true (by omega))]
    rfl
  refine ⟨plans, hplans, hlength, fun plan hmem => ?_, fun a ha b hb => hbalanced.le_succ ha hb,
    hbelow, fun U configured canonical guarantee hperm hfleet => ?_⟩
  · obtain ⟨index, before, hshare⟩ := hplan plan hmem
    refine ⟨?_, hshare.least.nodup, hshare.least.subset⟩
    rw [hshare.length, shareSubmissionTargetCount, shareHelperTargetCountCap]
    omega
  · have hne : configured ≠ [] := fun hnil => h.nonempty (hnil ▸ hperm).symm.eq_nil
    rw [← hlength]
    refine validateShareDeliveryPlan_eq_ok hfleet hne (fun plan hmem => ?_) (fun _ htwo => ?_)
      guarantee
    · obtain ⟨index, before, hshare⟩ := hplan plan hmem
      exact hshare.targetsWithin hperm
    · exact hbelow (by rw [← hperm.length_eq]; exact htwo)

/-- A vote over two helpers with a window of ten seconds, and all entropy zero. -/
def samplePlacement (first second : String) : PlacementParams where
  shareCount := 16
  rankedServerUrls := [first, second]
  preferredServerCount := 1
  nowSeconds := 10
  voteEndTimeSeconds := 30
  lastMomentBufferSeconds := some 10
  singleShare := false
  immediateShareIndex := some 0
  submitAtRandomBytes := List.replicate 128 0
  serverRandomBytes := List.replicate 128 0

theorem samplePlacement_complete {first second : String} (h : first ≠ second) :
    (samplePlacement first second).CompleteBatch where
  shareCount := rfl
  normal := rfl
  nonempty := List.cons_ne_nil _ _
  distinct := by simpa [samplePlacement] using h
  preferred := by simp [samplePlacement]
  immediate := rfl
  submitAt_bytes := by
    rw [samplePlacement, List.length_replicate]
    exact Nat.le_refl 128
  server_bytes := by
    rw [samplePlacement, List.length_replicate]
    exact Nat.le_refl 128
  submitAt_slice := by
    rw [samplePlacement, List.length_replicate]
    decide
  server_slice := by
    rw [samplePlacement, List.length_replicate]
    decide

theorem complete_vote_placed_evenly_two : ∃ plans,
    planShareSubmissionsWithPreferredServers
        (samplePlacement "https://a.example" "https://b.example") = .ok plans ∧
      validateShareDeliveryPlan sampleUrls
        ⟨["https://b.example", "https://a.example"], plans, .strict⟩ 16 =
          .ok ["https://b.example", "https://a.example"] := by
  obtain ⟨plans, hplans, -, -, -, -, hvalid⟩ := complete_vote_placed_evenly
    (samplePlacement "https://a.example" "https://b.example")
    (samplePlacement_complete (by decide))
  exact ⟨plans, hplans, hvalid sampleUrls _ id .strict (List.Perm.swap _ _ _) ⟨by decide, by decide⟩⟩

/-- Two spellings of one helper are distinct URLs to the planner and one helper to the
check, so what is planned over them never passes. -/
theorem spellings_of_one_helper_fail_check :
    (samplePlacement "https://helper.example" "https://helper.example ").CompleteBatch ∧
      ∃ plans, planShareSubmissionsWithPreferredServers
          (samplePlacement "https://helper.example" "https://helper.example ") = .ok plans ∧
        ∀ (U : UrlCrate) (guarantee : SharePlacementGuarantee), ∃ error,
          validateShareDeliveryPlan U
            ⟨["https://helper.example", "https://helper.example "], plans, guarantee⟩ 16 =
              .error error := by
  have hcomplete := samplePlacement_complete
    (show "https://helper.example" ≠ "https://helper.example " by decide)
  obtain ⟨plans, hplans, hshares, -⟩ := hcomplete.planned
  refine ⟨hcomplete, plans, hplans, fun U guarantee => ?_⟩
  have hsame := canonicalizeHelperBaseUrl_congr
    (show trim "https://helper.example" = trim "https://helper.example " by decide) U
  have hlength : plans.length = 16 := by rw [← hshares.length_eq]; rfl
  unfold validateShareDeliveryPlan canonicalHelperUrlList
  cases hcanonical : canonicalizeHelperBaseUrl U "https://helper.example" with
  | error error =>
    refine ⟨error, ?_⟩
    simp [canonicalUrls, hcanonical, hlength, check, bind, Except.bind]
  | ok url =>
    rw [hcanonical] at hsame
    refine ⟨.invalidInput
      "persisted helper-share planning fleet must be nonempty and canonically distinct", ?_⟩
    simp [canonicalUrls, hcanonical, ← hsame, hlength, check, bind, Except.bind]

end ZcashVoting
