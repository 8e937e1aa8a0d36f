import ZcashVoting.SharePolicy.InitialPlacement

/-!
# ZcashVoting.SharePolicy.BatchBalance

A complete batch is always placed, and evenly.  The planning loop keeps the loads of its
helpers within one of each other, so the quota cannot leave it without enough helpers
before the last share: until then the pool as a whole has room.
-/

namespace ZcashVoting

open LeastLoaded Transaction

/-- How many of the shares are assigned to the helper. -/
def assigned (plans : List ShareSubmissionPlan) (server : String) : Nat :=
  plans.countP (server ∈ ·.targetServers)

theorem assigned_cons (plan : ShareSubmissionPlan) (plans : List ShareSubmissionPlan)
    (server : String) :
    assigned (plan :: plans) server =
      assigned plans server + if server ∈ plan.targetServers then 1 else 0 := by
  simp [assigned, List.countP_cons]

/-- What the planning loop needs of its inputs. -/
structure PlacementParams.Feasible (params : PlacementParams) : Prop where
  nodup : params.planningServers.Nodup
  target_le : shareSubmissionTargetCount params.rankedServerUrls.length ≤
    params.planningServers.length
  /-- The pool as a whole has room for the batch under the quota. -/
  room : ∀ quota ∈ params.maxSharesPerServer,
    params.shareCount * shareSubmissionTargetCount params.rankedServerUrls.length ≤
      quota * params.planningServers.length
  submitAt_bytes : params.shareCount * params.submitAtBytesPerShare ≤
    params.submitAtRandomBytes.length
  server_bytes : params.shareCount * params.serverBytesPerShare ≤ params.serverRandomBytes.length

/-- What the plan of one share is, given what the helpers had before it. -/
structure PlansShare (params : PlacementParams) (shareIndex : Nat) (usage : ServerUsage)
    (plan : ShareSubmissionPlan) : Prop where
  immediate : plan.immediate = params.marksImmediate shareIndex
  submitAt : plan.immediate = true → plan.submitAt = 0
  targetCount : plan.targetCount = shareSubmissionTargetCount params.rankedServerUrls.length
  length : plan.targetServers.length = shareSubmissionTargetCount params.rankedServerUrls.length
  least : Least usage.of params.planningServers plan.targetServers
  below : ∀ quota ∈ params.maxSharesPerServer, ∀ server ∈ plan.targetServers,
    usage.of server < quota

section

variable {params : PlacementParams} {shareIndex : Nat} {usage : ServerUsage}

/-- The bytes of one share's slice. -/
theorem length_slice {bytes : Bytes} {count width index : Nat} (h : count * width ≤ bytes.length)
    (hindex : index < count) : ((bytes.drop (index * width)).take width).length = width := by
  have hle : (index + 1) * width ≤ count * width := Nat.mul_le_mul_right _ hindex
  rw [Nat.succ_mul] at hle
  rw [List.length_take, List.length_drop]
  omega

theorem shareSubmitAt_eq_ok
    (hbytes : params.shareCount * params.submitAtBytesPerShare ≤ params.submitAtRandomBytes.length)
    (hindex : shareIndex < params.shareCount) : ∃ submitAt,
      shareSubmitAt params shareIndex = .ok submitAt ∧
        (params.marksImmediate shareIndex → submitAt = 0) := by
  unfold shareSubmitAt
  split
  · exact ⟨0, rfl, fun _ => rfl⟩
  · next himmediate =>
    unfold scheduledShareSubmitAtFromEntropy
    cases hwindow : delayedShareWindowSeconds params.nowSeconds params.voteEndTimeSeconds
      params.lastMomentBufferSeconds params.singleShare with
    | none => exact ⟨0, rfl, fun h => absurd h himmediate⟩
    | some window =>
      have hwidth : params.submitAtBytesPerShare = shareSubmitAtRandomBytes := by
        simp [PlacementParams.submitAtBytesPerShare, shareSubmitAtRandomBytesRequired, hwindow]
      have hlength := length_slice hbytes hindex
      simp only [except_bind_eq_ok, check_eq_ok, except_pure_eq_ok]
      exact ⟨_, ⟨(), by rw [hlength, hwidth]; decide, rfl⟩, fun h => absurd h himmediate⟩

/-- Some helpers of the pool are below the quota, as many as a share needs. -/
theorem target_le_countP (h : params.Feasible)
    (hindex : shareIndex < params.shareCount) (hbalanced : Balanced usage.of params.planningServers)
    (htotal : total usage.of params.planningServers =
      shareIndex * shareSubmissionTargetCount params.rankedServerUrls.length) :
    shareSubmissionTargetCount params.rankedServerUrls.length ≤
      params.planningServers.countP fun server =>
        params.maxSharesPerServer.all (usage.of server < ·) := by
  cases hmax : params.maxSharesPerServer with
  | none => simpa [List.countP_eq_length] using h.target_le
  | some quota =>
    simp only [Option.all_some]
    refine hbalanced.room ?_ h.target_le
    calc total usage.of params.planningServers + _
        = (shareIndex + 1) * shareSubmissionTargetCount params.rankedServerUrls.length := by
          rw [htotal, Nat.succ_mul]
      _ ≤ params.shareCount * shareSubmissionTargetCount params.rankedServerUrls.length :=
          Nat.mul_le_mul_right _ hindex
      _ ≤ quota * params.planningServers.length := h.room quota (by simp [hmax])

theorem leastUsed_below {order : List String} {targetCount : Nat} {maxSharesPerServer : Option Nat}
    {server : String} (h : server ∈ leastUsed order targetCount maxSharesPerServer usage) :
    ∀ quota ∈ maxSharesPerServer, usage.of server < quota := by
  rintro quota rfl
  obtain ⟨entry, hentry, rfl⟩ := List.mem_map.mp h
  simpa using (List.mem_filter.mp ((List.take_sublist _ _).subset hentry)).2

/-- One turn of the loop places its share with the least loaded helpers. -/
theorem planShare_eq_ok (h : params.Feasible)
    (hindex : shareIndex < params.shareCount) (hbalanced : Balanced usage.of params.planningServers)
    (htotal : total usage.of params.planningServers =
      shareIndex * shareSubmissionTargetCount params.rankedServerUrls.length) :
    ∃ plan usage', planShare params shareIndex usage = .ok (plan, usage') ∧
      PlansShare params shareIndex usage plan ∧
        usage'.of = charge usage.of plan.targetServers := by
  have hbytes : shareServerOrderRandomBytesRequired params.planningServers.length ≤
      ((params.serverRandomBytes.drop (shareIndex * params.serverBytesPerShare)).take
        params.serverBytesPerShare).length := by
    rw [length_slice h.server_bytes hindex]
    have hle : params.planningServers.length ≤ params.rankedServerUrls.length := by
      rw [PlacementParams.planningServers, List.length_take]
      omega
    unfold PlacementParams.serverBytesPerShare shareServerOrderRandomBytesRequired
    omega
  obtain ⟨order, horder, hperm⟩ := shuffledShareServerOrder_eq_ok h.nodup hbytes
  obtain ⟨submitAt, hsubmitAt, himmediate⟩ := shareSubmitAt_eq_ok h.submitAt_bytes hindex
  obtain ⟨hleast, hlength⟩ := leastUsed_least hperm h.nodup
    (shareSubmissionTargetCount params.rankedServerUrls.length) params.maxSharesPerServer usage
  rw [Nat.min_eq_left (target_le_countP h hindex hbalanced htotal)] at hlength
  have hsmall : shareSubmissionTargetCount params.rankedServerUrls.length ≤ u32Max := by
    unfold shareSubmissionTargetCount shareHelperTargetCountCap u32Max
    omega
  refine ⟨⟨params.marksImmediate shareIndex, submitAt, _, _⟩, _, ?_,
    ⟨rfl, himmediate, rfl, hlength, hleast,
      fun quota hquota server hserver => leastUsed_below hserver quota hquota⟩,
    funext (ServerUsage.of_foldl_add hleast.nodup usage)⟩
  simp only [planShare, selectBatchShareSubmissionTargets, except_bind_eq_ok, check_eq_ok,
    except_pure_eq_ok, buildShareSubmissionPlan, hsmall, if_true]
  exact ⟨_, ⟨order, horder, (), by simpa using hlength, rfl⟩, submitAt, hsubmitAt, _, rfl, rfl⟩

/-- The loop from one share on: it ends with a plan for every share, each placed inside
the pool, and it leaves the loads balanced and under the quota. -/
theorem planShares_eq_ok (h : params.Feasible) {remaining : Nat}
    (hcount : shareIndex + remaining = params.shareCount)
    (hbalanced : Balanced usage.of params.planningServers)
    (htotal : total usage.of params.planningServers =
      shareIndex * shareSubmissionTargetCount params.rankedServerUrls.length)
    (hquota : ∀ quota ∈ params.maxSharesPerServer, ∀ server, usage.of server ≤ quota) :
    ∃ plans, planShares params remaining shareIndex usage = .ok plans ∧
      List.Forall₂ (fun index plan => ∃ before, PlansShare params index before plan)
        (List.range' shareIndex remaining) plans ∧
      Balanced (fun server => usage.of server + assigned plans server) params.planningServers ∧
      ∀ quota ∈ params.maxSharesPerServer, ∀ server,
        usage.of server + assigned plans server ≤ quota := by
  -- the loads at this share carry the induction over the shares that remain
  induction remaining generalizing shareIndex usage with
  | zero =>
    refine ⟨[], rfl, .nil, ?_, ?_⟩
    · simpa [assigned] using hbalanced
    · simpa [assigned] using hquota
  | succ remaining ih =>
    obtain ⟨plan, usage', hplan, hshare, husage⟩ :=
      planShare_eq_ok h (by omega) hbalanced htotal
    have hbalanced' : Balanced usage'.of params.planningServers := by
      rw [husage]
      exact hbalanced.charge hshare.least
    have htotal' : total usage'.of params.planningServers =
        (shareIndex + 1) * shareSubmissionTargetCount params.rankedServerUrls.length := by
      rw [husage, total_charge h.nodup hshare.least, htotal, hshare.length, Nat.succ_mul]
    have hquota' : ∀ quota ∈ params.maxSharesPerServer, ∀ server, usage'.of server ≤ quota := by
      intro quota hmax server
      rw [husage, charge]
      have := hquota quota hmax server
      split
      · next hserver => exact hshare.below quota hmax server hserver
      · omega
    obtain ⟨plans, hplans, hshares, hloads, hloadsQuota⟩ := ih (by omega) hbalanced' htotal' hquota'
    have hassigned : ∀ server, usage.of server + assigned (plan :: plans) server =
        usage'.of server + assigned plans server := by
      intro server
      rw [assigned_cons, husage, charge]
      omega
    refine ⟨plan :: plans, ?_, ?_, ?_, ?_⟩
    · simp only [planShares, except_bind_eq_ok, except_pure_eq_ok]
      exact ⟨_, hplan, plans, hplans, rfl⟩
    · rw [List.range'_succ]
      exact .cons ⟨usage, hshare⟩ hshares
    · simpa only [hassigned] using hloads
    · simpa only [hassigned] using hloadsQuota

end

end ZcashVoting
