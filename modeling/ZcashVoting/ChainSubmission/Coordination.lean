import Mathlib.Data.List.Destutter
import Mathlib.Data.List.Lex
import Mathlib.Data.List.Sort
import Mathlib.Data.Prod.Lex
import Mathlib.Data.String.Basic
import ZcashVoting.Lib.Framing
import ZcashVoting.Lib.Locks
import ZcashVoting.ChainSubmission.Store.Runs

/-!
# ZcashVoting.ChainSubmission.Coordination

Process-local lifecycle serialization.

A call of `SubmissionCoordination` takes an account gate, a round gate, a bundle
lock and identity locks, in that order, out of four registries of weak references.
Which locks each call takes is its plan; how locks are looked up, granted, dropped
and pruned is `Lib.Locks`.  The registry mutexes are held over one lookup and no
wait, so a lookup is one step.
-/

namespace ZcashVoting

open Locks

/-! ## Keys -/

structure RoundOperationKey where
  walletId : String
  network : Nat
  voteRoundId : Bytes
  deriving DecidableEq

structure BundleOperationKey where
  round : RoundOperationKey
  bundleIndex : Nat
  deriving DecidableEq

/-- Canonical process-local key for one submission identity. -/
structure SubmissionOperationKey where
  bundle : BundleOperationKey
  targetKind : Nat
  targetValue : Bytes
  deriving DecidableEq

def networkRank : Network → Nat
  | .mainnet => 0
  | .testnet => 1
  | .regtest => 2

def roundKey (identity : ChainSubmissionIdentity) : RoundOperationKey :=
  ⟨identity.walletId, networkRank identity.network, identity.voteRoundId.val.val⟩

/-- `BundleOperationKey::from_identity`. -/
def BundleOperationKey.fromIdentity (identity : ChainSubmissionIdentity) : BundleOperationKey :=
  ⟨roundKey identity, identity.bundleIndex⟩

/-- `SubmissionOperationKey::from_identity`. -/
def SubmissionOperationKey.fromIdentity (identity : ChainSubmissionIdentity) :
    SubmissionOperationKey :=
  let (targetKind, targetValue) := match identity.target with
    | .delegation => (0, [])
    | .vote proposalId => (1, Framing.beBytes 4 proposalId)
    | .voteBatch digest => (2, digest.val)
    | .delegateAndVoteBatch digest => (3, digest.val)
  ⟨⟨roundKey identity, identity.bundleIndex⟩, targetKind, targetValue⟩

/-- The fields in the order the derived comparison looks at them. -/
def SubmissionOperationKey.fields (key : SubmissionOperationKey) :
    String ×ₗ ℕ ×ₗ List ℕ ×ₗ ℕ ×ₗ ℕ ×ₗ List ℕ :=
  toLex (key.bundle.round.walletId, toLex (key.bundle.round.network,
    toLex (key.bundle.round.voteRoundId.map (·.toNat), toLex (key.bundle.bundleIndex,
      toLex (key.targetKind, key.targetValue.map (·.toNat))))))

theorem SubmissionOperationKey.fields_injective :
    Function.Injective SubmissionOperationKey.fields := by
  rintro ⟨⟨⟨wallet, network, round⟩, bundle⟩, kind, value⟩
    ⟨⟨⟨wallet', network', round'⟩, bundle'⟩, kind', value'⟩ h
  have hbytes : Function.Injective (List.map UInt8.toNat) :=
    List.map_injective_iff.mpr fun _ _ h => UInt8.toNat_inj.mp h
  simp only [fields, EmbeddingLike.apply_eq_iff_eq, Prod.mk.injEq, hbytes.eq_iff] at h
  simp [h]

instance : LinearOrder SubmissionOperationKey :=
  LinearOrder.lift' SubmissionOperationKey.fields SubmissionOperationKey.fields_injective

/-! ## Calls -/

/-- The locks of the four registries. -/
inductive LockKey where
  | account (walletId : String)
  | round (key : RoundOperationKey)
  | bundle (key : BundleOperationKey)
  | identity (key : SubmissionOperationKey)
  deriving DecidableEq

/-- The registries, in lock order. -/
inductive LockRegistry where
  | accountGates
  | roundGates
  | bundleLocks
  | identityLocks
  deriving DecidableEq

/-- The registry a lock is in. -/
def LockKey.registry : LockKey → LockRegistry
  | .account _ => .accountGates
  | .round _ => .roundGates
  | .bundle _ => .bundleLocks
  | .identity _ => .identityLocks

/-- The identities an acquisition locks: sorted, and each once. -/
def identityKeys (operation : ChainSubmissionIdentity)
    (applicableIdentities : List ChainSubmissionIdentity) : List SubmissionOperationKey :=
  (((applicableIdentities.map SubmissionOperationKey.fromIdentity) ++
    [SubmissionOperationKey.fromIdentity operation]).insertionSort (· ≤ ·)).destutter (· ≠ ·)

/-- The calls that end in a lease. -/
inductive CoordinationCall where
  | acquire (operation : ChainSubmissionIdentity)
      (applicableIdentities : List ChainSubmissionIdentity)
  | tryAcquireAccountExclusive (walletId : String)
  | tryAcquireDelegationSetup (identity : ChainSubmissionIdentity)
  | tryAcquireRoundExclusive (identity : ChainSubmissionIdentity)
  deriving DecidableEq

namespace CoordinationCall

/-- What lifecycle work on a bundle takes first: the gates shared, the bundle for
itself. -/
def bundlePlan (identity : ChainSubmissionIdentity) : List (LockKey × Mode) :=
  [(.account identity.walletId, .shared), (.round (roundKey identity), .shared),
    (.bundle (.fromIdentity identity), .exclusive)]

/-- The locks of a call in the order it takes them.  Only `acquire` waits. -/
def plan : CoordinationCall → Plan LockKey
  | .acquire operation applicableIdentities =>
    ⟨true, bundlePlan operation ++
      (identityKeys operation applicableIdentities).map fun key => (.identity key, .exclusive)⟩
  | .tryAcquireAccountExclusive walletId => ⟨false, [(.account walletId, .exclusive)]⟩
  | .tryAcquireDelegationSetup identity => ⟨false, bundlePlan identity⟩
  | .tryAcquireRoundExclusive identity => ⟨false, [(.round (roundKey identity), .exclusive)]⟩

/-- The bundle a lifecycle lease is for; an exclusive lease is for none. -/
def lifecycle : CoordinationCall → Option ChainSubmissionIdentity
  | .acquire operation _ => some operation
  | .tryAcquireDelegationSetup identity => some identity
  | .tryAcquireAccountExclusive _ | .tryAcquireRoundExclusive _ => none

/-- The submissions a lease covers. -/
def identities : CoordinationCall → List ChainSubmissionIdentity
  | .acquire operation applicableIdentities => applicableIdentities ++ [operation]
  | _ => []

/-- An exclusive lease covers the lifecycle work of an account or a round. -/
def Covers (identity : ChainSubmissionIdentity) : CoordinationCall → Prop
  | .tryAcquireAccountExclusive walletId => identity.walletId = walletId
  | .tryAcquireRoundExclusive other => roundKey identity = roundKey other
  | _ => False

end CoordinationCall

/-! ## The order of the locks -/

/-- Account gates, round gates, bundle locks, and then identity locks by key. -/
def LockKey.rank : LockKey → ℕ ×ₗ WithBot SubmissionOperationKey
  | .account _ => toLex (0, ⊥)
  | .round _ => toLex (1, ⊥)
  | .bundle _ => toLex (2, ⊥)
  | .identity key => toLex (3, key)

/-- One lock is taken before another. -/
def LockKey.Before (a b : LockKey) : Prop := a.rank < b.rank

instance : IsTrans LockKey LockKey.Before := ⟨fun _ _ _ => lt_trans⟩

instance : Std.Irrefl LockKey.Before := ⟨fun a => lt_irrefl a.rank⟩

section Sorted

variable {α : Type} [PartialOrder α] [DecidableEq α]

omit [PartialOrder α] in
/-- Dropping repeated neighbours drops no element. -/
theorem mem_destutter'_ne {a x : α} {l : List α} (h : x ∈ a :: l) : x ∈ l.destutter' (· ≠ ·) a := by
  induction l generalizing a with
  | nil => simpa using h
  | cons b l ih =>
    by_cases hab : a = b
    · subst hab
      rw [List.destutter'_cons_neg _ (by simp)]
      exact ih (by simpa using h)
    · rw [List.destutter'_cons_pos _ hab]
      rcases List.mem_cons.mp h with rfl | h
      · simp
      · exact List.mem_cons_of_mem _ (ih h)

/-- Dropping repeated neighbours of a sorted list leaves it without repetitions. -/
theorem pairwise_destutter'_ne {a : α} {l : List α} (h : (a :: l).Pairwise (· ≤ ·)) :
    (l.destutter' (· ≠ ·) a).Pairwise (· < ·) := by
  induction l generalizing a with
  | nil => simp
  | cons b l ih =>
    rw [List.pairwise_cons] at h
    by_cases hab : a = b
    · subst hab
      rw [List.destutter'_cons_neg _ (by simp)]
      exact ih h.2
    · rw [List.destutter'_cons_pos _ hab, List.pairwise_cons]
      refine ⟨fun x hx => ?_, ih h.2⟩
      have hb : b ≤ x := by
        rcases List.mem_cons.mp ((List.destutter'_sublist _ _ b).subset hx) with rfl | hx
        · exact le_rfl
        · exact (List.pairwise_cons.mp h.2).1 x hx
      exact (lt_of_le_of_ne (h.1 b (by simp)) hab).trans_le hb

omit [PartialOrder α] in
theorem mem_destutter_ne {x : α} {l : List α} (h : x ∈ l) : x ∈ l.destutter (· ≠ ·) := by
  cases l with
  | nil => exact h
  | cons a l => exact mem_destutter'_ne h

theorem pairwise_destutter_ne {l : List α} (h : l.Pairwise (· ≤ ·)) :
    (l.destutter (· ≠ ·)).Pairwise (· < ·) := by
  cases l with
  | nil => exact .nil
  | cons a l => exact pairwise_destutter'_ne h

end Sorted

theorem mem_identityKeys {operation identity : ChainSubmissionIdentity}
    {applicable : List ChainSubmissionIdentity} (h : identity ∈ applicable ++ [operation]) :
    SubmissionOperationKey.fromIdentity identity ∈ identityKeys operation applicable := by
  refine mem_destutter_ne ?_
  rw [List.mem_insertionSort, ← List.map_singleton, ← List.map_append]
  exact List.mem_map_of_mem h

theorem pairwise_identityKeys (operation : ChainSubmissionIdentity)
    (applicable : List ChainSubmissionIdentity) :
    (identityKeys operation applicable).Pairwise (· < ·) :=
  pairwise_destutter_ne (List.pairwise_insertionSort (· ≤ ·) _)

/-- Every call takes its locks in the order of the locks. -/
theorem CoordinationCall.plan_ordered (call : CoordinationCall) :
    (call.plan.locks.map (·.1)).Pairwise LockKey.Before := by
  cases call with
  | acquire operation applicable =>
    have hkeys := pairwise_identityKeys operation applicable
    simp [plan, bundlePlan, LockKey.Before, LockKey.rank, List.pairwise_map, Prod.Lex.toLex_lt_toLex,
      hkeys]
  | tryAcquireAccountExclusive walletId => simp [plan]
  | tryAcquireDelegationSetup identity =>
    simp [plan, bundlePlan, LockKey.Before, LockKey.rank, Prod.Lex.toLex_lt_toLex]
  | tryAcquireRoundExclusive identity => simp [plan]

/-! ## Leases -/

/-- The coordination of one database authority, for any tasks. -/
abbrev SubmissionCoordination (T : Type) := State T LockKey CoordinationCall

/-- The states any interleaving of calls, drops and pruning reaches. -/
def CoordinationReachable {T : Type} [DecidableEq T] (s : SubmissionCoordination T) : Prop :=
  Locks.Reachable CoordinationCall.plan LockKey.registry s

namespace CoordinationCall

variable {identity other : ChainSubmissionIdentity} {call : CoordinationCall}

theorem nodup_plan (call : CoordinationCall) : (call.plan.locks.map (·.1)).Nodup :=
  call.plan_ordered.imp fun h heq => by
    subst heq
    exact lt_irrefl _ h

/-- Lifecycle work takes the gates of its bundle and the bundle. -/
theorem bundlePlan_subset (h : call.lifecycle = some identity) :
    bundlePlan identity ⊆ call.plan.locks := by
  cases call with
  | acquire operation applicable =>
    cases h
    simp [plan]
  | tryAcquireDelegationSetup other =>
    cases h
    simp [plan]
  | tryAcquireAccountExclusive | tryAcquireRoundExclusive => cases h

theorem identity_mem_plan (h : identity ∈ call.identities) :
    (LockKey.identity (.fromIdentity identity), Mode.exclusive) ∈ call.plan.locks := by
  cases call with
  | acquire operation applicable => simp [plan, mem_identityKeys h]
  | _ => simp [identities] at h

/-- An exclusive lease takes a gate that the work it covers shares. -/
theorem gate_of_covers (h : call.Covers identity) :
    ∃ key, (key, Mode.shared) ∈ bundlePlan identity ∧ (key, Mode.exclusive) ∈ call.plan.locks := by
  cases call with
  | tryAcquireAccountExclusive walletId =>
    exact ⟨.account walletId, by simp [bundlePlan, show identity.walletId = walletId from h],
      by simp [plan]⟩
  | tryAcquireRoundExclusive other =>
    exact ⟨.round (roundKey other),
      by simp [bundlePlan, show roundKey identity = roundKey other from h], by simp [plan]⟩
  | _ => exact h.elim

end CoordinationCall

/-- In every interleaving: no two leases are for one bundle, no two cover one
submission, no exclusive lease coexists with lifecycle work it covers, and no
acquisitions wait on each other in a cycle, however the locks queue them. -/
theorem lease_exclusion {T : Type} [DecidableEq T] {s : SubmissionCoordination T}
    (h : CoordinationReachable s) :
    (∀ t t' call call', t ≠ t' → s.phase t = .live call → s.phase t' = .live call' →
      (∀ identity identity', call.lifecycle = some identity → call'.lifecycle = some identity' →
        BundleOperationKey.fromIdentity identity ≠ BundleOperationKey.fromIdentity identity') ∧
      (∀ identity ∈ call.identities, identity ∉ call'.identities) ∧
      ∀ identity, call'.lifecycle = some identity → ¬ call.Covers identity) ∧
    ∀ (ahead : T → T → Prop) [IsTrans T ahead] [Std.Irrefl ahead] (t : T),
      ¬ Relation.TransGen (WaitsOn ahead s) t t := by
  refine ⟨fun t t' call call' hne hlive hlive' => ?_, fun ahead _ _ t =>
    no_wait_cycle (r := LockKey.Before) CoordinationCall.plan_ordered h t⟩
  have share : ∀ {key : LockKey} {m m' : Mode}, (key, m) ∈ call.plan.locks →
      (key, m') ∈ call'.plan.locks → m.compatible m' = true :=
    fun hmem hmem' => exclusive_leases CoordinationCall.nodup_plan h hne hlive hlive' hmem hmem'
  refine ⟨fun identity identity' hlifecycle hlifecycle' hbundle => ?_,
    fun identity hidentity hidentity' => ?_, fun identity hlifecycle hcovers => ?_⟩
  · have hmem := CoordinationCall.bundlePlan_subset hlifecycle
    have hmem' := CoordinationCall.bundlePlan_subset hlifecycle'
    rw [CoordinationCall.bundlePlan, hbundle] at hmem
    cases share (m := .exclusive) (hmem (by simp))
      (hmem' (a := (.bundle (.fromIdentity identity'), .exclusive)) (by simp [CoordinationCall.bundlePlan]))
  · cases share (CoordinationCall.identity_mem_plan hidentity)
      (CoordinationCall.identity_mem_plan hidentity')
  · obtain ⟨key, hshared, hexclusive⟩ := CoordinationCall.gate_of_covers hcovers
    cases share hexclusive (CoordinationCall.bundlePlan_subset hlifecycle hshared)

/-- A task acquires the delegation of one of the sample's bundles. -/
def sampleAcquire (t : Fin 2) (s : SubmissionCoordination (Fin 2)) :
    SubmissionCoordination (Fin 2) :=
  advances CoordinationCall.plan LockKey.registry t 9
    (launch CoordinationCall.plan t (.acquire (sampleIdentity t) []) s)

/-- Leases on both bundles. -/
def sampleLeases : SubmissionCoordination (Fin 2) := sampleAcquire 1 (sampleAcquire 0 State.initial)

/-- Work on two bundles of one round goes on side by side, and the leases are for
different bundles. -/
theorem lease_exclusion_two_bundles :
    (∀ t, sampleLeases.phase t = .live (.acquire (sampleIdentity t) [])) ∧
    CoordinationReachable sampleLeases ∧
    BundleOperationKey.fromIdentity (sampleIdentity 0) ≠
      BundleOperationKey.fromIdentity (sampleIdentity 1) := by
  have hlive : ∀ t, sampleLeases.phase t = .live (.acquire (sampleIdentity t) []) := by
    decide +kernel
  have hfirst : CoordinationReachable (sampleAcquire 0 State.initial) :=
    (Locks.Reachable.launch .refl rfl _).advances 0 9
  have hreach : CoordinationReachable sampleLeases :=
    (Locks.Reachable.launch hfirst (by decide +kernel) _).advances 1 9
  exact ⟨hlive, hreach, ((lease_exclusion hreach).1 0 1 _ _ (by decide) (hlive 0) (hlive 1)).1 _ _
    rfl rfl⟩

end ZcashVoting
