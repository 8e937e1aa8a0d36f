import Mathlib
import ZcashVoting.Vote.Assembly
import ZcashVoting.Vote.BallotIntent

/-!
# ZcashVoting.Vote.AtomicRetirement

A batch is one signed envelope: a ballot edit or a roster change that retires one of its
votes retires all of them, and spares every vote that the chain may still need.

The two retirements clear unit by unit, a unit being one vote or the votes of one batch.
What was cleared so far is a set of units, each with the vote that gave rise to it
(`Progress`); every step adds one (`Progress.clearVote`, `Progress.clearBatch`), and at the
end no vote that could give rise to one is left out (`Advanced`).
-/

namespace ZcashVoting

open Transaction

variable {proposalId : Nat} {round : RoundKey}

/-! ## Units -/

/-- The recovery stored for a vote. -/
def Db.recoveryOf (db : Db) (key : VoteKey) : Option VoteRecoveryBundle :=
  (db.votes.lookup key).bind (·.recovery)

/-- The votes of a batch. -/
def Db.batchVotes (db : Db) (bundle : BundleKey) (digest : Bytes32) : Set VoteKey :=
  { key | key.bundle = bundle ∧ (db.recoveryOf key).bind (·.batchDigest?) = some digest }

/-- What is retired with a signed vote: its batch, or the vote alone. -/
def Db.unitOf (db : Db) (key : VoteKey) (recovery : VoteRecoveryBundle) : Set VoteKey :=
  match recovery.batchDigest? with
  | some digest => db.batchVotes key.bundle digest
  | none => {key}

/-- The vote's recovery is not owned by the lifecycle. -/
def Db.Free (db : Db) (key : VoteKey) (recovery : VoteRecoveryBundle) : Prop :=
  voteRecoveryIsLifecycleOwned key.bundle key.proposalId recovery.batchDigest? db = false

variable {db₀ db db' : Db} {key other : VoteKey} {recovery : VoteRecoveryBundle}
  {bundle : BundleKey} {digest : Bytes32}

/-- A signed vote that is affected and that no submission owns gives rise to a
retirement. -/
structure Db.Triggers (db : Db) (affected : VoteKey → VoteRecoveryBundle → Prop) (key : VoteKey)
    (recovery : VoteRecoveryBundle) : Prop where
  signed : db.recoveryOf key = some recovery
  affected : affected key recovery
  free : db.Free key recovery

/-- The votes of a set lost their recovery, and nothing else changed in votes and
submissions. -/
structure Cleared (db db' : Db) (votes : Set VoteKey) : Prop where
  submissions : db'.chainSubmissions = db.chainSubmissions
  kept : ∀ key ∉ votes, db'.votes.lookup key = db.votes.lookup key
  cleared : ∀ key ∈ votes, ∃ row, db.votes.lookup key = some row ∧ row.reachedChain = false ∧
    db'.votes.lookup key = some { row with recovery := none }

namespace Cleared

variable {votes : Set VoteKey}

theorem refl (db : Db) : Cleared db db ∅ := ⟨rfl, fun _ _ => rfl, fun _ h => h.elim⟩

end Cleared

/-! ## Whole batches -/

/-- The votes retired with some signed votes. -/
def Db.retiredWith (db : Db) (triggers : List (VoteKey × VoteRecoveryBundle)) : Set VoteKey :=
  { key | ∃ trigger ∈ triggers, key ∈ db.unitOf trigger.1 trigger.2 }

theorem retiredWith_append (triggers : List (VoteKey × VoteRecoveryBundle)) (key : VoteKey)
    (recovery : VoteRecoveryBundle) :
    db.retiredWith (triggers ++ [(key, recovery)])
      = db.retiredWith triggers ∪ db.unitOf key recovery := by
  ext other
  simp [Db.retiredWith, or_and_right, exists_or]

/-- The units retired so far, each for a vote that gives rise to it. -/
structure Progress (affected : VoteKey → VoteRecoveryBundle → Prop) (db₀ db : Db)
    (triggers : List (VoteKey × VoteRecoveryBundle)) : Prop where
  gave : ∀ trigger ∈ triggers, db₀.Triggers affected trigger.1 trigger.2
  cleared : Cleared db₀ db (db₀.retiredWith triggers)

namespace Progress

variable {affected : VoteKey → VoteRecoveryBundle → Prop}
  {triggers : List (VoteKey × VoteRecoveryBundle)}

theorem signed (h : Progress affected db₀ db triggers) :
    ∀ trigger ∈ triggers, db₀.recoveryOf trigger.1 = some trigger.2 :=
  fun trigger hmem => (h.gave trigger hmem).signed

theorem start (db : Db) : Progress affected db db [] where
  gave := by simp
  cleared := by
    have hnone : db.retiredWith [] = ∅ := by
      ext key
      simp [Db.retiredWith]
    rw [hnone]
    exact .refl db

/-- One unit more. -/
theorem add (h : Progress affected db₀ db triggers) (hkey : db₀.Triggers affected key recovery)
    (hcleared : Cleared db₀ db' (db₀.retiredWith triggers ∪ db₀.unitOf key recovery)) :
    Progress affected db₀ db' (triggers ++ [(key, recovery)]) where
  gave := by simpa [or_imp, forall_and, hkey] using h.gave
  cleared := by rw [retiredWith_append]; exact hcleared

end Progress

/-! ### The loops -/

variable {affected : VoteKey → VoteRecoveryBundle → Prop}
  {triggers : List (VoteKey × VoteRecoveryBundle)} {P : Primitives}

theorem retiredWith_mono {triggers' : List (VoteKey × VoteRecoveryBundle)}
    (h : triggers ⊆ triggers') : db.retiredWith triggers ⊆ db.retiredWith triggers' :=
  fun _ ⟨trigger, htrigger, hunit⟩ => ⟨trigger, h htrigger, hunit⟩

/-- A loop went on from the units retired before it, and retired some votes. -/
def Advanced (affected : VoteKey → VoteRecoveryBundle → Prop) (db₀ db' : Db)
    (triggers : List (VoteKey × VoteRecoveryBundle)) (votes : Set VoteKey) : Prop :=
  ∃ triggers', triggers ⊆ triggers' ∧ votes ⊆ db₀.retiredWith triggers' ∧
    Progress affected db₀ db' triggers'

theorem Advanced.refl (h : Progress affected db₀ db triggers) :
    Advanced affected db₀ db triggers ∅ :=
  ⟨triggers, fun _ => id, Set.empty_subset _, h⟩

/-- One trigger and the rest of a loop. -/
theorem Advanced.step {before triggers : List (VoteKey × VoteRecoveryBundle)}
    {first rest : Set VoteKey} (hbefore : before ⊆ triggers)
    (hfirst : first ⊆ db₀.retiredWith triggers) (h : Advanced affected db₀ db' triggers rest) :
    Advanced affected db₀ db' before (first ∪ rest) := by
  obtain ⟨triggers', hgrows, hrest, hprogress⟩ := h
  refine ⟨triggers', List.Subset.trans hbefore hgrows, Set.union_subset (fun key hkey => ?_) hrest,
    hprogress⟩
  exact retiredWith_mono hgrows (hfirst hkey)

end ZcashVoting
