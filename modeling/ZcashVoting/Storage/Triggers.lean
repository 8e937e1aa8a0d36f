import ZcashVoting.Storage.Db

/-!
# ZcashVoting.Storage.Triggers

Writes of a vote row with what the schema does beside them.  A helper plan and the
round's immediate-share designation belong to one generation of a vote: two triggers
on `votes` drop them when the stored recovery changes, except when confirmation fills
in the position, and both rows are deleted with the vote row.
-/

namespace ZcashVoting

/-! ## Triggers on an update of a vote row -/

/-- The condition both triggers share, with SQL's `NULL` for `none`: the position column
is filled, and `json_set(OLD.commitment_bundle_json, '$.vc_tree_position', …)` is
`NEW.commitment_bundle_json`. -/
def VoteRow.fillsPosition (old new : VoteRow) : Option Bool :=
  match old.vcTreePosition, new.vcTreePosition with
  | none, some position =>
    match old.recovery, new.recovery with
    | some before, some after => some (decide ({ before with vcTreePosition := position } = after))
    | _, _ => none
  | _, _ => some false

/-- `clear_helper_share_plan_on_vote_generation_change`: the plan of the vote after its
recovery changed. -/
def HelperSharePlanRow.onGenerationChange (old new : VoteRow) (plan : HelperSharePlanRow) :
    Option HelperSharePlanRow :=
  match new.recovery with
  | none => none
  | some recovery =>
    if old.recovery = some plan.recovery ∧ old.fillsPosition new = some true then
      some { plan with recovery }
    else if plan.recovery = recovery then some plan
    else none

/-- `clear_round_immediate_share_on_vote_generation_change`: the change of the recovery
voids the vote's designation. -/
def VoteRow.voidsDesignation (old new : VoteRow) : Bool :=
  old.fillsPosition new == some false

/-- The designation names a share of this vote. -/
def ImmediateShareKey.designates (key : ImmediateShareKey) (vote : VoteKey) : Bool :=
  key.bundleIndex = vote.bundle.bundleIndex && key.proposalId = vote.proposalId

namespace Db

/-- Remove the round's designation if it names a share of this vote. -/
def undesignate (db : Db) (vote : VoteKey) : Table RoundKey ImmediateShareKey :=
  match db.roundImmediateShare.lookup vote.bundle.round with
  | some key =>
    if key.designates vote then db.roundImmediateShare.erase vote.bundle.round
    else db.roundImmediateShare
  | none => db.roundImmediateShare

/-- The helper plans after an update of one vote row. -/
def plansAfterUpdate (db : Db) (key : VoteKey) (row : VoteRow) :
    Table VoteKey HelperSharePlanRow :=
  match db.votes.lookup key, db.helperSharePlans.lookup key with
  | some old, some plan =>
    if old.recovery = row.recovery then db.helperSharePlans
    else match plan.onGenerationChange old row with
      | some plan => db.helperSharePlans.insert key plan
      | none => db.helperSharePlans.erase key
  | _, _ => db.helperSharePlans

/-- The designations after an update of one vote row. -/
def designationsAfterUpdate (db : Db) (key : VoteKey) (row : VoteRow) :
    Table RoundKey ImmediateShareKey :=
  match db.votes.lookup key with
  | some old =>
    if old.recovery = row.recovery then db.roundImmediateShare
    else if old.voidsDesignation row then db.undesignate key
    else db.roundImmediateShare
  | none => db.roundImmediateShare

/-- `UPDATE votes`: one row, and the triggers. -/
def setVote (db : Db) (key : VoteKey) (row : VoteRow) : Db :=
  { db with
    votes := db.votes.insert key row
    helperSharePlans := db.plansAfterUpdate key row
    roundImmediateShare := db.designationsAfterUpdate key row }

@[simp] theorem setVote_votes (db : Db) (key : VoteKey) (row : VoteRow) :
    (db.setVote key row).votes = db.votes.insert key row := rfl

/-- `DELETE FROM share_delegations` of one vote. -/
def deleteShares (db : Db) (key : VoteKey) : Db :=
  { db with shareDelegations := db.shareDelegations.retain fun share _ => share.vote ≠ key }

@[simp] theorem deleteShares_votes (db : Db) (key : VoteKey) :
    (db.deleteShares key).votes = db.votes := rfl

end Db

end ZcashVoting
