import ZcashVoting.Lib.Table
import ZcashVoting.VoteCommitmentTree.Client

/-!
# ZcashVoting.TreeSync

Vote commitment trees per round: `VoteTreeSync` keeps one tree client for each round, syncs it
with a server, compares the delegation VANs it expects with their leaves, and makes VAN
witnesses from it.  The operations of a round exclude each other, so each is one step.
-/

namespace ZcashVoting

open VoteCommitmentTree

/-- `VanTreeEntry`: a confirmed VAN position that a sync has to retain, with the delegation VAN
that is still expected there. -/
structure VanTreeEntry where
  bundleIndex : Nat
  position : Nat
  expectedDelegationVan : Option MerkleHashVote
  deriving DecidableEq

/-- `VanWitness`. -/
structure VanWitness where
  authPath : List Bytes
  position : Nat
  anchorHeight : U32
  deriving DecidableEq

/-- `VAN_AUTH_PATH_LEN`. -/
def vanAuthPathLen : Nat := 24

/-- `VanWitness::from`. -/
def VanWitness.ofPath [FieldRepr] (path : MerklePath) (anchorHeight : U32) : VanWitness :=
  ⟨(path.authPath.take vanAuthPathLen).map MerkleHashVote.toBytes, path.position, anchorHeight⟩

namespace TreeSync

/-- How an operation fails. -/
inductive Failure (ε : Type) where
  /-- The operation panicked, or an earlier one on the round did. -/
  | panicked
  | poisoned
  | storage (error : VotingError)
  | syncFailed (error : SyncError ε)
  | missingRoot (anchorHeight : U32)
  | vanMismatch (bundleIndex : Nat)
  | vanAbsent (bundleIndex : Nat)
  | neverSynced
  | missingWitness (position : Nat) (anchorHeight : U32)
  deriving DecidableEq

/-- The failure is that of a sync whose root differs from a served one. -/
def Failure.isRootMismatch {ε : Type} : Failure ε → Bool
  | .syncFailed (.rootMismatch _ _ _) => true
  | _ => false

/-- `RoundTreeClient`. -/
structure RoundTreeClient (τ : Type) where
  client : TreeClient τ
  markedPositions : SortedSet Nat

namespace RoundTreeClient

variable {τ : Type}

/-- `RoundTreeClient::empty`. -/
def empty (tree : ShardTree τ) : RoundTreeClient τ := ⟨TreeClient.empty tree, ∅⟩

/-- `needs_resync_for`. -/
def needsResyncFor (round : RoundTreeClient τ) (positions : List Nat) : Bool :=
  positions.any fun position =>
    position ∉ round.markedPositions && position < round.client.nextPosition

/-- `mark_positions`. -/
def markPositions (round : RoundTreeClient τ) (positions : List Nat) : RoundTreeClient τ where
  client := positions.foldl TreeClient.markPosition round.client
  markedPositions := positions.foldl SortedSet.insert round.markedPositions

end RoundTreeClient

/-- `VoteTreeSync`: the clients by round, and the rounds whose operation lock is poisoned. -/
structure VoteTreeSync (τ : Type) where
  clients : Table String (RoundTreeClient τ) := ∅
  poisoned : List String := []

section

variable {τ σ ε : Type} (tree : ShardTree τ) (hash : VoteHash)

/-- The comparison of the expected delegation VANs with their leaves: the first bundle whose
leaf is not there yet, or an error. -/
def validateEntries (client : TreeClient τ) (anchorHeight : U32) :
    Option Nat → List VanTreeEntry → Except (Failure ε) (Option Nat)
  | missingBundle, [] => .ok missingBundle
  | missingBundle, entry :: entries =>
    match entry.expectedDelegationVan with
    | none => validateEntries client anchorHeight missingBundle entries
    | some expected =>
      match client.witness tree entry.position anchorHeight with
      | none =>
        validateEntries client anchorHeight (missingBundle.or (some entry.bundleIndex)) entries
      | some path =>
        match client.rootAtHeight tree anchorHeight with
        | none => .error (.missingRoot anchorHeight)
        | some root =>
          if path.verify hash expected root then
            validateEntries client anchorHeight missingBundle entries
          else .error (.vanMismatch entry.bundleIndex)

/-- The failure of a sync that did not end well. -/
def ofFault : SyncFault ε → Failure ε
  | .panicked => .panicked
  | .failed error => .syncFailed error

/-- The client that a sync starts from: the one of the round, or a new one when the round has
none or when a position behind its tip was not marked. -/
def clientFor (round : Option (RoundTreeClient τ)) (positions : List Nat) : RoundTreeClient τ :=
  let round := round.getD (.empty tree)
  let round := if round.needsResyncFor positions then .empty tree else round
  round.markPositions positions

/-- The client that a sync leaves behind, and what it returns.  Only a failed comparison of the
VANs discards the client. -/
def syncRound (overflowChecks : Bool) (api : TreeSyncApi σ ε) (entries : List VanTreeEntry)
    (round : RoundTreeClient τ) (server : σ) : Except (Failure ε) U32 × RoundTreeClient τ × σ :=
  match TreeClient.sync tree hash overflowChecks api ⟨round.client, server⟩ with
  | .error fault s => (.error (ofFault fault), { round with client := s.client }, s.server)
  | .ok () s =>
    let anchorHeight := s.client.lastSyncedHeight.getD ⟨0, Nat.zero_le _⟩
    match validateEntries tree hash s.client anchorHeight none entries with
    | .error failure => (.error failure, .empty tree, s.server)
    | .ok (some bundleIndex) =>
      (.error (.vanAbsent bundleIndex), { round with client := s.client }, s.server)
    | .ok none => (.ok anchorHeight, { round with client := s.client }, s.server)

/-- `sync_with_api`: `coordinated` around `sync_locked`, with what `load_van_tree_entries`
returned. -/
def sync (overflowChecks : Bool) (state : VoteTreeSync τ) (roundId : String)
    (entries : Except VotingError (List VanTreeEntry)) (api : TreeSyncApi σ ε) (server : σ) :
    Except (Failure ε) U32 × VoteTreeSync τ × σ :=
  if roundId ∈ state.poisoned then (.error .poisoned, state, server)
  else match entries with
    | .error error => (.error (.storage error), state, server)
    | .ok entries =>
      let round := clientFor tree (state.clients.lookup roundId) (entries.map (·.position))
      let (result, round, server) := syncRound tree hash overflowChecks api entries round server
      let poisoned :=
        match result with
        | .error .panicked => roundId :: state.poisoned
        | _ => state.poisoned
      (result, ⟨state.clients.insert roundId round, poisoned⟩, server)

/-- `generate_van_witness`: `coordinated` around `witness_locked`, with what
`load_van_position` returned. -/
def generateVanWitness [FieldRepr] (state : VoteTreeSync τ) (roundId : String)
    (vanPosition : Except VotingError Nat) (anchorHeight : U32) : Except (Failure ε) VanWitness :=
  if roundId ∈ state.poisoned then .error .poisoned
  else match vanPosition with
    | .error error => .error (.storage error)
    | .ok vanPosition =>
      match state.clients.lookup roundId with
      | none => .error .neverSynced
      | some round =>
        match round.client.witness tree vanPosition anchorHeight with
        | none => .error (.missingWitness vanPosition anchorHeight)
        | some path => .ok (VanWitness.ofPath path anchorHeight)

/-- `reset`: the client of one round is dropped, or all are when the round is empty. -/
def reset (state : VoteTreeSync τ) (roundId : String) : Except (Failure ε) Unit × VoteTreeSync τ :=
  if roundId = "" then (.ok (), { state with clients := ∅ })
  else if roundId ∈ state.poisoned then (.error .poisoned, state)
  else (.ok (), { state with clients := state.clients.erase roundId })

end

end TreeSync

end ZcashVoting
