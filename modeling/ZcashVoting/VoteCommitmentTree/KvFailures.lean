import ZcashVoting.Lib.Stateful
import ZcashVoting.VoteCommitmentTree.KvShardStore

/-!
# ZcashVoting.VoteCommitmentTree.KvFailures

Which failures under an operation of the store surface.  The reports of the host's callbacks
are kept in a log.  A failed read, write or deletion, and a shard or cap that does not decode,
make the operation fail, and so does the caller's own callback.  A failed iteration does not,
nor does a shard that does not fit its address or a checkpoint that does not decode.
-/

namespace ZcashVoting.VoteCommitmentTree

open KvShardStore Stateful

/-! ## Reports -/

/-- What a callback reported. -/
inductive KvReport where
  | get (key : Bytes) (rc : Int) (value : Bytes)
  | set (key : Bytes) (rc : Int)
  | delete (key : Bytes) (rc : Int)
  /-- The null handle, or an iterator with what `iter_next` answers on it in turn. -/
  | iter (start : Bytes) (handle : Option KvAnswers)
  deriving DecidableEq

namespace KvReport

/-- A read, a write or a deletion reported an error.  A missing key is none. -/
def failedCall : KvReport → Bool
  | .get _ rc _ => rc ≠ 0 && rc ≠ 1
  | .set _ rc => rc ≠ 0
  | .delete _ rc => rc ≠ 0
  | .iter _ _ => false

/-- The value a read found. -/
def found? : KvReport → Option Bytes
  | .get _ rc value => if rc = 0 then some value else none
  | _ => none

/-- The pairs an iterator has to give out. -/
def pairs : KvReport → List (Bytes × Bytes)
  | .iter _ handle => KvIter.pairs handle
  | _ => []

end KvReport

/-- The host's state has a log of the reports. -/
structure KvCallbacks.Logs {σ : Type} (cb : KvCallbacks σ) (log : σ → List KvReport) : Prop where
  get : ∀ s key, log (cb.get s key).2 =
    log s ++ [.get key (cb.get s key).1.1 (cb.get s key).1.2]
  set : ∀ s key value, log (cb.set s key value).2 = log s ++ [.set key (cb.set s key value).1]
  delete : ∀ s key, log (cb.delete s key).2 = log s ++ [.delete key (cb.delete s key).1]
  iter : ∀ s start reverse, log (cb.iter s start reverse).2 =
    log s ++ [.iter start (cb.iter s start reverse).1]

/-! ## What an operation takes from an iterator -/

/-- The pairs an operation was given suffice, so that it does not call `iter_next` again. -/
def ShardStoreOp.enough (given : List (Bytes × Bytes)) : ShardStoreOp → Bool
  | .lastShard | .minCheckpointId | .maxCheckpointId => !given.isEmpty
  | .getCheckpointAtDepth checkpointDepth => checkpointDepth < given.length
  | .withCheckpoints limit callback | .forEachCheckpoint limit callback =>
    limit ≤ (given.filter fun (key, _) => 5 ≤ key.length).length ||
      !(visitAll callback [] (decodedCheckpoints limit given)).2.isOk
  | .truncateCheckpointsRetaining checkpointId =>
    given.any fun (key, _) => 5 ≤ key.length && checkpointId ≤ checkpointIdOfKey key
  | _ => false

/-- The answers of `iter_next` that an operation takes, behind those it was given. -/
def ShardStoreOp.taken (op : ShardStoreOp) : List (Bytes × Bytes) → KvAnswers → KvAnswers
  | _, [] => []
  | given, (rc, pair) :: answers =>
    if op.enough given then []
    else (rc, pair) :: if rc = 0 then op.taken (given ++ [pair]) answers else []

/-- The pairs that an operation takes. -/
def ShardStoreOp.takenPairs (op : ShardStoreOp) (reports : List KvReport) : List (Bytes × Bytes) :=
  reports.flatMap fun
    | .iter _ handle => KvIter.pairs (handle.map (op.taken []))
    | _ => []

/-! ## Blobs that an operation has to use -/

/-- The shards an operation has to use, at their addresses. -/
def ShardStoreOp.neededShards (reports : List KvReport) : ShardStoreOp → List (Address × Bytes)
  | .getShard shardRoot => (reports.filterMap KvReport.found?).map fun blob => (shardRoot, blob)
  | .lastShard => ((ShardStoreOp.lastShard.takenPairs reports).filter
      fun (key, _) => 9 ≤ key.length).map fun (key, blob) => (⟨shardHeight, shardIndexOfKey key⟩, blob)
  | _ => []

/-- The cap an operation has to use. -/
def ShardStoreOp.neededCap (reports : List KvReport) : ShardStoreOp → List Bytes
  | .getCap => reports.filterMap KvReport.found?
  | _ => []

/-- The checkpoints an operation has to use. -/
def ShardStoreOp.neededCheckpoints (op : ShardStoreOp) (reports : List KvReport) : List Bytes :=
  match op with
  | .getCheckpoint _ | .updateCheckpointWith _ _ | .truncateCheckpointsRetaining _ =>
    reports.filterMap KvReport.found?
  | .getCheckpointAtDepth checkpointDepth =>
    (((op.takenPairs reports).drop checkpointDepth).filter fun (key, _) => 5 ≤ key.length).map (·.2)
  | .withCheckpoints _ _ | .forEachCheckpoint _ _ =>
    ((op.takenPairs reports).filter fun (key, _) => 5 ≤ key.length).map (·.2)
  | _ => []

section Hindrances

variable [FieldRepr]

/-- What can go wrong under an operation: a callback reports an error, or a blob that the
operation has to use cannot be used. -/
inductive Hindrance where
  | call (report : KvReport)
  | nullIterator (start : Bytes)
  | iterNext (rc : Int)
  /-- A shard or cap that does not decode. -/
  | shard (blob : Bytes)
  /-- A shard that decodes and that `LocatedTree::from_parts` refuses at its address. -/
  | misfit (addr : Address) (blob : Bytes)
  | checkpoint (blob : Bytes)
  deriving DecidableEq

/-- The store goes on as if nothing had happened: `KvIter::next` ends the iteration, and the
errors of `from_parts` and `read_checkpoint` are dropped by `ok()`. -/
def Hindrance.overlooked : Hindrance → Bool
  | .call _ | .shard _ => false
  | .nullIterator _ | .iterNext _ | .misfit _ _ | .checkpoint _ => true

/-- The failures of an iteration. -/
def ShardStoreOp.iteratorFailures (op : ShardStoreOp) : KvReport → List Hindrance
  | .iter start none => [.nullIterator start]
  | .iter _ (some answers) =>
    ((op.taken [] answers).filter fun (rc, _) => rc ≠ 0 && rc ≠ 1).map fun (rc, _) => .iterNext rc
  | _ => []

/-- A blob that decodes to a tree too deep for its address. -/
def misfits (addr : Address) (blob : Bytes) : Bool :=
  (readShardVote blob).any fun tree => (LocatedPrunableTree.fromParts addr tree).isNone

/-- What went wrong under the operation. -/
def ShardStoreOp.hindrances (op : ShardStoreOp) (reports : List KvReport) : List Hindrance :=
  (reports.filter KvReport.failedCall).map .call ++
    reports.flatMap op.iteratorFailures ++
    (((op.neededShards reports).map (·.2) ++ op.neededCap reports).filter
      fun blob => (readShardVote blob).isNone).map .shard ++
    ((op.neededShards reports).filter fun (addr, blob) => misfits addr blob).map
      (fun (addr, blob) => .misfit addr blob) ++
    ((op.neededCheckpoints reports).filter fun blob => (readCheckpoint blob).isNone).map .checkpoint

omit [FieldRepr] in
theorem overlooked_of_iteratorFailures {op : ShardStoreOp} {report : KvReport}
    {hindrance : Hindrance} (h : hindrance ∈ op.iteratorFailures report) :
    hindrance.overlooked = true := by
  unfold ShardStoreOp.iteratorFailures at h
  split at h
  · rw [List.mem_singleton.mp h]
    rfl
  · obtain ⟨_, -, rfl⟩ := List.mem_map.mp h
    rfl
  · cases h

/-- What is not overlooked. -/
theorem exists_overlooked_eq_false (op : ShardStoreOp) (reports : List KvReport) :
    (∃ hindrance ∈ op.hindrances reports, hindrance.overlooked = false) ↔
      (∃ report ∈ reports, report.failedCall = true) ∨
      ∃ blob ∈ (op.neededShards reports).map (·.2) ++ op.neededCap reports,
        readShardVote blob = none := by
  unfold ShardStoreOp.hindrances
  generalize (op.neededShards reports).map (·.2) ++ op.neededCap reports = blobs
  constructor
  · rintro ⟨hindrance, hmem, hseen⟩
    simp only [List.mem_append, List.mem_map, List.mem_filter, List.mem_flatMap] at hmem
    rcases hmem with (((⟨report, hreport, rfl⟩ | ⟨report, -, hfailure⟩) | ⟨blob, ⟨hblob, hnone⟩, rfl⟩) |
      ⟨_, -, rfl⟩) | ⟨_, -, rfl⟩
    · exact .inl ⟨report, hreport⟩
    · rw [overlooked_of_iteratorFailures hfailure] at hseen
      cases hseen
    · exact .inr ⟨blob, hblob, Option.isNone_iff_eq_none.mp hnone⟩
    · cases hseen
    · cases hseen
  · rintro (⟨report, hreport, hfailed⟩ | ⟨blob, hblob, hnone⟩)
    · exact ⟨.call report, by simp [hreport, hfailed], rfl⟩
    · exact ⟨.shard blob, by simp [hblob, hnone], rfl⟩

/-- The caller's own callback returns an error on a checkpoint that decodes. -/
def ShardStoreOp.refusedByCaller (reports : List KvReport) : ShardStoreOp → Bool
  | .updateCheckpointWith _ update =>
    ((reports.filterMap KvReport.found?).filterMap readCheckpoint).any fun checkpoint =>
      !(update checkpoint).isOk
  | .withCheckpoints limit callback | .forEachCheckpoint limit callback =>
    !(visitAll callback [] (decodedCheckpoints limit (reports.flatMap KvReport.pairs))).2.isOk
  | _ => false

/-- A shard or cap that the operation has to use does not decode, or the caller's own
callback returns an error. -/
def ShardStoreOp.Refused (op : ShardStoreOp) (reports : List KvReport) : Prop :=
  (∃ blob ∈ (op.neededShards reports).map (·.2) ++ op.neededCap reports,
    readShardVote blob = none) ∨ op.refusedByCaller reports = true

end Hindrances

/-- The operation returned an error. -/
def ShardStoreAnswer.isErr : ShardStoreAnswer → Bool
  | .shard result => !result.isOk
  | .roots result => !result.isOk
  | .cap result => !result.isOk
  | .checkpointId result => !result.isOk
  | .count result => !result.isOk
  | .checkpointAt result => !result.isOk
  | .checkpoint result => !result.isOk
  | .visited _ result => !result.isOk
  | .updated result => !result.isOk
  | .retained result => !result.isOk
  | .done result => !result.isOk

/-! ## Calls that fail with their callbacks -/

section Exact

variable {σ α β : Type} {cb : KvCallbacks σ} {log : σ → List KvReport} {call : KvCall σ α} {s : σ}
  {op : ShardStoreOp}

/-- The call fails if and only if a read, write or deletion under it does. -/
def Exact (log : σ → List KvReport) (call : KvCall σ α) : Prop :=
  ∀ s, Ends call s
    (fun _ s' => ∃ reports, log s' = log s ++ reports ∧ ∀ report ∈ reports, report.failedCall = false)
    fun _ s' => ∃ reports, log s' = log s ++ reports ∧ ∃ report ∈ reports, report.failedCall = true

theorem Exact.pure (a : α) : Exact log (Pure.pure a : KvCall σ α) :=
  fun _ => Ends.pure ⟨[], by simp, by simp⟩

theorem Exact.bind {next : α → KvCall σ β} (hcall : Exact log call)
    (hnext : ∀ a, Exact log (next a)) : Exact log (call >>= next) := by
  intro s
  refine Ends.bind ((hcall s).mono (fun a s₁ hfirst => ?_) fun _ _ hfirst => hfirst)
  obtain ⟨first, hlog₁, hfirst⟩ := hfirst
  refine (hnext a s₁).mono (fun b s₂ hsecond => ?_) fun e s₂ hsecond => ?_
  · obtain ⟨second, hlog₂, hsecond⟩ := hsecond
    exact ⟨first ++ second, by rw [hlog₂, hlog₁, List.append_assoc],
      List.forall_mem_append.mpr ⟨hfirst, hsecond⟩⟩
  · obtain ⟨second, hlog₂, report, hreport, hfailed⟩ := hsecond
    exact ⟨first ++ second, by rw [hlog₂, hlog₁, List.append_assoc], report,
      List.mem_append_right _ hreport, hfailed⟩

/-- How a read ends: with a value, without one, or with an error. -/
theorem getValue_cases (hlogs : cb.Logs log) (key : Bytes) (s : σ) :
    ∃ rc value s', log s' = log s ++ [.get key rc value] ∧
      ((rc = 0 ∧ cb.getValue key s = .ok (some value) s') ∨
        (rc = 1 ∧ cb.getValue key s = .ok none s') ∨
        ((KvReport.get key rc value).failedCall = true ∧
          cb.getValue key s = .error .ioError s')) := by
  refine ⟨_, _, _, hlogs.get s key, ?_⟩
  unfold KvCallbacks.getValue KvReport.failedCall
  by_cases hfound : (cb.get s key).1.1 = 0
  · simp [hfound]
  · by_cases hmissing : (cb.get s key).1.1 = 1
    · simp [hmissing]
    · simp [hfound, hmissing]

theorem Exact.getValue (hlogs : cb.Logs log) (key : Bytes) : Exact log (cb.getValue key) := by
  intro s
  obtain ⟨rc, value, s', hlog, ⟨rfl, hcall⟩ | ⟨rfl, hcall⟩ | ⟨hfailed, hcall⟩⟩ :=
    getValue_cases hlogs key s
  · simpa [Ends, hcall, hlog] using KvReport.failedCall.eq_1 key 0 value
  · simpa [Ends, hcall, hlog] using KvReport.failedCall.eq_1 key 1 value
  · simpa [Ends, hcall, hlog] using hfailed

theorem Exact.setValue (hlogs : cb.Logs log) (key value : Bytes) :
    Exact log (cb.setValue key value) := by
  intro s
  have hlog := hlogs.set s key value
  unfold KvCallbacks.setValue Ends
  by_cases hrc : (cb.set s key value).1 = 0
  · simpa [hrc, hlog] using KvReport.failedCall.eq_2 key 0
  · simpa [hrc, hlog] using KvReport.failedCall.eq_2 key (cb.set s key value).1

theorem Exact.deleteKey (hlogs : cb.Logs log) (key : Bytes) : Exact log (cb.deleteKey key) := by
  intro s
  have hlog := hlogs.delete s key
  unfold KvCallbacks.deleteKey Ends
  by_cases hrc : (cb.delete s key).1 = 0
  · simpa [hrc, hlog] using KvReport.failedCall.eq_3 key 0
  · simpa [hrc, hlog] using KvReport.failedCall.eq_3 key (cb.delete s key).1

theorem Exact.deleteKeys (hlogs : cb.Logs log) (keys : List Bytes) :
    Exact log (cb.deleteKeys keys) := by
  induction keys with
  | nil => exact Exact.pure ()
  | cons key keys ih => exact (Exact.deleteKey hlogs key).bind fun _ => ih

theorem Exact.entries (hlogs : cb.Logs log) (start : Bytes) (reverse : Bool) :
    Exact log (cb.entries start reverse) := by
  intro s
  exact ⟨_, hlogs.iter s start reverse, by simp [KvReport.failedCall]⟩

/-- An iteration whose pairs are only read off. -/
theorem Exact.entriesMap (hlogs : cb.Logs log) (start : Bytes) (reverse : Bool)
    (f : List (Bytes × Bytes) → α) :
    Exact log (do let entries ← cb.entries start reverse; Pure.pure (f entries)) :=
  (Exact.entries hlogs start reverse).bind fun _ => Exact.pure _

theorem Exact.truncateCheckpointsRetaining (hlogs : cb.Logs log) (checkpointId : U32) :
    Exact log (truncateCheckpointsRetaining cb checkpointId) := by
  refine (Exact.entries hlogs _ _).bind fun entries => ?_
  refine (Exact.deleteKeys hlogs _).bind fun _ => ?_
  refine (Exact.getValue hlogs _).bind fun found => ?_
  split
  · exact Exact.pure _
  · exact Exact.setValue hlogs _ _

/-- The reports of the callbacks under a call. -/
def reportsUnder (log : σ → List KvReport) (call : KvCall σ α) (s : σ) : List KvReport :=
  (log (outcome call s).2).drop (log s).length

theorem Exact.isOk_iff (h : Exact log call) (s : σ) :
    (!(outcome call s).1.isOk) = true ↔
      ∃ report ∈ reportsUnder log call s, report.failedCall = true := by
  have hends := h s
  unfold Ends at hends
  unfold reportsUnder outcome
  cases hcall : call s with
  | ok a s' =>
    rw [hcall] at hends
    obtain ⟨reports, hlog, hnone⟩ := hends
    simp [hlog, Except.isOk, Except.toBool]
    simpa using hnone
  | error e s' =>
    rw [hcall] at hends
    obtain ⟨reports, hlog, hsome⟩ := hends
    simp [hlog, Except.isOk, Except.toBool]
    exact hsome

/-! ## Operations -/

theorem outcome_of_error {s' : σ} {e : KvError} (h : call s = .error e s') :
    outcome call s = (.error e, s') := by
  rw [outcome, h]

theorem outcome_bind_of_ok {next : α → KvCall σ β} {s' : σ} {a : α}
    (h : call s = .ok a s') : outcome (call >>= next) s = outcome (next a) s' := by
  rw [outcome, bind_of_ok h, outcome]

/-- A read whose value is then used fails with the read, or where the value cannot be used. -/
theorem getValue_bind_isOk (hlogs : cb.Logs log) (key : Bytes) {next : Option Bytes → KvCall σ α}
    {unusable : Bytes → Prop} (hnone : ∀ s, ∃ a, next none s = .ok a s)
    (hsome : ∀ blob s, (unusable blob ∧ ∃ e, next (some blob) s = .error e s) ∨
      (¬ unusable blob ∧ ∃ a, next (some blob) s = .ok a s)) (s : σ) :
    (!(outcome (cb.getValue key >>= next) s).1.isOk) = true ↔
      (∃ report ∈ reportsUnder log (cb.getValue key >>= next) s, report.failedCall = true) ∨
      ∃ blob ∈ (reportsUnder log (cb.getValue key >>= next) s).filterMap KvReport.found?,
        unusable blob := by
  obtain ⟨rc, value, s', hlog, hread⟩ := getValue_cases hlogs key s
  unfold reportsUnder
  rcases hread with ⟨rfl, hcall⟩ | ⟨rfl, hcall⟩ | ⟨hfailed, hcall⟩
  · rw [outcome_bind_of_ok hcall]
    rcases hsome value s' with ⟨hbad, e, hnext⟩ | ⟨hgood, a, hnext⟩
    · rw [outcome_of_error hnext]
      simp [hlog, hbad, KvReport.found?, Except.isOk, Except.toBool]
    · rw [outcome, hnext]
      simp [hlog, hgood, KvReport.found?, KvReport.failedCall, Except.isOk, Except.toBool]
  · obtain ⟨a, hnext⟩ := hnone s'
    rw [outcome_bind_of_ok hcall, outcome, hnext]
    simp [hlog, KvReport.found?, KvReport.failedCall, Except.isOk, Except.toBool]
  · rw [outcome_of_error (bind_of_error hcall)]
    simp [hlog, hfailed, Except.isOk, Except.toBool]

/-- `last_shard` takes one answer. -/
theorem takenPairs_lastShard (start : Bytes) (handle : Option KvAnswers) :
    ShardStoreOp.lastShard.takenPairs [.iter start handle] = (KvIter.pairs handle).head?.toList := by
  cases handle with
  | none => rfl
  | some answers =>
    cases answers with
    | nil => rfl
    | cons answer answers =>
      obtain ⟨rc, pair⟩ := answer
      have hone : ∀ rest, ShardStoreOp.lastShard.taken [pair] rest = [] := by
        intro rest
        cases rest <;> simp [ShardStoreOp.taken, ShardStoreOp.enough]
      by_cases hrc : rc = 0 <;>
        simp [ShardStoreOp.takenPairs, ShardStoreOp.taken, ShardStoreOp.enough, KvIter.pairs, hrc, hone]

theorem isErr_updateCheckpointWith (hlogs : cb.Logs log) (checkpointId : U32)
    (update : Checkpoint → Except KvError Checkpoint) (s : σ) :
    (!(outcome (updateCheckpointWith cb checkpointId update) s).1.isOk) = true ↔
      (∃ report ∈ reportsUnder log (updateCheckpointWith cb checkpointId update) s,
        report.failedCall = true) ∨
      (ShardStoreOp.updateCheckpointWith checkpointId update).refusedByCaller
        (reportsUnder log (updateCheckpointWith cb checkpointId update) s) = true := by
  obtain ⟨rc, value, s', hlog, hread⟩ := getValue_cases hlogs (checkpointKey checkpointId) s
  unfold reportsUnder updateCheckpointWith
  rcases hread with ⟨rfl, hcall⟩ | ⟨rfl, hcall⟩ | ⟨hfailed, hcall⟩
  · rw [outcome_bind_of_ok hcall, Option.bind_some]
    cases hdecode : readCheckpoint value with
    | none => simp [outcome, Pure.pure, EStateM.pure, hlog, hdecode, ShardStoreOp.refusedByCaller,
        KvReport.found?, KvReport.failedCall, Except.isOk, Except.toBool]
    | some checkpoint =>
      cases hupdate : update checkpoint with
      | error e =>
        simp only [hupdate]
        rw [show outcome (throw e : KvCall σ Bool) s' = (.error e, s') from rfl]
        simp [hlog, hdecode, hupdate, ShardStoreOp.refusedByCaller, KvReport.found?,
          KvReport.failedCall, Except.isOk, Except.toBool]
      | ok changed =>
        have hset := hlogs.set s' (checkpointKey checkpointId) (writeCheckpoint changed)
        simp only [hupdate]
        by_cases hrc : (cb.set s' (checkpointKey checkpointId) (writeCheckpoint changed)).1 = 0
        · have hcall : cb.setValue (checkpointKey checkpointId) (writeCheckpoint changed) s' =
            .ok () (cb.set s' (checkpointKey checkpointId) (writeCheckpoint changed)).2 := by
            simp [KvCallbacks.setValue, hrc]
          rw [outcome_bind_of_ok hcall]
          simp [outcome, Pure.pure, EStateM.pure, hlog, hset, hrc, hdecode, hupdate,
            ShardStoreOp.refusedByCaller, KvReport.found?, KvReport.failedCall, Except.isOk,
            Except.toBool]
        · have hcall : cb.setValue (checkpointKey checkpointId) (writeCheckpoint changed) s' =
            .error .ioError (cb.set s' (checkpointKey checkpointId) (writeCheckpoint changed)).2 := by
            simp [KvCallbacks.setValue, hrc]
          rw [outcome_of_error (bind_of_error hcall)]
          simp [hlog, hset, hrc, KvReport.failedCall, Except.isOk, Except.toBool]
  · rw [outcome_bind_of_ok hcall]
    simp [outcome, Pure.pure, EStateM.pure, hlog, ShardStoreOp.refusedByCaller,
      KvReport.found?, KvReport.failedCall, Except.isOk, Except.toBool]
  · rw [outcome_of_error (bind_of_error hcall)]
    simp [hlog, hfailed, Except.isOk, Except.toBool]

variable [FieldRepr]

/-- The reports of the callbacks that an operation made. -/
def ShardStoreOp.reportsOf (cb : KvCallbacks σ) (log : σ → List KvReport) (s : σ)
    (op : ShardStoreOp) : List KvReport :=
  (log (step cb s op).2).drop (log s).length

theorem locateShard_cases (addr : Address) (blob : Bytes) (s : σ) :
    (readShardVote blob = none ∧ ∃ e, locateShard addr blob s = .error e s) ∨
      (¬ readShardVote blob = none ∧ ∃ tree, locateShard addr blob s = .ok tree s) := by
  unfold locateShard
  cases readShardVote blob with
  | none => exact .inl ⟨rfl, _, rfl⟩
  | some tree => exact .inr ⟨by simp, _, rfl⟩

theorem isErr_getShard (hlogs : cb.Logs log) (shardRoot : Address) (s : σ) :
    (!(outcome (getShard cb shardRoot) s).1.isOk) = true ↔
      (∃ report ∈ reportsUnder log (getShard cb shardRoot) s, report.failedCall = true) ∨
      ∃ blob ∈ (reportsUnder log (getShard cb shardRoot) s).filterMap KvReport.found?,
        readShardVote blob = none := by
  refine getValue_bind_isOk hlogs _ ?_ (locateShard_cases shardRoot) s
  exact fun _ => ⟨none, rfl⟩

theorem isErr_getCap (hlogs : cb.Logs log) (s : σ) :
    (!(outcome (getCap cb) s).1.isOk) = true ↔
      (∃ report ∈ reportsUnder log (getCap cb) s, report.failedCall = true) ∨
      ∃ blob ∈ (reportsUnder log (getCap cb) s).filterMap KvReport.found?,
        readShardVote blob = none := by
  refine getValue_bind_isOk hlogs _ ?_ ?_ s
  · exact fun _ => ⟨.nil, rfl⟩
  · intro blob s
    cases hread : readShardVote blob with
    | none => exact .inl ⟨rfl, .deserialization, by simp only [hread]; rfl⟩
    | some cap => exact .inr ⟨by simp, cap, by simp only [hread]; rfl⟩

theorem isErr_lastShard (hlogs : cb.Logs log) (s : σ) :
    (!(outcome (lastShard cb) s).1.isOk) = true ↔
      (∃ report ∈ reportsUnder log (lastShard cb) s, report.failedCall = true) ∨
      ∃ blob ∈ (ShardStoreOp.lastShard.neededShards (reportsUnder log (lastShard cb) s)).map (·.2),
        readShardVote blob = none := by
  have hlog := hlogs.iter s [shardPrefix] true
  have hentries : cb.entries [shardPrefix] true s =
    .ok (KvIter.pairs (cb.iter s [shardPrefix] true).1) (cb.iter s [shardPrefix] true).2 := rfl
  unfold reportsUnder lastShard
  rw [outcome_bind_of_ok hentries]
  cases hhead : (KvIter.pairs (cb.iter s [shardPrefix] true).1).head? with
  | none => simp [outcome, Pure.pure, EStateM.pure, hlog, ShardStoreOp.neededShards,
      takenPairs_lastShard, hhead, KvReport.failedCall, Except.isOk, Except.toBool]
  | some entry =>
    obtain ⟨key, value⟩ := entry
    by_cases hshort : key.length < 9
    · simp [hshort, outcome, Pure.pure, EStateM.pure, hlog, ShardStoreOp.neededShards,
        takenPairs_lastShard, hhead, KvReport.failedCall, Except.isOk, Except.toBool]
    · simp only [hshort, if_false]
      rcases locateShard_cases ⟨shardHeight, shardIndexOfKey key⟩ value
        (cb.iter s [shardPrefix] true).2 with ⟨hread, e, hcall⟩ | ⟨hread, tree, hcall⟩
      · rw [outcome_of_error hcall]
        simp [hlog, ShardStoreOp.neededShards, takenPairs_lastShard, hhead, Nat.not_lt.mp hshort,
          hread, Except.isOk, Except.toBool]
      · rw [outcome, hcall]
        simp [hlog, ShardStoreOp.neededShards, takenPairs_lastShard, hhead, hread,
          KvReport.failedCall, Except.isOk, Except.toBool]

omit [FieldRepr] in
/-- How a visit answers. -/
theorem isErr_visitCheckpoints (hlogs : cb.Logs log) (limit : Nat) (callback : CheckpointVisitor)
    (s : σ) :
    (visitAnswer (outcome (visitCheckpoints cb limit callback) s).1).isErr =
      (ShardStoreOp.withCheckpoints limit callback).refusedByCaller
        (reportsUnder log (visitCheckpoints cb limit callback) s) := by
  have hlog := hlogs.iter s [checkpointPrefix] false
  have hentries : cb.entries [checkpointPrefix] false s =
    .ok (KvIter.pairs (cb.iter s [checkpointPrefix] false).1)
      (cb.iter s [checkpointPrefix] false).2 := rfl
  unfold reportsUnder visitCheckpoints
  rw [outcome_bind_of_ok hentries]
  simp [outcome, Pure.pure, EStateM.pure, hlog, visitEntries_eq_visitAll, visitAnswer,
    ShardStoreAnswer.isErr, ShardStoreOp.refusedByCaller, KvReport.pairs]

/-- Where nothing but the callbacks can fail, `Exact` is the whole account. -/
theorem Exact.isErr_iff (h : Exact log call)
    (herr : (step cb s op).1.isErr = !(outcome call s).1.isOk)
    (hreports : op.reportsOf cb log s = reportsUnder log call s)
    (hrefused : ¬ op.Refused (op.reportsOf cb log s)) :
    (step cb s op).1.isErr = true ↔
      (∃ report ∈ op.reportsOf cb log s, report.failedCall = true) ∨
        op.Refused (op.reportsOf cb log s) := by
  rw [or_iff_left hrefused, herr, hreports]
  exact h.isOk_iff s

theorem not_refused {reports : List KvReport}
    (hshards : op.neededShards reports = []) (hcap : op.neededCap reports = [])
    (hcaller : op.refusedByCaller reports = false) : ¬ op.Refused reports := by
  simp [ShardStoreOp.Refused, hshards, hcap, hcaller]

/-- A visit fails exactly if its callback does. -/
theorem isErr_visit_iff (hlogs : cb.Logs log) {limit : Nat} {callback : CheckpointVisitor}
    (hstep : step cb s op = (outcome (visitCheckpoints cb limit callback) s).map visitAnswer id)
    (hreports : op.reportsOf cb log s = reportsUnder log (visitCheckpoints cb limit callback) s)
    (hshards : op.neededShards (op.reportsOf cb log s) = [])
    (hcap : op.neededCap (op.reportsOf cb log s) = [])
    (hcaller : op.refusedByCaller (op.reportsOf cb log s) =
      (ShardStoreOp.withCheckpoints limit callback).refusedByCaller (op.reportsOf cb log s)) :
    (step cb s op).1.isErr = true ↔
      (∃ report ∈ op.reportsOf cb log s, report.failedCall = true) ∨
        op.Refused (op.reportsOf cb log s) := by
  have hexact : Exact log (visitCheckpoints cb limit callback) := Exact.entriesMap hlogs _ _ _
  have hok : ¬ ∃ report ∈ op.reportsOf cb log s, report.failedCall = true := by
    rw [hreports, ← hexact.isOk_iff s]
    simp [visitCheckpoints, KvCallbacks.entries, outcome, bind, EStateM.bind, Pure.pure, EStateM.pure,
      Except.isOk, Except.toBool]
  rw [or_iff_right hok, ShardStoreOp.Refused, hshards, hcap, hcaller, hstep, hreports, Prod.map_fst,
    isErr_visitCheckpoints hlogs]
  simp

/-- An operation fails exactly if a read, write or deletion under it fails, a shard or cap that
it has to use does not decode, or the caller's own callback fails. -/
theorem step_isErr_iff (hlogs : cb.Logs log) (s : σ) (op : ShardStoreOp) :
    (step cb s op).1.isErr = true ↔
      (∃ report ∈ op.reportsOf cb log s, report.failedCall = true) ∨
        op.Refused (op.reportsOf cb log s) := by
  cases op with
  | getShard shardRoot =>
    refine (isErr_getShard hlogs shardRoot s).trans ?_
    simp only [ShardStoreOp.Refused, ShardStoreOp.neededShards, List.map_map, Function.comp_def,
      List.map_id', ShardStoreOp.neededCap, List.append_nil, ShardStoreOp.refusedByCaller,
      Bool.false_eq_true, or_false]
    rfl
  | lastShard =>
    refine (isErr_lastShard hlogs s).trans ?_
    simp only [ShardStoreOp.Refused, ShardStoreOp.neededCap, List.append_nil,
      ShardStoreOp.refusedByCaller, Bool.false_eq_true, or_false]
    rfl
  | getCap =>
    refine (isErr_getCap hlogs s).trans ?_
    simp only [ShardStoreOp.Refused, ShardStoreOp.neededShards, ShardStoreOp.neededCap,
      List.map_nil, List.nil_append, ShardStoreOp.refusedByCaller, Bool.false_eq_true, or_false]
    rfl
  | updateCheckpointWith checkpointId update =>
    refine (isErr_updateCheckpointWith hlogs checkpointId update s).trans ?_
    simp only [ShardStoreOp.Refused, ShardStoreOp.neededShards, ShardStoreOp.neededCap,
      List.map_nil, List.append_nil, List.not_mem_nil, false_and, exists_false, false_or]
    rfl
  | withCheckpoints limit callback =>
    exact isErr_visit_iff hlogs rfl rfl rfl rfl rfl
  | forEachCheckpoint limit callback =>
    exact isErr_visit_iff hlogs rfl rfl rfl rfl rfl
  | putShard subtree =>
    exact (Exact.setValue hlogs _ _).isErr_iff rfl rfl (not_refused rfl rfl rfl)
  | getShardRoots =>
    exact (show Exact log (getShardRoots cb) from Exact.entriesMap hlogs _ _ _).isErr_iff
      rfl rfl (not_refused rfl rfl rfl)
  | truncateShards shardIndex =>
    exact ((Exact.entries hlogs _ _).bind fun _ => Exact.deleteKeys hlogs _).isErr_iff
      rfl rfl (not_refused rfl rfl rfl)
  | putCap cap => exact (Exact.setValue hlogs _ _).isErr_iff rfl rfl (not_refused rfl rfl rfl)
  | minCheckpointId =>
    exact (show Exact log (minCheckpointId cb) from Exact.entriesMap hlogs _ _ _).isErr_iff
      rfl rfl (not_refused rfl rfl rfl)
  | maxCheckpointId =>
    exact (show Exact log (maxCheckpointId cb) from Exact.entriesMap hlogs _ _ _).isErr_iff
      rfl rfl (not_refused rfl rfl rfl)
  | addCheckpoint checkpointId checkpoint =>
    exact (Exact.setValue hlogs _ _).isErr_iff rfl rfl (not_refused rfl rfl rfl)
  | checkpointCount =>
    exact (show Exact log (checkpointCount cb) from Exact.entriesMap hlogs _ _ _).isErr_iff
      rfl rfl (not_refused rfl rfl rfl)
  | getCheckpointAtDepth checkpointDepth =>
    exact (show Exact log (getCheckpointAtDepth cb checkpointDepth) from
      Exact.entriesMap hlogs _ _ _).isErr_iff rfl rfl (not_refused rfl rfl rfl)
  | getCheckpoint checkpointId =>
    exact (show Exact log (getCheckpoint cb checkpointId) from
      (Exact.getValue hlogs _).bind fun _ => Exact.pure _).isErr_iff
        rfl rfl (not_refused rfl rfl rfl)
  | removeCheckpoint checkpointId =>
    exact (Exact.deleteKey hlogs _).isErr_iff rfl rfl (not_refused rfl rfl rfl)
  | addRetainedCheckpoint checkpointId =>
    exact (Exact.setValue hlogs _ _).isErr_iff rfl rfl (not_refused rfl rfl rfl)
  | removeRetainedCheckpoint checkpointId =>
    exact (Exact.deleteKey hlogs _).isErr_iff rfl rfl (not_refused rfl rfl rfl)
  | retainedCheckpoints =>
    exact (show Exact log (retainedCheckpoints cb) from Exact.entriesMap hlogs _ _ _).isErr_iff
      rfl rfl (not_refused rfl rfl rfl)
  | truncateCheckpointsRetaining checkpointId =>
    exact (Exact.truncateCheckpointsRetaining hlogs _).isErr_iff rfl rfl (not_refused rfl rfl rfl)

/-- A failure under an operation is passed on if and only if nothing went wrong, or something
other than an iteration, a shard that does not fit its address or a checkpoint that does not
decode went wrong, or the caller's own callback fails too. -/
theorem kv_failure_returned (cb : KvCallbacks σ) (log : σ → List KvReport) (hlogs : cb.Logs log)
    (s : σ) (op : ShardStoreOp) :
    (op.hindrances (op.reportsOf cb log s) ≠ [] → (step cb s op).1.isErr = true) ↔
      op.hindrances (op.reportsOf cb log s) = [] ∨
      (∃ hindrance ∈ op.hindrances (op.reportsOf cb log s), hindrance.overlooked = false) ∨
      op.refusedByCaller (op.reportsOf cb log s) = true := by
  rw [step_isErr_iff hlogs s op, ne_eq, ← or_iff_not_imp_left, ShardStoreOp.Refused,
    exists_overlooked_eq_false, or_assoc]

end Exact

/-- A host that gives the same answers every time.  Its state is the log. -/
def scriptedHost (read : Int × Bytes) (rc : Int) (handle : Option KvAnswers) :
    KvCallbacks (List KvReport) where
  get log key := (read, log ++ [.get key read.1 read.2])
  set log key _ := (rc, log ++ [.set key rc])
  delete log key := (rc, log ++ [.delete key rc])
  iter log start _ := (handle, log ++ [.iter start handle])

theorem scriptedHost_logs (read : Int × Bytes) (rc : Int) (handle : Option KvAnswers) :
    (scriptedHost read rc handle).Logs id :=
  ⟨fun _ _ => rfl, fun _ _ _ => rfl, fun _ _ => rfl, fun _ _ _ => rfl⟩

/-- A full disk is reported when the cap is written, and an iterator that breaks off while the
checkpoints are counted is not. -/
theorem kv_failure_returned_full_disk :
    letI := littleEndian
    (step (scriptedHost (1, []) (-1) (some [])) [] (.putCap .nil)).1.isErr = true ∧
      (ShardStoreOp.checkpointCount.hindrances (ShardStoreOp.checkpointCount.reportsOf
          (scriptedHost (1, []) 0 (some [(-1, [], [])])) id []) = [.iterNext (-1)] ∧
        (step (scriptedHost (1, []) 0 (some [(-1, [], [])])) [] .checkpointCount).1.isErr = false) := by
  let _ := littleEndian
  have hdisk := kv_failure_returned (scriptedHost (1, []) (-1) (some [])) id
    (scriptedHost_logs _ _ _) [] (.putCap .nil)
  have hcount := kv_failure_returned (scriptedHost (1, []) 0 (some [(-1, [], [])])) id
    (scriptedHost_logs _ _ _) [] .checkpointCount
  refine ⟨hdisk.mpr (by decide +kernel) (by decide +kernel), by decide +kernel, ?_⟩
  rw [← Bool.not_eq_true]
  exact fun herr => absurd (hcount.mp fun _ => herr) (by decide +kernel)

/-- A null iterator counts no checkpoints, an iteration that breaks off leaves the later
shards in place, a shard that is too deep for its address is taken for absent, and so is a
damaged checkpoint: none of them is an error. -/
theorem kv_failures_overlooked :
    letI := littleEndian
    ((ShardStoreOp.checkpointCount.hindrances (ShardStoreOp.checkpointCount.reportsOf
        (scriptedHost (1, []) 0 none) id [])).length = 1 ∧
      (step (scriptedHost (1, []) 0 none) [] .checkpointCount).1 = .count (.ok 0)) ∧
    (((ShardStoreOp.truncateShards 0).hindrances ((ShardStoreOp.truncateShards 0).reportsOf
        (scriptedHost (1, []) 0 (some [(-1, [], [])])) id [])).length = 1 ∧
      (step (scriptedHost (1, []) 0 (some [(-1, [], [])])) [] (.truncateShards 0)).1 =
        .done (.ok ())) ∧
    (((ShardStoreOp.getShard ⟨shardHeight, 0⟩).hindrances
        ((ShardStoreOp.getShard ⟨shardHeight, 0⟩).reportsOf
          (scriptedHost (0, [1, 2, 0, 2, 0, 2, 0, 2, 0, 2, 0, 0, 0, 0, 0, 0, 0]) 0 (some [])) id
          [])).length = 1 ∧
      (step (scriptedHost (0, [1, 2, 0, 2, 0, 2, 0, 2, 0, 2, 0, 0, 0, 0, 0, 0, 0]) 0 (some [])) []
        (.getShard ⟨shardHeight, 0⟩)).1 = .shard (.ok none)) ∧
    (((ShardStoreOp.getCheckpoint 7).hindrances ((ShardStoreOp.getCheckpoint 7).reportsOf
        (scriptedHost (0, [9]) 0 (some [])) id [])).length = 1 ∧
      (step (scriptedHost (0, [9]) 0 (some [])) [] (.getCheckpoint 7)).1 = .checkpoint (.ok none)) := by
  refine ⟨⟨rfl, rfl⟩, ⟨rfl, rfl⟩, ⟨rfl, rfl⟩, ⟨rfl, rfl⟩⟩

end ZcashVoting.VoteCommitmentTree
