import Mathlib.Data.List.TakeWhile
import ZcashVoting.Lib.Keyspace
import ZcashVoting.Lib.Simulation
import ZcashVoting.Lib.Stateful
import ZcashVoting.VoteCommitmentTree.KvShardStore

/-!
# ZcashVoting.VoteCommitmentTree.Refinement

The chain's shard store against the contract: over callbacks that behave as an ordered map
it answers every operation as the contract does, except that a truncation of checkpoints
goes the other way.
-/

namespace ZcashVoting.VoteCommitmentTree

open Framing Keyspace KvShardStore Stateful

/-! ## The host -/

/-- The callbacks succeed and behave as an ordered map, whose content in a state is the
view of the state. -/
structure KvCallbacks.OrderedMap {σ : Type} (cb : KvCallbacks σ) (view : σ → Bytes → Option Bytes) :
    Prop where
  get_found : ∀ s key value, view s key = some value → (cb.get s key).1 = (0, value)
  get_missing : ∀ s key, view s key = none → (cb.get s key).1.1 = 1
  view_get : ∀ s key, view (cb.get s key).2 = view s
  set_succeeds : ∀ s key value, (cb.set s key value).1 = 0
  view_set : ∀ s key value, view (cb.set s key value).2 = Function.update (view s) key (some value)
  delete_succeeds : ∀ s key, (cb.delete s key).1 = 0
  view_delete : ∀ s key, view (cb.delete s key).2 = Function.update (view s) key none
  iter_succeeds : ∀ s start reverse, ∃ answers, (cb.iter s start reverse).1 = some answers ∧
    ∀ answer ∈ answers, answer.1 = 0
  view_iter : ∀ s start reverse, view (cb.iter s start reverse).2 = view s
  iter_ascends : ∀ s start,
    (KvIter.pairs (cb.iter s start false).1).Pairwise fun a b => a.1 < b.1
  mem_iter : ∀ s start key value, (key, value) ∈ KvIter.pairs (cb.iter s start false).1 ↔
    view s key = some value ∧ start <+: key
  iter_reverse : ∀ s start, KvIter.pairs (cb.iter s start true).1 =
    (KvIter.pairs (cb.iter s start false).1).reverse

section Host

variable {σ α β : Type} {cb : KvCallbacks σ} {view : σ → Bytes → Option Bytes} {s s' : σ}

theorem outcome_of_ok {call : KvCall σ α} {a : α} (h : call s = .ok a s') :
    outcome call s = (.ok a, s') := by
  rw [outcome, h]

/-- The call succeeds with the answer and leaves the content as it is. -/
def Answers (view : σ → Bytes → Option Bytes) (call : KvCall σ α) (s : σ) (a : α) : Prop :=
  ∃ s', call s = .ok a s' ∧ view s' = view s

theorem Answers.pure (a : α) : Answers view (Pure.pure a : KvCall σ α) s a := ⟨s, rfl, rfl⟩

theorem Answers.bind {call : KvCall σ α} {next : α → KvCall σ β} {a : α} {b : β}
    (h : Answers view call s a) (hnext : ∀ s', view s' = view s → Answers view (next a) s' b) :
    Answers view (call >>= next) s b := by
  obtain ⟨s₁, hcall, hview₁⟩ := h
  obtain ⟨s₂, hrest, hview₂⟩ := hnext s₁ hview₁
  exact ⟨s₂, by rw [bind_of_ok hcall, hrest], hview₂.trans hview₁⟩

/-- What is computed from an answer. -/
theorem Answers.map {call : KvCall σ α} {a : α} (h : Answers view call s a) (f : α → β) :
    Answers view (call >>= fun a => Pure.pure (f a)) s (f a) :=
  h.bind fun _ _ => Answers.pure _

theorem KvCallbacks.OrderedMap.getValue (h : cb.OrderedMap view) (key : Bytes) (s : σ) :
    Answers view (cb.getValue key) s (view s key) := by
  refine ⟨(cb.get s key).2, ?_, h.view_get s key⟩
  unfold KvCallbacks.getValue
  cases hview : view s key with
  | none =>
    have hget := h.get_missing s key hview
    simp [hget]
  | some value => simp [h.get_found s key value hview]

theorem KvCallbacks.OrderedMap.entries (h : cb.OrderedMap view) (start : Bytes) (reverse : Bool)
    (s : σ) : Answers view (cb.entries start reverse) s (KvIter.pairs (cb.iter s start reverse).1) :=
  ⟨(cb.iter s start reverse).2, rfl, h.view_iter s start reverse⟩

theorem KvCallbacks.OrderedMap.setValue (h : cb.OrderedMap view) (key value : Bytes) (s : σ) :
    ∃ s', cb.setValue key value s = .ok () s' ∧
      view s' = Function.update (view s) key (some value) := by
  refine ⟨_, ?_, h.view_set s key value⟩
  simp [KvCallbacks.setValue, h.set_succeeds]

theorem KvCallbacks.OrderedMap.deleteKey (h : cb.OrderedMap view) (key : Bytes) (s : σ) :
    ∃ s', cb.deleteKey key s = .ok () s' ∧ view s' = Function.update (view s) key none := by
  refine ⟨_, ?_, h.view_delete s key⟩
  simp [KvCallbacks.deleteKey, h.delete_succeeds]

/-- Deleting keys one after the other removes them all. -/
theorem KvCallbacks.OrderedMap.deleteKeys (h : cb.OrderedMap view) (keys : List Bytes) (s : σ) :
    ∃ s', cb.deleteKeys keys s = .ok () s' ∧
      view s' = fun stored => if stored ∈ keys then none else view s stored := by
  induction keys generalizing s with
  | nil => exact ⟨s, rfl, by simp⟩
  | cons key keys ih =>
    obtain ⟨s₁, hfirst, hview₁⟩ := h.deleteKey key s
    obtain ⟨s₂, hrest, hview₂⟩ := ih s₁
    refine ⟨s₂, ?_, ?_⟩
    · rw [KvCallbacks.deleteKeys, bind_of_ok hfirst, hrest]
    · rw [hview₂, hview₁]
      funext stored
      by_cases hkey : stored = key
      · simp [hkey]
      · simp [hkey]

end Host

/-! ## Keys -/

@[simp] theorem shardIndexOfKey_shardKey (index : U64) : shardIndexOfKey (shardKey index) = index := by
  refine Subtype.ext ?_
  have hbound : index.val < 256 ^ 8 := by
    have := index.property
    unfold u64Max at this
    omega
  simp [shardIndexOfKey, shardKey, List.take_of_length_le, beValue_beBytes hbound]

theorem checkpointIdOfKey_cons (first : UInt8) (id : U32) :
    checkpointIdOfKey (first :: beBytes 4 id.val) = id := by
  refine Subtype.ext ?_
  have hbound : id.val < 256 ^ 4 := by
    have := id.property
    unfold u32Max at this
    omega
  simp [checkpointIdOfKey, List.take_of_length_le, beValue_beBytes hbound]

@[simp] theorem checkpointIdOfKey_checkpointKey (id : U32) :
    checkpointIdOfKey (checkpointKey id) = id := checkpointIdOfKey_cons _ id

@[simp] theorem checkpointIdOfKey_retainedCheckpointKey (id : U32) :
    checkpointIdOfKey (retainedCheckpointKey id) = id := checkpointIdOfKey_cons _ id

@[simp] theorem length_shardKey (index : U64) : (shardKey index).length = 9 := by simp [shardKey]

@[simp] theorem length_checkpointKey (id : U32) : (checkpointKey id).length = 5 := by
  simp [checkpointKey]

@[simp] theorem length_retainedCheckpointKey (id : U32) : (retainedCheckpointKey id).length = 5 := by
  simp [retainedCheckpointKey]

theorem shardKey_injective : Function.Injective shardKey :=
  Function.LeftInverse.injective shardIndexOfKey_shardKey

theorem checkpointKey_injective : Function.Injective checkpointKey :=
  Function.LeftInverse.injective checkpointIdOfKey_checkpointKey

theorem retainedCheckpointKey_injective : Function.Injective retainedCheckpointKey :=
  Function.LeftInverse.injective checkpointIdOfKey_retainedCheckpointKey

theorem shardKey_lt (a b : U64) (h : a < b) : shardKey a < shardKey b := by
  have hbound : b.val < 256 ^ 8 := by
    have := b.property
    unfold u64Max at this
    omega
  exact .cons (beBytes_lt hbound h)

theorem be4_lt (first : UInt8) (a b : U32) (h : a < b) :
    first :: beBytes 4 a.val < first :: beBytes 4 b.val := by
  have hbound : b.val < 256 ^ 4 := by
    have := b.property
    unfold u32Max at this
    omega
  exact .cons (beBytes_lt hbound h)

/-! ## What the keys hold -/

section Contract

variable [FieldRepr]

/-- The host's content is that of the store. -/
structure Represents (view : Bytes → Option Bytes) (store : ShardStore) : Prop where
  shards : Stores ([shardPrefix] <+: ·) shardKey view fun index =>
    (store.shards.lookup index).map fun shard => writeShardVote shard.root
  located : ∀ index shard, store.shards.lookup index = some shard →
    shard.rootAddr = ⟨shardHeight, index⟩
  cap : view capKey = some (writeShardVote store.cap) ∨ (view capKey = none ∧ store.cap = .nil)
  checkpoints : Stores ([checkpointPrefix] <+: ·) checkpointKey view fun id =>
    (store.checkpoints.lookup id).map writeCheckpoint
  countable : ∀ id checkpoint, store.checkpoints.lookup id = some checkpoint → checkpoint.Countable
  retained : Stores ([retainedCheckpointPrefix] <+: ·) retainedCheckpointKey view fun id =>
    if id ∈ store.retained then some [] else none

/-- A host without any of the store's keys holds the empty store. -/
theorem represents_empty {view : Bytes → Option Bytes}
    (h : ∀ first ∈ [shardPrefix, capKeyByte, checkpointPrefix, retainedCheckpointPrefix],
      ∀ key, [first] <+: key → view key = none) : Represents view {} := by
  have hstores : ∀ {κ : Type} {key : κ → Bytes} {first : UInt8}, (∀ k, [first] <+: key k) →
      first ∈ [shardPrefix, capKeyByte, checkpointPrefix, retainedCheckpointPrefix] →
      Stores ([first] <+: ·) key view fun _ => none := by
    intro κ key first hkey hfirst
    refine ⟨fun k => h first hfirst _ (hkey k), fun stored hsome hinside => ?_⟩
    rw [h first hfirst stored hinside] at hsome
    cases hsome
  exact {
    shards := hstores (fun _ => by simp [shardKey]) (by simp)
    located := fun _ _ hlookup => by simp at hlookup
    cap := .inr ⟨h capKeyByte (by simp) capKey (by simp [capKey]), rfl⟩
    checkpoints := hstores (fun _ => by simp [checkpointKey]) (by simp)
    countable := fun _ _ hlookup => by simp at hlookup
    retained := by simpa using hstores (fun _ => by simp [retainedCheckpointKey]) (by simp) }

/-! ## Iterations -/

section Iterations

variable {σ κ ρ : Type} {cb : KvCallbacks σ} {view : σ → Bytes → Option Bytes} {s : σ}
  {store : ShardStore}

omit [FieldRepr] in
/-- Iterating over the keys of a map is iterating over the map. -/
theorem iter_eq [LinearOrder κ] (hcb : cb.OrderedMap view) {first : UInt8} {key : κ → Bytes}
    {content : κ → Option Bytes} (hstores : Stores ([first] <+: ·) key (view s) content)
    (hkey : ∀ k, [first] <+: key k) (hmono : ∀ a b, a < b → key a < key b)
    (ascending : List (κ × Bytes)) (hascending : ascending.Pairwise fun a b => a.1 < b.1)
    (hcontent : ∀ k value, (k, value) ∈ ascending ↔ content k = some value) :
    KvIter.pairs (cb.iter s [first] false).1 = ascending.map fun entry => (key entry.1, entry.2) :=
  hstores.entries_eq hkey (fun _ => List.lt_irrefl _) (fun _ _ => List.lt_asymm) hmono
    (hcb.iter_ascends s [first]) (hcb.mem_iter s [first]) hascending hcontent

omit [FieldRepr] in
/-- The same for a table of encoded rows. -/
theorem iter_table [LinearOrder κ] (hcb : cb.OrderedMap view) {first : UInt8} {key : κ → Bytes}
    {table : Table κ ρ} {encode : ρ → Bytes}
    (hstores : Stores ([first] <+: ·) key (view s) fun k => (table.lookup k).map encode)
    (hkey : ∀ k, [first] <+: key k) (hmono : ∀ a b, a < b → key a < key b) :
    KvIter.pairs (cb.iter s [first] false).1 =
      (table.ascending (· ≤ ·)).map fun entry => (key entry.1, encode entry.2) := by
  rw [iter_eq hcb hstores hkey hmono
    ((table.ascending (· ≤ ·)).map fun entry => (entry.1, encode entry.2)), List.map_map]
  · rfl
  · exact List.pairwise_map.mpr ((table.pairwise_ascending le_total fun _ _ _ => le_trans).imp
      fun h => lt_of_le_of_ne h.1 h.2)
  · intro k value
    simp only [List.mem_map, Prod.exists, Prod.mk.injEq, Option.map_eq_some_iff,
      Table.mem_ascending]
    constructor
    · rintro ⟨k', row, hrow, rfl, rfl⟩
      exact ⟨row, hrow, rfl⟩
    · rintro ⟨row, hrow, rfl⟩
      exact ⟨k, row, hrow, rfl, rfl⟩

theorem iter_shards (hcb : cb.OrderedMap view) (h : Represents (view s) store) :
    KvIter.pairs (cb.iter s [shardPrefix] false).1 = store.shardsInOrder.map fun entry =>
      (shardKey entry.1, writeShardVote entry.2.root) :=
  iter_table hcb h.shards (fun _ => by simp [shardKey]) shardKey_lt

theorem iter_checkpoints (hcb : cb.OrderedMap view) (h : Represents (view s) store) :
    KvIter.pairs (cb.iter s [checkpointPrefix] false).1 = store.checkpointsInOrder.map fun entry =>
      (checkpointKey entry.1, writeCheckpoint entry.2) :=
  iter_table hcb h.checkpoints (fun _ => by simp [checkpointKey]) (be4_lt _)

theorem iter_retained (hcb : cb.OrderedMap view) (h : Represents (view s) store) :
    KvIter.pairs (cb.iter s [retainedCheckpointPrefix] false).1 = store.retained.elements.map fun id =>
      (retainedCheckpointKey id, []) := by
  rw [iter_eq hcb h.retained (fun _ => by simp [retainedCheckpointKey]) (be4_lt _)
    (store.retained.elements.map fun id => (id, [])), List.map_map]
  · rfl
  · exact List.pairwise_map.mpr store.retained.sorted
  · intro id value
    simp only [List.mem_map, Prod.mk.injEq, SortedSet.mem_elements]
    constructor
    · rintro ⟨id', hmem, rfl, rfl⟩
      rw [if_pos hmem]
    · intro hcontent
      split at hcontent
      · next hmem => exact ⟨id, hmem, rfl, Option.some.inj hcontent⟩
      · cases hcontent

end Iterations

/-! ## Reads -/

section Reads

variable {σ : Type} {cb : KvCallbacks σ} {view : σ → Bytes → Option Bytes} {s : σ}
  {store : ShardStore}

/-- A stored shard is found at its address. -/
theorem locateShard_stored {content : Bytes → Option Bytes} (h : Represents content store)
    {index : U64} {shard : LocatedPrunableTree} (hshard : store.shards.lookup index = some shard) :
    Answers view (locateShard ⟨shardHeight, index⟩ (writeShardVote shard.root)) s (some shard) := by
  have haddr := h.located index shard hshard
  obtain ⟨rootAddr, root, hfits⟩ := shard
  obtain rfl : rootAddr = ⟨shardHeight, index⟩ := haddr
  rw [locateShard, readShardVote_writeShardVote]
  simp only [LocatedPrunableTree.fromParts, hfits, dif_pos]
  exact Answers.pure _

theorem getShard_answers (hcb : cb.OrderedMap view) (h : Represents (view s) store)
    {shardRoot : Address} (hlevel : shardRoot.level = shardHeight) :
    Answers view (getShard cb shardRoot) s (store.shards.lookup shardRoot.index) := by
  obtain ⟨level, index⟩ := shardRoot
  obtain rfl : level = shardHeight := hlevel
  refine (hcb.getValue _ s).bind fun s' _ => ?_
  rw [h.shards.lookup]
  cases hshard : store.shards.lookup index with
  | none => exact Answers.pure _
  | some shard => exact locateShard_stored h hshard

theorem lastShard_answers (hcb : cb.OrderedMap view) (h : Represents (view s) store) :
    Answers view (lastShard cb) s (store.shardsInOrder.getLast?.map (·.2)) := by
  refine (hcb.entries [shardPrefix] true s).bind fun s' _ => ?_
  rw [hcb.iter_reverse, iter_shards hcb h, List.head?_reverse, List.getLast?_map]
  cases hlast : store.shardsInOrder.getLast? with
  | none => exact Answers.pure _
  | some entry =>
    obtain ⟨index, shard⟩ := entry
    have hshard := Table.mem_ascending.mp (List.mem_of_getLast? hlast)
    simp only [Option.map_some, length_shardKey, shardIndexOfKey_shardKey]
    exact locateShard_stored h hshard

theorem getShardRoots_answers (hcb : cb.OrderedMap view) (h : Represents (view s) store) :
    Answers view (getShardRoots cb) s (store.shardsInOrder.map (·.2.rootAddr)) := by
  have hroots : store.shardsInOrder.map (fun entry => Address.mk shardHeight entry.1) =
      store.shardsInOrder.map (·.2.rootAddr) :=
    List.map_congr_left fun entry hentry => (h.located _ _ (Table.mem_ascending.mp hentry)).symm
  refine (hcb.entries [shardPrefix] false s).bind fun s' _ => ?_
  rw [iter_shards hcb h, ← hroots]
  simp only [List.filter_map, List.map_map, Function.comp_def, length_shardKey,
    shardIndexOfKey_shardKey, le_refl, decide_true, List.filter_true]
  exact Answers.pure _

theorem getCap_answers (hcb : cb.OrderedMap view) (h : Represents (view s) store) :
    Answers view (getCap cb) s store.cap := by
  refine (hcb.getValue _ s).bind fun s' _ => ?_
  rcases h.cap with hcap | ⟨hcap, hnil⟩
  · rw [hcap]
    simp only [readShardVote_writeShardVote]
    exact Answers.pure _
  · rw [hcap, hnil]
    exact Answers.pure _

omit [FieldRepr] in
theorem firstCheckpointId_map (entries : List (U32 × Checkpoint)) :
    firstCheckpointId (entries.map fun entry => (checkpointKey entry.1, writeCheckpoint entry.2)) =
      entries.head?.map (·.1) := by
  cases entries with
  | nil => rfl
  | cons entry entries => simp [firstCheckpointId]

theorem minCheckpointId_answers (hcb : cb.OrderedMap view) (h : Represents (view s) store) :
    Answers view (minCheckpointId cb) s (store.checkpointsInOrder.head?.map (·.1)) := by
  rw [← firstCheckpointId_map, ← iter_checkpoints hcb h]
  exact (hcb.entries [checkpointPrefix] false s).map firstCheckpointId

theorem maxCheckpointId_answers (hcb : cb.OrderedMap view) (h : Represents (view s) store) :
    Answers view (maxCheckpointId cb) s (store.checkpointsInOrder.getLast?.map (·.1)) := by
  rw [← List.head?_reverse, ← firstCheckpointId_map, List.map_reverse, ← iter_checkpoints hcb h,
    ← hcb.iter_reverse]
  exact (hcb.entries [checkpointPrefix] true s).map firstCheckpointId

theorem checkpointCount_answers (hcb : cb.OrderedMap view) (h : Represents (view s) store) :
    Answers view (checkpointCount cb) s store.checkpointsInOrder.length := by
  have hanswer := (hcb.entries [checkpointPrefix] false s).map List.length
  rwa [iter_checkpoints hcb h, List.length_map] at hanswer

/-- A stored checkpoint reads back. -/
theorem readCheckpoint_stored {content : Bytes → Option Bytes} (h : Represents content store)
    {entry : U32 × Checkpoint} (hentry : entry ∈ store.checkpointsInOrder) :
    readCheckpoint (writeCheckpoint entry.2) = some entry.2 :=
  readCheckpoint_writeCheckpoint (h.countable _ _ (Table.mem_ascending.mp hentry))

theorem getCheckpointAtDepth_answers (hcb : cb.OrderedMap view) (h : Represents (view s) store)
    (checkpointDepth : Nat) :
    Answers view (getCheckpointAtDepth cb checkpointDepth) s
      store.checkpointsInOrder.reverse[checkpointDepth]? := by
  refine (hcb.entries [checkpointPrefix] true s).bind fun s' _ => ?_
  rw [hcb.iter_reverse, iter_checkpoints hcb h, ← List.map_reverse, List.getElem?_map]
  cases hentry : store.checkpointsInOrder.reverse[checkpointDepth]? with
  | none => exact Answers.pure _
  | some entry =>
    have hmem := List.mem_reverse.mp (List.mem_of_getElem? hentry)
    simp only [Option.map_some, Option.bind_some, length_checkpointKey, readCheckpoint_stored h hmem,
      checkpointIdOfKey_checkpointKey]
    exact Answers.pure _

/-- The checkpoint under a key is the one of the store. -/
theorem checkpoint_stored {content : Bytes → Option Bytes} (h : Represents content store)
    (checkpointId : U32) :
    (content (checkpointKey checkpointId)).bind readCheckpoint =
      store.checkpoints.lookup checkpointId := by
  rw [h.checkpoints.lookup]
  cases hlookup : store.checkpoints.lookup checkpointId with
  | none => rfl
  | some checkpoint => simpa using readCheckpoint_writeCheckpoint (h.countable _ _ hlookup)

theorem getCheckpoint_answers (hcb : cb.OrderedMap view) (h : Represents (view s) store)
    (checkpointId : U32) :
    Answers view (getCheckpoint cb checkpointId) s (store.checkpoints.lookup checkpointId) := by
  rw [← checkpoint_stored h]
  exact (hcb.getValue _ s).map fun found => found.bind readCheckpoint

omit [FieldRepr] in
/-- The visiting loop over stored checkpoints visits the first of them. -/
theorem visitEntries_stored {entries : List (U32 × Checkpoint)}
    (h : ∀ entry ∈ entries, readCheckpoint (writeCheckpoint entry.2) = some entry.2)
    (callback : CheckpointVisitor) (limit : Nat) (calls : List (U32 × Checkpoint)) :
    visitEntries callback limit calls
        (entries.map fun entry => (checkpointKey entry.1, writeCheckpoint entry.2)) =
      visitAll callback calls (entries.take limit) := by
  induction entries generalizing limit calls with
  | nil => simp [visitEntries, visitAll]
  | cons entry entries ih =>
    cases limit with
    | zero => rfl
    | succ limit =>
      have hrest := ih (fun other hother => h other (List.mem_cons_of_mem _ hother))
      simp only [List.map_cons, visitEntries, length_checkpointKey, h entry List.mem_cons_self,
        checkpointIdOfKey_checkpointKey, List.take_succ_cons, visitAll, hrest]
      rfl

theorem visitCheckpoints_answers (hcb : cb.OrderedMap view) (h : Represents (view s) store)
    (limit : Nat) (callback : CheckpointVisitor) :
    Answers view (visitCheckpoints cb limit callback) s
      (visitAll callback [] (store.checkpointsInOrder.take limit)) := by
  have hanswer := (hcb.entries [checkpointPrefix] false s).map (visitEntries callback limit [])
  rwa [iter_checkpoints hcb h,
    visitEntries_stored fun _ hentry => readCheckpoint_stored h hentry] at hanswer

theorem retainedCheckpoints_answers (hcb : cb.OrderedMap view) (h : Represents (view s) store) :
    Answers view (retainedCheckpoints cb) s store.retained := by
  refine (hcb.entries [retainedCheckpointPrefix] false s).bind fun s' _ => ?_
  rw [iter_retained hcb h]
  simp only [List.filter_map, List.map_map, Function.comp_def, length_retainedCheckpointKey,
    checkpointIdOfKey_retainedCheckpointKey, le_refl, decide_true, List.filter_true, List.map_id',
    SortedSet.foldl_insert_elements]
  exact Answers.pure _

end Reads

/-! ## Writes -/

section Writes

variable {view view' : Bytes → Option Bytes} {store : ShardStore}

/-- The two contents differ under one first byte only. -/
def AgreeExcept (first : UInt8) (view view' : Bytes → Option Bytes) : Prop :=
  ∀ key, ¬[first] <+: key → view' key = view key

omit [FieldRepr] in
theorem agreeExcept_update {key : Bytes} {first : UInt8} (hkey : [first] <+: key)
    (value : Option Bytes) : AgreeExcept first view (Function.update view key value) := by
  intro other hother
  have hne : other ≠ key := fun heq => hother (heq ▸ hkey)
  exact Function.update_of_ne hne _ _

omit [FieldRepr] in
/-- A map under another first byte is not touched. -/
theorem stores_of_agreeExcept {κ : Type} {first second : UInt8} {key : κ → Bytes}
    {content : κ → Option Bytes} (h : Stores ([second] <+: ·) key view content)
    (hkey : ∀ k, [second] <+: key k) (hne : first ≠ second) (hagree : AgreeExcept first view view') :
    Stores ([second] <+: ·) key view' content := by
  refine h.congr hkey fun stored hstored => hagree stored fun hother => hne ?_
  obtain ⟨rest, rfl⟩ := hstored
  simpa using hother

theorem Represents.withShards (h : Represents view store) {shards : Table U64 LocatedPrunableTree}
    (hagree : AgreeExcept shardPrefix view view')
    (hstores : Stores ([shardPrefix] <+: ·) shardKey view' fun index =>
      (shards.lookup index).map fun shard => writeShardVote shard.root)
    (hlocated : ∀ index shard, shards.lookup index = some shard →
      shard.rootAddr = ⟨shardHeight, index⟩) : Represents view' { store with shards } where
  shards := hstores
  located := hlocated
  cap := by
    rw [hagree capKey (by simp [capKey, shardPrefix, capKeyByte])]
    exact h.cap
  checkpoints := stores_of_agreeExcept h.checkpoints (fun _ => by simp [checkpointKey]) (by decide)
    hagree
  countable := h.countable
  retained := stores_of_agreeExcept h.retained (fun _ => by simp [retainedCheckpointKey])
    (by decide) hagree

theorem Represents.withCap (h : Represents view store) (cap : PrunableTree) :
    Represents (Function.update view capKey (some (writeShardVote cap))) { store with cap } :=
  have hagree : AgreeExcept capKeyByte view _ := agreeExcept_update (by simp [capKey]) _
  { shards := stores_of_agreeExcept h.shards (fun _ => by simp [shardKey]) (by decide) hagree
    located := h.located
    cap := .inl (Function.update_self _ _ _)
    checkpoints := stores_of_agreeExcept h.checkpoints (fun _ => by simp [checkpointKey])
      (by decide) hagree
    countable := h.countable
    retained := stores_of_agreeExcept h.retained (fun _ => by simp [retainedCheckpointKey])
      (by decide) hagree }

theorem Represents.withCheckpoints (h : Represents view store) {checkpoints : Table U32 Checkpoint}
    (hagree : AgreeExcept checkpointPrefix view view')
    (hstores : Stores ([checkpointPrefix] <+: ·) checkpointKey view' fun id =>
      (checkpoints.lookup id).map writeCheckpoint)
    (hcountable : ∀ id checkpoint, checkpoints.lookup id = some checkpoint →
      checkpoint.Countable) : Represents view' { store with checkpoints } where
  shards := stores_of_agreeExcept h.shards (fun _ => by simp [shardKey]) (by decide) hagree
  located := h.located
  cap := by
    rw [hagree capKey (by simp [capKey, checkpointPrefix, capKeyByte])]
    exact h.cap
  checkpoints := hstores
  countable := hcountable
  retained := stores_of_agreeExcept h.retained (fun _ => by simp [retainedCheckpointKey])
    (by decide) hagree

theorem Represents.withRetained (h : Represents view store) {retained : SortedSet U32}
    (hagree : AgreeExcept retainedCheckpointPrefix view view')
    (hstores : Stores ([retainedCheckpointPrefix] <+: ·) retainedCheckpointKey view' fun id =>
      if id ∈ retained then some [] else none) : Represents view' { store with retained } where
  shards := stores_of_agreeExcept h.shards (fun _ => by simp [shardKey]) (by decide) hagree
  located := h.located
  cap := by
    rw [hagree capKey (by simp [capKey, retainedCheckpointPrefix, capKeyByte])]
    exact h.cap
  checkpoints := stores_of_agreeExcept h.checkpoints (fun _ => by simp [checkpointKey])
    (by decide) hagree
  countable := h.countable
  retained := hstores

omit [FieldRepr] in
/-- An inserted row is an updated content. -/
theorem lookup_insert_map {κ ρ : Type} [DecidableEq κ] (table : Table κ ρ) (encode : ρ → Bytes)
    (k : κ) (row : ρ) :
    (fun k' => ((table.insert k row).lookup k').map encode) =
      Function.update (fun k' => (table.lookup k').map encode) k (some (encode row)) := by
  funext k'
  rw [Table.lookup_insert_eq, Function.update_apply]
  split <;> rfl

omit [FieldRepr] in
/-- An erased row is an updated content. -/
theorem lookup_erase_map {κ ρ : Type} [DecidableEq κ] (table : Table κ ρ) (encode : ρ → Bytes)
    (k : κ) :
    (fun k' => ((table.erase k).lookup k').map encode) =
      Function.update (fun k' => (table.lookup k').map encode) k none := by
  funext k'
  rw [Table.lookup_erase_eq, Function.update_apply]
  split <;> rfl

theorem Represents.insertShard (h : Represents view store) {shard : LocatedPrunableTree}
    (hlevel : shard.rootAddr.level = shardHeight) :
    Represents
      (Function.update view (shardKey shard.rootAddr.index) (some (writeShardVote shard.root)))
      { store with shards := store.shards.insert shard.rootAddr.index shard } := by
  refine h.withShards (agreeExcept_update (by simp [shardKey]) _) ?_ ?_
  · rw [lookup_insert_map store.shards fun shard => writeShardVote shard.root]
    exact h.shards.update shardKey_injective _ _
  · intro index other hother
    rw [Table.lookup_insert_eq] at hother
    split at hother
    · next hindex =>
      cases hother
      rw [hindex, ← hlevel]
    · exact h.located index other hother

theorem Represents.insertCheckpoint (h : Represents view store) (checkpointId : U32)
    {checkpoint : Checkpoint} (hcountable : checkpoint.Countable) :
    Represents (Function.update view (checkpointKey checkpointId) (some (writeCheckpoint checkpoint)))
      { store with checkpoints := store.checkpoints.insert checkpointId checkpoint } := by
  refine h.withCheckpoints (agreeExcept_update (by simp [checkpointKey]) _) ?_ ?_
  · rw [lookup_insert_map]
    exact h.checkpoints.update checkpointKey_injective _ _
  · intro id other hother
    rw [Table.lookup_insert_eq] at hother
    split at hother
    · cases hother
      exact hcountable
    · exact h.countable id other hother

theorem Represents.eraseCheckpoint (h : Represents view store) (checkpointId : U32) :
    Represents (Function.update view (checkpointKey checkpointId) none)
      { store with checkpoints := store.checkpoints.erase checkpointId } := by
  refine h.withCheckpoints (agreeExcept_update (by simp [checkpointKey]) _) ?_ ?_
  · rw [lookup_erase_map]
    exact h.checkpoints.update checkpointKey_injective _ _
  · intro id other hother
    rw [Table.lookup_erase_eq] at hother
    split at hother
    · cases hother
    · exact h.countable id other hother

theorem Represents.insertRetained (h : Represents view store) (checkpointId : U32) :
    Represents (Function.update view (retainedCheckpointKey checkpointId) (some []))
      { store with retained := store.retained.insert checkpointId } := by
  refine h.withRetained (agreeExcept_update (by simp [retainedCheckpointKey]) _) ?_
  convert h.retained.update retainedCheckpointKey_injective checkpointId (some []) using 1
  funext id
  by_cases hid : id = checkpointId <;> simp [hid]

theorem Represents.eraseRetained (h : Represents view store) (checkpointId : U32) :
    Represents (Function.update view (retainedCheckpointKey checkpointId) none)
      { store with retained := store.retained.erase checkpointId } := by
  refine h.withRetained (agreeExcept_update (by simp [retainedCheckpointKey]) _) ?_
  convert h.retained.update retainedCheckpointKey_injective checkpointId none using 1
  funext id
  by_cases hid : id = checkpointId <;> simp [hid]

end Writes

/-! ## Truncations -/

section Truncations

variable {σ : Type} {cb : KvCallbacks σ} {view : σ → Bytes → Option Bytes} {s : σ}
  {store : ShardStore}

/-- The keys that `truncate_shards` collects are those of the shards from the index on. -/
theorem mem_keysFrom {shardIndex : U64} {key : Bytes} :
    key ∈ keysFrom shardIndex (store.shardsInOrder.map fun entry =>
        (shardKey entry.1, writeShardVote entry.2.root)) ↔
      ∃ index, key = shardKey index ∧ (store.shards.lookup index).isSome ∧ shardIndex ≤ index := by
  simp only [keysFrom, List.mem_map, List.mem_filter, Option.isSome_iff_exists]
  constructor
  · rintro ⟨_, ⟨⟨⟨index, shard⟩, hentry, rfl⟩, hcond⟩, rfl⟩
    exact ⟨index, rfl, ⟨shard, Table.mem_ascending.mp hentry⟩, by simpa using hcond⟩
  · rintro ⟨index, rfl, ⟨shard, hshard⟩, hle⟩
    exact ⟨_, ⟨⟨(index, shard), Table.mem_ascending.mpr hshard, rfl⟩, by simpa using hle⟩, rfl⟩

/-- The shards that stay are those whose keys are not collected. -/
theorem retained_content (shardIndex index : U64) :
    (((store.shards.retain fun index _ => index < shardIndex).lookup index).map
        fun shard => writeShardVote shard.root) =
      if shardKey index ∈ keysFrom shardIndex (store.shardsInOrder.map fun entry =>
          (shardKey entry.1, writeShardVote entry.2.root)) then none
      else (store.shards.lookup index).map fun shard => writeShardVote shard.root := by
  have hmem : shardKey index ∈ keysFrom shardIndex (store.shardsInOrder.map fun entry =>
      (shardKey entry.1, writeShardVote entry.2.root)) ↔
      (store.shards.lookup index).isSome ∧ shardIndex ≤ index := by
    rw [mem_keysFrom]
    constructor
    · rintro ⟨other, hkey, hcond⟩
      rwa [shardKey_injective hkey]
    · exact fun hcond => ⟨index, rfl, hcond⟩
  rw [Table.lookup_retain, if_congr hmem rfl rfl]
  cases store.shards.lookup index with
  | none => simp
  | some shard =>
    by_cases hlt : index < shardIndex
    · simp [hlt, not_le.mpr hlt]
    · simp [hlt, le_of_not_gt hlt]

theorem truncateShards_eq (hcb : cb.OrderedMap view) (h : Represents (view s) store)
    (shardIndex : U64) : ∃ s', truncateShards cb shardIndex s = .ok () s' ∧
      Represents (view s')
        { store with shards := store.shards.retain fun index _ => index < shardIndex } := by
  obtain ⟨s₁, hentries, hview₁⟩ := hcb.entries [shardPrefix] false s
  obtain ⟨s', hdelete, hview⟩ := hcb.deleteKeys (keysFrom shardIndex (store.shardsInOrder.map
    fun entry => (shardKey entry.1, writeShardVote entry.2.root))) s₁
  rw [hview₁] at hview
  refine ⟨s', ?_, h.withShards ?_ ?_ ?_⟩
  · rw [truncateShards, bind_of_ok hentries, iter_shards hcb h, hdelete]
  · intro key hkey
    rw [hview]
    refine if_neg fun hmem => hkey ?_
    obtain ⟨index, rfl, -⟩ := mem_keysFrom.mp hmem
    simp [shardKey]
  · rw [hview]
    simpa only [retained_content] using h.shards.delete _
  · intro index shard hshard
    rw [Table.lookup_retain, Option.filter_eq_some_iff] at hshard
    exact h.located index shard hshard.1

omit [FieldRepr] in
/-- Where no other checkpoint is stored, the loop of the truncation collects nothing. -/
theorem keysBelow_nil {checkpointId : U32} {entries : List (U32 × Checkpoint)}
    (h : ∀ entry ∈ entries, entry.1 = checkpointId) :
    keysBelow checkpointId
      (entries.map fun entry => (checkpointKey entry.1, writeCheckpoint entry.2)) = [] := by
  cases entries with
  | nil => rfl
  | cons entry entries => simp [keysBelow, h entry List.mem_cons_self]

/-- Where no other checkpoint is stored, the truncation clears the marks of this one. -/
theorem truncateCheckpointsRetaining_eq (hcb : cb.OrderedMap view) (h : Represents (view s) store)
    {checkpointId : U32}
    (hother : ∀ id checkpoint, store.checkpoints.lookup id = some checkpoint → id = checkpointId) :
    ∃ s', truncateCheckpointsRetaining cb checkpointId s = .ok () s' ∧
      Represents (view s') (store.truncateRetaining checkpointId) := by
  obtain ⟨s₁, hentries, hview₁⟩ := hcb.entries [checkpointPrefix] false s
  have hdelete : cb.deleteKeys [] s₁ = .ok () s₁ := rfl
  obtain ⟨s₂, hget, hview₂⟩ := hcb.getValue (checkpointKey checkpointId) s₁
  rw [hview₁] at hget hview₂
  have hnone : keysBelow checkpointId (store.checkpointsInOrder.map fun entry =>
      (checkpointKey entry.1, writeCheckpoint entry.2)) = [] :=
    keysBelow_nil fun entry hentry => hother _ _ (Table.mem_ascending.mp hentry)
  have hkept : ∀ id, (store.checkpoints.retain fun other _ => other ≤ checkpointId).lookup id =
      store.checkpoints.lookup id := by
    intro id
    rw [Table.lookup_retain]
    cases hlookup : store.checkpoints.lookup id with
    | none => rfl
    | some checkpoint => simp [hother id checkpoint hlookup]
  have hrep : Represents (view s)
      { store with checkpoints := store.checkpoints.retain fun other _ => other ≤ checkpointId } := by
    refine h.withCheckpoints (fun _ _ => rfl) ?_ ?_
    · simpa only [hkept] using h.checkpoints
    · simpa only [hkept] using h.countable
  rw [truncateCheckpointsRetaining, bind_of_ok hentries, iter_checkpoints hcb h, hnone,
    bind_of_ok hdelete, bind_of_ok hget, checkpoint_stored h, ShardStore.truncateRetaining, hkept]
  cases store.checkpoints.lookup checkpointId with
  | none => exact ⟨s₂, rfl, hview₂ ▸ hrep⟩
  | some checkpoint =>
    obtain ⟨s', hset, hview⟩ := hcb.setValue (checkpointKey checkpointId)
      (writeCheckpoint { checkpoint with marksRemoved := ∅ }) s₂
    refine ⟨s', hset, ?_⟩
    rw [hview, hview₂]
    exact hrep.insertCheckpoint checkpointId (Nat.zero_le _)

theorem updateCheckpointWith_eq (hcb : cb.OrderedMap view) (h : Represents (view s) store)
    (checkpointId : U32) {update : Checkpoint → Except KvError Checkpoint}
    (hcountable : ∀ before after, update before = .ok after → after.Countable) :
    (outcome (updateCheckpointWith cb checkpointId update) s).1 =
        (store.update checkpointId update).1 ∧
      Represents (view (outcome (updateCheckpointWith cb checkpointId update) s).2)
        (store.update checkpointId update).2 := by
  obtain ⟨s₁, hget, hview₁⟩ := hcb.getValue (checkpointKey checkpointId) s
  rw [outcome, updateCheckpointWith, bind_of_ok hget, checkpoint_stored h, ShardStore.update]
  rw [← hview₁] at h
  cases store.checkpoints.lookup checkpointId with
  | none => exact ⟨rfl, h⟩
  | some before =>
    dsimp only
    cases hupdate : update before with
    | error error => exact ⟨rfl, h⟩
    | ok after =>
      obtain ⟨s', hset, hview⟩ := hcb.setValue (checkpointKey checkpointId)
        (writeCheckpoint after) s₁
      dsimp only
      rw [bind_of_ok hset]
      refine ⟨rfl, ?_⟩
      show Represents (view s') _
      rw [hview]
      exact h.insertCheckpoint checkpointId (hcountable before after hupdate)

end Truncations

/-! ## Runs -/

/-- When the store meets the contract of an operation: shards are at the shard height, marks
can be counted, and checkpoints are truncated only where there is no other one. -/
def ShardStoreOp.Permitted (store : ShardStore) : ShardStoreOp → Prop
  | .getShard shardRoot => shardRoot.level = shardHeight
  | .putShard subtree => subtree.rootAddr.level = shardHeight
  | .addCheckpoint _ checkpoint => checkpoint.Countable
  | .updateCheckpointWith _ update => ∀ before after, update before = .ok after → after.Countable
  | .truncateCheckpointsRetaining checkpointId =>
    ∀ id checkpoint, store.checkpoints.lookup id = some checkpoint → id = checkpointId
  | _ => True

section Runs

variable {σ : Type} {cb : KvCallbacks σ} {view : σ → Bytes → Option Bytes}

/-- A call that reads answers as the contract does, and changes nothing. -/
theorem simulates_read {α : Type} {call : KvCall σ α} {answer : Except KvError α → ShardStoreAnswer}
    {s : σ} {store : ShardStore} {a : α} (hrep : Represents (view s) store)
    (h : Answers view call s a) :
    ((outcome call s).map answer id).1 = answer (.ok a) ∧
      Represents (view ((outcome call s).map answer id).2) store := by
  obtain ⟨s', hcall, hview⟩ := h
  rw [outcome_of_ok hcall]
  exact ⟨rfl, hview ▸ hrep⟩

/-- A call that writes succeeds, and leaves what the contract does. -/
theorem simulates_write {call : KvCall σ Unit} {s : σ} {store : ShardStore}
    (h : ∃ s', call s = .ok () s' ∧ Represents (view s') store) :
    ((outcome call s).map ShardStoreAnswer.done id).1 = .done (.ok ()) ∧
      Represents (view ((outcome call s).map ShardStoreAnswer.done id).2) store := by
  obtain ⟨s', hcall, hrep⟩ := h
  rw [outcome_of_ok hcall]
  exact ⟨rfl, hrep⟩

/-- One operation. -/
theorem step_simulates (hcb : cb.OrderedMap view) :
    Simulation.Simulates (KvShardStore.step cb) ShardStore.step ShardStoreOp.Permitted
      fun s store => Represents (view s) store := by
  intro s store op hrep hpermitted
  cases op with
  | getShard shardRoot => exact simulates_read hrep (getShard_answers hcb hrep hpermitted)
  | lastShard => exact simulates_read hrep (lastShard_answers hcb hrep)
  | putShard subtree =>
    refine simulates_write ?_
    obtain ⟨s', hset, hview⟩ := hcb.setValue _ _ s
    exact ⟨s', hset, hview ▸ hrep.insertShard hpermitted⟩
  | getShardRoots => exact simulates_read hrep (getShardRoots_answers hcb hrep)
  | truncateShards shardIndex => exact simulates_write (truncateShards_eq hcb hrep shardIndex)
  | getCap => exact simulates_read hrep (getCap_answers hcb hrep)
  | putCap cap =>
    refine simulates_write ?_
    obtain ⟨s', hset, hview⟩ := hcb.setValue _ _ s
    exact ⟨s', hset, hview ▸ hrep.withCap cap⟩
  | minCheckpointId => exact simulates_read hrep (minCheckpointId_answers hcb hrep)
  | maxCheckpointId => exact simulates_read hrep (maxCheckpointId_answers hcb hrep)
  | addCheckpoint checkpointId checkpoint =>
    refine simulates_write ?_
    obtain ⟨s', hset, hview⟩ := hcb.setValue _ _ s
    exact ⟨s', hset, hview ▸ hrep.insertCheckpoint checkpointId hpermitted⟩
  | checkpointCount => exact simulates_read hrep (checkpointCount_answers hcb hrep)
  | getCheckpointAtDepth checkpointDepth =>
    exact simulates_read hrep (getCheckpointAtDepth_answers hcb hrep checkpointDepth)
  | getCheckpoint checkpointId => exact simulates_read hrep (getCheckpoint_answers hcb hrep checkpointId)
  | withCheckpoints limit callback =>
    exact simulates_read hrep (visitCheckpoints_answers hcb hrep limit callback)
  | forEachCheckpoint limit callback =>
    exact simulates_read hrep (visitCheckpoints_answers hcb hrep limit callback)
  | updateCheckpointWith checkpointId update =>
    obtain ⟨hanswer, hrep'⟩ := updateCheckpointWith_eq hcb hrep checkpointId hpermitted
    exact ⟨congrArg ShardStoreAnswer.updated hanswer, hrep'⟩
  | removeCheckpoint checkpointId =>
    refine simulates_write ?_
    obtain ⟨s', hdelete, hview⟩ := hcb.deleteKey _ s
    exact ⟨s', hdelete, hview ▸ hrep.eraseCheckpoint checkpointId⟩
  | addRetainedCheckpoint checkpointId =>
    refine simulates_write ?_
    obtain ⟨s', hset, hview⟩ := hcb.setValue _ _ s
    exact ⟨s', hset, hview ▸ hrep.insertRetained checkpointId⟩
  | removeRetainedCheckpoint checkpointId =>
    refine simulates_write ?_
    obtain ⟨s', hdelete, hview⟩ := hcb.deleteKey _ s
    exact ⟨s', hdelete, hview ▸ hrep.eraseRetained checkpointId⟩
  | retainedCheckpoints => exact simulates_read hrep (retainedCheckpoints_answers hcb hrep)
  | truncateCheckpointsRetaining checkpointId =>
    exact simulates_write (truncateCheckpointsRetaining_eq hcb hrep hpermitted)

end Runs

/-- Over callbacks that succeed and behave as an ordered map, every run of operations is
answered as the contract answers it, if the operations are permitted where they are met. -/
theorem kv_store_meets_contract {σ : Type} (cb : KvCallbacks σ) (view : σ → Bytes → Option Bytes)
    (hcb : cb.OrderedMap view) (s : σ) (store : ShardStore) (hrep : Represents (view s) store)
    (ops : List ShardStoreOp)
    (hpermitted : Simulation.Guarded ShardStore.step ShardStoreOp.Permitted store ops) :
    (Simulation.run (KvShardStore.step cb) s ops).1 = (Simulation.run ShardStore.step store ops).1 :=
  ((step_simulates hcb).run_eq hrep hpermitted).1

end Contract

/-! ## A host -/

/-- A host that keeps its keys in a table. -/
def tableHost : KvCallbacks (Table Bytes Bytes) where
  get table key := match table.lookup key with
    | some value => ((0, value), table)
    | none => ((1, []), table)
  set table key value := (0, table.insert key value)
  delete table key := (0, table.erase key)
  iter table start reverse :=
    let found := (table.ascending (· ≤ ·)).filter fun (key, _) => start <+: key
    (some ((if reverse then found.reverse else found).map fun pair => (0, pair)), table)

theorem tableHost_pairs (table : Table Bytes Bytes) (start : Bytes) (reverse : Bool) :
    KvIter.pairs (tableHost.iter table start reverse).1 =
      let found := (table.ascending (· ≤ ·)).filter fun (key, _) => start <+: key
      if reverse then found.reverse else found := by
  have hall : ∀ pairs : List (Bytes × Bytes), pairs.takeWhile (fun _ => true) = pairs :=
    fun _ => List.takeWhile_eq_self_iff.mpr fun _ _ => rfl
  simp [tableHost, KvIter.pairs, List.takeWhile_map, Function.comp_def, hall]

theorem tableHost_orderedMap : tableHost.OrderedMap fun table key => table.lookup key where
  get_found := fun table key value h => by simp [tableHost, h]
  get_missing := fun table key h => by simp [tableHost, h]
  view_get := fun table key => by
    dsimp only [tableHost]
    split <;> rfl
  set_succeeds := fun _ _ _ => rfl
  view_set := fun table key value => by
    funext other
    rw [Function.update_apply]
    exact table.lookup_insert_eq key other value
  delete_succeeds := fun _ _ => rfl
  view_delete := fun table key => by
    funext other
    rw [Function.update_apply]
    exact table.lookup_erase_eq key other
  iter_succeeds := fun table start reverse => ⟨_, rfl, fun answer hanswer => by
    obtain ⟨pair, -, rfl⟩ := List.mem_map.mp hanswer
    rfl⟩
  view_iter := fun _ _ _ => rfl
  iter_ascends := fun table start => by
    rw [tableHost_pairs]
    exact ((table.pairwise_ascending List.le_total fun _ _ _ => List.le_trans).imp
      fun h => Std.lt_of_le_of_ne h.1 h.2).filter _
  mem_iter := fun table start key value => by
    rw [tableHost_pairs]
    simp [Table.mem_ascending]
  iter_reverse := fun table start => by rw [tableHost_pairs, tableHost_pairs]; rfl

theorem tableHost_empty [FieldRepr] :
    Represents (fun key => (∅ : Table Bytes Bytes).lookup key) {} :=
  represents_empty fun _ _ _ _ => rfl

/-- A checkpoint of the empty tree. -/
def sampleCheckpoint : Checkpoint := ⟨.empty, ∅⟩

theorem kv_store_meets_contract_single :
    letI := littleEndian
    (Simulation.run (KvShardStore.step tableHost) ∅ [.addCheckpoint 7 sampleCheckpoint,
        .truncateCheckpointsRetaining 7, .maxCheckpointId]).1 =
      [.done (.ok ()), .done (.ok ()), .checkpointId (.ok (some 7))] := by
  let _ := littleEndian
  rw [kv_store_meets_contract tableHost _ tableHost_orderedMap ∅ {} tableHost_empty]
  · rfl
  · refine ⟨Nat.zero_le _, fun id checkpoint hlookup => ?_, trivial, trivial⟩
    dsimp only [ShardStore.step] at hlookup
    rw [Table.lookup_insert_eq, AList.lookup_empty] at hlookup
    split at hlookup
    · next hid => exact hid
    · cases hlookup

/-- Going back to checkpoint 1 of two leaves checkpoint 2 the latest one, and going back to
checkpoint 2 removes checkpoint 1. -/
theorem kv_store_truncates_the_other_way :
    letI := littleEndian
    tableHost.OrderedMap (fun table key => table.lookup key) ∧
      Represents (fun key => (∅ : Table Bytes Bytes).lookup key) {} ∧
      (Simulation.run (KvShardStore.step tableHost) ∅
        [.addCheckpoint 1 sampleCheckpoint, .addCheckpoint 2 sampleCheckpoint,
          .truncateCheckpointsRetaining 1, .maxCheckpointId]).1.getLast? =
        some (.checkpointId (.ok (some 2))) ∧
      (Simulation.run ShardStore.step {}
        [.addCheckpoint 1 sampleCheckpoint, .addCheckpoint 2 sampleCheckpoint,
          .truncateCheckpointsRetaining 1, .maxCheckpointId]).1.getLast? =
        some (.checkpointId (.ok (some 1))) ∧
      (Simulation.run (KvShardStore.step tableHost) ∅
        [.addCheckpoint 1 sampleCheckpoint, .addCheckpoint 2 sampleCheckpoint,
          .truncateCheckpointsRetaining 2, .minCheckpointId]).1.getLast? =
        some (.checkpointId (.ok (some 2))) ∧
      (Simulation.run ShardStore.step {}
        [.addCheckpoint 1 sampleCheckpoint, .addCheckpoint 2 sampleCheckpoint,
          .truncateCheckpointsRetaining 2, .minCheckpointId]).1.getLast? =
        some (.checkpointId (.ok (some 1))) :=
  let _ := littleEndian
  ⟨tableHost_orderedMap, tableHost_empty, rfl, rfl, rfl, rfl⟩

end ZcashVoting.VoteCommitmentTree
