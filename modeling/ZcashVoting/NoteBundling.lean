import ZcashVoting.Lib.Canonical
import ZcashVoting.ChainSubmission.Generation

/-!
# ZcashVoting.NoteBundling

Planning the voting bundles of a round (`note_bundling.rs`): the bundle policy and the
version 1 planner.  The planner sorts the notes by value, packs them in that order, drops
the bundles below one ballot, sorts what survives and trims the tail within the privacy
budget.

Sums that the source holds in a `u64` are reduced modulo `2 ^ 64`, and counters held in
a `u32` modulo `2 ^ 32`.
-/

namespace ZcashVoting

open Transaction

/-- `BALLOT_DIVISOR`. -/
def ballotDivisor : Nat := 12500000

/-! ## Notes -/

/-- A shielded voting note from the wallet database: what the planner reads of it. -/
structure NoteInfo where
  value : U64
  position : U64
  deriving DecidableEq

/-! ## The bundle policy -/

/-- `MAX_PRIVACY_DROP_BPS`. -/
def maxPrivacyDropBps : Nat := 500

/-- `DEFAULT_PRIVACY_DROP_BPS`. -/
def defaultPrivacyDropBps : Nat := 100

/-- `DEFAULT_MAX_PRIVACY_BUNDLES`. -/
def defaultMaxPrivacyBundles : U64 := 2

/-- `DEFAULT_MAX_PRIVACY_DROP_ZATOSHI`. -/
def defaultMaxPrivacyDropZatoshi : U64 := ⟨100000000000, by decide⟩

theorem defaultPrivacyDropBps_le : defaultPrivacyDropBps ≤ maxPrivacyDropBps := by decide

/-- `BPS_DENOMINATOR`. -/
def bpsDenominator : Nat := 10000

/-- `BundlePlannerVersion`. -/
inductive BundlePlannerVersion where
  | v1
  deriving DecidableEq

/-- `PrivacyTrimPolicy`; every builder bounds the share of the value it may drop. -/
structure PrivacyTrimPolicy where
  maxBundles : U64 := defaultMaxPrivacyBundles
  dropBps : Nat := defaultPrivacyDropBps
  maxDropZatoshi : Option U64 := some defaultMaxPrivacyDropZatoshi
  bounded : dropBps ≤ maxPrivacyDropBps := by decide
  deriving DecidableEq

/-- `BundlePolicy`; every builder checks the capacity. -/
structure BundlePolicy where
  plannerVersion : BundlePlannerVersion := .v1
  maxRealNotesPerBundle : Nat := bundleNoteSlots
  bundleAdditionThresholdZatoshi : Option U64 := none
  privacyTrim : Option PrivacyTrimPolicy := some {}
  capacity : 1 ≤ maxRealNotesPerBundle ∧ maxRealNotesPerBundle ≤ bundleNoteSlots := by decide
  deriving DecidableEq

namespace BundlePolicy

def maxPrivacyBundles (policy : BundlePolicy) : Option U64 := policy.privacyTrim.map (·.maxBundles)

/-- `privacy_drop_budget_v1`: the share of the value, clamped. -/
def privacyDropBudgetV1 (policy : BundlePolicy) (totalValue : Nat) : Nat :=
  match policy.privacyTrim with
  | none => 0
  | some trim =>
    let budget := totalValue * trim.dropBps / bpsDenominator
    match trim.maxDropZatoshi with
    | some clamp => min budget clamp.val
    | none => budget

end BundlePolicy

/-! ## The version 1 planner -/

/-- `PrivacyTrim`: what the privacy trim removed. -/
structure PrivacyTrim where
  droppedBundles : Nat := 0
  droppedNotes : Nat := 0
  droppedValue : Nat := 0
  deriving DecidableEq

/-- `ChunkResult`. -/
structure ChunkResult where
  bundles : List (List NoteInfo)
  eligibleWeight : Nat
  droppedCount : Nat
  privacyTrim : PrivacyTrim
  deriving DecidableEq

/-- A bundle with its running total. -/
structure PackedBundle where
  total : Nat
  notes : List NoteInfo
  deriving DecidableEq

/-- The value in whole ballots. -/
def quantize (value : Nat) : Nat := value / ballotDivisor * ballotDivisor

/-- `bundle_addition_would_exceed_threshold_v1`. -/
def bundleAdditionWouldExceedThresholdV1 (currentTotal noteValue : Nat) (threshold : Option U64) :
    Bool :=
  match threshold with
  | some threshold =>
    let total := currentTotal + noteValue
    u64Max < total || threshold.val < total
  | none => false

/-- Whether the note starts a bundle of its own. -/
def needsNewBundle (policy : BundlePolicy) (bundle : PackedBundle) (note : NoteInfo) : Bool :=
  if policy.maxRealNotesPerBundle ≤ bundle.notes.length then true
  else if bundle.notes.isEmpty then false
  else bundleAdditionWouldExceedThresholdV1 bundle.total note.value.val
    policy.bundleAdditionThresholdZatoshi

/-- One note is packed.  The bundles are listed last first, so the open one leads. -/
def packNote (policy : BundlePolicy) (bundles : List PackedBundle) (note : NoteInfo) :
    List PackedBundle :=
  match bundles with
  | [] => [⟨note.value.val, [note]⟩]
  | bundle :: closed =>
    if needsNewBundle policy bundle note then ⟨note.value.val, [note]⟩ :: bundle :: closed
    else ⟨(bundle.total + note.value.val) % 2 ^ 64, bundle.notes ++ [note]⟩ :: closed

/-- Steps 2 and 3: the notes packed in their order. -/
def packNotes (policy : BundlePolicy) (notes : List NoteInfo) : List PackedBundle :=
  (notes.foldl (packNote policy) []).reverse

/-- Value descending, then position ascending. -/
def valueOrder (a b : NoteInfo) : Prop :=
  b.value.val < a.value.val ∨ (b.value.val = a.value.val ∧ a.position.val ≤ b.position.val)

instance : DecidableRel valueOrder := fun _ _ => inferInstanceAs (Decidable (_ ∨ _))

/-- The position of the first note, which is the least once the notes are sorted. -/
def PackedBundle.firstPosition (bundle : PackedBundle) : Nat :=
  (bundle.notes.head?.map (·.position.val)).getD u64Max

/-- Total descending, then first position ascending. -/
def bundleOrder (a b : PackedBundle) : Prop :=
  b.total < a.total ∨ (b.total = a.total ∧ a.firstPosition ≤ b.firstPosition)

instance : DecidableRel bundleOrder := fun _ _ => inferInstanceAs (Decidable (_ ∨ _))

/-- Step 5: the notes of a bundle by position. -/
def PackedBundle.byPosition (bundle : PackedBundle) : PackedBundle :=
  { bundle with notes := bundle.notes.insertionSort fun a b => a.position.val ≤ b.position.val }

/-- Steps 1 to 4: the notes sorted and packed, without the bundles below one ballot. -/
def survivingBundles (policy : BundlePolicy) (notes : List NoteInfo) : List PackedBundle :=
  (packNotes policy (notes.insertionSort valueOrder)).filter (ballotDivisor ≤ ·.total)

/-- Steps 5 and 6: the surviving bundles in their order. -/
def orderedBundles (surviving : List PackedBundle) : List PackedBundle :=
  (surviving.map PackedBundle.byPosition).insertionSort bundleOrder

/-- The number of notes in the bundles. -/
def noteCount (bundles : List PackedBundle) : Nat := (bundles.map (·.notes.length)).sum

/-- The weight of the bundles, each in whole ballots. -/
def quantizedWeight (bundles : List PackedBundle) : Nat :=
  bundles.foldl (fun weight bundle => (weight + quantize bundle.total) % 2 ^ 64) 0

/-- The state of the trimming loop. -/
structure TrimState where
  surviving : List PackedBundle
  droppedValue : Nat := 0
  trim : PrivacyTrim := {}
  eligibleWeight : Nat

/-- Step 7: the last bundle goes while there are more than the target and the budget
allows it.  The bundles are listed last first. -/
def privacyTrimLoop (budget maxBundles droppedValue : Nat) (trim : PrivacyTrim)
    (eligibleWeight : Nat) : List PackedBundle → TrimState
  | [] => ⟨[], droppedValue, trim, eligibleWeight⟩
  | bundle :: rest =>
    if rest.length + 1 ≤ maxBundles ∨ budget < droppedValue + bundle.total then
      ⟨(bundle :: rest).reverse, droppedValue, trim, eligibleWeight⟩
    else privacyTrimLoop budget maxBundles (droppedValue + bundle.total)
      { trim with
        droppedBundles := (trim.droppedBundles + 1) % 2 ^ 32
        droppedNotes := (trim.droppedNotes + bundle.notes.length % 2 ^ 32) % 2 ^ 32 }
      ((eligibleWeight + 2 ^ 64 - quantize bundle.total) % 2 ^ 64) rest

/-- The privacy trim of a policy, if it has one.  At least one bundle is kept. -/
def privacyTrimmed (policy : BundlePolicy) (totalValue : Nat) (bundles : List PackedBundle)
    (eligibleWeight : Nat) : TrimState :=
  match policy.maxPrivacyBundles with
  | none => { surviving := bundles, eligibleWeight }
  | some maxPrivacyBundles =>
    let state := privacyTrimLoop (policy.privacyDropBudgetV1 totalValue) (max maxPrivacyBundles.val 1)
      0 {} eligibleWeight bundles.reverse
    { state with trim := { state.trim with droppedValue := min state.droppedValue u64Max } }

/-- `chunk_notes_v1_with_policy`. -/
def chunkNotesV1WithPolicy (notes : List NoteInfo) (policy : BundlePolicy) : ChunkResult :=
  if notes.isEmpty then
    { bundles := [], eligibleWeight := 0, droppedCount := 0, privacyTrim := {} }
  else
    let totalValue := (notes.map (·.value.val)).sum
    let totalNotes := noteCount (packNotes policy (notes.insertionSort valueOrder))
    let surviving := survivingBundles policy notes
    let trimmed := privacyTrimmed policy totalValue (orderedBundles surviving)
      (quantizedWeight surviving)
    { bundles := trimmed.surviving.map (·.notes)
      eligibleWeight := trimmed.eligibleWeight
      droppedCount := totalNotes - noteCount surviving
      privacyTrim := trimmed.trim }

end ZcashVoting
