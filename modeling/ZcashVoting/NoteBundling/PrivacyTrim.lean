import ZcashVoting.Lib.Shedding
import ZcashVoting.NoteBundling.Packing

/-!
# ZcashVoting.NoteBundling.PrivacyTrim

The privacy trim sheds bundles from the tail of a list sorted by value.  It is the
shedding of `ZcashVoting.Lib.Shedding` read backwards, so no other choice of bundles
within the drop budget leaves fewer.
-/

namespace ZcashVoting

/-! ## The order of the bundles -/

instance : Std.Total bundleOrder := ⟨fun a b => by simp only [bundleOrder]; omega⟩

instance : IsTrans PackedBundle bundleOrder := ⟨fun a b c => by simp only [bundleOrder]; omega⟩

theorem orderedBundles_pairwise (bundles : List PackedBundle) :
    (orderedBundles bundles).Pairwise fun a b => b.total ≤ a.total := by
  refine (List.pairwise_insertionSort bundleOrder _).imp ?_
  intro a b h
  simp only [bundleOrder] at h
  omega

theorem length_orderedBundles (bundles : List PackedBundle) :
    (orderedBundles bundles).length = bundles.length := by
  simp [orderedBundles, List.length_insertionSort]

/-! ## The loop -/

/-- The loop sheds bundles by their totals. -/
theorem privacyTrimLoop_surviving (budget maxBundles droppedValue : Nat) (trim : PrivacyTrim)
    (eligibleWeight : Nat) (bundles : List PackedBundle) :
    (privacyTrimLoop budget maxBundles droppedValue trim eligibleWeight bundles).surviving =
      (Shedding.keep PackedBundle.total budget maxBundles droppedValue bundles).reverse := by
  induction bundles generalizing droppedValue trim eligibleWeight with
  | nil => rfl
  | cons bundle rest ih =>
    by_cases hstop : rest.length + 1 ≤ maxBundles ∨ budget < droppedValue + bundle.total
    · simp only [privacyTrimLoop, Shedding.keep, if_pos hstop]
    · simp only [privacyTrimLoop, Shedding.keep, if_neg hstop, ih]

section Plan

variable {policy : BundlePolicy} {target : U64} (notes : List NoteInfo)

/-- The bundles that are worth a ballot, before the trim. -/
def eligibleBundles (policy : BundlePolicy) (notes : List NoteInfo) : List (List NoteInfo) :=
  (survivingBundles policy notes).map (·.notes)

/-- The trim of a plan leaves what shedding leaves. -/
theorem length_bundles_chunkNotesV1WithPolicy (htarget : policy.maxPrivacyBundles = some target) :
    (chunkNotesV1WithPolicy notes policy).bundles.length =
      (Shedding.keep PackedBundle.total (policy.privacyDropBudgetV1 (noteValue notes))
        (max target.val 1) 0 (orderedBundles (survivingBundles policy notes)).reverse).length := by
  rw [chunkNotesV1WithPolicy]
  by_cases hempty : notes.isEmpty
  · rw [List.isEmpty_iff.mp hempty]
    rfl
  · rw [if_neg hempty]
    simp only [privacyTrimmed, htarget, List.length_map, privacyTrimLoop_surviving,
      List.length_reverse, noteValue]

/-- While the value of the notes fits a `u64`, a bundle's total is its value. -/
theorem total_eq_noteValue {bundle : PackedBundle} (hvalue : noteValue notes ≤ u64Max)
    (h : bundle ∈ packNotes policy (notes.insertionSort valueOrder)) :
    bundle.total = noteValue bundle.notes := by
  have hsub : bundle.notes.Subperm (notes.insertionSort valueOrder) := by
    rw [← packedNotes_packNotes policy (notes.insertionSort valueOrder)]
    exact (List.sublist_flatten_of_mem (List.mem_map_of_mem h)).subperm
  have hle : noteValue bundle.notes ≤ u64Max :=
    (noteValue_subperm (hsub.trans (List.perm_insertionSort _ _).subperm)).trans hvalue
  rw [(packNotes_sums policy _ bundle h).total, Nat.mod_eq_of_lt (Nat.lt_of_le_of_lt hle (by decide))]

/-- To the trim the eligible bundles are the ones it has sorted. -/
theorem leaves_eligibleBundles {budget floor count : Nat} (hvalue : noteValue notes ≤ u64Max) :
    Shedding.Leaves noteValue budget floor (eligibleBundles policy notes) count ↔
      Shedding.Leaves PackedBundle.total budget floor
        (orderedBundles (survivingBundles policy notes)).reverse count := by
  have hsorted : (orderedBundles (survivingBundles policy notes)).reverse.Perm
      ((survivingBundles policy notes).map PackedBundle.byPosition) :=
    (List.reverse_perm _).trans (List.perm_insertionSort _ _)
  rw [Shedding.leaves_perm hsorted, Shedding.leaves_map, eligibleBundles, Shedding.leaves_map]
  exact Shedding.leaves_congr fun bundle h =>
    (total_eq_noteValue notes hvalue (List.mem_of_mem_filter h)).symm

variable (target)

/-- The privacy trim is optimal.  With as many eligible bundles as it is to leave, the count it
leaves is the least that removing any choice of them within the drop budget can reach, and
with fewer it leaves them all. -/
theorem privacy_trim_isLeast (policy : BundlePolicy) (hvalue : noteValue notes ≤ u64Max)
    (htarget : policy.maxPrivacyBundles = some target) :
    let eligible := eligibleBundles policy notes
    let left := (chunkNotesV1WithPolicy notes policy).bundles.length
    (max 1 target.val ≤ eligible.length →
      IsLeast {count | Shedding.Leaves noteValue (policy.privacyDropBudgetV1 (noteValue notes))
        (max 1 target.val) eligible count} left) ∧
    (eligible.length < max 1 target.val → left = eligible.length) := by
  have hlength : (orderedBundles (survivingBundles policy notes)).reverse.length =
      (eligibleBundles policy notes).length := by
    rw [List.length_reverse, length_orderedBundles, eligibleBundles, List.length_map]
  simp only [Nat.max_comm 1, length_bundles_chunkNotesV1WithPolicy notes htarget, ← hlength,
    leaves_eligibleBundles notes hvalue]
  constructor
  · intro henough
    exact Shedding.isLeast_length_keep _
      (List.pairwise_reverse.mpr (orderedBundles_pairwise _)) henough
  · intro hfew
    rw [Shedding.keep_of_length_le _ hfew.le]

end Plan

theorem one_note_fits : 1 ≤ 1 ∧ 1 ≤ bundleNoteSlots := by decide

/-- One note a bundle, and one bundle if the budget allows it. -/
def sampleBundlePolicy : BundlePolicy where
  maxRealNotesPerBundle := 1
  privacyTrim := some
    { maxBundles := 1, dropBps := 500, bounded := Nat.le_refl maxPrivacyDropBps }
  capacity := one_note_fits

/-- A large note with a tail of which the budget covers one bundle. -/
def sampleTail : List NoteInfo :=
  [⟨1000000000, 0⟩, ⟨30000000, 1⟩, ⟨40000000, 2⟩]

theorem privacy_trim_isLeast_sampleTail :
    (chunkNotesV1WithPolicy sampleTail sampleBundlePolicy).bundles.length = 2 ∧
      IsLeast {count | Shedding.Leaves noteValue
        (sampleBundlePolicy.privacyDropBudgetV1 (noteValue sampleTail)) 1
        (eligibleBundles sampleBundlePolicy sampleTail) count} 2 := by
  have hleft : (chunkNotesV1WithPolicy sampleTail sampleBundlePolicy).bundles.length = 2 := by
    decide
  have hleast := (privacy_trim_isLeast ⟨1, by decide⟩ sampleTail sampleBundlePolicy (by decide)
    rfl).1 (by decide)
  rw [hleft] at hleast
  exact ⟨hleft, hleast⟩

/-- Two notes whose value is one ballot above what a `u64` holds, and two smaller ones. -/
def sampleOverflow : List NoteInfo :=
  [⟨.ofNat (2 ^ 63 + 12500000), 0⟩, ⟨.ofNat (2 ^ 63), 1⟩, ⟨.ofNat (2 ^ 62), 2⟩,
    ⟨.ofNat (2 ^ 62), 3⟩]

/-- Two notes a bundle, and one bundle if the budget allows it. -/
def samplePairPolicy : BundlePolicy where
  maxRealNotesPerBundle := 2
  privacyTrim := some { maxBundles := 1, bounded := defaultPrivacyDropBps_le }

/-- A note worth one ballot. -/
def sampleBallotNote : List NoteInfo :=
  [⟨.ofNat ballotDivisor, 0⟩]

/-- One note worth one ballot is left under a policy that asks for two bundles, a count that
cannot be left.  And a total that wraps around makes the trim remove a bundle that the
budget does not cover. -/
theorem privacy_trim_not_least :
    ((chunkNotesV1WithPolicy sampleBallotNote {}).bundles.length = 1 ∧
      BundlePolicy.maxPrivacyBundles {} = some ⟨2, by decide⟩ ∧
      ∀ count, ¬Shedding.Leaves noteValue
        (BundlePolicy.privacyDropBudgetV1 {} (noteValue sampleBallotNote)) 2
        (eligibleBundles {} sampleBallotNote) count) ∧
    ((chunkNotesV1WithPolicy sampleOverflow samplePairPolicy).bundles.length = 1 ∧
      ¬Shedding.Leaves noteValue (samplePairPolicy.privacyDropBudgetV1 (noteValue sampleOverflow)) 1
        (eligibleBundles samplePairPolicy sampleOverflow) 1) := by
  refine ⟨⟨by decide, rfl, ?_⟩, by decide, ?_⟩
  · rintro count ⟨htarget, removed, -, -, hcount⟩
    have hone : (eligibleBundles {} sampleBallotNote).length = 1 := by decide
    omega
  · rintro ⟨-, removed, hsub, hload, hcount⟩
    have hdear : ∀ bundle ∈ eligibleBundles samplePairPolicy sampleOverflow,
        samplePairPolicy.privacyDropBudgetV1 (noteValue sampleOverflow) < noteValue bundle := by
      decide
    have htwo : (eligibleBundles samplePairPolicy sampleOverflow).length = 2 := by decide
    obtain ⟨bundle, rfl⟩ := List.length_eq_one_iff.mp (show removed.length = 1 by omega)
    have := hdear bundle (hsub.subset (by simp))
    simp only [Shedding.load_cons, Shedding.load_nil] at hload
    omega

end ZcashVoting
