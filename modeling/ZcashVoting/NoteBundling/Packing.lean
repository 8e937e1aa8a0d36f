import Mathlib.Algebra.Order.BigOperators.Group.List
import Mathlib.Data.List.Flatten
import ZcashVoting.NoteBundling

/-!
# ZcashVoting.NoteBundling.Packing

What packing does with the notes: every note is packed, in the order in which the notes
come, no bundle is empty, and the total of a bundle is the value of its notes as far as a
`u64` shows it.
-/

namespace ZcashVoting

open Transaction

/-- The value of the notes. -/
def noteValue (notes : List NoteInfo) : Nat := (notes.map (·.value.val)).sum

/-! ## Packing -/

/-- The bundle has notes, and its total is their value as far as a `u64` shows it. -/
structure PackedBundle.Sums (bundle : PackedBundle) : Prop where
  ne_nil : bundle.notes ≠ []
  total : bundle.total = noteValue bundle.notes % 2 ^ 64

/-- The notes of the bundles, one bundle after the other. -/
def packedNotes (bundles : List PackedBundle) : List NoteInfo := bundles.flatMap (·.notes)

section Packing

variable (policy : BundlePolicy) (bundles : List PackedBundle) (note : NoteInfo)

theorem packedNotes_packNote :
    packedNotes (packNote policy bundles note).reverse = packedNotes bundles.reverse ++ [note] := by
  cases bundles with
  | nil => rfl
  | cons bundle closed =>
    rw [packNote]
    by_cases h : needsNewBundle policy bundle note
    · simp [h, packedNotes]
    · simp [h, packedNotes]

variable {bundles} in
theorem packNote_sums (h : ∀ bundle ∈ bundles, bundle.Sums) :
    ∀ bundle ∈ packNote policy bundles note, bundle.Sums := by
  have hfresh : PackedBundle.Sums ⟨note.value.val, [note]⟩ := by
    have hvalue : note.value.val < 2 ^ 64 := by
      have := note.value.property
      simp only [u64Max] at this
      omega
    exact ⟨by simp, (by rw [Nat.mod_eq_of_lt (by simpa [noteValue] using hvalue)]; simp [noteValue])⟩
  cases bundles with
  | nil => simpa [packNote] using hfresh
  | cons bundle closed =>
    rw [packNote]
    by_cases hnew : needsNewBundle policy bundle note
    · simpa [hnew, hfresh] using h
    · have hgrown : PackedBundle.Sums
          ⟨(bundle.total + note.value.val) % 2 ^ 64, bundle.notes ++ [note]⟩ := by
        refine ⟨by simp, ?_⟩
        rw [(h bundle (by simp)).total]
        simp [noteValue, Nat.add_mod]
      simp only [hnew, Bool.false_eq_true, if_false, List.forall_mem_cons]
      exact ⟨hgrown, fun other hother => h other (by simp [hother])⟩

theorem foldl_packNote_notes (notes : List NoteInfo) :
    packedNotes (notes.foldl (packNote policy) bundles).reverse =
      packedNotes bundles.reverse ++ notes := by
  induction notes generalizing bundles with
  | nil => simp
  | cons note notes ih =>
    rw [List.foldl_cons, ih, packedNotes_packNote, List.append_assoc, List.singleton_append]

variable {bundles} in
theorem foldl_packNote_sums (notes : List NoteInfo) (h : ∀ bundle ∈ bundles, bundle.Sums) :
    ∀ bundle ∈ notes.foldl (packNote policy) bundles, bundle.Sums := by
  induction notes generalizing bundles with
  | nil => exact h
  | cons note notes ih => exact ih (packNote_sums policy note h)

/-- Every note is packed, in order. -/
theorem packedNotes_packNotes (notes : List NoteInfo) :
    packedNotes (packNotes policy notes) = notes := by
  simpa [packedNotes, packNotes] using foldl_packNote_notes policy [] notes

theorem packNotes_sums (notes : List NoteInfo) :
    ∀ bundle ∈ packNotes policy notes, bundle.Sums := by
  intro bundle h
  exact foldl_packNote_sums policy notes (by simp) bundle (List.mem_reverse.mp h)

end Packing

theorem noteValue_perm {a b : List NoteInfo} (h : a.Perm b) : noteValue a = noteValue b :=
  (h.map _).sum_nat

theorem noteValue_subperm {a b : List NoteInfo} (h : a.Subperm b) : noteValue a ≤ noteValue b := by
  obtain ⟨c, hperm, hsub⟩ := h
  rw [← noteValue_perm hperm]
  exact (hsub.map _).sum_le_sum fun _ _ => Nat.zero_le _

end ZcashVoting
