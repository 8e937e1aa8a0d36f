import Mathlib.Data.List.Basic

/-!
# Lib.Reader

Readers that consume a string from its front, and what it means that a reader reads back
what was written: it takes exactly the written part off anything that starts with it.
Written parts one after the other are read by readers one after the other.

Readers look at nothing but what they take, so what they read of an input they also read of
a longer one.  A proper part of something written is therefore refused.
-/

/-- A reader of values from the front of a string. -/
abbrev Reader (β α : Type) := StateT (List β) Option α

namespace Reader

variable {α β γ : Type} {r : Reader β α} {next : α → Reader β γ} {a : α} {written : List β}

/-- The next `n` symbols (`read_exact`). -/
def exactly (n : Nat) : Reader β (List β) := fun input =>
  if n ≤ input.length then some (input.take n, input.drop n) else none

/-- Refuse the input. -/
def refuse : Reader β α := fun _ => none

/-- `n` values in turn. -/
def times (r : Reader β α) : Nat → Reader β (List α)
  | 0 => pure []
  | n + 1 => do
    let a ← r
    let as ← times r n
    return a :: as

/-- The reader takes what was written off the front, and leaves the rest. -/
def Reads (r : Reader β α) (written : List β) (a : α) : Prop :=
  ∀ rest, r (written ++ rest) = some (a, rest)

theorem Reads.pure (a : α) : Reads (Pure.pure a : Reader β α) [] a := fun _ => rfl

theorem Reads.bind {first second : List β} {c : γ}
    (hr : Reads r first a) (hnext : Reads (next a) second c) :
    Reads (r >>= next) (first ++ second) c := by
  intro rest
  show (r (first ++ second ++ rest)).bind _ = _
  rw [List.append_assoc, hr]
  exact hnext rest

/-- A step that reads nothing more. -/
theorem Reads.bind_nil {c : γ}
    (hr : Reads r written a) (hnext : Reads (next a) [] c) : Reads (r >>= next) written c := by
  rw [← List.append_nil written]
  exact hr.bind hnext

/-- What was written, and nothing else, is read as a whole. -/
theorem Reads.whole (h : Reads r written a) :
    r written = some (a, []) := by
  rw [← h [], List.append_nil]

theorem reads_exactly {n : Nat} (h : written.length = n) :
    Reads (exactly n) written written := by
  intro rest
  subst h
  rw [exactly, if_pos (by simp), List.take_left, List.drop_left]

theorem Reads.times {write : α → List β} (as : List α)
    (h : ∀ a ∈ as, Reads r (write a) a) : Reads (r.times as.length) (as.flatMap write) as := by
  induction as with
  | nil => exact Reads.pure []
  | cons a as ih =>
    have hrest := ih fun b hb => h b (List.mem_cons_of_mem _ hb)
    exact (h a List.mem_cons_self).bind (hrest.bind_nil (Reads.pure _))

/-! ## Parts of an input -/

/-- Of two written strings neither is the front of the other. -/
theorem Reads.unique {first second rest : List β} {b : α}
    (ha : Reads r first a) (hb : Reads r second b) (h : first ++ rest = second) :
    a = b ∧ rest = [] := by
  have hread := ha rest
  rw [h, hb.whole, Option.some_inj, Prod.mk.injEq] at hread
  exact ⟨hread.1.symm, hread.2.symm⟩

/-- What the reader reads, it reads of every longer input. -/
def Incremental (r : Reader β α) : Prop :=
  ∀ input a rest, r input = some (a, rest) → ∀ more, r (input ++ more) = some (a, rest ++ more)

theorem Incremental.pure (a : α) : Incremental (Pure.pure a : Reader β α) := by
  intro input b rest h more
  cases h
  rfl

theorem Incremental.refuse : Incremental (refuse : Reader β α) := by
  intro input a rest h
  cases h

theorem Incremental.bind (hr : Incremental r)
    (hnext : ∀ a, Incremental (next a)) : Incremental (r >>= next) := by
  intro input c rest h more
  obtain ⟨⟨a, middle⟩, hfirst, hsecond⟩ := Option.bind_eq_some_iff.mp h
  show (r (input ++ more)).bind _ = _
  rw [hr _ _ _ hfirst, Option.bind_some]
  exact hnext a _ _ _ hsecond more

theorem Incremental.exactly (n : Nat) : Incremental (exactly n : Reader β (List β)) := by
  intro input a rest h more
  unfold Reader.exactly at h ⊢
  split at h
  · next hlong =>
    cases h
    rw [if_pos (by rw [List.length_append]; omega), List.take_append_of_le_length hlong,
      List.drop_append_of_le_length hlong]
  · cases h

theorem Incremental.times (hr : Incremental r) (n : Nat) :
    Incremental (r.times n) := by
  induction n with
  | zero => exact .pure []
  | succ n ih => exact hr.bind fun _ => ih.bind fun _ => .pure _

/-- A proper part of what was written is refused. -/
theorem Incremental.eq_none {part missing : List β}
    (hr : Incremental r) (ha : Reads r written a) (h : part ++ missing = written)
    (hmissing : missing ≠ []) : r part = none := by
  by_contra hread
  obtain ⟨⟨b, rest⟩, hread⟩ := Option.ne_none_iff_exists'.mp hread
  have hwhole := hr _ _ _ hread missing
  rw [h, ha.whole, Option.some_inj, Prod.mk.injEq] at hwhole
  exact hmissing (List.append_eq_nil_iff.mp hwhole.2.symm).2

/-- Everything the one reader reads, the other reads too. -/
def Within (r r' : Reader β α) : Prop := ∀ input result, r input = some result → r' input = some result

theorem Within.refl (r : Reader β α) : Within r r := fun _ _ h => h

theorem Within.refuse (r : Reader β α) : Within Reader.refuse r := by
  intro input result h
  cases h

theorem Within.bind {r' : Reader β α} {next' : α → Reader β γ} (hr : Within r r')
    (hnext : ∀ a, Within (next a) (next' a)) : Within (r >>= next) (r' >>= next') := by
  intro input result h
  obtain ⟨⟨a, rest⟩, hfirst, hsecond⟩ := Option.bind_eq_some_iff.mp h
  show (r' input).bind _ = _
  rw [hr _ _ hfirst, Option.bind_some]
  exact hnext a _ _ hsecond

end Reader
