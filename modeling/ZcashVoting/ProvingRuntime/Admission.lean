import Mathlib.Data.List.Nodup
import Mathlib.Data.List.Pairwise
import ZcashVoting.Lib.Trace

/-!
# ZcashVoting.ProvingRuntime.Admission

Proofs wait for admission in one queue of tickets, and identities with a ticket take turns.
`ready` holds the tickets in the order they came, `identities` the turn order; the code keeps
the two consistent by hand whenever a ticket is queued, admitted or cancelled.

Calls interleave at the mutex: each step is one of the code's critical sections, or a part of
one.  A call that has queued its ticket looks at the queue any number of times, until it finds
itself cancelled or next.
-/

namespace ZcashVoting.ProvingRuntime

open Trace

/-- The bundle that an operation proves for. -/
abbrev Identity := String

/-- `Queue`. -/
structure Queue where
  nextTicket : Nat := 0
  ready : List (Nat × Identity) := []
  identities : List Identity := []
  active : Nat := 0

namespace Queue

/-- A ticket is queued, and its identity takes its turn if it is not waiting for one. -/
def enqueue (queue : Queue) (identity : Identity) : Queue :=
  { queue with
    nextTicket := queue.nextTicket + 1
    ready := queue.ready ++ [(queue.nextTicket, identity)]
    identities := if identity ∈ queue.identities then queue.identities
      else queue.identities ++ [identity] }

/-- A cancelled ticket is taken back, and its identity's turn if it has no other ticket. -/
def withdraw (queue : Queue) (ticket : Nat) (identity : Identity) : Queue :=
  let ready := queue.ready.filter (·.1 ≠ ticket)
  { queue with
    ready
    identities := if ready.any (·.2 = identity) then queue.identities
      else queue.identities.filter (· ≠ identity) }

/-- `next`: the first ticket of the identity whose turn it is. -/
def next (queue : Queue) : Option Nat :=
  queue.identities.head?.bind fun identity => (queue.ready.find? (·.2 = identity)).map (·.1)

/-- A ticket is admitted, if it is next and fewer than the maximum are active.  Its identity
goes to the end if it has another one. -/
def grant (maximum : Nat) (queue : Queue) (ticket : Nat) : Option (Queue) :=
  if queue.active < maximum ∧ queue.next = some ticket then
    let ready := queue.ready.filter (·.1 ≠ ticket)
    match queue.identities with
    | [] => none
    | identity :: identities => some { queue with
        ready
        identities := if ready.any (·.2 = identity) then identities ++ [identity] else identities
        active := queue.active + 1 }
  else none

/-- A permit is dropped. -/
def release (queue : Queue) : Queue := { queue with active := queue.active - 1 }

end Queue

/-- The queue, the calls that wait with their tickets, the permits that are alive, and what was
admitted so far. -/
structure World where
  queue : Queue := {}
  waiting : List (Nat × Identity) := []
  permits : List Nat := []
  admissions : List (Nat × Identity) := []

/-- What happens to a ticket. -/
inductive Event where
  | enqueued (ticket : Nat) (identity : Identity)
  | withdrawn (ticket : Nat) (identity : Identity)
  | granted (ticket : Nat) (identity : Identity)
  | released (ticket : Nat)

/-- One step of a call to `acquire`, or the drop of a permit. -/
inductive Step (capacity maximum : Nat) (w : World) : Event → World → Prop where
  /-- The call is past `queue_backpressure`. -/
  | enqueue (identity : Identity) (hroom : w.queue.ready.length < capacity) :
      Step capacity maximum w (.enqueued w.queue.nextTicket identity)
        { w with
          queue := w.queue.enqueue identity
          waiting := w.waiting ++ [(w.queue.nextTicket, identity)] }
  /-- The call finds its operation cancelled. -/
  | withdraw (ticket : Nat) (identity : Identity) (hwaits : (ticket, identity) ∈ w.waiting) :
      Step capacity maximum w (.withdrawn ticket identity)
        { w with
          queue := w.queue.withdraw ticket identity
          waiting := w.waiting.filter (·.1 ≠ ticket) }
  | grant (ticket : Nat) (identity : Identity) (queue : Queue)
      (hwaits : (ticket, identity) ∈ w.waiting) (hgrant : w.queue.grant maximum ticket = some queue) :
      Step capacity maximum w (.granted ticket identity)
        { queue
          waiting := w.waiting.filter (·.1 ≠ ticket)
          permits := ticket :: w.permits
          admissions := w.admissions ++ [(ticket, identity)] }
  | release (ticket : Nat) (hlive : ticket ∈ w.permits) :
      Step capacity maximum w (.released ticket)
        { w with queue := w.queue.release, permits := w.permits.erase ticket }

/-! ## What holds of the queue -/

/-- The queue is consistent with itself and with the calls. -/
structure Consistent (capacity maximum : Nat) (w : World) : Prop where
  waiting : w.waiting = w.queue.ready
  active : w.permits.length = w.queue.active
  active_le : w.queue.active ≤ maximum
  ready_le : w.queue.ready.length ≤ capacity
  nodup : w.queue.identities.Nodup
  mem_identities : ∀ identity, identity ∈ w.queue.identities ↔ ∃ ticket, (ticket, identity) ∈ w.queue.ready
  /-- Tickets are numbered as they come. -/
  arrival : w.queue.ready.Pairwise (·.1 < ·.1)
  issued : ∀ ticket ∈ w.queue.ready, ticket.1 < w.queue.nextTicket
  admitted_issued : ∀ ticket ∈ w.admissions, ticket.1 < w.queue.nextTicket
  /-- Of one identity, what was admitted came before what is still queued. -/
  admitted_lt : ∀ earlier ∈ w.admissions, ∀ later ∈ w.queue.ready, earlier.2 = later.2 →
    earlier.1 < later.1
  in_order : w.admissions.Pairwise fun earlier later => earlier.2 = later.2 → earlier.1 < later.1

section

variable {capacity maximum : Nat} {w w' : World} {ticket : Nat} {identity : Identity}
  {queue queue' : Queue}

theorem Consistent.initial : Consistent capacity maximum ({} : World) where
  waiting := rfl
  active := rfl
  active_le := Nat.zero_le _
  ready_le := Nat.zero_le _
  nodup := List.nodup_nil
  mem_identities := by simp
  arrival := List.Pairwise.nil
  issued := by simp
  admitted_issued := by simp
  admitted_lt := by simp
  in_order := List.Pairwise.nil

/-- What an admission finds and does. -/
theorem Queue.grant_eq_some (h : queue.grant maximum ticket = some queue') :
    ∃ identity identities, queue.identities = identity :: identities ∧ queue.active < maximum ∧
      queue.ready.find? (·.2 = identity) = some (ticket, identity) ∧
      queue' = { queue with
        ready := queue.ready.filter (·.1 ≠ ticket)
        identities := if (queue.ready.filter (·.1 ≠ ticket)).any (·.2 = identity)
          then identities ++ [identity] else identities
        active := queue.active + 1 } := by
  unfold Queue.grant at h
  by_cases hnext : queue.active < maximum ∧ queue.next = some ticket
  · rw [if_pos hnext] at h
    cases hidentities : queue.identities with
    | nil => simp [hidentities] at h
    | cons identity identities =>
      rw [hidentities] at h
      obtain ⟨hactive, hnext⟩ := hnext
      simp only [Queue.next, hidentities, List.head?_cons, Option.bind_some, Option.map_eq_some_iff]
        at hnext
      obtain ⟨⟨found, owner⟩, hfind, rfl⟩ := hnext
      have howner := List.find?_some hfind
      simp only [decide_eq_true_eq] at howner
      exact ⟨identity, identities, rfl, hactive, howner ▸ hfind, (Option.some.inj h).symm⟩
  · rw [if_neg hnext] at h
    cases h

/-- A ticket has one identity. -/
theorem Consistent.identity_eq (h : Consistent capacity maximum w) {other : Identity}
    (hidentity : (ticket, identity) ∈ w.queue.ready) (hother : (ticket, other) ∈ w.queue.ready) :
    identity = other := by
  have hnodup : (w.queue.ready.map (·.1)).Nodup :=
    (List.pairwise_map.mpr h.arrival).imp fun hlt => Nat.ne_of_lt hlt
  have := List.inj_on_of_nodup_map hnodup hidentity hother rfl
  exact congrArg Prod.snd this

theorem any_owner {ready : List (Nat × Identity)} {owner : Identity} :
    ready.any (·.2 = owner) = true ↔ ∃ ticket, (ticket, owner) ∈ ready := by
  simp

/-- Without a ticket the identities with a ticket are the same, except for its own if it was the
last one. -/
theorem Consistent.exists_remaining (h : Consistent capacity maximum w)
    (hmem : (ticket, identity) ∈ w.queue.ready) (other : Identity) :
    (∃ left, (left, other) ∈ w.queue.ready.filter (·.1 ≠ ticket)) ↔
      (∃ left, (left, other) ∈ w.queue.ready) ∧ (other = identity →
        (w.queue.ready.filter (·.1 ≠ ticket)).any (·.2 = identity) = true) := by
  constructor
  · rintro ⟨left, hleft⟩
    exact ⟨⟨left, (List.mem_filter.mp hleft).1⟩, fun heq => any_owner.mpr ⟨left, heq ▸ hleft⟩⟩
  · rintro ⟨⟨left, hleft⟩, hown⟩
    by_cases heq : left = ticket
    · subst heq
      have hother := h.identity_eq hleft hmem
      exact hother ▸ any_owner.mp (hown hother)
    · exact ⟨left, List.mem_filter.mpr ⟨hleft, by simpa using heq⟩⟩

theorem Consistent.enqueue (h : Consistent capacity maximum w)
    (hroom : w.queue.ready.length < capacity) :
    Consistent capacity maximum { w with
      queue := w.queue.enqueue identity
      waiting := w.waiting ++ [(w.queue.nextTicket, identity)] } where
  waiting := by simp [Queue.enqueue, h.waiting]
  active := h.active
  active_le := h.active_le
  ready_le := by
    simp only [Queue.enqueue, List.length_append, List.length_singleton]
    omega
  nodup := by
    by_cases hmem : identity ∈ w.queue.identities
    · simpa [Queue.enqueue, hmem] using h.nodup
    · simpa [Queue.enqueue, hmem] using h.nodup.concat hmem
  mem_identities := by
    intro other
    have hother := h.mem_identities other
    by_cases hmem : identity ∈ w.queue.identities
    · have hidentity := (h.mem_identities identity).mp hmem
      simp only [Queue.enqueue, hmem, if_true, List.mem_append, List.mem_singleton, Prod.mk.injEq]
      grind
    · simp only [Queue.enqueue, hmem, if_false, List.mem_append, List.mem_singleton, Prod.mk.injEq]
      grind
  arrival := by
    rw [Queue.enqueue, List.pairwise_append]
    exact ⟨h.arrival, List.pairwise_singleton _ _, by simpa using h.issued⟩
  issued := by
    intro other hother
    rw [Queue.enqueue, List.mem_append, List.mem_singleton] at hother
    obtain hother | rfl := hother
    · exact Nat.lt_succ_of_lt (h.issued other hother)
    · exact Nat.lt_succ_self _
  admitted_issued := fun other hother => Nat.lt_succ_of_lt (h.admitted_issued other hother)
  admitted_lt := by
    intro earlier hearlier later hlater hsame
    rw [Queue.enqueue, List.mem_append, List.mem_singleton] at hlater
    obtain hlater | rfl := hlater
    · exact h.admitted_lt earlier hearlier later hlater hsame
    · exact h.admitted_issued earlier hearlier
  in_order := h.in_order

/-- A cancelled ticket takes its identity from the turn order exactly if it was the last one. -/
theorem Consistent.identities_withdraw (h : Consistent capacity maximum w)
    (hmem : (ticket, identity) ∈ w.queue.ready) :
    (w.queue.withdraw ticket identity).identities = w.queue.identities.filter fun other =>
      (w.queue.ready.filter (·.1 ≠ ticket)).any (·.2 = other) := by
  have hremain : ∀ other ∈ w.queue.identities, other ≠ identity →
      (w.queue.ready.filter (·.1 ≠ ticket)).any (·.2 = other) = true := fun other hother hne =>
    any_owner.mpr ((h.exists_remaining hmem other).mpr
      ⟨(h.mem_identities other).mp hother, fun heq => absurd heq hne⟩)
  rw [Queue.withdraw]
  dsimp only
  split
  · next hmore =>
    refine (List.filter_eq_self.mpr fun other hother => ?_).symm
    by_cases hne : other = identity
    · exact hne ▸ hmore
    · exact hremain other hother hne
  · next hlast =>
    refine List.filter_congr fun other hother => ?_
    by_cases hne : other = identity
    · rw [hne, Bool.eq_false_iff.mpr hlast]
      simp
    · rw [hremain other hother hne, decide_eq_true hne]

theorem Consistent.withdraw (h : Consistent capacity maximum w)
    (hmem : (ticket, identity) ∈ w.queue.ready) :
    Consistent capacity maximum { w with
      queue := w.queue.withdraw ticket identity
      waiting := w.waiting.filter (·.1 ≠ ticket) } where
  waiting := by simp only [Queue.withdraw, h.waiting]
  active := h.active
  active_le := h.active_le
  ready_le := Nat.le_trans (List.length_filter_le _ _) h.ready_le
  nodup := by
    simp only [Queue.withdraw]
    split
    · exact h.nodup
    · exact h.nodup.filter _
  mem_identities := by
    intro other
    rw [Queue.withdraw, h.exists_remaining hmem, ← h.mem_identities]
    dsimp only
    split
    · next hmore => simp only [hmore, implies_true, and_true]
    · next hlast => simp only [hlast, List.mem_filter, decide_eq_true_eq, ne_eq,
        Bool.false_eq_true, imp_false]
  arrival := h.arrival.filter _
  issued := fun other hother => h.issued other (List.mem_filter.mp hother).1
  admitted_issued := h.admitted_issued
  admitted_lt := fun earlier hearlier later hlater =>
    h.admitted_lt earlier hearlier later (List.mem_filter.mp hlater).1
  in_order := h.in_order

/-- An admitted ticket is the first of its identity. -/
theorem Consistent.first_of_find (h : Consistent capacity maximum w)
    (hfind : w.queue.ready.find? (·.2 = identity) = some (ticket, identity)) :
    ∀ later ∈ w.queue.ready.filter (·.1 ≠ ticket), later.2 = identity → ticket < later.1 := by
  obtain ⟨-, before, after, heq, hbefore⟩ := List.find?_eq_some_iff_append.mp hfind
  have harrival := h.arrival
  rw [heq, List.pairwise_append, List.pairwise_cons] at harrival
  intro later hlater hsame
  rw [heq, List.mem_filter, List.mem_append, List.mem_cons] at hlater
  obtain ⟨hlater | rfl | hlater, hne⟩ := hlater
  · simpa [hsame] using hbefore later hlater
  · simp at hne
  · exact harrival.2.1.1 later hlater

theorem Consistent.grant (h : Consistent capacity maximum w)
    (hmem : (ticket, identity) ∈ w.queue.ready) (hgrant : w.queue.grant maximum ticket = some queue) :
    Consistent capacity maximum
      { queue
        waiting := w.waiting.filter (·.1 ≠ ticket)
        permits := ticket :: w.permits
        admissions := w.admissions ++ [(ticket, identity)] } := by
  obtain ⟨front, identities, hidentities, hactive, hfind, rfl⟩ := Queue.grant_eq_some hgrant
  obtain rfl := h.identity_eq hmem (List.mem_of_find?_eq_some hfind)
  have hnodup := h.nodup
  rw [hidentities, List.nodup_cons] at hnodup
  have hfirst := h.first_of_find hfind
  refine
    { waiting := by simp only [h.waiting]
      active := by simp [h.active]
      active_le := hactive
      ready_le := Nat.le_trans (List.length_filter_le _ _) h.ready_le
      nodup := ?_
      mem_identities := ?_
      arrival := h.arrival.filter _
      issued := fun other hother => h.issued other (List.mem_filter.mp hother).1
      admitted_issued := ?_
      admitted_lt := ?_
      in_order := ?_ }
  · dsimp only
    split
    · exact List.concat_eq_append ▸ hnodup.2.concat hnodup.1
    · exact hnodup.2
  · intro other
    have hother := h.mem_identities other
    rw [hidentities, List.mem_cons] at hother
    rw [h.exists_remaining hmem, ← hother]
    by_cases hsame : other = identity
    · subst hsame
      dsimp only
      split <;> simp_all
    · dsimp only
      split <;> simp_all
  · intro other hother
    rw [List.mem_append, List.mem_singleton] at hother
    obtain hother | rfl := hother
    · exact h.admitted_issued other hother
    · exact h.issued _ hmem
  · intro earlier hearlier later hlater hsame
    rw [List.mem_append, List.mem_singleton] at hearlier
    obtain hearlier | rfl := hearlier
    · exact h.admitted_lt earlier hearlier later (List.mem_filter.mp hlater).1 hsame
    · exact hfirst later hlater hsame.symm
  · rw [List.pairwise_append]
    refine ⟨h.in_order, List.pairwise_singleton _ _, ?_⟩
    intro earlier hearlier later hlater
    rw [List.mem_singleton] at hlater
    subst hlater
    exact h.admitted_lt earlier hearlier _ hmem

theorem Consistent.step {event : Event} (h : Consistent capacity maximum w)
    (hstep : Step capacity maximum w event w') : Consistent capacity maximum w' := by
  cases hstep with
  | enqueue identity hroom => exact h.enqueue hroom
  | withdraw ticket identity hwaits => exact h.withdraw (h.waiting ▸ hwaits)
  | grant ticket identity queue hwaits hgrant => exact h.grant (h.waiting ▸ hwaits) hgrant
  | release ticket hlive =>
    have hlength := List.length_erase_of_mem hlive
    exact { h with
      active := by simp [Queue.release, hlength, h.active]
      active_le := Nat.le_trans (Nat.sub_le _ _) h.active_le }

/-! ## Turns -/

/-- An identity has a ticket in the queue. -/
def World.Queued (w : World) (identity : Identity) : Prop :=
  ∃ ticket, (ticket, identity) ∈ w.queue.ready

/-- One identity's turn comes before any of another's. -/
def Queue.Ahead (queue : Queue) (identity other : Identity) : Prop :=
  ∃ before after, queue.identities = before ++ identity :: after ∧ other ∉ before

variable {other : Identity}

/-- Whoever is admitted was first in the turn order. -/
theorem Consistent.head_of_granted (h : Consistent capacity maximum w)
    (hstep : Step capacity maximum w (.granted ticket identity) w') :
    ∃ identities, w.queue.identities = identity :: identities ∧
      w'.queue.identities = (if w'.queue.ready.any (·.2 = identity) then identities ++ [identity]
        else identities) := by
  cases hstep with
  | grant ticket identity queue hwaits hgrant =>
    obtain ⟨front, identities, hidentities, -, hfind, rfl⟩ := Queue.grant_eq_some hgrant
    obtain rfl := h.identity_eq (h.waiting ▸ hwaits) (List.mem_of_find?_eq_some hfind)
    exact ⟨identities, hidentities, rfl⟩

/-- After an admission every other identity with a ticket is ahead of the admitted one. -/
theorem Consistent.ahead_of_granted (h : Consistent capacity maximum w)
    (hstep : Step capacity maximum w (.granted ticket other) w') (hne : identity ≠ other)
    (hqueued : w'.Queued identity) : w'.queue.Ahead identity other := by
  obtain ⟨identities, hidentities, hafter⟩ := h.head_of_granted hstep
  have hnodup := h.nodup
  rw [hidentities, List.nodup_cons] at hnodup
  have hmem : identity ∈ identities := by
    have hmem := ((h.step hstep).mem_identities identity).mpr hqueued
    rw [hafter] at hmem
    split at hmem
    · simpa [hne] using hmem
    · exact hmem
  obtain ⟨before, after, rfl⟩ := List.append_of_mem hmem
  have hbefore : other ∉ before := fun hmem => hnodup.1 (List.mem_append_left _ hmem)
  rw [Queue.Ahead, hafter]
  split
  · exact ⟨before, after ++ [other], by simp, hbefore⟩
  · exact ⟨before, after, rfl, hbefore⟩

/-- An identity stays ahead as long as it has a ticket and is not admitted. -/
theorem Consistent.ahead_step {event : Event} (h : Consistent capacity maximum w)
    (hstep : Step capacity maximum w event w') (hqueued : w'.Queued identity)
    (hnot : ∀ ticket, event ≠ .granted ticket identity) (hahead : w.queue.Ahead identity other) :
    w'.queue.Ahead identity other := by
  obtain ⟨before, after, hidentities, hbefore⟩ := hahead
  cases hstep with
  | enqueue joining hroom =>
    simp only [Queue.Ahead, Queue.enqueue, hidentities]
    split
    · exact ⟨before, after, rfl, hbefore⟩
    · exact ⟨before, after ++ [joining], by simp, hbefore⟩
  | withdraw ticket leaving hwaits =>
    simp only [Queue.Ahead, Queue.withdraw, hidentities]
    split
    · exact ⟨before, after, rfl, hbefore⟩
    · next hlast =>
      -- Its own last ticket was not the one that left.
      have hne : identity ≠ leaving := by
        rintro rfl
        obtain ⟨ticket, hticket⟩ := hqueued
        exact hlast (any_owner.mpr ⟨ticket, hticket⟩)
      exact ⟨before.filter (· ≠ leaving), after.filter (· ≠ leaving), by simp [hne],
        fun hmem => hbefore (List.mem_filter.mp hmem).1⟩
  | grant ticket admitted queue hwaits hgrant =>
    have hne : identity ≠ admitted := fun heq => hnot ticket (heq ▸ rfl)
    obtain ⟨identities, hhead, hafter⟩ := h.head_of_granted (.grant ticket admitted queue hwaits hgrant)
    cases before with
    | nil =>
      rw [hidentities, List.nil_append, List.cons.injEq] at hhead
      exact absurd hhead.1 hne
    | cons front before =>
      rw [hidentities, List.cons_append, List.cons.injEq] at hhead
      obtain ⟨rfl, rfl⟩ := hhead
      have hbefore : other ∉ before := fun hmem => hbefore (List.mem_cons_of_mem _ hmem)
      rw [Queue.Ahead, hafter]
      split
      · exact ⟨before, after ++ [front], by simp, hbefore⟩
      · exact ⟨before, after, rfl, hbefore⟩
  | release ticket hlive => exact ⟨before, after, hidentities, hbefore⟩

/-- Whoever is ahead is admitted first. -/
theorem Consistent.not_granted_of_ahead (h : Consistent capacity maximum w) (hne : identity ≠ other)
    (hahead : w.queue.Ahead identity other) : ¬ Step capacity maximum w (.granted ticket other) w' := by
  intro hstep
  obtain ⟨identities, hhead, -⟩ := h.head_of_granted hstep
  obtain ⟨before, after, hidentities, hbefore⟩ := hahead
  rw [hidentities] at hhead
  cases before with
  | nil => exact hne (List.cons.inj hhead).1
  | cons front before => exact hbefore (by rw [(List.cons.inj hhead).1]; exact List.mem_cons_self ..)

/-- A ticket that is gone is not admitted any more. -/
theorem Consistent.gone {es : List (Event × World)} (h : Consistent capacity maximum w)
    (hissued : ticket < w.queue.nextTicket) (hgone : ∀ left ∈ w.queue.ready, left.1 ≠ ticket)
    (hrun : Run (Step capacity maximum) w es w') :
    ∀ x ∈ es, ∀ identity, x.1 ≠ .granted ticket identity := by
  have hsteps := (hrun.forall_step (I := fun w => Consistent capacity maximum w ∧
      ticket < w.queue.nextTicket ∧ ∀ left ∈ w.queue.ready, left.1 ≠ ticket)
    (Q := fun _ event _ => ∀ identity, event ≠ .granted ticket identity) ?_ ⟨h, hissued, hgone⟩).2
  · intro x hx
    obtain ⟨-, hx⟩ := hsteps x hx
    exact hx
  · rintro w event w' ⟨h, hissued, hgone⟩ hstep
    refine ⟨⟨h.step hstep, ?_⟩, ?_⟩
    · cases hstep with
      | enqueue identity hroom =>
        refine ⟨Nat.lt_succ_of_lt hissued, fun left hleft => ?_⟩
        rw [Queue.enqueue, List.mem_append, List.mem_singleton] at hleft
        obtain hleft | rfl := hleft
        · exact hgone left hleft
        · exact Nat.ne_of_gt hissued
      | withdraw _ _ hwaits =>
        exact ⟨hissued, fun left hleft => hgone left (List.mem_filter.mp hleft).1⟩
      | grant _ _ queue hwaits hgrant =>
        obtain ⟨_, _, -, -, -, rfl⟩ := Queue.grant_eq_some hgrant
        exact ⟨hissued, fun left hleft => hgone left (List.mem_filter.mp hleft).1⟩
      | release _ hlive => exact ⟨hissued, hgone⟩
    · rintro identity rfl
      cases hstep with
      | grant _ _ queue hwaits hgrant => exact hgone _ (h.waiting ▸ hwaits) rfl

end

/-- Admission to proving, for every interleaving of calls, cancellations and drops of permits.
In every state as many permits are alive as `active` says, at most `maximum`; at most `capacity`
tickets are queued; the turn order lists each identity with a ticket once; and tickets of one
identity were admitted in the order they came.  A cancelled ticket is taken from the queue, its
identity from the turn order if that was its last ticket, nothing else changes, and it is never
admitted.  Between two admissions of one identity every other identity that has a ticket all the
time is admitted. -/
theorem admission_fair (capacity maximum : Nat) (w : World)
    (hw : Reachable (· = {}) (Step capacity maximum) w) :
    (w.permits.length = w.queue.active ∧ w.queue.active ≤ maximum) ∧
      w.queue.ready.length ≤ capacity ∧
      (w.queue.identities.Nodup ∧
        ∀ identity, identity ∈ w.queue.identities ↔ ∃ ticket, (ticket, identity) ∈ w.queue.ready) ∧
      (w.admissions.Pairwise fun earlier later => earlier.2 = later.2 → earlier.1 < later.1) ∧
      (∀ ticket identity w', Step capacity maximum w (.withdrawn ticket identity) w' →
        w'.queue.ready = w.queue.ready.filter (·.1 ≠ ticket) ∧
          w'.queue.identities =
            w.queue.identities.filter (fun other => w'.queue.ready.any (·.2 = other)) ∧
          w'.queue.active = w.queue.active ∧ w'.permits = w.permits ∧
          ∀ es w'', Run (Step capacity maximum) w' es w'' →
            ∀ x ∈ es, x.1 ≠ .granted ticket identity) ∧
      ∀ identity other, identity ≠ other → ∀ first w₁ es w₂ second w₃,
        Step capacity maximum w (.granted first other) w₁ →
        Run (Step capacity maximum) w₁ es w₂ →
        Step capacity maximum w₂ (.granted second other) w₃ →
        w₁.Queued identity → (∀ x ∈ es, x.2.Queued identity) →
        ∃ x ∈ es, ∃ ticket, x.1 = .granted ticket identity := by
  have h : Consistent capacity maximum w :=
    hw.invariant (I := Consistent capacity maximum) (fun w (hinit : w = {}) => hinit ▸ .initial)
      fun _ _ _ h hstep => h.step hstep
  refine ⟨⟨h.active, h.active_le⟩, h.ready_le, ⟨h.nodup, h.mem_identities⟩, h.in_order, ?_, ?_⟩
  · intro ticket identity w' hstep
    have hafter := h.step hstep
    cases hstep with
    | withdraw ticket identity hwaits =>
      have hmem : (ticket, identity) ∈ w.queue.ready := h.waiting ▸ hwaits
      exact ⟨rfl, h.identities_withdraw hmem, rfl, rfl, fun es w'' hrun x hx =>
        hafter.gone (h.issued _ hmem) (by simp [Queue.withdraw]) hrun x hx identity⟩
  · intro identity other hne first w₁ es w₂ second w₃ hfirst hrun hsecond hqueued hduring
    by_contra hnone
    push Not at hnone
    have hstart := h.step hfirst
    obtain ⟨⟨hend, hahead⟩, -⟩ := hrun.unless
      (fun w => Consistent capacity maximum w ∧ w.queue.Ahead identity other)
      (·.Queued identity) (fun event => ∃ ticket, event = .granted ticket identity)
      (fun _ _ _ hstep _ hqueued hstop hP => ⟨hP.1.step hstep,
        hP.1.ahead_step hstep hqueued (fun ticket heq => hstop ⟨ticket, heq⟩) hP.2⟩)
      hqueued hduring (fun x hx => by simpa using hnone x hx)
      ⟨hstart, h.ahead_of_granted hfirst hne hqueued⟩
    exact hend.not_granted_of_ahead hne hahead hsecond

/-- A world after four tickets were given out. -/
def sampleWorld (ready : List (Nat × Identity)) (identities : List Identity) (permits : List Nat)
    (admissions : List (Nat × Identity)) : World :=
  ⟨⟨4, ready, identities, permits.length⟩, ready, permits, admissions⟩

/-- Two bundles with two tickets each share one permit: between the admissions of the first
bundle the second is admitted, and its other ticket, once cancelled, never is. -/
theorem admission_fair_sample : ∃ (w w₁ w₂ w₃ w₄ : World) (es : List (Event × World)),
    Reachable (· = {}) (Step 4 1) w ∧ w.queue.ready.length ≤ 4 ∧ w.queue.identities.Nodup ∧
      Step 4 1 w (.granted 0 "a") w₁ ∧ Run (Step 4 1) w₁ es w₂ ∧ Step 4 1 w₂ (.granted 1 "a") w₃ ∧
      (∃ x ∈ es, ∃ ticket, x.1 = .granted ticket "b") ∧
      w₃.permits.length = w₃.queue.active ∧ w₃.queue.active ≤ 1 ∧
      (w₃.admissions.Pairwise fun earlier later => earlier.2 = later.2 → earlier.1 < later.1) ∧
      Step 4 1 w₃ (.withdrawn 3 "b") w₄ ∧
      ∀ es' w', Run (Step 4 1) w₄ es' w' → ∀ x ∈ es', x.1 ≠ .granted 3 "b" := by
  let w := sampleWorld [(0, "a"), (1, "a"), (2, "b"), (3, "b")] ["a", "b"] [] []
  let w₁ := sampleWorld [(1, "a"), (2, "b"), (3, "b")] ["b", "a"] [0] [(0, "a")]
  let released := sampleWorld [(1, "a"), (2, "b"), (3, "b")] ["b", "a"] [] [(0, "a")]
  let granted := sampleWorld [(1, "a"), (3, "b")] ["a", "b"] [2] [(0, "a"), (2, "b")]
  let w₂ := sampleWorld [(1, "a"), (3, "b")] ["a", "b"] [] [(0, "a"), (2, "b")]
  let w₃ := sampleWorld [(3, "b")] ["b"] [1] [(0, "a"), (2, "b"), (1, "a")]
  let w₄ := sampleWorld [] [] [1] [(0, "a"), (2, "b"), (1, "a")]
  have hinit : Reachable (· = {}) (Step 4 1) ({} : World) := .init rfl
  have hw : Reachable (· = {}) (Step 4 1) w := (((hinit.step (.enqueue "a" (by decide))).step
    (.enqueue "a" (by decide))).step (.enqueue "b" (by decide))).step (.enqueue "b" (by decide))
  have hfirst : Step 4 1 w (.granted 0 "a") w₁ := .grant 0 "a" _ (by decide) rfl
  have hrelease : Step 4 1 w₁ (.released 0) released := .release 0 (by decide)
  have hgrant : Step 4 1 released (.granted 2 "b") granted := .grant 2 "b" _ (by decide) rfl
  have hagain : Step 4 1 granted (.released 2) w₂ := .release 2 (by decide)
  have hsecond : Step 4 1 w₂ (.granted 1 "a") w₃ := .grant 1 "a" _ (by decide) rfl
  have hcancel : Step 4 1 w₃ (.withdrawn 3 "b") w₄ := .withdraw 3 "b" (by decide)
  have hrun : Run (Step 4 1) w₁ [(.released 0, released), (.granted 2 "b", granted),
      (.released 2, w₂)] w₂ := .cons hrelease (.cons hgrant (.cons hagain (.nil w₂)))
  have hreached := ((((hw.step hfirst).step hrelease).step hgrant).step hagain).step hsecond
  obtain ⟨-, hready, ⟨hnodup, -⟩, -, -, hfair⟩ := admission_fair 4 1 w hw
  obtain ⟨⟨hpermits, hactive⟩, -, -, horder, hcancelled, -⟩ := admission_fair 4 1 w₃ hreached
  refine ⟨w, w₁, w₂, w₃, w₄, _, hw, hready, hnodup, hfirst, hrun, hsecond, ?_, hpermits, hactive,
    horder, hcancel, (hcancelled 3 "b" w₄ hcancel).2.2.2.2⟩
  refine hfair "b" "a" (by decide) 0 w₁ _ w₂ 1 w₃ hfirst hrun hsecond ⟨2, by decide⟩ ?_
  simp only [List.forall_mem_cons, List.not_mem_nil, false_imp_iff, implies_true, and_true]
  exact ⟨⟨2, by decide⟩, ⟨3, by decide⟩, ⟨3, by decide⟩⟩

end ZcashVoting.ProvingRuntime
