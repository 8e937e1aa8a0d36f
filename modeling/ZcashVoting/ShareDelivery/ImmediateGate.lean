import ZcashVoting.Lib.Trace
import ZcashVoting.Lib.WeakRegistry

/-!
# ZcashVoting.ShareDelivery.ImmediateGate

The gate at which a round's deliveries wait for its designated share.  Live gates are found
through weak references; rounds that were released are remembered, oldest first, and a
delivery of one that has no live gate gets an open gate of its own.

Deliveries interleave between any two atomic actions.  `for_round` is one action: it holds the
registry's lock, and a round without a live gate has no open under way that could record it.
-/

namespace ZcashVoting.ShareDelivery.Gate

open Trace WeakRegistry

/-- `WAIT_BUDGET`, in milliseconds. -/
def waitBudget : Nat := 10000

/-- `RELEASED_ROUNDS`. -/
def releasedRounds : Nat := 64

/-- `GateKey`. -/
structure GateKey where
  sidecarId : Nat
  walletId : String
  roundId : String
  deriving DecidableEq

variable {released : List GateKey}

/-- `GateWait`, as far as `wait` returns it. -/
inductive GateWait where
  | accepted
  | expired
  | cancelled
  deriving DecidableEq

/-- `ImmediateGate`. -/
structure ImmediateGate where
  key : Option GateKey
  opened : Bool := false
  /-- How often `notify_waiters` was called. -/
  notified : Nat := 0

/-- Where a turn of `wait` is; `seen` is how often the gate had notified when the turn began to
listen. -/
inductive Turn where
  | start
  | listening (seen : Nat)
  /-- `is_open` was false. -/
  | closed (seen : Nat)
  /-- In `select!`. -/
  | asleep (seen : Nat)

/-- The actions that a turn can still take before it ends or sleeps. -/
def Turn.left : Turn → Nat
  | .start => 3
  | .listening _ => 2
  | .closed _ | .asleep _ => 1

/-- What a delivery does with its gate. -/
inductive Use where
  | holds
  | waits (deadline : Nat) (turn : Turn)
  | waited (result : GateWait)
  /-- In `open`, with the flag set, and then with the round recorded. -/
  | opens (recorded : Bool)

/-- It is in neither `wait` nor `open`. -/
def Use.Rests : Use → Prop
  | .holds | .waited _ => True
  | _ => False

/-- A delivery's reference to the gate of its round. -/
structure Hold where
  key : GateKey
  gate : Nat
  use : Use := .holds

/-- The gates that were made, `GATES`, `RELEASED` and what the deliveries hold. -/
structure GateState (Delivery : Type) where
  now : Nat := 0
  gates : Nat → ImmediateGate := fun _ => { key := none }
  next : Nat := 0
  registry : GateKey → Option Nat := fun _ => none
  released : List GateKey := []
  holds : Delivery → Option Hold := fun _ => none

/-- A round is remembered if it is not yet, and the oldest is forgotten. -/
def remember (released : List GateKey) (key : GateKey) : List GateKey :=
  if key ∈ released then released
  else (released ++ [key]).drop ((released ++ [key]).length - releasedRounds)

/-- What a look at the flag leads to. -/
def Use.look (opened : Bool) (deadline : Nat) (turn : Turn) : Use :=
  if opened then .waited .accepted else .waits deadline turn

variable {Delivery : Type}

namespace GateState

/-- `strong_count() > 0`. -/
def Alive (s : GateState Delivery) (gate : Nat) : Prop :=
  ∃ d hold, s.holds d = some hold ∧ hold.gate = gate

/-- Set what one delivery holds. -/
def put [DecidableEq Delivery] (s : GateState Delivery) (d : Delivery) (hold : Option Hold) :
    GateState Delivery :=
  { s with holds := Function.update s.holds d hold }

/-- Change one gate. -/
def setGate (s : GateState Delivery) (gate : Nat) (value : ImmediateGate) : GateState Delivery :=
  { s with gates := Function.update s.gates gate value }

/-- Make a gate. -/
def make (s : GateState Delivery) (value : ImmediateGate) : GateState Delivery :=
  { s.setGate s.next value with next := s.next + 1 }

end GateState

/-- What is done, and by whom. -/
inductive GateEvent (Delivery : Type) where
  | passes
  | enters (d : Delivery) (key : GateKey)
  /-- `wait` reads whether the gate is open, or what it was notified of. -/
  | looks (d : Delivery)
  /-- `open` records the round of the gate, if it has one. -/
  | records (d : Delivery) (key : Option GateKey)
  | acts (d : Delivery)

/-- One atomic action. -/
inductive GateStep [DecidableEq Delivery] (s : GateState Delivery) :
    GateEvent Delivery → GateState Delivery → Prop where
  | pass (time : Nat) : GateStep s .passes { s with now := s.now + time }
  /-- `for_round` finds a live gate. -/
  | upgrade (d key gate registry) (hidle : s.holds d = none)
      (hpruned : Pruned s.registry s.Alive registry) (hfound : registry key = some gate) :
      GateStep s (.enters d key) ({ s with registry }.put d (some { key, gate }))
  /-- `for_round` opens a gate of its own for a round that was released. -/
  | released (d key registry) (hidle : s.holds d = none)
      (hpruned : Pruned s.registry s.Alive registry) (hfound : registry key = none)
      (hreleased : key ∈ s.released) :
      GateStep s (.enters d key)
        (({ s with registry }.make { key := none, opened := true, notified := 1 }).put d
          (some { key, gate := s.next }))
  /-- `for_round` makes and registers a gate. -/
  | create (d key registry) (hidle : s.holds d = none)
      (hpruned : Pruned s.registry s.Alive registry) (hfound : registry key = none)
      (hnew : key ∉ s.released) :
      GateStep s (.enters d key)
        (({ s with registry := Function.update registry key (some s.next) }.make
          { key := some key }).put d (some { key, gate := s.next }))
  | wait (d key gate use) (hhold : s.holds d = some ⟨key, gate, use⟩) (hrests : use.Rests) :
      GateStep s (.acts d) (s.put d (some ⟨key, gate, .waits (s.now + waitBudget) .start⟩))
  | listen (d key gate deadline) (hhold : s.holds d = some ⟨key, gate, .waits deadline .start⟩) :
      GateStep s (.acts d)
        (s.put d (some ⟨key, gate, .waits deadline (.listening (s.gates gate).notified)⟩))
  | test (d key gate deadline seen)
      (hhold : s.holds d = some ⟨key, gate, .waits deadline (.listening seen)⟩) :
      GateStep s (.looks d)
        (s.put d (some ⟨key, gate, .look (s.gates gate).opened deadline (.closed seen)⟩))
  | cancel (d key gate deadline seen)
      (hhold : s.holds d = some ⟨key, gate, .waits deadline (.closed seen)⟩) :
      GateStep s (.acts d) (s.put d (some ⟨key, gate, .waited .cancelled⟩))
  /-- The clock is read before the wait sleeps. -/
  | clock (d key gate deadline seen)
      (hhold : s.holds d = some ⟨key, gate, .waits deadline (.closed seen)⟩) :
      GateStep s (.acts d) (s.put d (some ⟨key, gate,
        if deadline ≤ s.now then .waited .expired else .waits deadline (.asleep seen)⟩))
  /-- `select!` is ready, the notification first. -/
  | poll (d key gate deadline seen)
      (hhold : s.holds d = some ⟨key, gate, .waits deadline (.asleep seen)⟩) :
      GateStep s (.looks d) (s.put d (some ⟨key, gate,
        if seen < (s.gates gate).notified then .look (s.gates gate).opened deadline .start
        else if deadline ≤ s.now then .waited .expired
        else .waits deadline .start⟩))
  | flag (d key gate use) (hhold : s.holds d = some ⟨key, gate, use⟩) (hrests : use.Rests) :
      GateStep s (.acts d)
        ((s.setGate gate { s.gates gate with opened := true }).put d
          (some ⟨key, gate, .opens false⟩))
  | record (d key gate) (hhold : s.holds d = some ⟨key, gate, .opens false⟩) :
      GateStep s (.records d (s.gates gate).key)
        ({ s with released := (s.gates gate).key.elim s.released (remember s.released) }.put d
          (some ⟨key, gate, .opens true⟩))
  | notify (d key gate) (hhold : s.holds d = some ⟨key, gate, .opens true⟩) :
      GateStep s (.acts d)
        ((s.setGate gate { s.gates gate with notified := (s.gates gate).notified + 1 }).put d
          (some ⟨key, gate, .holds⟩))
  /-- The gate is dropped, also in the middle of a wait. -/
  | drop (d key gate use) (hhold : s.holds d = some ⟨key, gate, use⟩)
      (hopens : ∀ recorded, use ≠ .opens recorded) : GateStep s (.acts d) (s.put d none)

/-! ## What holds of the gates -/

/-- What holds of one delivery's gate. -/
structure Hold.Sound (s : GateState Delivery) (hold : Hold) : Prop where
  made : hold.gate < s.next
  /-- It is the round's gate, or an open one of its own. -/
  own : (s.gates hold.gate).key = some hold.key ∨
    (s.gates hold.gate).key = none ∧ (s.gates hold.gate).opened = true
  registered : (s.gates hold.gate).key = some hold.key → s.registry hold.key = some hold.gate
  opening : ∀ recorded, hold.use = .opens recorded → (s.gates hold.gate).opened = true
  listening : ∀ deadline seen, hold.use = .waits deadline (.listening seen) →
    seen ≤ (s.gates hold.gate).notified
  closed : ∀ deadline seen, hold.use = .waits deadline (.closed seen) ∨
    hold.use = .waits deadline (.asleep seen) → seen = 0
  released : hold.key ∈ s.released → (s.gates hold.gate).opened = true

structure GateState.Sound (s : GateState Delivery) : Prop where
  holds : ∀ d hold, s.holds d = some hold → hold.Sound s
  notified : ∀ gate, 0 < (s.gates gate).notified → (s.gates gate).opened = true
  keyed : ∀ key gate, s.registry key = some gate → (s.gates gate).key = some key ∧ gate < s.next
  nodup : s.released.Nodup
  length_le : s.released.length ≤ releasedRounds

/-- What may happen around a delivery that does nothing. -/
structure GateState.Grows (s s' : GateState Delivery) : Prop where
  next : s.next ≤ s'.next
  key : ∀ gate < s.next, (s'.gates gate).key = (s.gates gate).key
  opened : ∀ gate < s.next, (s.gates gate).opened = true → (s'.gates gate).opened = true
  notified : ∀ gate < s.next, (s.gates gate).notified ≤ (s'.gates gate).notified
  registry : ∀ d hold, s.holds d = some hold → s.registry hold.key = some hold.gate →
    s'.registry hold.key = some hold.gate

variable {s s' : GateState Delivery} {event : GateEvent Delivery} {d : Delivery} {hold : Hold}

theorem Hold.Sound.grow (h : hold.Sound s) (hd : s.holds d = some hold) (hgrows : s.Grows s')
    (hreleased : hold.key ∈ s'.released → hold.key ∈ s.released ∨
      (s.gates hold.gate).opened = true) : hold.Sound s' where
  made := Nat.lt_of_lt_of_le h.made hgrows.next
  own := by
    rw [hgrows.key _ h.made]
    exact h.own.imp_right fun ⟨hnone, hopened⟩ => ⟨hnone, hgrows.opened _ h.made hopened⟩
  registered := by
    rw [hgrows.key _ h.made]
    exact fun hkey => hgrows.registry d hold hd (h.registered hkey)
  opening := fun recorded huse => hgrows.opened _ h.made (h.opening recorded huse)
  listening := fun deadline seen huse =>
    Nat.le_trans (h.listening deadline seen huse) (hgrows.notified _ h.made)
  closed := h.closed
  released := fun hmem => hgrows.opened _ h.made ((hreleased hmem).elim h.released id)

/-- A delivery goes on with its gate. -/
theorem Hold.Sound.use {key : GateKey} {gate : Nat} {use use' : Use}
    (h : (⟨key, gate, use⟩ : Hold).Sound s)
    (hopening : ∀ recorded, use' = .opens recorded → (s.gates gate).opened = true)
    (hlistening : ∀ deadline seen, use' = .waits deadline (.listening seen) →
      seen ≤ (s.gates gate).notified)
    (hclosed : ∀ deadline seen, use' = .waits deadline (.closed seen) ∨
      use' = .waits deadline (.asleep seen) → seen = 0) : (⟨key, gate, use'⟩ : Hold).Sound s :=
  ⟨h.made, h.own, h.registered, hopening, hlistening, hclosed, h.released⟩

/-- What the deliveries hold stays sound while everything around them grows. -/
theorem GateState.Sound.grow (h : s.Sound) (hgrows : s.Grows s') (hholds : s'.holds = s.holds)
    (hreleased : ∀ d hold, s.holds d = some hold → hold.key ∈ s'.released →
      hold.key ∈ s.released ∨ (s.gates hold.gate).opened = true)
    (hnotified : ∀ gate, 0 < (s'.gates gate).notified → (s'.gates gate).opened = true)
    (hkeyed : ∀ key gate, s'.registry key = some gate →
      (s'.gates gate).key = some key ∧ gate < s'.next)
    (hnodup : s'.released.Nodup) (hlength : s'.released.length ≤ releasedRounds) : s'.Sound where
  holds := by
    intro d hold hhold
    rw [hholds] at hhold
    exact (h.holds d hold hhold).grow hhold hgrows (hreleased d hold hhold)
  notified := hnotified
  keyed := hkeyed
  nodup := hnodup
  length_le := hlength

/-! ### The rounds that were released -/

theorem mem_remember {key other : GateKey}
    (h : other ∈ remember released key) : other ∈ released ∨ other = key := by
  unfold remember at h
  split at h
  · exact .inl h
  · simpa using List.mem_of_mem_drop h

theorem nodup_remember (h : released.Nodup) (key : GateKey) :
    (remember released key).Nodup := by
  unfold remember
  split
  · exact h
  · next hnew =>
    have hall : (released ++ [key]).Nodup := List.nodup_append.mpr ⟨h, by simp, by grind⟩
    exact hall.sublist (List.drop_sublist _ _)

theorem length_remember_le (h : released.length ≤ releasedRounds)
    (key : GateKey) : (remember released key).length ≤ releasedRounds := by
  unfold remember
  split
  · exact h
  · rw [List.length_drop]
    omega

/-- A round that is remembered stays so, with what was remembered after it, unless that is
now 64 rounds. -/
theorem remember_split {front back : List GateKey} {key : GateKey} (other : GateKey)
    (hlength : (front ++ key :: back).length ≤ releasedRounds) :
    (∃ front' new, remember (front ++ key :: back) other = front' ++ key :: (back ++ new) ∧
        new ⊆ [other]) ∨
      releasedRounds ≤ (back ++ [other]).length ∧ other ∉ front ++ key :: back := by
  unfold remember
  split
  · exact .inl ⟨front, [], by simp⟩
  · next hnew =>
    have hall : (front ++ key :: back) ++ [other] = front ++ key :: (back ++ [other]) := by simp
    rw [hall]
    cases front with
    | nil =>
      by_cases hfull : releasedRounds ≤ (back ++ [other]).length
      · exact .inr ⟨hfull, hnew⟩
      · refine .inl ⟨[], [other], ?_, by simp⟩
        rw [List.length_append, List.length_cons, List.length_nil, Nat.sub_eq_zero_of_le (by omega),
          List.drop_zero]
    | cons first front =>
      refine .inl ?_
      by_cases hfull : ((first :: front) ++ key :: (back ++ [other])).length ≤ releasedRounds
      · exact ⟨first :: front, [other], by rw [Nat.sub_eq_zero_of_le hfull, List.drop_zero], by simp⟩
      · refine ⟨front, [other], ?_, by simp⟩
        have hone : ((first :: front) ++ key :: (back ++ [other])).length - releasedRounds = 1 := by
          simp only [List.length_append, List.length_cons, List.length_nil] at hfull hlength ⊢
          omega
        rw [hone]
        rfl

/-! ### Changes around the deliveries -/

/-- Two deliveries of a round that hold its registered gate hold the same. -/
theorem GateState.Sound.gate_eq (h : s.Sound) {d d' : Delivery} {hold hold' : Hold}
    (hd : s.holds d = some hold) (hd' : s.holds d' = some hold') (hkey : hold.key = hold'.key)
    (hgate : (s.gates hold.gate).key = some hold.key)
    (hgate' : (s.gates hold'.gate).key = some hold'.key) : hold.gate = hold'.gate := by
  have hregistered := (h.holds d hold hd).registered hgate
  have hregistered' := (h.holds d' hold' hd').registered hgate'
  rw [hkey, hregistered'] at hregistered
  exact (Option.some.inj hregistered).symm

theorem GateState.Grows.prune (s : GateState Delivery) {registry : GateKey → Option Nat}
    (hpruned : Pruned s.registry s.Alive registry) : s.Grows { s with registry } :=
  ⟨Nat.le_refl _, fun _ _ => rfl, fun _ _ => id, fun _ _ => Nat.le_refl _,
    fun d hold hd hregistered => (hpruned _ _).mpr ⟨hregistered, d, hold, hd, rfl⟩⟩

/-- The registry is pruned. -/
theorem GateState.Sound.prune (h : s.Sound) {registry : GateKey → Option Nat}
    (hpruned : Pruned s.registry s.Alive registry) :
    ({ s with registry } : GateState Delivery).Sound :=
  h.grow (.prune s hpruned) rfl (fun _ _ _ => .inl) h.notified
    (fun key gate hkey => h.keyed key gate ((hpruned key gate).mp hkey).1) h.nodup h.length_le

/-- A gate is made, and registered for a key that has none. -/
theorem GateState.Sound.make (h : s.Sound) (value : ImmediateGate)
    (registry : GateKey → Option Nat) (hnotified : 0 < value.notified → value.opened = true)
    (hregistry : ∀ key gate, s.registry key = some gate → registry key = some gate)
    (hkeyed : ∀ key gate, registry key = some gate →
      s.registry key = some gate ∨ gate = s.next ∧ value.key = some key) :
    (({ s with registry } : GateState Delivery).make value).Sound := by
  have hgates : ∀ gate < s.next,
      (({ s with registry } : GateState Delivery).make value).gates gate = s.gates gate := by
    intro gate hlt
    simp [GateState.make, GateState.setGate, Function.update_of_ne (Nat.ne_of_lt hlt)]
  refine h.grow ⟨Nat.le_succ _, fun gate hlt => by rw [hgates gate hlt],
    fun gate hlt => by rw [hgates gate hlt]; exact id,
    fun gate hlt => Nat.le_of_eq (by rw [hgates gate hlt]), fun _ hold _ => hregistry _ _⟩ rfl (fun _ _ _ => .inl) ?_ ?_ h.nodup h.length_le
  · intro gate
    by_cases heq : gate = s.next
    · subst heq
      simpa [GateState.make, GateState.setGate] using hnotified
    · simpa [GateState.make, GateState.setGate, Function.update_of_ne heq] using h.notified gate
  · intro key gate hkey
    rcases hkeyed key gate hkey with hold | ⟨rfl, hvalue⟩
    · obtain ⟨hgate, hlt⟩ := h.keyed key gate hold
      exact ⟨by rw [hgates gate hlt, hgate], Nat.lt_succ_of_lt hlt⟩
    · simpa [GateState.make, GateState.setGate] using hvalue

/-- A gate is opened further. -/
theorem GateState.Sound.setGate (h : s.Sound) (gate : Nat) (value : ImmediateGate)
    (hkey : value.key = (s.gates gate).key)
    (hopened : (s.gates gate).opened = true → value.opened = true)
    (hcount : (s.gates gate).notified ≤ value.notified)
    (hnotified : 0 < value.notified → value.opened = true) : (s.setGate gate value).Sound := by
  have hgates : ∀ other, (s.setGate gate value).gates other =
      if other = gate then value else s.gates other := by
    intro other
    simp [GateState.setGate, Function.update_apply]
  refine h.grow ⟨Nat.le_refl _, fun other _ => ?_, fun other _ => ?_, fun other _ => ?_,
    fun _ _ _ => id⟩ rfl (fun _ _ _ => .inl) (fun other => ?_) (fun key other hreg => ?_) h.nodup
    h.length_le
  · rw [hgates]
    split
    · next heq => rw [heq, hkey]
    · rfl
  · rw [hgates]
    split
    · next heq => rwa [heq]
    · exact id
  · rw [hgates]
    split
    · next heq => rwa [heq]
    · exact Nat.le_refl _
  · rw [hgates]
    split
    · exact hnotified
    · exact h.notified other
  · obtain ⟨hother, hlt⟩ := h.keyed key other hreg
    refine ⟨?_, hlt⟩
    rw [hgates]
    split
    · next heq => rw [hkey, ← heq, hother]
    · exact hother

/-- A fresh reference. -/
theorem Hold.Sound.fresh {key : GateKey} {gate : Nat} (hmade : gate < s.next)
    (hown : (s.gates gate).key = some key ∧ s.registry key = some gate ∨
      (s.gates gate).key = none ∧ (s.gates gate).opened = true)
    (hreleased : key ∈ s.released → (s.gates gate).opened = true) :
    ({ key, gate } : Hold).Sound s where
  made := hmade
  own := hown.imp_left And.left
  registered := by
    intro hkey
    rcases hown with ⟨_, hregistered⟩ | ⟨hnone, _⟩
    · exact hregistered
    · rw [hnone] at hkey
      cases hkey
  opening := by simp
  listening := by simp
  closed := by simp
  released := hreleased

/-- The live gate of a round that is remembered as released is open. -/
theorem GateState.Sound.opened_of_alive (h : s.Sound) {key : GateKey} {gate : Nat}
    (hkey : s.registry key = some gate) (halive : s.Alive gate) (hmem : key ∈ s.released) :
    (s.gates gate).opened = true := by
  obtain ⟨d, hold, hd, rfl⟩ := halive
  have hhold := h.holds d hold hd
  rcases hhold.own with hown | ⟨_, hopened⟩
  · have heq := (h.keyed key hold.gate hkey).1.symm.trans hown
    cases Option.some.inj heq
    exact hhold.released hmem
  · exact hopened

theorem GateState.Sound.record (h : s.Sound) {key : GateKey} {gate : Nat}
    (hhold : s.holds d = some ⟨key, gate, .opens false⟩) :
    ({ s with released := (s.gates gate).key.elim s.released (remember s.released) } :
      GateState Delivery).Sound := by
  have hsound := h.holds d _ hhold
  cases hkey : (s.gates gate).key with
  | none => exact h
  | some own =>
    have hown : own = key := by
      rcases hsound.own with hown | ⟨hnone, _⟩
      · exact Option.some.inj (hkey.symm.trans hown)
      · cases hkey.symm.trans hnone
    subst hown
    refine h.grow ⟨Nat.le_refl _, fun _ _ => rfl, fun _ _ => id, fun _ _ => Nat.le_refl _,
      fun _ _ _ => id⟩ rfl ?_ h.notified h.keyed (nodup_remember h.nodup _)
      (length_remember_le h.length_le _)
    -- Another delivery of the round shares the gate that is being opened, or has an open one.
    intro d' hold' hhold' hmem
    rcases mem_remember hmem with hmem | heq
    · exact .inl hmem
    · right
      rcases (h.holds d' hold' hhold').own with hown | ⟨_, hopened⟩
      · rw [← h.gate_eq hhold hhold' heq.symm hkey hown]
        exact hsound.opening false rfl
      · exact hopened

/-- If no delivery holds the registered gate of a round, `for_round` finds none. -/
theorem GateState.Sound.exists_pruned_none (h : s.Sound) (key : GateKey)
    (hdead : ∀ d hold, s.holds d = some hold → (s.gates hold.gate).key ≠ some key) :
    ∃ registry, Pruned s.registry s.Alive registry ∧ registry key = none := by
  obtain ⟨registry, hpruned⟩ := exists_pruned s.registry s.Alive
  refine ⟨registry, hpruned, hpruned.eq_none ?_⟩
  rintro gate hkey ⟨d, hold, hd, rfl⟩
  exact hdead d hold hd (h.keyed key _ hkey).1

/-! ### One step -/

variable [DecidableEq Delivery]

theorem holds_put (value : Option Hold) (d' : Delivery) :
    (s.put d value).holds d' = if d' = d then value else s.holds d' := by
  simp [GateState.put, Function.update_apply]

theorem GateState.Sound.put (h : s.Sound) {value : Option Hold}
    (hvalue : ∀ hold, value = some hold → hold.Sound s) : (s.put d value).Sound where
  holds := by
    intro d' hold hhold
    have hsound : hold.Sound s := by
      rw [holds_put] at hhold
      split at hhold
      · exact hvalue hold hhold
      · exact h.holds d' hold hhold
    exact ⟨hsound.made, hsound.own, hsound.registered, hsound.opening, hsound.listening,
      hsound.closed, hsound.released⟩
  notified := h.notified
  keyed := h.keyed
  nodup := h.nodup
  length_le := h.length_le

/-- A delivery goes on and nothing else changes. -/
theorem GateState.Sound.put_use (h : s.Sound) {key : GateKey} {gate : Nat} {use use' : Use}
    (hhold : s.holds d = some ⟨key, gate, use⟩)
    (hopening : ∀ recorded, use' = .opens recorded → (s.gates gate).opened = true)
    (hlistening : ∀ deadline seen, use' = .waits deadline (.listening seen) →
      seen ≤ (s.gates gate).notified)
    (hclosed : ∀ deadline seen, use' = .waits deadline (.closed seen) ∨
      use' = .waits deadline (.asleep seen) → seen = 0) :
    (s.put d (some ⟨key, gate, use'⟩)).Sound := by
  refine h.put fun hold heq => ?_
  cases heq
  exact (h.holds d _ hhold).use hopening hlistening hclosed

theorem GateState.Sound.enter (h : s.Sound) {key : GateKey}
    (hstep : GateStep s (.enters d key) s') : s'.Sound ∧ ∃ gate, s'.holds d = some { key, gate } ∧
      s'.released = s.released := by
  cases hstep with
  | upgrade _ _ gate registry hidle hpruned hfound =>
    obtain ⟨hkey, halive⟩ := (hpruned key gate).mp hfound
    obtain ⟨hgate, hlt⟩ := h.keyed key gate hkey
    refine ⟨(h.prune hpruned).put fun hold heq => ?_, gate, by simp [holds_put], rfl⟩
    cases heq
    exact .fresh hlt (.inl ⟨hgate, hfound⟩) (h.opened_of_alive hkey halive)
  | released _ _ registry hidle hpruned hfound hreleased =>
    have hmade := (h.prune hpruned).make { key := none, opened := true, notified := 1 } registry
      (fun _ => rfl) (fun _ _ => id) (fun _ _ => .inl)
    refine ⟨hmade.put fun hold heq => ?_, s.next, by simp [holds_put], rfl⟩
    cases heq
    exact .fresh (Nat.lt_succ_self _)
      (.inr (by simp [GateState.make, GateState.setGate]))
      (by simp [GateState.make, GateState.setGate])
  | create _ _ registry hidle hpruned hfound hnew =>
    have hmade := (h.prune hpruned).make { key := some key }
      (Function.update registry key (some s.next)) (by simp) ?_ ?_
    · refine ⟨hmade.put fun hold heq => ?_, s.next, by simp [holds_put], rfl⟩
      cases heq
      exact .fresh (Nat.lt_succ_self _)
        (.inl (by simp [GateState.make, GateState.setGate]))
        (fun hmem => absurd hmem hnew)
    · intro other gate (hother : registry other = some gate)
      have hne : other ≠ key := by
        rintro rfl
        rw [hfound] at hother
        cases hother
      rw [Function.update_of_ne hne, hother]
    · intro other gate hother
      by_cases heq : other = key
      · subst heq
        rw [Function.update_self] at hother
        exact .inr ⟨(Option.some.inj hother).symm, rfl⟩
      · rw [Function.update_of_ne heq] at hother
        exact .inl hother

theorem GateState.Sound.step (h : s.Sound) (hstep : GateStep s event s') : s'.Sound := by
  cases hstep with
  | pass time =>
    exact h.grow ⟨Nat.le_refl _, fun _ _ => rfl, fun _ _ => id, fun _ _ => Nat.le_refl _,
      fun _ _ _ => id⟩ rfl (fun _ _ _ => .inl) h.notified h.keyed h.nodup h.length_le
  | upgrade d key gate registry hidle hpruned hfound =>
    exact (h.enter (.upgrade d key gate registry hidle hpruned hfound)).1
  | released d key registry hidle hpruned hfound hreleased =>
    exact (h.enter (.released d key registry hidle hpruned hfound hreleased)).1
  | create d key registry hidle hpruned hfound hnew =>
    exact (h.enter (.create d key registry hidle hpruned hfound hnew)).1
  | wait d key gate use hhold hrests => exact h.put_use hhold (by simp) (by simp) (by simp)
  | listen d key gate deadline hhold =>
    exact h.put_use hhold (by simp) (by simp) (by simp)
  | test d key gate deadline seen hhold =>
    refine h.put_use hhold ?_ ?_ ?_
    · unfold Use.look
      split <;> simp
    · unfold Use.look
      split <;> simp
    · -- A gate that is closed has notified nobody, so the turn has seen nothing.
      unfold Use.look
      split
      · simp
      · next hclosed =>
        have hseen : seen ≤ (s.gates gate).notified :=
          (h.holds d _ hhold).listening deadline seen rfl
        have hnone : (s.gates gate).notified = 0 := by
          by_contra hpos
          exact hclosed (h.notified gate (Nat.pos_of_ne_zero hpos))
        simp
        omega
  | cancel d key gate deadline seen hhold => exact h.put_use hhold (by simp) (by simp) (by simp)
  | clock d key gate deadline seen hhold =>
    have hseen := (h.holds d _ hhold).closed deadline seen (.inl rfl)
    refine h.put_use hhold ?_ ?_ ?_ <;> split <;> simp [hseen]
  | poll d key gate deadline seen hhold =>
    refine h.put_use hhold ?_ ?_ ?_ <;> unfold Use.look <;> split <;> split <;> simp
  | flag d key gate use hhold hrests =>
    have hgate := h.setGate gate { s.gates gate with opened := true } rfl (fun _ => rfl)
      (Nat.le_refl _) (fun _ => rfl)
    refine hgate.put_use hhold ?_ (by simp) (by simp)
    simp [GateState.setGate]
  | record d key gate hhold =>
    exact (h.record hhold).put_use hhold (fun _ _ => (h.holds d _ hhold).opening false rfl)
      (by simp) (by simp)
  | notify d key gate hhold =>
    have hopened := (h.holds d _ hhold).opening true rfl
    have hgate := h.setGate gate
      { s.gates gate with notified := (s.gates gate).notified + 1 } rfl id (Nat.le_succ _)
      (fun _ => hopened)
    exact hgate.put_use hhold (by simp) (by simp) (by simp)
  | drop d key gate use hhold hopens => exact h.put (by simp)

theorem sound_of_reachable (hs : Reachable (· = {}) GateStep s) : s.Sound :=
  hs.invariant (I := GateState.Sound)
    (fun w (hinit : w = {}) => hinit ▸ ⟨by simp, by simp, by simp, by simp, by simp⟩)
    fun _ _ _ h hstep => h.step hstep

/-! ## Whole runs -/

/-- Only an open that records a round changes what is remembered. -/
theorem GateStep.released_eq (hstep : GateStep s event s') :
    (s'.released = s.released ∧ ∀ d key, event ≠ .records d (some key)) ∨
      ∃ d key, event = .records d (some key) ∧ s'.released = remember s.released key := by
  cases hstep with
  | record d key gate hhold =>
    cases hkey : (s.gates gate).key with
    | none => exact .inl ⟨rfl, by simp⟩
    | some own => exact .inr ⟨d, own, rfl, rfl⟩
  | _ => exact .inl ⟨rfl, by simp⟩

/-- Some delivery recorded the round as released. -/
def Records (es : List (GateEvent Delivery × GateState Delivery)) (key : GateKey) : Prop :=
  ∃ x ∈ es, ∃ d, x.1 = .records d (some key)

/-- Along a run a round stays remembered until 64 others were recorded. -/
theorem released_run {es : List (GateEvent Delivery × GateState Delivery)}
    (hrun : Run GateStep s es s') (h : s.Sound) {key : GateKey} {front back : List GateKey}
    (hsplit : s.released = front ++ key :: back) :
    (∃ front' new, s'.released = front' ++ key :: (back ++ new) ∧ ∀ other ∈ new, Records es other) ∨
      ∃ new, releasedRounds ≤ (back ++ new).length ∧ (key :: (back ++ new)).Nodup ∧
        ∀ other ∈ new, Records es other := by
  induction hrun generalizing front back with
  | nil s => exact .inl ⟨front, [], by simpa using hsplit⟩
  | @cons s mid t event es hstep hrest ih =>
    have hmore : ∀ {other}, Records es other → Records ((event, mid) :: es) other :=
      fun ⟨x, hx, hrecords⟩ => ⟨x, List.mem_cons_of_mem _ hx, hrecords⟩
    rcases hstep.released_eq with ⟨heq, -⟩ | ⟨d, other, rfl, heq⟩
    · rw [hsplit] at heq
      exact (ih (h.step hstep) heq).imp
        (fun ⟨front', new, ht, hnew⟩ => ⟨front', new, ht, fun o ho => hmore (hnew o ho)⟩)
        (fun ⟨new, hlength, hnodup, hnew⟩ => ⟨new, hlength, hnodup, fun o ho => hmore (hnew o ho)⟩)
    · have hown : Records ((.records d (some other), mid) :: es) other :=
        ⟨_, List.mem_cons_self, d, rfl⟩
      rw [hsplit] at heq
      rcases remember_split other (hsplit ▸ h.length_le) with ⟨front', first, hfirst, hsub⟩ |
        ⟨hfull, hfresh⟩
      · have hfirst_own : ∀ o ∈ first, Records ((.records d (some other), mid) :: es) o := by
          intro o ho
          have heq := List.mem_singleton.mp (hsub ho)
          rwa [heq]
        rcases ih (h.step hstep) (heq.trans hfirst) with ⟨front'', new, ht, hnew⟩ |
          ⟨new, hlength, hnodup, hnew⟩
        · refine .inl ⟨front'', first ++ new, by rw [ht, List.append_assoc], ?_⟩
          exact List.forall_mem_append.mpr ⟨hfirst_own, fun o ho => hmore (hnew o ho)⟩
        · rw [List.append_assoc] at hlength hnodup
          refine .inr ⟨first ++ new, hlength, hnodup, ?_⟩
          exact List.forall_mem_append.mpr ⟨hfirst_own, fun o ho => hmore (hnew o ho)⟩
      · refine .inr ⟨[other], hfull, ?_, by simpa using hown⟩
        have hnodup := h.nodup
        rw [hsplit] at hnodup
        have hback := (List.nodup_append.mp hnodup).2.1
        grind

/-- A round that is remembered for the first time is the newest. -/
theorem remember_new {key : GateKey}
    (hlength : released.length ≤ releasedRounds) (hnew : key ∉ released) :
    ∃ front, remember released key = front ++ [key] := by
  unfold remember
  rw [if_neg hnew, List.drop_append_of_le_length]
  · exact ⟨_, rfl⟩
  · rw [List.length_append, List.length_singleton]
    unfold releasedRounds at *
    omega

/-- At its deadline a wait comes closer to its end with every action. -/
theorem GateState.Sound.wait_left (h : s.Sound) {key : GateKey} {gate deadline deadline' : Nat}
    {turn turn' : Turn} {hold' : Hold} (hd : s.holds d = some ⟨key, gate, .waits deadline turn⟩)
    (hdeadline : deadline ≤ s.now) (hevent : event = .acts d ∨ event = .looks d)
    (hstep : GateStep s event s') (hd' : s'.holds d = some hold')
    (huse : hold'.use = .waits deadline' turn') :
    deadline' = deadline ∧ turn'.left < turn.left := by
  cases hstep with
  | pass | upgrade | released | create | record => simp at hevent
  | wait _ _ _ use hhold hrests | flag _ _ _ use hhold hrests =>
    obtain rfl : _ = d := by simpa using hevent
    cases hd.symm.trans hhold
    exact hrests.elim
  | listen _ _ _ _ hhold =>
    obtain rfl : _ = d := by simpa using hevent
    cases hd.symm.trans hhold
    simp only [holds_put, if_true] at hd'
    cases hd'
    cases huse
    exact ⟨rfl, Nat.lt_succ_self _⟩
  | test _ _ _ _ seen hhold =>
    obtain rfl : _ = d := by simpa using hevent
    cases hd.symm.trans hhold
    simp only [holds_put, if_true, Use.look] at hd'
    cases hd'
    split at huse
    · cases huse
    · cases huse
      exact ⟨rfl, Nat.lt_succ_self _⟩
  | cancel _ _ _ _ seen hhold =>
    obtain rfl : _ = d := by simpa using hevent
    simp only [holds_put, if_true] at hd'
    cases hd'
    cases huse
  | clock _ _ _ _ seen hhold =>
    obtain rfl : _ = d := by simpa using hevent
    cases hd.symm.trans hhold
    simp only [holds_put, if_true, if_pos hdeadline] at hd'
    cases hd'
    cases huse
  | poll _ _ _ _ seen hhold =>
    obtain rfl : _ = d := by simpa using hevent
    cases hd.symm.trans hhold
    simp only [holds_put, if_true, if_pos hdeadline] at hd'
    cases hd'
    split at huse
    · next hwoken =>
      rw [Use.look, if_pos (h.notified gate (Nat.zero_lt_of_lt hwoken))] at huse
      cases huse
    · cases huse
  | notify _ _ _ hhold =>
    obtain rfl : _ = d := by simpa using hevent
    cases hd.symm.trans hhold
  | drop _ _ _ use hhold hopens =>
    obtain rfl : _ = d := by simpa using hevent
    simp [holds_put] at hd'

/-- The gate of a round, for every interleaving.  Of two different gates that are held for one
round, one is open.  A wait that looks at a gate after an open of it has finished is accepted.
At its deadline a wait has at most three actions left and does not sleep again.  And a round that
an open recorded gets open gates until 64 others were recorded after it. -/
theorem gate_releases (hs : Reachable (· = {}) GateStep s) :
    (∀ d d' hold hold', s.holds d = some hold → s.holds d' = some hold' →
      hold.key = hold'.key → hold.gate ≠ hold'.gate →
      (s.gates hold.gate).opened = true ∨ (s.gates hold'.gate).opened = true) ∧
    (∀ d hold s', s.holds d = some hold → 0 < (s.gates hold.gate).notified →
      GateStep s (.looks d) s' → s'.holds d = some { hold with use := .waited .accepted }) ∧
    (∀ d key gate deadline turn, s.holds d = some ⟨key, gate, .waits deadline turn⟩ →
      deadline ≤ s.now → ∀ event s', event = .acts d ∨ event = .looks d → GateStep s event s' →
      ∀ hold' deadline' turn', s'.holds d = some hold' → hold'.use = .waits deadline' turn' →
        deadline' = deadline ∧ turn'.left < turn.left) ∧
    ∀ d key s₁ es s₂ d' s₃, GateStep s (.records d (some key)) s₁ → key ∉ s.released →
      Run GateStep s₁ es s₂ → GateStep s₂ (.enters d' key) s₃ →
      (∃ hold, s₃.holds d' = some hold ∧ (s₃.gates hold.gate).opened = true) ∨
        ∃ others : List GateKey, others.Nodup ∧ 64 ≤ others.length ∧
          ∀ other ∈ others, other ≠ key ∧ Records es other := by
  have h := sound_of_reachable hs
  refine ⟨?_, ?_, ?_, ?_⟩
  · intro d d' hold hold' hd hd' hkey hne
    rcases (h.holds d hold hd).own with hown | ⟨_, hopened⟩
    · rcases (h.holds d' hold' hd').own with hown' | ⟨_, hopened'⟩
      · exact absurd (h.gate_eq hd hd' hkey hown hown') hne
      · exact .inr hopened'
    · exact .inl hopened
  · intro d hold s' hd hnotified hstep
    have hopened := h.notified _ hnotified
    cases hstep with
    | test _ key gate deadline seen hhold =>
      cases hd.symm.trans hhold
      simp [holds_put, Use.look, hopened]
    | poll _ key gate deadline seen hhold =>
      have hseen := (h.holds d _ hhold).closed deadline seen (.inr rfl)
      cases hd.symm.trans hhold
      simp [holds_put, Use.look, hopened, hseen, hnotified]
  · intro d key gate deadline turn hd hdeadline event s' hevent hstep hold' deadline' turn' hd' huse
    exact h.wait_left hd hdeadline hevent hstep hd' huse
  · intro d key s₁ es s₂ d' s₃ hrecord hnew hrun henter
    have h₁ := h.step hrecord
    obtain ⟨front, hfront⟩ : ∃ front, s₁.released = front ++ [key] := by
      rcases hrecord.released_eq with ⟨-, hnone⟩ | ⟨_, _, hevent, heq⟩
      · exact absurd rfl (hnone d key)
      · cases hevent
        rw [heq]
        exact remember_new h.length_le hnew
    have h₂ := sound_of_reachable ((hs.step hrecord).run hrun)
    obtain ⟨h₃, gate, hgate, hreleased⟩ := h₂.enter henter
    rcases released_run hrun h₁ hfront with ⟨front', new, hmem, _⟩ | ⟨new, hlength, hnodup, hrec⟩
    · refine .inl ⟨_, hgate, (h₃.holds d' _ hgate).released ?_⟩
      simp [hreleased, hmem]
    · refine .inr ⟨new, (List.nodup_cons.mp hnodup).2, hlength, fun other hother => ⟨?_, hrec other hother⟩⟩
      rintro rfl
      exact (List.nodup_cons.mp hnodup).1 hother

/-! ## What does not hold -/

/-- A delivery can open the gate it holds and go. -/
theorem exists_open_held {key : GateKey} {gate : Nat} {use : Use}
    (hhold : s.holds d = some ⟨key, gate, use⟩) (hrests : use.Rests) :
    ∃ s₁ s₂ es s₃, GateStep s (.acts d) s₁ ∧ GateStep s₁ (.records d (s.gates gate).key) s₂ ∧
      Run GateStep s₂ es s₃ ∧ (∀ other, ¬ Records es other) ∧
      s₃.holds = Function.update s.holds d none ∧
      s₃.released = (s.gates gate).key.elim s.released (remember s.released) ∧
      (∀ other, other ≠ gate → s₃.gates other = s.gates other) ∧ s₃.next = s.next := by
  have hput : ∀ (t : GateState Delivery) (hold : Hold), (t.put d (some hold)).holds d = some hold :=
    fun t hold => by simp [holds_put]
  have hflag := GateStep.flag d key gate use hhold hrests
  have hrecord := GateStep.record d key gate (hput (s.setGate gate
    { s.gates gate with opened := true }) ⟨key, gate, .opens false⟩)
  have hgate : (((s.setGate gate { s.gates gate with opened := true }).put d
      (some ⟨key, gate, .opens false⟩)).gates gate).key = (s.gates gate).key := by
    simp [GateState.put, GateState.setGate]
  rw [hgate] at hrecord
  refine ⟨_, _, _, _, hflag, hrecord, .cons (.notify d key gate (hput _ _))
    (.cons (.drop d key gate .holds (hput _ _) (by simp)) (.nil _)), ?_, ?_, rfl, ?_, rfl⟩
  · rintro other ⟨x, hx, d', heq⟩
    simp only [List.mem_cons, List.not_mem_nil, or_false] at hx
    rcases hx with rfl | rfl <;> cases heq
  · funext d'
    by_cases heq : d' = d <;>
      simp [GateState.put, GateState.setGate, heq]
  · intro other hne
    simp [GateState.put, GateState.setGate, Function.update_of_ne hne]

/-- A delivery can open a round that is new and go. -/
theorem GateState.Sound.exists_open (h : s.Sound) (key : GateKey) (hidle : s.holds d = none)
    (hnew : key ∉ s.released)
    (hdead : ∀ d hold, s.holds d = some hold → (s.gates hold.gate).key ≠ some key) :
    ∃ es s', Run GateStep s es s' ∧ s'.holds = s.holds ∧
      s'.released = remember s.released key ∧
      (∀ gate < s.next, s'.gates gate = s.gates gate) ∧ s.next ≤ s'.next ∧
      ∀ other, Records es other → other = key := by
  obtain ⟨registry, hpruned, hnone⟩ := h.exists_pruned_none key hdead
  obtain ⟨t, hcreate, htholds, htreleased, htkey, htgates, htnext⟩ : ∃ t,
      GateStep s (.enters d key) t ∧
      t.holds = Function.update s.holds d (some { key, gate := s.next }) ∧
      t.released = s.released ∧ (t.gates s.next).key = some key ∧
      (∀ gate < s.next, t.gates gate = s.gates gate) ∧ t.next = s.next + 1 := by
    refine ⟨_, .create d key registry hidle hpruned hnone hnew, rfl, rfl, ?_, ?_, rfl⟩
    · simp [GateState.put, GateState.make, GateState.setGate]
    · intro gate hlt
      simp [GateState.put, GateState.setGate, GateState.make,
        Function.update_of_ne (Nat.ne_of_lt hlt)]
  have hthold : t.holds d = some ⟨key, s.next, .holds⟩ := by rw [htholds, Function.update_self]
  obtain ⟨s₁, s₂, es, s₃, hflag, hrecord, hrun, hes, hholds, hreleased, hgates, hnext⟩ :=
    exists_open_held hthold trivial
  rw [htkey] at hrecord hreleased
  refine ⟨_, s₃, .cons hcreate (.cons hflag (.cons hrecord hrun)), ?_, by rw [hreleased, htreleased]; rfl,
    ?_, by omega, ?_⟩
  · rw [hholds, htholds, Function.update_idem]
    exact Function.update_eq_self_iff.mpr hidle.symm
  · intro gate hlt
    rw [hgates gate (Nat.ne_of_lt hlt), htgates gate hlt]
  · rintro other ⟨x, hx, d', heq⟩
    simp only [List.mem_cons] at hx
    rcases hx with rfl | rfl | rfl | hx
    · cases heq
    · cases heq
    · cases heq
      rfl
    · exact absurd ⟨x, hx, d', heq⟩ (hes other)

/-- A delivery can open several rounds, one after the other. -/
theorem exists_opens (keys : List GateKey) (hs : Reachable (· = {}) GateStep s)
    (hidle : s.holds d = none) (hnodup : keys.Nodup) (hnew : ∀ key ∈ keys, key ∉ s.released)
    (hdead : ∀ d hold, s.holds d = some hold → ∀ key ∈ keys,
      (s.gates hold.gate).key ≠ some key) :
    ∃ s', Reachable (· = {}) GateStep s' ∧ s'.holds = s.holds ∧
      s'.released = keys.foldl remember s.released ∧
      (∀ gate < s.next, s'.gates gate = s.gates gate) := by
  induction keys generalizing s with
  | nil => exact ⟨s, hs, rfl, rfl, fun _ _ => rfl⟩
  | cons key keys ih =>
    obtain ⟨hkey, hnodup⟩ := List.nodup_cons.mp hnodup
    have h := sound_of_reachable hs
    obtain ⟨es, s₁, hrun, hholds, hreleased, hgates, hnext, -⟩ := h.exists_open key hidle
      (hnew key List.mem_cons_self) fun d hold hd => hdead d hold hd key List.mem_cons_self
    have hnew₁ : ∀ other ∈ keys, other ∉ s₁.released := by
      intro other hother hmem
      rw [hreleased] at hmem
      rcases mem_remember hmem with hmem | rfl
      · exact hnew other (List.mem_cons_of_mem _ hother) hmem
      · exact hkey hother
    have hdead₁ : ∀ d hold, s₁.holds d = some hold → ∀ other ∈ keys,
        (s₁.gates hold.gate).key ≠ some other := by
      intro d' hold hd' other hother
      rw [hholds] at hd'
      rw [hgates hold.gate (h.holds d' hold hd').made]
      exact hdead d' hold hd' other (List.mem_cons_of_mem _ hother)
    obtain ⟨s', hs', hholds', hreleased', hgates'⟩ := ih (hs.run hrun) (by rw [hholds, hidle])
      hnodup hnew₁ hdead₁
    refine ⟨s', hs', hholds'.trans hholds, by rw [hreleased', hreleased, List.foldl_cons], ?_⟩
    intro gate hlt
    rw [hgates' gate (Nat.lt_of_lt_of_le hlt hnext), hgates gate hlt]

/-- One round, and others. -/
def sampleGateKey (sidecarId : Nat) : GateKey := ⟨sidecarId, "w", "r"⟩

/-- Two deliveries of a released round get gates of their own. -/
theorem exists_unshared : ∃ s : GateState Bool, Reachable (· = {}) GateStep s ∧
    ∃ hold hold', s.holds true = some hold ∧ s.holds false = some hold' ∧
      hold.key = hold'.key ∧ hold.gate ≠ hold'.gate := by
  have hinit : Reachable (· = {}) GateStep ({} : GateState Bool) := .init rfl
  obtain ⟨es, s₀, hrun, hholds, hreleased, -⟩ :=
    (sound_of_reachable hinit).exists_open (d := true) (sampleGateKey 0) rfl (by simp) (by simp)
  have hidle : ∀ d, s₀.holds d = none := by simp [hholds]
  have hmem : sampleGateKey 0 ∈ s₀.released := by
    rw [hreleased]
    decide
  have h₀ := hinit.run hrun
  obtain ⟨registry, hpruned, hnone⟩ :=
    (sound_of_reachable h₀).exists_pruned_none (sampleGateKey 0) (by simp [hidle])
  have h₁ := h₀.step (.released true _ registry (hidle true) hpruned hnone hmem)
  obtain ⟨registry', hpruned', hnone'⟩ :=
    (sound_of_reachable h₁).exists_pruned_none (sampleGateKey 0) (by
      intro d hold hd
      rw [holds_put] at hd
      split at hd
      · cases hd
        simp [GateState.put, GateState.make, GateState.setGate]
      · simp [GateState.make, GateState.setGate, hidle] at hd)
  have h₂ := h₁.step (.released false _ registry' (by
    simp [holds_put, GateState.make, GateState.setGate, hidle]) hpruned' hnone' hmem)
  exact ⟨_, h₂, ⟨sampleGateKey 0, s₀.next, .holds⟩, ⟨sampleGateKey 0, s₀.next + 1, .holds⟩, rfl,
    rfl, rfl, Nat.ne_of_lt (Nat.lt_succ_self _)⟩

/-- Of the unshared gates one is open; a delivery that opens the gate of its round before it waits
is accepted at its first look; a wait that starts to listen at its deadline comes closer to its
end; and the next delivery of a released round gets an open gate. -/
theorem gate_releases_sample :
    (∃ s : GateState Bool, Reachable (· = {}) GateStep s ∧ ∃ hold hold',
      s.holds true = some hold ∧ s.holds false = some hold' ∧ hold.gate ≠ hold'.gate ∧
        ((s.gates hold.gate).opened = true ∨ (s.gates hold'.gate).opened = true)) ∧
    (∃ s s' : GateState Bool, Reachable (· = {}) GateStep s ∧ GateStep s (.looks true) s' ∧
      s'.holds true = some ⟨sampleGateKey 0, 0, .waited .accepted⟩) ∧
    (∃ s s' : GateState Bool, Reachable (· = {}) GateStep s ∧
      s.holds true = some ⟨sampleGateKey 0, 0, .waits waitBudget .start⟩ ∧ waitBudget ≤ s.now ∧
      GateStep s (.acts true) s' ∧ ∃ turn, turn.left < Turn.start.left ∧
        s'.holds true = some ⟨sampleGateKey 0, 0, .waits waitBudget turn⟩) ∧
    ∃ (s s₁ s₂ s₃ : GateState Bool) (es : List (GateEvent Bool × GateState Bool)),
      Reachable (· = {}) GateStep s ∧ GateStep s (.records true (some (sampleGateKey 0))) s₁ ∧
      Run GateStep s₁ es s₂ ∧ GateStep s₂ (.enters true (sampleGateKey 0)) s₃ ∧
      ∃ hold, s₃.holds true = some hold ∧ (s₃.gates hold.gate).opened = true := by
  have hinit : Reachable (· = {}) GateStep ({} : GateState Bool) := .init rfl
  have hcreated := hinit.step (.create true (sampleGateKey 0) (fun _ => none) rfl
    (by simp [Pruned]) rfl (by simp))
  have hflagged := hcreated.step (.flag true _ 0 _ rfl trivial)
  refine ⟨?_, ?_, ?_, ?_⟩
  · obtain ⟨s, hs, hold, hold', hd, hd', hkey, hne⟩ := exists_unshared
    exact ⟨s, hs, hold, hold', hd, hd', hne,
      (gate_releases hs).1 true false hold hold' hd hd' hkey hne⟩
  · have hnotified := (hflagged.step (.record true _ 0 rfl)).step (.notify true _ 0 rfl)
    have hlistening := (hnotified.step (.wait true _ 0 _ rfl trivial)).step (.listen true _ 0 _ rfl)
    exact ⟨_, _, hlistening, .test true _ 0 _ _ rfl,
      (gate_releases hlistening).2.1 true _ _ rfl (by decide) (.test true _ 0 _ _ rfl)⟩
  · have hlate := (hcreated.step (.wait true _ 0 _ rfl trivial)).step (.pass waitBudget)
    exact ⟨_, _, hlate, rfl, by decide, .listen true _ 0 _ rfl, _,
      ((gate_releases hlate).2.2.1 true _ 0 _ _ rfl (by decide) _ _ (.inl rfl)
        (.listen true _ 0 _ rfl) _ _ _ rfl rfl).2, rfl⟩
  · obtain ⟨s, hs, hhold, hothers, hkey, hnone⟩ : ∃ s : GateState Bool,
        Reachable (· = {}) GateStep s ∧ s.holds true = some ⟨sampleGateKey 0, 0, .holds⟩ ∧
        s.holds false = none ∧ (s.gates 0).key = some (sampleGateKey 0) ∧ s.released = [] :=
      ⟨_, hcreated, rfl, rfl, rfl, rfl⟩
    obtain ⟨s₁, s₂, es, s₃, hflag, hrecord, hrun, hes, hholds, hreleased, -⟩ :=
      exists_open_held hhold trivial
    rw [hkey] at hrecord hreleased
    have hidle : ∀ d, s₃.holds d = none := by
      rintro (_ | _) <;> simp [hholds, hothers]
    have h₁ := hs.step hflag
    obtain ⟨registry, hpruned, hdead⟩ :=
      (sound_of_reachable ((h₁.step hrecord).run hrun)).exists_pruned_none (sampleGateKey 0)
        (by simp [hidle])
    have henter := GateStep.released true (sampleGateKey 0) registry (hidle true) hpruned hdead
      (by rw [hreleased, hnone]; decide)
    have hnew : sampleGateKey 0 ∉ s₁.released := by
      rcases hflag.released_eq with ⟨heq, -⟩ | ⟨_, _, hevent, -⟩
      · simp [heq, hnone]
      · cases hevent
    refine ⟨s₁, s₂, s₃, _, es, h₁, hrecord, hrun, henter, ?_⟩
    rcases (gate_releases h₁).2.2.2 true _ _ _ _ true _ hrecord hnew hrun henter with
      hopen | ⟨others, -, hlength, hothers⟩
    · exact hopen
    · obtain ⟨other, hother⟩ := List.exists_mem_of_length_pos (Nat.lt_of_lt_of_le (by decide) hlength)
      exact absurd (hothers other hother).2 (hes other)

/-- A wait looks at its gate, an open of it finishes before the deadline, and the wait
expires at its next look at the clock. -/
theorem exists_expired_after_open : ∃ (s s' : GateState Bool) (deadline : Nat)
    (es : List (GateEvent Bool × GateState Bool)), Reachable (· = {}) GateStep s ∧
      s.holds true = some ⟨sampleGateKey 0, 0, .waits deadline (.closed 0)⟩ ∧ s.now < deadline ∧
      0 < (s.gates 0).notified ∧ Run GateStep s es s' ∧
      s'.holds true = some ⟨sampleGateKey 0, 0, .waited .expired⟩ := by
  have hinit : Reachable (· = {}) GateStep ({} : GateState Bool) := .init rfl
  have hcreated := hinit.step (.create true (sampleGateKey 0) (fun _ => none) rfl
    (by simp [Pruned]) rfl (by simp))
  obtain ⟨registry, hpruned⟩ := exists_pruned _ _
  have hshared := hcreated.step (.upgrade false (sampleGateKey 0) 0 registry rfl hpruned
    ((hpruned _ _).mpr ⟨rfl, true, _, rfl, rfl⟩))
  have hwaiting := hshared.step (.wait true _ 0 _ rfl trivial)
  have hlistening := hwaiting.step (.listen true _ 0 _ rfl)
  have htested := hlistening.step (.test true _ 0 _ _ rfl)
  have hflagged := htested.step (.flag false _ 0 _ rfl trivial)
  have hrecorded := hflagged.step (.record false _ 0 rfl)
  have hnotified := hrecorded.step (.notify false _ 0 rfl)
  obtain ⟨s, hs, hhold, hcount⟩ : ∃ s : GateState Bool, Reachable (· = {}) GateStep s ∧
      s.holds true = some ⟨sampleGateKey 0, 0, .waits (s.now + waitBudget) (.closed 0)⟩ ∧
      0 < (s.gates 0).notified := ⟨_, hnotified, rfl, Nat.zero_lt_succ _⟩
  exact ⟨s, _, _, _, hs, hhold, Nat.lt_add_of_pos_right (by decide), hcount,
    .cons (.pass waitBudget) (.cons (.clock true _ 0 _ _ hhold) (.nil _)), by simp [holds_put]⟩

/-- A round is opened, 63 others are, and it is opened again.  One more round makes it
forgotten, and the next delivery gets a closed gate. -/
theorem exists_closed_after_reopen : ∃ (s s₁ s₂ s₃ : GateState Bool)
    (es : List (GateEvent Bool × GateState Bool)), Reachable (· = {}) GateStep s ∧
      GateStep s (.records true (some (sampleGateKey 0))) s₁ ∧ Run GateStep s₁ es s₂ ∧
      (∀ key, Records es key → key = sampleGateKey 64) ∧
      GateStep s₂ (.enters true (sampleGateKey 0)) s₃ ∧
      ∃ hold, s₃.holds true = some hold ∧ (s₃.gates hold.gate).opened = false := by
  have hinit : Reachable (· = {}) GateStep ({} : GateState Bool) := .init rfl
  have hcreated := hinit.step (.create true (sampleGateKey 0) (fun _ => none) rfl
    (by simp [Pruned]) rfl (by simp))
  have hflagged := hcreated.step (.flag true _ 0 _ rfl trivial)
  have hrecorded := hflagged.step (.record true _ 0 rfl)
  have hopened := hrecorded.step (.notify true _ 0 rfl)
  obtain ⟨s, hs, hholds, hreleased, hgates⟩ := exists_opens (d := false)
    ((List.range 63).map fun n => sampleGateKey (n + 1)) hopened rfl (by decide +kernel)
    (by decide +kernel) (by
      rintro (_ | _) hold hd key hkey
      · cases hd
      · cases hd
        simp only [List.mem_map] at hkey
        obtain ⟨n, -, rfl⟩ := hkey
        simp [GateState.put, GateState.make, GateState.setGate, sampleGateKey])
  have hhold : s.holds true = some ⟨sampleGateKey 0, 0, .holds⟩ := by
    rw [hholds]
    rfl
  have hkey : (s.gates 0).key = some (sampleGateKey 0) := by
    rw [hgates 0 (by decide)]
    rfl
  obtain ⟨s₁, s₂, es, s₃, hflag, hrecord, hrun, hes, hholds₃, hreleased₃, hgates₃, -⟩ :=
    exists_open_held hhold trivial
  rw [hkey] at hrecord hreleased₃
  have hidle : ∀ d, s₃.holds d = none := by
    rw [hholds₃, hholds]
    rintro (_ | _) <;> rfl
  have h₁ := hs.step hflag
  have h₃ := (h₁.step hrecord).run hrun
  obtain ⟨es', s₄, hrun', hholds₄, hreleased₄, -, -, hes'⟩ := (sound_of_reachable h₃).exists_open
    (d := false) (sampleGateKey 64) (hidle false)
    (by rw [hreleased₃, hreleased]; decide +kernel) (by simp [hidle])
  have hforgotten : sampleGateKey 0 ∉ s₄.released := by
    rw [hreleased₄, hreleased₃, hreleased]
    decide +kernel
  obtain ⟨registry, hpruned, hnone⟩ := (sound_of_reachable (h₃.run hrun')).exists_pruned_none
    (sampleGateKey 0) (by simp [hholds₄, hidle])
  refine ⟨s₁, s₂, s₄, _, es ++ es', h₁, hrecord, hrun.append hrun', ?_,
    .create true _ registry (by simp [hholds₄, hidle]) hpruned hnone hforgotten, _,
    by simp [holds_put]; rfl, by simp [GateState.put, GateState.make, GateState.setGate]⟩
  rintro key ⟨x, hx, d, heq⟩
  rcases List.mem_append.mp hx with hx | hx
  · exact absurd ⟨x, hx, d, heq⟩ (hes key)
  · exact hes' key ⟨x, hx, d, heq⟩

/-- Deliveries of one round may hold different gates at the same time, a wait may expire though an
open finished before its deadline, and opening a round again does not renew what is remembered
of it. -/
theorem gate_unshared_late_forgotten :
    (∃ s : GateState Bool, Reachable (· = {}) GateStep s ∧
      ∃ hold hold', s.holds true = some hold ∧ s.holds false = some hold' ∧
        hold.key = hold'.key ∧ hold.gate ≠ hold'.gate) ∧
    (∃ (s s' : GateState Bool) (deadline : Nat) (es : List (GateEvent Bool × GateState Bool)),
      Reachable (· = {}) GateStep s ∧
      s.holds true = some ⟨sampleGateKey 0, 0, .waits deadline (.closed 0)⟩ ∧ s.now < deadline ∧
      0 < (s.gates 0).notified ∧ Run GateStep s es s' ∧
      s'.holds true = some ⟨sampleGateKey 0, 0, .waited .expired⟩) ∧
    ∃ (s s₁ s₂ s₃ : GateState Bool) (es : List (GateEvent Bool × GateState Bool)),
      Reachable (· = {}) GateStep s ∧
      GateStep s (.records true (some (sampleGateKey 0))) s₁ ∧ Run GateStep s₁ es s₂ ∧
      (∀ key, Records es key → key = sampleGateKey 64) ∧
      GateStep s₂ (.enters true (sampleGateKey 0)) s₃ ∧
      ∃ hold, s₃.holds true = some hold ∧ (s₃.gates hold.gate).opened = false :=
  ⟨exists_unshared, exists_expired_after_open, exists_closed_after_reopen⟩

end ZcashVoting.ShareDelivery.Gate
