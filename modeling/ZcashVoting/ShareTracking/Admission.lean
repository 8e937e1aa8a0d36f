import ZcashVoting.Lib.Trace
import ZcashVoting.Lib.WeakRegistry

/-!
# ZcashVoting.ShareTracking.Admission

One tracking run at a time per round.  `claim_round` looks its round up in a registry of weak
handles: it turns its caller away from a live holder, waits for a departing one and admits the
caller when the round is free.

The registry is locked during one check, but a holder's run may end, and the host may cancel its
control or change its epoch, between any two reads of the check.
-/

namespace ZcashVoting.RoundAdmission

open Trace WeakRegistry

/-- `RoundKey`. -/
structure RoundKey where
  sidecarId : Nat
  walletId : String
  roundId : String
  deriving DecidableEq

/-- What `claim_round` is called with.  A `Control` stands for what the clones of one
`ChainSubmissionControl` share. -/
structure Claim (Control : Type) where
  round : RoundKey
  control : Control
  entryEpoch : UInt64

/-- Where a caller is in `claim_round`, or in the run after it. -/
inductive Phase (Control : Type) where
  | idle
  /-- At the start of the loop. -/
  | trying (claim : Claim Control)
  /-- In `try_claim`, with the registry locked and swept. -/
  | swept (claim : Claim Control)
  /-- In `is_live` of the holder that was found. -/
  | upgraded (claim : Claim Control) (token : Nat)
  /-- In `is_live`: the holder is not cancelled. -/
  | uncancelled (claim : Claim Control) (token : Nat)
  /-- `HeldByADepartingRun`. -/
  | met (claim : Claim Control) (token : Nat)
  /-- In `interrupted`: the caller is not cancelled. -/
  | asking (claim : Claim Control) (token : Nat)
  | sleeping (claim : Claim Control) (token : Nat)
  /-- `Admitted`, until the run drops its admission. -/
  | admitted (claim : Claim Control) (token : Nat)
  /-- `HeldByALiveRun`. -/
  | turnedAway (claim : Claim Control) (token : Nat)
  | interrupted (claim : Claim Control)

variable {Caller Control : Type}

namespace Phase

/-- What the call was made with. -/
def claim : Phase Control → Option (Claim Control)
  | .idle => none
  | .trying claim | .swept claim | .upgraded claim _ | .uncancelled claim _ | .met claim _
  | .asking claim _ | .sleeping claim _ | .admitted claim _ | .turnedAway claim _
  | .interrupted claim => some claim

/-- The caller has the lock of `ACTIVE_RUNS`. -/
def Locks : Phase Control → Prop
  | .swept _ | .upgraded .. | .uncancelled .. => True
  | _ => False

/-- The token to which the caller has a strong reference, with the round it is for. -/
def bound : Phase Control → Option (RoundKey × Nat)
  | .upgraded claim token | .uncancelled claim token | .admitted claim token =>
    some (claim.round, token)
  | _ => none

/-- The future has nothing under way and may be dropped. -/
def Suspended : Phase Control → Prop
  | .trying _ | .sleeping .. => True
  | _ => False

/-- `claim_round` has returned without an admission. -/
def Refused : Phase Control → Prop
  | .turnedAway .. | .interrupted _ => True
  | _ => False

end Phase

/-- `ACTIVE_RUNS`, the controls and the callers. -/
structure State (Caller Control : Type) where
  registry : RoundKey → Option Nat
  /-- The `Holder` of each token. -/
  holder : Nat → Option (Claim Control)
  /-- Tokens are numbered as they are created. -/
  next : Nat
  cancelled : Control → Bool
  epoch : Control → UInt64
  phase : Caller → Phase Control

namespace State

/-- No call has been made; the controls may be in any state. -/
def Initial (s : State Caller Control) : Prop :=
  s.registry = (fun _ => none) ∧ s.holder = (fun _ => none) ∧ ∀ t, s.phase t = .idle

/-- `strong_count() > 0`. -/
def Alive (s : State Caller Control) (token : Nat) : Prop :=
  ∃ t key, (s.phase t).bound = some (key, token)

def Unlocked (s : State Caller Control) : Prop := ∀ t, ¬ (s.phase t).Locks

/-- Move one caller. -/
def goto [DecidableEq Caller] (s : State Caller Control) (t : Caller) (phase : Phase Control) :
    State Caller Control :=
  { s with phase := Function.update s.phase t phase }

end State

/-- Who acts: a caller, or the host on a control. -/
inductive Action (Caller Control : Type) where
  | caller (t : Caller)
  | cancel (control : Control)
  | setEpoch (control : Control) (epoch : UInt64)

variable [DecidableEq Caller]

/-- One step. -/
inductive Step [DecidableEq Control] (s : State Caller Control) : Action Caller Control → State Caller Control → Prop where
  | call (t claim) (hphase : s.phase t = .idle) : Step s (.caller t) (s.goto t (.trying claim))
  /-- `try_claim` takes the lock and sweeps the entries of ended runs. -/
  | sweep (t claim registry) (hphase : s.phase t = .trying claim) (hlock : s.Unlocked)
      (hpruned : Pruned s.registry s.Alive registry) :
      Step s (.caller t) { s.goto t (.swept claim) with registry }
  | upgrade (t claim token) (hphase : s.phase t = .swept claim)
      (hfound : s.registry claim.round = some token) (halive : s.Alive token) :
      Step s (.caller t) (s.goto t (.upgraded claim token))
  /-- There is no entry, or its run has ended since the sweep. -/
  | enter (t claim) (hphase : s.phase t = .swept claim)
      (hfree : ∀ token, s.registry claim.round = some token → ¬ s.Alive token) :
      Step s (.caller t) { s.goto t (.admitted claim s.next) with
        registry := Function.update s.registry claim.round (some s.next)
        holder := Function.update s.holder s.next (some claim)
        next := s.next + 1 }
  | uncancelled (t claim token holder) (hphase : s.phase t = .upgraded claim token)
      (hholder : s.holder token = some holder) (hread : s.cancelled holder.control = false) :
      Step s (.caller t) (s.goto t (.uncancelled claim token))
  | cancelled (t claim token holder) (hphase : s.phase t = .upgraded claim token)
      (hholder : s.holder token = some holder) (hread : s.cancelled holder.control = true) :
      Step s (.caller t) (s.goto t (.met claim token))
  | live (t claim token holder) (hphase : s.phase t = .uncancelled claim token)
      (hholder : s.holder token = some holder)
      (hread : s.epoch holder.control = holder.entryEpoch) :
      Step s (.caller t) (s.goto t (.turnedAway claim token))
  | moved (t claim token holder) (hphase : s.phase t = .uncancelled claim token)
      (hholder : s.holder token = some holder)
      (hread : s.epoch holder.control ≠ holder.entryEpoch) :
      Step s (.caller t) (s.goto t (.met claim token))
  | ask (t claim token) (hphase : s.phase t = .met claim token)
      (hread : s.cancelled claim.control = false) :
      Step s (.caller t) (s.goto t (.asking claim token))
  | sleep (t claim token) (hphase : s.phase t = .asking claim token)
      (hread : s.epoch claim.control = claim.entryEpoch) :
      Step s (.caller t) (s.goto t (.sleeping claim token))
  | interrupt (t claim token)
      (hread : s.phase t = .met claim token ∧ s.cancelled claim.control = true ∨
        s.phase t = .asking claim token ∧ s.epoch claim.control ≠ claim.entryEpoch) :
      Step s (.caller t) (s.goto t (.interrupted claim))
  | wake (t claim token) (hphase : s.phase t = .sleeping claim token) :
      Step s (.caller t) (s.goto t (.trying claim))
  /-- The run ends, panics or is dropped. -/
  | release (t claim token) (hphase : s.phase t = .admitted claim token) :
      Step s (.caller t) (s.goto t .idle)
  /-- The call is dropped, or its caller has its answer. -/
  | leave (t) (hphase : (s.phase t).Suspended ∨ (s.phase t).Refused) :
      Step s (.caller t) (s.goto t .idle)
  | cancel (control) :
      Step s (.cancel control) { s with cancelled := Function.update s.cancelled control true }
  | setEpoch (control epoch) :
      Step s (.setEpoch control epoch) { s with epoch := Function.update s.epoch control epoch }

/-! ## What every interleaving keeps -/

structure Handover (s : State Caller Control) : Prop where
  registered : Registers s.registry fun t => (s.phase t).bound
  locked : ∀ t t', (s.phase t).Locks → (s.phase t').Locks → t = t'
  numbered : ∀ token holder, s.holder token = some holder → token < s.next
  entered : ∀ key token, s.registry key = some token →
    ∃ holder, s.holder token = some holder ∧ holder.round = key
  admitted : ∀ t claim token, s.phase t = .admitted claim token → s.holder token = some claim
  owned : ∀ t t' claim claim' token, s.phase t = .admitted claim token →
    s.phase t' = .admitted claim' token → t = t'

section

variable (s : State Caller Control) (t : Caller) (phase : Phase Control)

@[simp] theorem State.goto_phase (t' : Caller) :
    (s.goto t phase).phase t' = if t' = t then phase else s.phase t' :=
  Function.update_apply s.phase t phase t'

@[simp] theorem State.goto_registry : (s.goto t phase).registry = s.registry := rfl

@[simp] theorem State.goto_holder : (s.goto t phase).holder = s.holder := rfl

@[simp] theorem State.goto_next : (s.goto t phase).next = s.next := rfl

@[simp] theorem State.goto_cancelled : (s.goto t phase).cancelled = s.cancelled := rfl

@[simp] theorem State.goto_epoch : (s.goto t phase).epoch = s.epoch := rfl

end

variable {s s' : State Caller Control} {t : Caller} {e : Action Caller Control}
  {claim : Claim Control} {token : Nat}

namespace Handover

omit [DecidableEq Caller] in
theorem token_lt (h : Handover s) (hphase : s.phase t = .admitted claim token) :
    token < s.next :=
  h.numbered token claim (h.admitted t claim token hphase)

omit [DecidableEq Caller] in
/-- The holder of the lock finds only admitted callers with a token. -/
theorem held_of_alive (h : Handover s) (hlock : s.phase t = .swept claim) {key : RoundKey}
    (hregistered : s.registry key = some token) (halive : s.Alive token) :
    ∃ t' holder, s.phase t' = .admitted holder token ∧ holder.round = key := by
  obtain ⟨t', key', hbound⟩ := halive
  have hfree : ¬ (s.phase t').Locks := by
    intro hlocks
    have heq : t' = t := h.locked t' t hlocks (by simp [hlock, Phase.Locks])
    subst heq
    simp [hlock, Phase.bound] at hbound
  cases hphase : s.phase t' with
  | admitted own token' =>
    simp only [hphase, Phase.bound, Option.some.injEq, Prod.mk.injEq] at hbound
    obtain ⟨-, rfl⟩ := hbound
    obtain ⟨holder, hholder, hround⟩ := h.entered key token' hregistered
    have heq : own = holder := Option.some.inj ((h.admitted t' own token' hphase).symm.trans hholder)
    exact ⟨t', own, hphase, heq ▸ hround⟩
  | upgraded | uncancelled => simp [hphase, Phase.Locks] at hfree
  | idle | trying | swept | met | asking | sleeping | turnedAway | interrupted =>
    simp [hphase, Phase.bound] at hbound

/-- A caller that is not admitted and leaves the registry to the tokens that were in it. -/
theorem goto (h : Handover s) {phase : Phase Control} {registry : RoundKey → Option Nat}
    (hregistry : ∀ key token, registry key = some token → s.registry key = some token)
    (hkept : Registers registry fun t => (s.phase t).bound)
    (hbound : ∀ key token, phase.bound = some (key, token) → registry key = some token)
    (hlock : phase.Locks → ∀ t', (s.phase t').Locks → t' = t)
    (hphase : ∀ claim token, phase ≠ .admitted claim token) :
    Handover { s.goto t phase with registry } where
  registered := by
    intro t' key token hbound'
    by_cases heq : t' = t
    · subst heq
      exact hbound key token (by simpa [State.goto] using hbound')
    · exact hkept t' key token (by simpa [State.goto, Function.update_of_ne heq] using hbound')
  locked := by
    intro a b ha hb
    by_cases hat : a = t <;> by_cases hbt : b = t
    · rw [hat, hbt]
    · simp only [State.goto, hat, Function.update_self, Function.update_of_ne hbt] at ha hb
      rw [hat, hlock ha b hb]
    · simp only [State.goto, hbt, Function.update_self, Function.update_of_ne hat] at ha hb
      rw [hbt, hlock hb a ha]
    · simp only [State.goto, Function.update_of_ne hat, Function.update_of_ne hbt] at ha hb
      exact h.locked a b ha hb
  numbered := h.numbered
  entered key token hkey := h.entered key token (hregistry key token hkey)
  admitted := by
    intro t' claim token ht'
    by_cases heq : t' = t
    · exact absurd (by simpa [State.goto, heq] using ht') (hphase claim token)
    · exact h.admitted t' claim token (by simpa [State.goto, Function.update_of_ne heq] using ht')
  owned := by
    intro a b claim claim' token ha hb
    have hat : a ≠ t := fun heq => hphase claim token (by simpa [State.goto, heq] using ha)
    have hbt : b ≠ t := fun heq => hphase claim' token (by simpa [State.goto, heq] using hb)
    simp only [State.goto, Function.update_of_ne hat, Function.update_of_ne hbt] at ha hb
    exact h.owned a b claim claim' token ha hb

/-- A caller that takes no token or lock it did not have. -/
theorem stay (h : Handover s) {phase : Phase Control}
    (hbound : ∀ key token, phase.bound = some (key, token) →
      (s.phase t).bound = some (key, token))
    (hlock : phase.Locks → (s.phase t).Locks)
    (hphase : ∀ claim token, phase ≠ .admitted claim token) : Handover (s.goto t phase) :=
  h.goto (fun _ _ => id) h.registered
    (fun key token hkey => h.registered t key token (hbound key token hkey))
    (fun hlocks t' ht' => h.locked t' t ht' (hlock hlocks)) hphase

theorem enter (h : Handover s) (hphase : s.phase t = .swept claim)
    (hfree : ∀ token, s.registry claim.round = some token → ¬ s.Alive token) :
    Handover { s.goto t (.admitted claim s.next) with
      registry := Function.update s.registry claim.round (some s.next)
      holder := Function.update s.holder s.next (some claim)
      next := s.next + 1 } where
  registered := by
    intro t' key token hbound
    by_cases heq : t' = t
    · subst heq
      simp_all [State.goto, Phase.bound]
    · simp only [State.goto, Function.update_of_ne heq] at hbound
      have hregistered := h.registered t' key token hbound
      have hne : key ≠ claim.round := by
        rintro rfl
        exact hfree token hregistered ⟨t', _, hbound⟩
      simpa [Function.update_of_ne hne] using hregistered
  locked := by
    intro a b ha hb
    by_cases hat : a = t
    · simp [State.goto, hat, Phase.Locks] at ha
    · by_cases hbt : b = t
      · simp [State.goto, hbt, Phase.Locks] at hb
      · simp only [State.goto, Function.update_of_ne hat, Function.update_of_ne hbt] at ha hb
        exact h.locked a b ha hb
  numbered := by
    intro token holder hholder
    by_cases heq : token = s.next
    · exact heq ▸ Nat.lt_succ_self _
    · simp only [Function.update_of_ne heq] at hholder
      exact Nat.lt_succ_of_lt (h.numbered token holder hholder)
  entered := by
    intro key token hkey
    by_cases heq : key = claim.round
    · simp_all
    · simp only [Function.update_of_ne heq] at hkey
      obtain ⟨own, hholder, hround⟩ := h.entered key token hkey
      have hlt := h.numbered token own hholder
      exact ⟨own, by simp [Function.update_of_ne (Nat.ne_of_lt hlt), hholder], hround⟩
  admitted := by
    intro t' claim' token ht'
    by_cases heq : t' = t
    · simp_all [State.goto]
    · simp only [State.goto, Function.update_of_ne heq] at ht'
      simp [Function.update_of_ne (Nat.ne_of_lt (h.token_lt ht')), h.admitted t' claim' token ht']
  owned := by
    intro a b own own' token ha hb
    by_cases hat : a = t <;> by_cases hbt : b = t
    · rw [hat, hbt]
    · simp only [State.goto, hat, Function.update_self, Function.update_of_ne hbt,
        Phase.admitted.injEq] at ha hb
      exact absurd ha.2.symm (Nat.ne_of_lt (h.token_lt hb))
    · simp only [State.goto, hbt, Function.update_self, Function.update_of_ne hat,
        Phase.admitted.injEq] at ha hb
      exact absurd hb.2.symm (Nat.ne_of_lt (h.token_lt ha))
    · simp only [State.goto, Function.update_of_ne hat, Function.update_of_ne hbt] at ha hb
      exact h.owned a b own own' token ha hb

omit [DecidableEq Caller] in
theorem of_initial (h : s.Initial) : Handover s := by
  obtain ⟨hregistry, hholder, hphase⟩ := h
  constructor <;> simp [hregistry, hholder, hphase, Registers, Phase.bound, Phase.Locks]

variable [DecidableEq Control]

theorem step (hstep : Step s e s') (h : Handover s) : Handover s' := by
  cases hstep with
  | sweep t claim registry hphase hlock hpruned =>
    refine h.goto (fun key token hkey => ((hpruned key token).mp hkey).1) ?_
      (by simp [Phase.bound]) (fun _ t' ht' => absurd ht' (hlock t')) (by simp)
    exact h.registered.prune hpruned fun t key token hbound => ⟨t, key, hbound⟩
  | upgrade t claim token hphase hfound halive =>
    refine h.goto (fun _ _ => id) h.registered ?_ ?_ (by simp)
    · intro key token' hbound
      simp only [Phase.bound, Option.some.injEq, Prod.mk.injEq] at hbound
      rw [← hbound.1, ← hbound.2, hfound]
    · exact fun _ t' ht' => h.locked t' t ht' (by simp [hphase, Phase.Locks])
  | enter t claim hphase hfree => exact h.enter hphase hfree
  | uncancelled t claim token holder hphase hholder hread =>
    exact h.stay (by simp [hphase, Phase.bound]) (by simp [hphase, Phase.Locks]) (by simp)
  | call | cancelled | live | moved | ask | sleep | interrupt | wake | release | leave =>
    exact h.stay (by simp [Phase.bound]) (by simp [Phase.Locks]) (by simp)
  | cancel control => exact ⟨h.registered, h.locked, h.numbered, h.entered, h.admitted, h.owned⟩
  | setEpoch control epoch => exact ⟨h.registered, h.locked, h.numbered, h.entered, h.admitted, h.owned⟩

theorem of_reachable (h : Reachable State.Initial Step s) : Handover s :=
  h.invariant (fun _ => of_initial) fun _ _ _ h hstep => h.step hstep

end Handover

/-! ## What a caller has read -/

variable [DecidableEq Control]

namespace Step

theorem turnedAway_cases (hstep : Step s e s') (h : s'.phase t = .turnedAway claim token) :
    s.phase t = .turnedAway claim token ∨ s.phase t = .uncancelled claim token ∧
      ∃ holder, s.holder token = some holder ∧ s.epoch holder.control = holder.entryEpoch := by
  cases hstep <;> simp only [State.goto_phase] at h <;> grind

theorem uncancelled_cases (hstep : Step s e s') (h : s'.phase t = .uncancelled claim token) :
    s.phase t = .uncancelled claim token ∨ s.phase t = .upgraded claim token ∧
      ∃ holder, s.holder token = some holder ∧ s.cancelled holder.control = false := by
  cases hstep <;> simp only [State.goto_phase] at h <;> grind

theorem upgraded_cases (hstep : Step s e s') (h : s'.phase t = .upgraded claim token) :
    s.phase t = .upgraded claim token ∨ s.phase t = .swept claim ∧
      s.registry claim.round = some token ∧ s.Alive token := by
  cases hstep <;> simp only [State.goto_phase] at h <;> grind

theorem met_cases (hstep : Step s e s') (h : s'.phase t = .met claim token) :
    s.phase t = .met claim token ∨ (s.phase t).bound = some (claim.round, token) ∧
      s'.next = s.next ∧ s'.holder = s.holder ∧ ∃ holder, s.holder token = some holder ∧
      (s'.cancelled holder.control = true ∨ s'.epoch holder.control ≠ holder.entryEpoch) := by
  cases hstep <;> simp at h ⊢ <;> grind [Phase.bound]

theorem holder_eq (h : Handover s) (hstep : Step s e s') {holder : Claim Control}
    (hholder : s.holder token = some holder) : s'.holder token = some holder := by
  cases hstep with
  | enter t claim hphase hfree =>
    simp [Function.update_of_ne (Nat.ne_of_lt (h.numbered token holder hholder)), hholder]
  | _ => simpa using hholder

theorem next_le (hstep : Step s e s') : s.next ≤ s'.next := by
  cases hstep <;> simp

theorem cancelled_eq (hstep : Step s e s') {control : Control}
    (h : s.cancelled control = true) : s'.cancelled control = true := by
  cases hstep with
  | cancel other => simp [Function.update_apply, h]
  | _ => simpa using h

theorem epoch_eq (hstep : Step s e s') {control : Control} {epoch : UInt64}
    (hother : e ≠ .setEpoch control epoch) (h : s.epoch control ≠ epoch) :
    s'.epoch control ≠ epoch := by
  cases hstep with
  | setEpoch other epoch' => grind [Function.update_apply]
  | _ => simpa using h

theorem claim_eq (hstep : Step s e s') (h : (s.phase t).claim = some claim)
    (hcall : s'.phase t ≠ .idle) : (s'.phase t).claim = some claim := by
  cases hstep <;> simp only [State.goto_phase] at hcall ⊢ <;> grind [Phase.claim]

/-- A token that nobody has for a round is not found for it again. -/
theorem unbound (h : Handover s) (hstep : Step s e s') {key : RoundKey} (hlt : token < s.next)
    (hunbound : ∀ u, (s.phase u).bound ≠ some (key, token)) (u : Caller) :
    (s'.phase u).bound ≠ some (key, token) := by
  cases hstep with
  | upgrade t claim found hphase hfound halive =>
    by_cases heq : u = t
    · subst heq
      simp only [State.goto_phase, if_true, Phase.bound, ne_eq, Option.some.injEq, Prod.mk.injEq]
      rintro ⟨rfl, rfl⟩
      -- Whoever keeps the token alive has it for the round it is registered for.
      obtain ⟨u', key', hbound⟩ := halive
      obtain ⟨holder, hholder, hround⟩ := h.entered _ _ hfound
      obtain ⟨holder', hholder', hround'⟩ := h.entered _ _ (h.registered u' key' found hbound)
      have hsame : holder' = holder := Option.some.inj (hholder'.symm.trans hholder)
      exact hunbound u' (by rw [hbound, ← hround', hsame, hround])
    · simpa [heq] using hunbound u
  | enter t claim hphase hfree =>
    by_cases heq : u = t
    · have hne : s.next ≠ token := Nat.ne_of_gt hlt
      simp [heq, Phase.bound, hne]
    · simpa [heq] using hunbound u
  | _ => simp only [State.goto_phase]; grind [Phase.bound]

end Step

/-! ## Handover -/

/-- The last check of a caller that is turned away: it found the token, read its holder's control
as not cancelled and then its epoch. -/
def TurnedAwayBy (t : Caller) (claim : Claim Control) (token : Nat) (s₀ : State Caller Control)
    (es : List (Action Caller Control × State Caller Control)) (s : State Caller Control) : Prop :=
  ∃ es₁ es₂ es₃ es₄ found flag last, es = es₁ ++ es₂ ++ es₃ ++ es₄ ∧
    Run Step s₀ es₁ found ∧ Run Step found es₂ flag ∧ Run Step flag es₃ last ∧
    Run Step last es₄ s ∧ found.phase t = .swept claim ∧
    (∀ x ∈ es₂, x.2.phase t = .upgraded claim token) ∧
    (∀ x ∈ es₃, x.2.phase t = .uncancelled claim token) ∧
    (∀ x ∈ es₄, x.2.phase t = .turnedAway claim token) ∧
    ∃ t' holder, found.phase t' = .admitted holder token ∧ holder.round = claim.round ∧
      flag.cancelled holder.control = false ∧ last.epoch holder.control = holder.entryEpoch

variable {s₀ : State Caller Control} {es : List (Action Caller Control × State Caller Control)}

theorem Handover.holder_eq (h : Handover s) (hrun : Run Step s es s') {holder : Claim Control}
    (hholder : s.holder token = some holder) : s'.holder token = some holder :=
  (hrun.invariant (I := fun w => Handover w ∧ w.holder token = some holder)
    (fun _ _ _ hw hstep => ⟨hw.1.step hstep, hstep.holder_eq hw.1 hw.2⟩) ⟨h, hholder⟩).2

theorem turnedAwayBy_of_run (hinit : s₀.Initial) (hrun : Run Step s₀ es s)
    (hphase : s.phase t = .turnedAway claim token) : TurnedAwayBy t claim token s₀ es s := by
  have hidle := hinit.2.2 t
  -- Backwards from the answer: the read of the epoch, that of the flag and the lookup.
  obtain ⟨es', e₄, es₄, last, after₄, rfl, hrun, hstep₄, hbefore₄, hrun₄, hafter₄, hes₄⟩ :=
    hrun.since (fun w => w.phase t = .turnedAway claim token) (by simp [hidle]) hphase
  obtain ⟨hlast, holder₃, hholder₃, hepoch⟩ := (hstep₄.turnedAway_cases hafter₄).resolve_left hbefore₄
  obtain ⟨es', e₃, es₃, flag, after₃, rfl, hrun, hstep₃, hbefore₃, hrun₃, hafter₃, hes₃⟩ :=
    hrun.since (fun w => w.phase t = .uncancelled claim token) (by simp [hidle]) hlast
  obtain ⟨hflag, holder₂, hholder₂, hcancelled⟩ :=
    (hstep₃.uncancelled_cases hafter₃).resolve_left hbefore₃
  obtain ⟨es₁, e₂, es₂, found, after₂, rfl, hrun₁, hstep₂, hbefore₂, hrun₂, hafter₂, hes₂⟩ :=
    hrun.since (fun w => w.phase t = .upgraded claim token) (by simp [hidle]) hflag
  obtain ⟨hfound, hregistered, halive⟩ := (hstep₂.upgraded_cases hafter₂).resolve_left hbefore₂
  have h := Handover.of_reachable ((Reachable.init hinit).run hrun₁)
  obtain ⟨t', holder, hholder, hround⟩ := h.held_of_alive hfound hregistered halive
  have htoken := h.admitted t' holder token hholder
  have hchecked : Run Step found ((e₂, after₂) :: es₂) flag := .cons hstep₂ hrun₂
  have hread : Run Step flag ((e₃, after₃) :: es₃) last := .cons hstep₃ hrun₃
  have hsame₂ : holder₂ = holder := by
    simpa [hholder₂] using h.holder_eq hchecked htoken
  have hsame₃ : holder₃ = holder := by
    simpa [hholder₃] using h.holder_eq (hchecked.append hread) htoken
  subst hsame₂ hsame₃
  exact ⟨es₁, _, _, _, found, flag, last, rfl, hrun₁, hchecked, hread, .cons hstep₄ hrun₄, hfound,
    List.forall_mem_cons.mpr ⟨hafter₂, hes₂⟩, List.forall_mem_cons.mpr ⟨hafter₃, hes₃⟩,
    List.forall_mem_cons.mpr ⟨hafter₄, hes₄⟩, t', holder₃, hholder, hround, hcancelled, hepoch⟩

/-- A cancelled holder turns nobody away who has not read its flag before. -/
theorem spared_of_cancelled (h : Handover s) {holder : Claim Control}
    (hholder : s.holder token = some holder) (hcancelled : s.cancelled holder.control = true)
    (hbefore : ∀ claim, s.phase t ≠ .uncancelled claim token ∧ s.phase t ≠ .turnedAway claim token)
    (hrun : Run Step s es s') (claim : Claim Control) : s'.phase t ≠ .turnedAway claim token := by
  have hkept := hrun.invariant (I := fun w => Handover w ∧ w.holder token = some holder ∧
    w.cancelled holder.control = true ∧
    ∀ claim, w.phase t ≠ .uncancelled claim token ∧ w.phase t ≠ .turnedAway claim token) ?_
    ⟨h, hholder, hcancelled, hbefore⟩
  · exact (hkept.2.2.2 claim).2
  · intro w e w' hw hstep
    obtain ⟨hw, hholder, hcancelled, hbefore⟩ := hw
    refine ⟨hw.step hstep, hstep.holder_eq hw hholder, hstep.cancelled_eq hcancelled, ?_⟩
    intro claim
    constructor
    · intro hphase
      obtain ⟨-, holder', hholder', hread⟩ :=
        (hstep.uncancelled_cases hphase).resolve_left (hbefore claim).1
      have hsame : holder = holder' := Option.some.inj (hholder.symm.trans hholder')
      rw [← hsame, hcancelled] at hread
      cases hread
    · intro hphase
      rcases hstep.turnedAway_cases hphase with hbefore' | ⟨hbefore', -⟩
      · exact (hbefore claim).2 hbefore'
      · exact (hbefore claim).1 hbefore'

/-- A holder whose epoch is not set back turns nobody away. -/
theorem spared_of_moved (h : Handover s) {holder : Claim Control}
    (hholder : s.holder token = some holder) (hmoved : s.epoch holder.control ≠ holder.entryEpoch)
    (hbefore : ∀ claim, s.phase t ≠ .turnedAway claim token) (hrun : Run Step s es s')
    (hback : ∀ x ∈ es, x.1 ≠ .setEpoch holder.control holder.entryEpoch) (claim : Claim Control) :
    s'.phase t ≠ .turnedAway claim token := by
  have hkept := hrun.unless (fun w => Handover w ∧ w.holder token = some holder ∧
    w.epoch holder.control ≠ holder.entryEpoch ∧ ∀ claim, w.phase t ≠ .turnedAway claim token)
    (fun _ => True) (· = .setEpoch holder.control holder.entryEpoch) ?_ trivial
    (fun _ _ => trivial) hback ⟨h, hholder, hmoved, hbefore⟩
  · exact hkept.1.2.2.2 claim
  · intro w e w' hstep _ _ hother hw
    obtain ⟨hw, hholder, hmoved, hbefore⟩ := hw
    refine ⟨hw.step hstep, hstep.holder_eq hw hholder, hstep.epoch_eq hother hmoved, ?_⟩
    intro claim hphase
    obtain ⟨-, holder', hholder', hread⟩ :=
      (hstep.turnedAway_cases hphase).resolve_left (hbefore claim)
    have hsame : holder = holder' := Option.some.inj (hholder.symm.trans hholder')
    exact hmoved (hsame ▸ hread)

/-- A token that nobody has for a round turns nobody away from it. -/
theorem spared_of_unbound (h : Handover s) {key : RoundKey} (hlt : token < s.next)
    (hunbound : ∀ u, (s.phase u).bound ≠ some (key, token))
    (hbefore : ∀ claim, claim.round = key → s.phase t ≠ .turnedAway claim token)
    (hrun : Run Step s es s') {claim : Claim Control} (hround : claim.round = key) :
    s'.phase t ≠ .turnedAway claim token := by
  have hkept := hrun.invariant (I := fun w => Handover w ∧ token < w.next ∧
    (∀ u, (w.phase u).bound ≠ some (key, token)) ∧
    ∀ claim, claim.round = key → w.phase t ≠ .turnedAway claim token) ?_
    ⟨h, hlt, hunbound, hbefore⟩
  · exact hkept.2.2.2 claim hround
  · intro w e w' hw hstep
    obtain ⟨hw, hlt, hunbound, hbefore⟩ := hw
    refine ⟨hw.step hstep, Nat.lt_of_lt_of_le hlt hstep.next_le, hstep.unbound hw hlt hunbound, ?_⟩
    intro claim hround hphase
    obtain ⟨hbound, -⟩ := (hstep.turnedAway_cases hphase).resolve_left (hbefore claim hround)
    exact hunbound t (by simp [hbound, Phase.bound, hround])

/-- Who turns a caller away that has met a departing holder: a later run, or that holder with its
epoch set back. -/
theorem turnedAway_of_met (h : Handover s₀) (hmet : Step s₀ e s)
    (hbefore : s₀.phase t ≠ .met claim token) (hafter : s.phase t = .met claim token)
    (hrun : Run Step s es s') (hcall : ∀ x ∈ es, x.2.phase t ≠ .idle) {claim' : Claim Control}
    {token' : Nat} (hphase : s'.phase t = .turnedAway claim' token') :
    s.next ≤ token' ∨ token' = token ∧ ∃ holder, s.holder token = some holder ∧
      s.cancelled holder.control = false ∧
      ∃ x ∈ es, x.1 = .setEpoch holder.control holder.entryEpoch := by
  obtain ⟨hbound, hnext, hholders, holder, hholder, hdeparting⟩ :=
    (hmet.met_cases hafter).resolve_left hbefore
  rw [← hholders] at hholder
  have hs := h.step hmet
  have hclaim : claim' = claim := by
    have hkept := (hrun.unless (fun w => (w.phase t).claim = some claim) (fun w => w.phase t ≠ .idle)
      (fun _ => False) (fun _ _ _ hstep _ hw' _ hw => hstep.claim_eq hw hw') (by simp [hafter])
      hcall (fun _ _ => id) (by simp [hafter, Phase.claim])).1
    simpa [hphase, Phase.claim] using hkept
  subst hclaim
  by_cases hsame : token' = token
  · subst hsame
    refine .inr ⟨rfl, holder, hholder, ?_⟩
    have huncancelled : s.cancelled holder.control = false := by
      by_contra hcancelled
      exact spared_of_cancelled hs hholder (by simpa using hcancelled) (by simp [hafter]) hrun
        claim' hphase
    refine ⟨huncancelled, ?_⟩
    by_contra hback
    exact spared_of_moved hs hholder (hdeparting.resolve_left (by simp [huncancelled]))
      (by simp [hafter]) hrun (fun x hx heq => hback ⟨x, hx, heq⟩) claim' hphase
  · -- The tokens of the round were all given up but the one that was met.
    refine .inl (Nat.le_of_not_lt fun hlt => ?_)
    have hunbound : ∀ u, (s₀.phase u).bound ≠ some (claim'.round, token') := by
      intro u hu
      exact hsame (h.registered.unique u t claim'.round hu hbound)
    exact spared_of_unbound hs hlt (hmet.unbound h (hnext ▸ hlt) hunbound) (by simp [hafter]) hrun
      rfl hphase

/-- A check that finds the round released admits its caller. -/
theorem Handover.admitted_of_free (h : Handover s) (hphase : s.phase t = .swept claim)
    (hfree : ∀ t' holder token, s.phase t' = .admitted holder token → holder.round ≠ claim.round) :
    (∃ s', Step s (.caller t) s') ∧
      ∀ s', Step s (.caller t) s' → ∃ token, s'.phase t = .admitted claim token := by
  have hdead : ∀ token, s.registry claim.round = some token → ¬ s.Alive token := by
    intro token hregistered halive
    obtain ⟨t', holder, hheld, hround⟩ := h.held_of_alive hphase hregistered halive
    exact hfree t' holder token hheld hround
  refine ⟨⟨_, .enter t claim hphase hdead⟩, ?_⟩
  intro s' hstep
  generalize hactor : Action.caller t = e at hstep
  cases hstep with
  | enter t' claim' hphase' hfree' =>
    cases hactor
    cases hphase.symm.trans hphase'
    exact ⟨s.next, by simp⟩
  | _ => grind [Phase.Suspended, Phase.Refused]

/-- In every interleaving a round has one admission.  A caller is turned away only after it found
the round held, read the holder as not cancelled and then read its entry epoch.  One that has met
a departing holder is turned away only by a run admitted since, or by that holder if it was not
cancelled and its entry epoch has been set again; so a cancelled holder refuses nobody who reads
its flag after that.  A check that finds the round released admits, and a caller that is cancelled
when it asks is interrupted. -/
theorem claim_round_handover (hinit : s₀.Initial) (hrun : Run Step s₀ es s) :
    (∀ t t' claim claim' token token', s.phase t = .admitted claim token →
      s.phase t' = .admitted claim' token' → claim.round = claim'.round → t = t') ∧
    (∀ t claim token, s.phase t = .turnedAway claim token → TurnedAwayBy t claim token s₀ es s) ∧
    (∀ t claim token e met es' s', s.phase t ≠ .met claim token → Step s e met →
      met.phase t = .met claim token → Run Step met es' s' → (∀ x ∈ es', x.2.phase t ≠ .idle) →
      ∀ claim' token', s'.phase t = .turnedAway claim' token' →
        met.next ≤ token' ∨ token' = token ∧ ∃ holder, met.holder token = some holder ∧
          met.cancelled holder.control = false ∧
          ∃ x ∈ es', x.1 = .setEpoch holder.control holder.entryEpoch) ∧
    (∀ token holder, s.holder token = some holder → s.cancelled holder.control = true →
      ∀ t, (∀ claim, s.phase t ≠ .uncancelled claim token ∧ s.phase t ≠ .turnedAway claim token) →
      ∀ es' s', Run Step s es' s' → ∀ claim, s'.phase t ≠ .turnedAway claim token) ∧
    (∀ t claim, s.phase t = .swept claim →
      (∀ t' holder token, s.phase t' = .admitted holder token → holder.round ≠ claim.round) →
      (∃ s', Step s (.caller t) s') ∧
        ∀ s', Step s (.caller t) s' → ∃ token, s'.phase t = .admitted claim token) ∧
    ∀ t claim token, s.phase t = .met claim token → s.cancelled claim.control = true →
      ∀ s', Step s (.caller t) s' → s'.phase t = .interrupted claim := by
  have h := Handover.of_reachable ((Reachable.init hinit).run hrun)
  refine ⟨?_, ?_, ?_, ?_, ?_, ?_⟩
  · intro t t' claim claim' token token' ht ht' hround
    have hsame : token = token' := h.registered.unique t t' claim.round
      (by simp [ht, Phase.bound]) (by simp [ht', Phase.bound, hround])
    exact h.owned t t' claim claim' token ht (hsame ▸ ht')
  · exact fun t claim token => turnedAwayBy_of_run hinit hrun
  · intro t claim token e met es' s' hbefore hmet hafter hrun' hcall claim' token'
    exact turnedAway_of_met h hmet hbefore hafter hrun' hcall
  · intro token holder hholder hcancelled t hbefore es' s' hrun'
    exact spared_of_cancelled h hholder hcancelled hbefore hrun'
  · exact fun t claim => h.admitted_of_free
  · intro t claim token hphase hcancelled s' hstep
    generalize hactor : Action.caller t = e at hstep
    cases hstep <;> grind [State.goto_phase, Phase.Suspended, Phase.Refused]

/-! ### A holder and one caller of its round -/

def sampleRound : RoundKey := ⟨1, "w", "r"⟩

/-- A claim on entry epoch 0. -/
def sampleClaim (control : Bool) : Claim Bool := ⟨sampleRound, control, 0⟩

/-- Only `false` has made a call. -/
def sampleFree (phase : Phase Bool) : State Bool Bool where
  registry _ := none
  holder _ := none
  next := 0
  cancelled _ := false
  epoch _ := 0
  phase t := if t then .idle else phase

/-- The run of `false` holds the round, and `true` is at `phase`. -/
def sampleHeld (epoch : Bool → UInt64) (phase : Phase Bool) : State Bool Bool where
  registry := Function.update (fun _ => none) sampleRound (some 0)
  holder := Function.update (fun _ => none) 0 (some (sampleClaim false))
  next := 1
  cancelled _ := false
  epoch := epoch
  phase t := if t then phase else .admitted (sampleClaim false) 0

theorem sampleFree_initial : (sampleFree .idle).Initial :=
  ⟨rfl, rfl, fun t => by cases t <;> rfl⟩

theorem sampleFree_goto (phase phase' : Phase Bool) :
    (sampleFree phase).goto false phase' = sampleFree phase' := by
  simp only [State.goto, sampleFree, State.mk.injEq, true_and]
  funext t
  cases t <;> rfl

theorem sampleHeld_goto (epoch : Bool → UInt64) (phase phase' : Phase Bool) :
    (sampleHeld epoch phase).goto true phase' = sampleHeld epoch phase' := by
  simp only [State.goto, sampleHeld, State.mk.injEq, true_and]
  funext t
  cases t <;> rfl

theorem sampleFree_run : ∃ es, Run Step (sampleFree .idle) es (sampleHeld (fun _ => 0) .idle) := by
  have hcall := Step.call (s := sampleFree .idle) false (sampleClaim false) rfl
  have hsweep := Step.sweep (s := sampleFree (.trying (sampleClaim false))) false
    (sampleClaim false) (fun _ => none) rfl
    (by intro t; cases t <;> simp [sampleFree, Phase.Locks]) (by simp [Pruned, sampleFree])
  have henter := Step.enter (s := sampleFree (.swept (sampleClaim false))) false
    (sampleClaim false) rfl (by simp [sampleFree])
  rw [sampleFree_goto] at hcall hsweep henter
  exact ⟨_, .cons hcall (.cons hsweep (.cons henter (.nil _)))⟩

/-- A check of the caller finds the holder and reads that it is not cancelled. -/
theorem sampleHeld_check (epoch : Bool → UInt64) :
    ∃ es, Run Step (sampleHeld epoch (.trying (sampleClaim true))) es
        (sampleHeld epoch (.uncancelled (sampleClaim true) 0)) ∧
      ∀ x ∈ es, x.2.phase true ≠ .idle := by
  have hsweep := Step.sweep (s := sampleHeld epoch (.trying (sampleClaim true))) true
    (sampleClaim true) (sampleHeld epoch .idle).registry rfl
    (by intro t; cases t <;> simp [sampleHeld, Phase.Locks])
    (by
      intro key object
      simp only [sampleHeld, Function.update_apply]
      split
      · simp only [Option.some.injEq, iff_self_and]
        rintro rfl
        exact ⟨false, sampleRound, rfl⟩
      · simp)
  have hupgrade := Step.upgrade (s := sampleHeld epoch (.swept (sampleClaim true))) true
    (sampleClaim true) 0 rfl (by simp [sampleHeld, sampleClaim]) ⟨false, sampleRound, rfl⟩
  have hread := Step.uncancelled (s := sampleHeld epoch (.upgraded (sampleClaim true) 0)) true
    (sampleClaim true) 0 (sampleClaim false) rfl rfl rfl
  rw [sampleHeld_goto] at hsweep hupgrade hread
  exact ⟨_, .cons hsweep (.cons hupgrade (.cons hread (.nil _))), by simp [sampleHeld]⟩

/-- The holder's epoch is changed, a caller meets it departing, and the epoch is set back before
the caller's next check: the same holder turns the caller away. -/
theorem turnedAway_by_departing_holder :
    ∃ (s₀ s met s' : State Bool Bool) (es es' : List (Action Bool Bool × State Bool Bool))
      (claim : Claim Bool) (token : Nat), s₀.Initial ∧ Run Step s₀ es s ∧
      s.phase true ≠ .met claim token ∧ Step s (.caller true) met ∧
      met.phase true = .met claim token ∧ Run Step met es' s' ∧
      (∀ x ∈ es', x.2.phase true ≠ .idle) ∧ s'.phase true = .turnedAway claim token ∧
      s'.next = met.next := by
  let away : Bool → UInt64 := Function.update (fun _ => 0) false 1
  let back : Bool → UInt64 := Function.update away false 0
  let claim := sampleClaim true
  obtain ⟨es₁, hheld⟩ := sampleFree_run
  have haway : Step (sampleHeld (fun _ => 0) .idle) _ (sampleHeld away .idle) := .setEpoch false 1
  have hcall := Step.call (s := sampleHeld away .idle) true claim rfl
  obtain ⟨es₂, hcheck, -⟩ := sampleHeld_check away
  have hmet := Step.moved (s := sampleHeld away (.uncancelled claim 0)) true claim 0
    (sampleClaim false) rfl rfl (by simp [sampleHeld, sampleClaim, away])
  have hback : Step (sampleHeld away (.met claim 0)) _ (sampleHeld back (.met claim 0)) :=
    .setEpoch false 0
  have hask := Step.ask (s := sampleHeld back (.met claim 0)) true claim 0 rfl rfl
  have hsleep := Step.sleep (s := sampleHeld back (.asking claim 0)) true claim 0 rfl
    (by simp [sampleHeld, sampleClaim, claim, back, away])
  have hwake := Step.wake (s := sampleHeld back (.sleeping claim 0)) true claim 0 rfl
  obtain ⟨es₃, hagain, hes₃⟩ := sampleHeld_check back
  have hlive := Step.live (s := sampleHeld back (.uncancelled claim 0)) true claim 0
    (sampleClaim false) rfl rfl (by simp [sampleHeld, sampleClaim, back])
  rw [sampleHeld_goto] at hcall hmet hask hsleep hwake hlive
  have hlast : Run Step (sampleHeld back (.uncancelled claim 0)) _ _ := .cons hlive (.nil _)
  refine ⟨_, _, _, _, _, _, claim, 0, sampleFree_initial,
    hheld.append (.cons haway (.cons hcall hcheck)), by simp [sampleHeld], hmet, rfl,
    .cons hback (.cons hask (.cons hsleep (.cons hwake (hagain.append hlast)))), ?_, rfl, rfl⟩
  simp only [List.mem_cons, List.mem_append, List.not_mem_nil, or_false]
  rintro x (rfl | rfl | rfl | rfl | hx | rfl)
  all_goals first | exact hes₃ x hx | simp [sampleHeld]

/-- The holder alone has the round, and once it is cancelled it refuses nobody. -/
theorem claim_round_handover_sample :
    (∀ t claim token, (sampleHeld (fun _ => 0) .idle).phase t = .admitted claim token →
      claim.round = sampleRound → t = false) ∧
    ∀ es' s', Run Step { sampleHeld (fun _ => 0) .idle with
        cancelled := Function.update (fun _ => false) false true } es' s' →
      ∀ claim, s'.phase true ≠ .turnedAway claim 0 := by
  obtain ⟨es, hrun⟩ := sampleFree_run
  have hcancel : Step (sampleHeld (fun _ => 0) .idle) _ _ := .cancel false
  constructor
  · intro t claim token ht hround
    exact (claim_round_handover sampleFree_initial hrun).1 t false claim (sampleClaim false) token 0
      ht rfl hround
  · intro es' s' hrun'
    exact (claim_round_handover sampleFree_initial (hrun.append (.cons hcancel (.nil _)))).2.2.2.1 0
      (sampleClaim false) rfl rfl true (by simp [sampleHeld]) es' s' hrun'

end ZcashVoting.RoundAdmission
