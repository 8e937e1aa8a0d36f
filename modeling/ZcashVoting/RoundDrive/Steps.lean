import Mathlib
import ZcashVoting.ChainSubmission.Result
import ZcashVoting.RoundDrive.Selection

/-!
# ZcashVoting.RoundDrive.Steps

What one step of a round takes from its host and what it hands back to the driver.

The executor refuses a step's delegation inputs for one of a few reasons, each with its
text; `SigningRefusal` names them, together with the ways a Keystone signature can be
missing or malformed.
-/

namespace ZcashVoting.RoundDrive

open Transaction

/-! ## Host inputs -/

/-- `VotingHotkeyTarget`. -/
structure VotingHotkeyTarget where
  rawOrchardAddress : Bytes
  addressIndex : Nat
  network : Network
  deriving DecidableEq

/-- `KeystoneSignatureSource`. -/
inductive KeystoneSignatureSource where
  | stored
  | provided (sig sighash : Bytes)
  deriving DecidableEq

/-- `DelegationSigner`.  A software wallet signs during its step, with a key that never
reaches the crate. -/
inductive DelegationSigner where
  | software
  | keystone (source : KeystoneSignatureSource)
  deriving DecidableEq

/-- `DelegationDriver`: what the executor compares of it. -/
structure DelegationDriver where
  network : Network
  roundId : String
  walletId : String
  sharesDatabase : Bool
  delegationTarget : Option VotingHotkeyTarget
  deriving DecidableEq

/-- `DelegationStepInputs`. -/
structure DelegationStepInputs where
  driver : DelegationDriver
  signer : DelegationSigner
  deriving DecidableEq

/-- `RoundHostContext`: what the driver and the delegation steps read of it. -/
structure RoundHostContext where
  delegation : Option DelegationStepInputs
  deriving DecidableEq

/-- `StepScope`: what a step captured at its entry.  The bound target is that of the
voting hotkey the round is bound to, where it is bound to one. -/
structure StepScope where
  network : Network
  roundId : String
  walletId : String
  boundTarget : Option (Except VotingError VotingHotkeyTarget)
  host : RoundHostContext

/-- `KeystoneSignatureRecord`: the row of a bundle. -/
structure KeystoneSignatureRecord where
  bundleIndex : Nat
  sig : Bytes
  sighash : Bytes
  deriving DecidableEq

/-! ## Signing material -/

/-- Why a step does not get the signing material it needs. -/
inductive SigningRefusal where
  | noInputs
  | network (driver bound : Network)
  | round
  | wallet (driver bound : String)
  | database
  | hotkey (error : VotingError)
  | otherHotkey
  | noHotkey
  | noStoredSignature (bundleIndex : Nat)
  | signature (error : VotingError)
  deriving DecidableEq

variable {scope : StepScope} {refusal : SigningRefusal}

/-- The delegation must land for the hotkey a cast later reconstructs. -/
def checkDelegationTarget (scope : StepScope) (driver : DelegationDriver) :
    Except SigningRefusal Unit :=
  match scope.boundTarget with
  | none => .ok ()
  | some bound => do
    let target ← bound.mapError .hotkey
    match driver.delegationTarget with
    | some own => check (own = target) .otherHotkey
    | none => .error .noHotkey

/-- `delegation_inputs`: refused unless the driver is bound to what the step is. -/
def delegationInputs (scope : StepScope) : Except SigningRefusal DelegationStepInputs :=
  match scope.host.delegation with
  | none => .error .noInputs
  | some inputs => do
    check (inputs.driver.network = scope.network) (.network inputs.driver.network scope.network)
    check (inputs.driver.roundId = scope.roundId) .round
    check (inputs.driver.walletId = scope.walletId) (.wallet inputs.driver.walletId scope.walletId)
    check inputs.driver.sharesDatabase .database
    checkDelegationTarget scope inputs.driver
    return inputs

/-- `PreparedSigner::signature_from_bytes`. -/
def signatureFromBytes (sig sighash : Bytes) : Except SigningRefusal (Bytes × Bytes) := do
  let sigLength := sig.length
  check (sigLength = 64)
    (.signature (.invalidInput s!"signature must be 64 bytes, got {sigLength}"))
  let sighashLength := sighash.length
  check (sighashLength = 32)
    (.signature (.invalidInput s!"sighash must be 32 bytes, got {sighashLength}"))
  return (sig, sighash)

/-- `keystone_signature`, over the answer of `get_keystone_signatures`. -/
def keystoneSignature (stored : Except VotingError (List KeystoneSignatureRecord))
    (bundleIndex : Nat) : KeystoneSignatureSource → Except SigningRefusal (Bytes × Bytes)
  | .provided sig sighash => signatureFromBytes sig sighash
  | .stored => do
    let records ← stored.mapError .signature
    match records.find? (·.bundleIndex = bundleIndex) with
    | none => .error (.noStoredSignature bundleIndex)
    | some record => signatureFromBytes record.sig record.sighash

/-- The Keystone part of `spend_auth_signature`; a software wallet has its own answer. -/
def signerMaterial (stored : Except VotingError (List KeystoneSignatureRecord))
    (bundleIndex : Nat) : DelegationSigner → Except SigningRefusal Unit
  | .software => .ok ()
  | .keystone source => (keystoneSignature stored bundleIndex source).map fun _ => ()

/-- The signing material the executor takes for an obligation: the inputs alone to prove a
delegation, a signature as well to advance one or to cast with one. -/
def takeSigningMaterial (stored : Except VotingError (List KeystoneSignatureRecord))
    (scope : StepScope) : Obligation → Except SigningRefusal Unit
  | .delegate _ => (delegationInputs scope).map fun _ => ()
  | .advanceDelegation bundleIndex false _ _ | .cast bundleIndex _ _ true => do
    let inputs ← delegationInputs scope
    signerMaterial stored bundleIndex inputs.signer
  | .advanceDelegation _ true _ _ | .cast _ _ _ false | .retire _ _ | .blocked _ _
  | .reconcileChain _ _ _ _ _ _ | .deliver _ _ _ _ _ | .confirm _ _ _ _ _ _ => .ok ()

/-- The refusal says that material is missing, not that it is the wrong one. -/
def SigningRefusal.isMissing : SigningRefusal → Bool
  | .noInputs | .noStoredSignature _ => true
  | .network _ _ | .round | .wallet _ _ | .database | .hotkey _ | .otherHotkey | .noHotkey
  | .signature _ => false

theorem checkDelegationTarget_refusal {driver : DelegationDriver}
    (h : checkDelegationTarget scope driver = .error refusal) :
    refusal.isMissing = false := by
  unfold checkDelegationTarget at h
  cases hbound : scope.boundTarget with
  | none => simp [hbound] at h
  | some bound =>
    simp only [hbound, except_bind_eq_error] at h
    obtain herror | ⟨target, -, h⟩ := h
    · cases bound <;> cases herror
      rfl
    · cases hown : driver.delegationTarget with
      | none =>
        simp only [hown] at h
        cases h
        rfl
      | some own =>
        simp only [hown, check_eq_error] at h
        rw [← h.2]
        rfl

/-- Delegation inputs are missing only where the host gave none. -/
theorem delegationInputs_refusal (h : delegationInputs scope = .error refusal)
    (hmissing : refusal.isMissing = true) :
    scope.host.delegation = none := by
  unfold delegationInputs at h
  cases hinputs : scope.host.delegation with
  | none => rfl
  | some inputs =>
    simp only [hinputs, except_bind_eq_error, check_eq_error] at h
    obtain ⟨-, rfl⟩ | ⟨-, -, ⟨-, rfl⟩ | ⟨-, -, ⟨-, rfl⟩ | ⟨-, -, ⟨-, rfl⟩ | ⟨-, -, h⟩⟩⟩⟩ := h
    iterate 4 cases hmissing
    obtain h | ⟨_, -, h⟩ := h
    · rw [checkDelegationTarget_refusal h] at hmissing
      cases hmissing
    · cases h

theorem delegationInputs_eq_ok {inputs : DelegationStepInputs}
    (h : delegationInputs scope = .ok inputs) : scope.host.delegation = some inputs := by
  unfold delegationInputs at h
  cases hinputs : scope.host.delegation with
  | none => simp [hinputs] at h
  | some own =>
    simp only [hinputs, except_bind_eq_ok, except_pure_eq_ok] at h
    obtain ⟨_, -, _, -, _, -, _, -, _, -, rfl⟩ := h
    rfl

theorem signatureFromBytes_refusal {sig sighash : Bytes}
    (h : signatureFromBytes sig sighash = .error refusal) : refusal.isMissing = false := by
  simp only [signatureFromBytes, except_bind_eq_error, check_eq_error] at h
  obtain ⟨-, rfl⟩ | ⟨-, -, ⟨-, rfl⟩ | ⟨-, -, h⟩⟩ := h
  · rfl
  · rfl
  · cases h

/-- A signature is missing only where a stored one is asked for and no row has it. -/
theorem signerMaterial_refusal {stored : Except VotingError (List KeystoneSignatureRecord)}
    {bundleIndex : Nat} {signer : DelegationSigner}
    (h : signerMaterial stored bundleIndex signer = .error refusal)
    (hmissing : refusal.isMissing = true) :
    signer = .keystone .stored ∧ ∃ records, stored = .ok records ∧
      ∀ record ∈ records, record.bundleIndex ≠ bundleIndex := by
  cases signer with
  | software => cases h
  | keystone source =>
    cases source with
    | provided sig sighash =>
      cases hsignature : signatureFromBytes sig sighash with
      | ok value => simp [signerMaterial, keystoneSignature, hsignature, Except.map] at h
      | error other =>
        simp only [signerMaterial, keystoneSignature, hsignature, Except.map,
          Except.error.injEq] at h
        rw [← h, signatureFromBytes_refusal hsignature] at hmissing
        cases hmissing
    | stored =>
      refine ⟨rfl, ?_⟩
      cases hstored : stored with
      | error error =>
        simp only [signerMaterial, keystoneSignature, hstored, Except.mapError, Except.map, bind,
          Except.bind, Except.error.injEq] at h
        rw [← h] at hmissing
        cases hmissing
      | ok records =>
        refine ⟨records, rfl, fun record hmem hbundle => ?_⟩
        simp only [signerMaterial, keystoneSignature, hstored, Except.mapError, bind,
          Except.bind] at h
        cases hfind : records.find? (·.bundleIndex = bundleIndex) with
        | none => simpa [hbundle] using List.find?_eq_none.mp hfind record hmem
        | some found =>
          simp only [hfind] at h
          cases hsignature : signatureFromBytes found.sig found.sighash with
          | ok value => simp [hsignature, Except.map] at h
          | error other =>
            simp only [hsignature, Except.map, Except.error.injEq] at h
            rw [← h, signatureFromBytes_refusal hsignature] at hmissing
            cases hmissing

end ZcashVoting.RoundDrive
