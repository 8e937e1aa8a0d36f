import Mathlib.Data.Nat.Cast.Basic
import Mathlib.Data.List.Basic

/-!
# ZcashVoting.Types

The scalar types every layer shares: byte strings of fixed width, networks,
proposal identifiers, and the crate's error type with the texts it displays.

Round identifiers are the 32 bytes themselves.  The tables hold them as their
canonical lowercase hex text, which determines the bytes and is only ever
compared for equality; `hex` is that text where an error message shows it.
-/

namespace ZcashVoting

/-! ## Byte strings -/

abbrev Bytes := List UInt8

/-- `[u8; 32]`. -/
abbrev Bytes32 := { bs : Bytes // bs.length = 32 }

/-- `[u8; 64]`. -/
abbrev Bytes64 := { bs : Bytes // bs.length = 64 }

/-- The array with every byte equal to `b`, as in `[b; 32]`. -/
def Bytes32.fill (b : UInt8) : Bytes32 := ⟨List.replicate 32 b, List.length_replicate⟩

/-- The array with every byte equal to `b`, as in `[b; 64]`. -/
def Bytes64.fill (b : UInt8) : Bytes64 := ⟨List.replicate 64 b, List.length_replicate⟩

/-- `hex::encode`. -/
def hex (bs : Bytes) : String :=
  String.ofList (bs.flatMap fun b => [Nat.digitChar (b.toNat / 16), Nat.digitChar (b.toNat % 16)])

/-- UTF-8 bytes of a text. -/
def utf8 (s : String) : Bytes := s.toUTF8.data.toList

/-- The little-endian value of a byte string. -/
def leValue : Bytes → Nat
  | [] => 0
  | b :: bs => b.toNat + 256 * leValue bs

/-- The little-endian bytes of a number, as many as asked for (`to_le_bytes`). -/
def leBytes : (width n : Nat) → Bytes
  | 0, _ => []
  | width + 1, n => UInt8.ofNat (n % 256) :: leBytes width (n / 256)

@[simp] theorem length_leBytes (width n : Nat) : (leBytes width n).length = width := by
  induction width generalizing n with
  | zero => rfl
  | succ width ih => simp [leBytes, ih]

theorem leValue_leBytes {width n : Nat} (h : n < 256 ^ width) : leValue (leBytes width n) = n := by
  induction width generalizing n with
  | zero => simp_all [leBytes, leValue]
  | succ width ih =>
    have hhigh : n / 256 < 256 ^ width := by
      rw [Nat.div_lt_iff_lt_mul (by decide)]
      rwa [Nat.pow_succ] at h
    have hlow : (UInt8.ofNat (n % 256)).toNat = n % 256 := by simp
    rw [leBytes, leValue, ih hhigh, hlow]
    omega

/-! ## Texts -/

/-- The characters `str::trim` removes (Unicode `White_Space`). -/
def isWhiteSpace (c : Char) : Bool :=
  let n := c.toNat
  (9 ≤ n && n ≤ 13) || n = 32 || n = 0x85 || n = 0xA0 || n = 0x1680 ||
    (0x2000 ≤ n && n ≤ 0x200A) || n = 0x2028 || n = 0x2029 || n = 0x202F || n = 0x205F || n = 0x3000

/-- `str::trim`. -/
def trim (text : String) : String :=
  String.ofList
    ((text.toList.dropWhile isWhiteSpace).reverse.dropWhile isWhiteSpace).reverse

/-- The value of a hexadecimal digit. -/
def hexDigit (c : Char) : Option Nat :=
  if c.isDigit then some (c.toNat - '0'.toNat)
  else if 'a' ≤ c ∧ c ≤ 'f' then some (c.toNat - 'a'.toNat + 10)
  else if 'A' ≤ c ∧ c ≤ 'F' then some (c.toNat - 'A'.toNat + 10)
  else none

/-! ## Machine bounds -/

/-- `i64::MAX`, the largest value SQLite stores in an integer column. -/
def i64Max : Nat := 2 ^ 63 - 1

/-- The bytes of the largest blob SQLite binds (`SQLITE_MAX_LENGTH`). -/
def sqliteMaxLength : Nat := 1000000000

/-- `u64::MAX`. -/
def u64Max : Nat := 2 ^ 64 - 1

/-- `usize::MAX` on a 64-bit target. -/
def usizeMax : Nat := 2 ^ 64 - 1

/-- `isize::MAX` on a 64-bit target: no slice has more bytes. -/
def isizeMax : Nat := 2 ^ 63 - 1

/-- `u32::MAX`. -/
def u32Max : Nat := 2 ^ 32 - 1

/-- `u64`. -/
abbrev U64 := { n : Nat // n ≤ u64Max }

/-- `u32`. -/
abbrev U32 := { n : Nat // n ≤ u32Max }

/-- The low 64 bits of a number. -/
def U64.ofNat (n : Nat) : U64 := ⟨n % 2 ^ 64, Nat.le_sub_one_of_lt (Nat.mod_lt n (Nat.two_pow_pos 64))⟩

/-- The low 32 bits of a number. -/
def U32.ofNat (n : Nat) : U32 := ⟨n % 2 ^ 32, Nat.le_sub_one_of_lt (Nat.mod_lt n (Nat.two_pow_pos 32))⟩

instance (n : Nat) : OfNat U64 n := ⟨.ofNat n⟩

instance (n : Nat) : OfNat U32 n := ⟨.ofNat n⟩

/-- The modulus of the Pallas base field. -/
def pallasModulus : Nat := 0x40000000000000000000000000000000224698fc094cf91b992d30ed00000001

/-- Leaves of the vote commitment tree (`TREE_CAPACITY`). -/
def treeCapacity : Nat := 2 ^ 24

/-- `MIN_PROPOSAL_ID`. -/
def minProposalId : Nat := 1

/-- `MAX_PROPOSAL_ID`. -/
def maxProposalId : Nat := 50

/-- `MAX_VOTE_BATCH_ACTIONS`. -/
def maxVoteBatchActions : Nat := maxProposalId

/-! ## Networks -/

inductive Network where
  | testnet
  | mainnet
  | regtest
  deriving DecidableEq, Repr

/-- `network_name`. -/
def networkName : Network → String
  | .mainnet => "mainnet"
  | .testnet => "testnet"
  | .regtest => "regtest"

theorem networkName_injective : Function.Injective networkName := by
  intro a b h
  cases a <;> cases b <;> first | rfl | (exact absurd h (by decide))

/-! ## Errors -/

/-- `DelegationSetupField`: a setup column that write-once persistence refuses to
overwrite. -/
inductive DelegationSetupField where
  | paddedNoteSecrets
  | pcztSighash
  | tx1Effects
  | delegationPczt
  deriving DecidableEq, Repr

/-- `DelegationSetupField::column_name`. -/
def DelegationSetupField.columnName : DelegationSetupField → String
  | .paddedNoteSecrets => "padded_note_secrets"
  | .pcztSighash => "pczt_sighash"
  | .tx1Effects => "tx1_effects"
  | .delegationPczt => "delegation_pczt"

/-- The variants of the crate's error type that the modelled code raises. -/
inductive VotingError where
  | invalidInput (message : String)
  | busy (message : String)
  | storage (message : String)
  | internal (message : String)
  | setupAlreadyPersisted (roundId : String) (bundleIndex : Nat) (field : DelegationSetupField)
  | delegationAlreadyBroadcast (bundleIndex : Nat) (evidence : String)
  deriving DecidableEq, Repr

/-- The displayed text of an error. -/
def VotingError.display : VotingError → String
  | .invalidInput message => "Invalid input: " ++ message
  | .busy message => "Voting state is busy: " ++ message
  | .storage message => "Storage error: " ++ message
  | .internal message => "Internal error: " ++ message
  | .setupAlreadyPersisted roundId bundleIndex field =>
    let column := field.columnName
    s!"refusing to overwrite {column} for round={roundId}, bundle={bundleIndex}"
  | .delegationAlreadyBroadcast bundleIndex evidence =>
    s!"delegation for bundle {bundleIndex} may already be on chain ({evidence}), so its recovery state was kept"

end ZcashVoting
