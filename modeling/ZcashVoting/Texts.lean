import Mathlib.Algebra.BigOperators.Group.List.Basic
import Mathlib.Algebra.Order.Group.Nat
import Mathlib.Data.String.Basic
import ZcashVoting.Types

/-!
# ZcashVoting.Texts

How numbers and bytes are spelled in texts: hexadecimal digits, in either case or only in
the lower one, and decimal numbers as Rust parses them.
-/

namespace ZcashVoting

/-! ## Hexadecimal digits -/

/-- The bytes of a text of hexadecimal digit pairs. -/
def hexBytes : List Char → Option Bytes
  | [] => some []
  | high :: low :: rest => do
    let high ← hexDigit high
    let low ← hexDigit low
    let rest ← hexBytes rest
    return UInt8.ofNat (16 * high + low) :: rest
  | [_] => none

/-- Whether a character is a hexadecimal digit is decided within ASCII. -/
theorem hexDigit_ascii : ∀ k < 128, ∀ n < 16,
    (hexDigit (Char.ofNat k) = some n ↔ (Char.ofNat k).toLower = Nat.digitChar n) := by
  decide +kernel

theorem hexDigit_eq_some {c : Char} {n : Nat} :
    hexDigit c = some n ↔ n < 16 ∧ c.toLower = Nat.digitChar n := by
  by_cases hc : c.toNat < 128
  · have hbound : ∀ k < 128, ∀ n ∈ hexDigit (Char.ofNat k), n < 16 := by decide +kernel
    have hascii := hexDigit_ascii c.toNat hc n
    have hn := hbound c.toNat hc n
    rw [Char.ofNat_toNat] at hascii hn
    exact ⟨fun h => ⟨hn h, (hascii (hn h)).mp h⟩, fun h => (hascii h.1).mpr h.2⟩
  · -- Neither side holds beyond ASCII.
    have hle : ∀ d : Char, d.toNat < 128 → ¬ c ≤ d := fun d hd h =>
      hc ((UInt32.le_iff_toNat_le.mp h).trans_lt hd)
    have hlower : c.toLower = c := by
      delta Char.toLower
      rw [dif_neg]
      exact fun h => hle 'Z' (by decide) h.2
    have hdigit : ∀ n < 16, (Nat.digitChar n).toNat < 128 := by decide
    have hnone : hexDigit c = none := by
      have h9 : c.isDigit = false := by
        simp only [Char.isDigit, Bool.and_eq_false_iff, decide_eq_false_iff_not]
        exact .inr (hle '9' (by decide))
      simp [hexDigit, h9, hle 'f' (by decide), hle 'F' (by decide)]
    rw [hnone, hlower]
    simp only [reduceCtorEq, false_iff, not_and]
    exact fun hn h => hc (h ▸ hdigit n hn)

/-- A byte is its two hexadecimal digits. -/
theorem ofNat_hexDigits {b : UInt8} {high low : Nat} (hhigh : high < 16) (hlow : low < 16) :
    UInt8.ofNat (16 * high + low) = b ↔ high = b.toNat / 16 ∧ low = b.toNat % 16 := by
  rw [← UInt8.toNat_inj, UInt8.toNat_ofNat', Nat.mod_eq_of_lt (by omega)]
  have := b.toNat_lt
  omega

theorem hexBytes_eq_some {cs : List Char} {bytes : Bytes} :
    hexBytes cs = some bytes ↔ cs.map Char.toLower = (hex bytes).toList := by
  rw [hex, String.toList_ofList]
  fun_induction hexBytes cs generalizing bytes with
  | case1 => cases bytes <;> simp
  | case2 high low rest ih =>
    simp only [bind, Option.bind_eq_some_iff, hexDigit_eq_some, ih, pure, Option.some.injEq]
    constructor
    · rintro ⟨h, ⟨hh, hhigh⟩, l, ⟨hl, hlow⟩, tail, htail, rfl⟩
      obtain ⟨hh', hl'⟩ := (ofNat_hexDigits hh hl).mp rfl
      simp only [List.map_cons, List.flatMap_cons, hhigh, hlow, htail]
      rw [← hh', ← hl']
      rfl
    · intro h
      cases bytes with
      | nil => simp at h
      | cons b bytes =>
        simp only [List.map_cons, List.flatMap_cons, List.cons_append, List.nil_append,
          List.cons.injEq] at h
        have hb := b.toNat_lt
        have hh : b.toNat / 16 < 16 := by omega
        have hl : b.toNat % 16 < 16 := by omega
        exact ⟨_, ⟨hh, h.1⟩, _, ⟨hl, h.2.1⟩, bytes, h.2.2,
          congrArg (· :: bytes) ((ofNat_hexDigits hh hl).mpr ⟨rfl, rfl⟩)⟩
  | case3 c => cases bytes <;> simp

end ZcashVoting
