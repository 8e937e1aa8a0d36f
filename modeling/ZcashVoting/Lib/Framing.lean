import Mathlib.Data.List.Basic
import Mathlib.Data.Nat.ModEq
import Mathlib.Tactic.Positivity
import Mathlib.Tactic.Ring

/-!
# Lib.Framing

Encodings that delimit themselves: a reader who knows the format finds the end
of an encoded value inside a longer string, so encodings can be put one after
the other and taken apart again.

`Determines` is the notion, over any alphabet: what an encoding followed by
anything at all says about the value.  `Determines.zipIdx` gives the rule for
counted sequences and `flatMap_append_inj` the one for records of known shape.
The second half instantiates the notion for bytes: big-endian integers of fixed
width and values behind their length.
-/

namespace Framing

variable {α β γ : Type}

/-! ## Self-delimiting encodings -/

/-- An encoding determines a key of its value, and where it ends: two encodings
that agree, each with something after it, have equal keys and equal rests. -/
def Determines (ok : α → Prop) (encode : α → List β) (key : α → γ) : Prop :=
  ∀ ⦃a b : α⦄, ok a → ok b → ∀ ⦃s t : List β⦄, encode a ++ s = encode b ++ t → key a = key b ∧ s = t

/-- Encodings of one length that tell keys apart delimit themselves. -/
theorem Determines.of_length {ok : α → Prop} {encode : α → List β} {key : α → γ}
    (hlength : ∀ a b, ok a → ok b → (encode a).length = (encode b).length)
    (hkey : ∀ a b, ok a → ok b → encode a = encode b → key a = key b) :
    Determines ok encode key := by
  intro a b ha hb s t h
  obtain ⟨hencode, hrest⟩ := List.append_inj h (hlength a b ha hb)
  exact ⟨hkey a b ha hb hencode, hrest⟩

/-- Elements one after the other, each under its index, when their number is
known. -/
theorem Determines.zipIdx {ok : α → Prop} {encode : Nat → α → List β} {key : α → γ}
    (helement : ∀ index, Determines ok (encode index) key) :
    ∀ (xs ys : List α) (start : Nat), xs.length = ys.length → (∀ x ∈ xs, ok x) →
      (∀ y ∈ ys, ok y) → ∀ s t : List β,
      (xs.zipIdx start).flatMap (fun (x, index) => encode index x) ++ s =
        (ys.zipIdx start).flatMap (fun (y, index) => encode index y) ++ t →
      xs.map key = ys.map key ∧ s = t := by
  intro xs
  induction xs with
  | nil =>
    intro ys start hlength _ _ s t h
    cases ys with
    | nil => exact ⟨rfl, h⟩
    | cons y ys => cases hlength
  | cons x xs ih =>
    intro ys start hlength hxs hys s t h
    cases ys with
    | nil => cases hlength
    | cons y ys =>
      simp only [List.zipIdx_cons, List.flatMap_cons, List.append_assoc] at h
      obtain ⟨hkey, hrest⟩ := helement start (hxs x (by simp)) (hys y (by simp)) h
      obtain ⟨hkeys, hst⟩ := ih ys (start + 1) (by simpa using hlength)
        (fun x hx => hxs x (by simp [hx])) (fun y hy => hys y (by simp [hy])) s t hrest
      exact ⟨by rw [List.map_cons, List.map_cons, hkey, hkeys], hst⟩

/-- Values one after the other, when each delimits itself once its shape is known
and the shapes are known. -/
theorem flatMap_append_inj {δ : Type} (ok : α → Prop) (shape : α → δ) {encode : α → List β}
    (hencode : ∀ a b, shape a = shape b → ok a → ok b → ∀ s t : List β,
      encode a ++ s = encode b ++ t → a = b ∧ s = t) :
    ∀ xs ys : List α, xs.map shape = ys.map shape → (∀ x ∈ xs, ok x) → (∀ y ∈ ys, ok y) →
      ∀ s t : List β, xs.flatMap encode ++ s = ys.flatMap encode ++ t → xs = ys ∧ s = t := by
  intro xs
  induction xs with
  | nil =>
    intro ys hshape _ _ s t h
    cases ys with
    | nil => exact ⟨rfl, h⟩
    | cons y ys => cases hshape
  | cons x xs ih =>
    intro ys hshape hxs hys s t h
    cases ys with
    | nil => cases hshape
    | cons y ys =>
      obtain ⟨hhead, htail⟩ := List.cons.inj hshape
      simp only [List.flatMap_cons, List.append_assoc] at h
      obtain ⟨rfl, hrest⟩ := hencode x y hhead (hxs x (by simp)) (hys y (by simp)) _ _ h
      obtain ⟨rfl, hst⟩ := ih ys htail (fun x hx => hxs x (by simp [hx]))
        (fun y hy => hys y (by simp [hy])) s t hrest
      exact ⟨rfl, hst⟩

/-! ## Big-endian integers -/

/-- Big-endian encoding in `width` bytes. -/
def beBytes : (width n : Nat) → List UInt8
  | 0, _ => []
  | width + 1, n => beBytes width (n / 256) ++ [UInt8.ofNat (n % 256)]

/-- The value of big-endian bytes. -/
def beValue (bs : List UInt8) : Nat := bs.foldl (fun value b => value * 256 + b.toNat) 0

@[simp] theorem length_beBytes (width n : Nat) : (beBytes width n).length = width := by
  induction width generalizing n with
  | zero => rfl
  | succ width ih => simp [beBytes, ih]

theorem beValue_beBytes {width n : Nat} (h : n < 256 ^ width) : beValue (beBytes width n) = n := by
  induction width generalizing n with
  | zero => simp_all [beBytes, beValue]
  | succ width ih =>
    have hhigh : n / 256 < 256 ^ width := by
      rw [Nat.div_lt_iff_lt_mul (by decide)]
      rwa [pow_succ] at h
    have hlow : (UInt8.ofNat (n % 256)).toNat = n % 256 := by simp
    have hfront : (beBytes width (n / 256)).foldl (fun value b => value * 256 + b.toNat) 0 =
        n / 256 := ih hhigh
    simp only [beBytes, beValue, List.foldl_append, hfront, List.foldl_cons, List.foldl_nil, hlow]
    omega

theorem beBytes_inj {width a b : Nat} (ha : a < 256 ^ width) (hb : b < 256 ^ width)
    (h : beBytes width a = beBytes width b) : a = b := by
  rw [← beValue_beBytes ha, h, beValue_beBytes hb]

/-- The bytes of a number that does not fit are those of its remainder. -/
theorem beBytes_mod (width n : Nat) : beBytes width (n % 256 ^ width) = beBytes width n := by
  induction width generalizing n with
  | zero => rfl
  | succ width ih =>
    have hhigh : n % 256 ^ (width + 1) / 256 = n / 256 % 256 ^ width := by
      rw [pow_succ', Nat.mod_mul_right_div_self]
    have hlow : n % 256 ^ (width + 1) % 256 = n % 256 :=
      Nat.mod_mod_of_dvd n (Dvd.intro_left _ (pow_succ 256 width).symm)
    rw [beBytes, beBytes, hhigh, ih, hlow]

theorem mod_eq_of_beBytes_eq {width a b : Nat} (h : beBytes width a = beBytes width b) :
    a % 256 ^ width = b % 256 ^ width := by
  have hpos : 0 < 256 ^ width := by positivity
  rw [← beBytes_mod width a, ← beBytes_mod width b] at h
  exact beBytes_inj (Nat.mod_lt a hpos) (Nat.mod_lt b hpos) h

theorem foldl_be_lt (bs : List UInt8) (value : Nat) :
    bs.foldl (fun value b => value * 256 + b.toNat) value < (value + 1) * 256 ^ bs.length := by
  induction bs generalizing value with
  | nil => simp
  | cons b bs ih =>
    have hb := b.toNat_lt
    calc (b :: bs).foldl (fun value b => value * 256 + b.toNat) value
        < (value * 256 + b.toNat + 1) * 256 ^ bs.length := ih _
      _ ≤ ((value + 1) * 256) * 256 ^ bs.length := Nat.mul_le_mul_right _ (by omega)
      _ = (value + 1) * 256 ^ (b :: bs).length := by rw [List.length_cons, pow_succ]; ring

theorem beValue_lt (bs : List UInt8) : beValue bs < 256 ^ bs.length := by
  simpa [beValue] using foldl_be_lt bs 0

/-- What follows strings of one length does not change their order. -/
theorem append_lt_append {a b : List UInt8} (h : a < b) (hlength : a.length = b.length)
    (s t : List UInt8) : a ++ s < b ++ t := by
  induction h with
  | nil => simp at hlength
  | cons _ ih => exact .cons (ih (by simpa using hlength))
  | rel hlt => exact .rel hlt

/-- Big-endian integers of one width are ordered as their values. -/
theorem beBytes_lt {width a b : Nat} (hb : b < 256 ^ width) (h : a < b) :
    beBytes width a < beBytes width b := by
  induction width generalizing a b with
  | zero => simp at hb; omega
  | succ width ih =>
    have hhigh : b / 256 < 256 ^ width := by
      rw [Nat.div_lt_iff_lt_mul (by decide)]
      rwa [pow_succ] at hb
    rw [beBytes, beBytes]
    by_cases heq : a / 256 = b / 256
    · rw [heq]
      refine List.append_left_lt (.rel ?_)
      rw [UInt8.lt_iff_toNat_lt]
      simp
      omega
    · exact append_lt_append (ih hhigh (by omega)) (by simp) _ _

/-- A fixed-width integer delimits itself. -/
theorem determines_beBytes (width : Nat) :
    Determines (· < 256 ^ width) (beBytes width) id :=
  .of_length (by simp) fun _ _ ha hb h => beBytes_inj ha hb h

/-! ## Values behind their length -/

/-- A value behind its length in `width` bytes. -/
def framed (width : Nat) (value : List UInt8) : List UInt8 := beBytes width value.length ++ value

/-- A value behind its length delimits itself. -/
theorem determines_framed (width : Nat) :
    Determines (fun value => value.length < 256 ^ width) (framed width) id := by
  intro a b ha hb s t h
  simp only [framed, List.append_assoc] at h
  obtain ⟨hlength, hrest⟩ := determines_beBytes width ha hb h
  exact List.append_inj hrest hlength

/-- So does a value of any length, if the lengths of what follows are not too far apart. -/
theorem framed_append_inj {width : Nat} {a b s t : List UInt8}
    (h : framed width a ++ s = framed width b ++ t) (hs : s.length < t.length + 256 ^ width)
    (ht : t.length < s.length + 256 ^ width) : a = b ∧ s = t := by
  simp only [framed, List.append_assoc] at h
  have htotal := congrArg List.length h
  simp only [List.length_append, length_beBytes] at htotal
  obtain ⟨hpre, hrest⟩ := List.append_inj h (by simp)
  have hmod := mod_eq_of_beBytes_eq hpre
  -- two lengths with one remainder that are less than the modulus apart
  have hlength : a.length = b.length := by
    rcases Nat.le_total a.length b.length with hle | hle
    · have := (Nat.modEq_iff_dvd' hle).mp hmod
      have := Nat.eq_zero_of_dvd_of_lt this (by omega)
      omega
    · have := (Nat.modEq_iff_dvd' hle).mp hmod.symm
      have := Nat.eq_zero_of_dvd_of_lt this (by omega)
      omega
  exact List.append_inj hrest hlength

end Framing
