import Mathlib.Data.Nat.Cast.Basic
import Mathlib.Tactic.Common

/-!
# Lib.JsonFormat

JSON documents, and how values are read from them as derived deserializers read them.

A record is an object with the keys of its fields in any order and others among them, or an
array of the fields in their order; `recordFields` finds what a document holds for each field.
A field that is missing has a default, or none where it is optional.
-/

namespace JsonFormat

inductive Json where
  | null
  | bool (b : Bool)
  | nat (n : Nat)
  /-- Any other number, by its literal. -/
  | number (literal : String)
  | str (text : String)
  | arr (elements : List Json)
  | obj (entries : List (String × Json))

/-! ## Values -/

namespace Json

/-- A number up to a bound. -/
def bounded (max : Nat) : Json → Option { n : Nat // n ≤ max }
  | .nat n => if h : n ≤ max then some ⟨n, h⟩ else none
  | _ => none

def string : Json → Option String
  | .str text => some text
  | _ => none

/-- A sequence. -/
def vec {α : Type} (decode : Json → Option α) : Json → Option (List α)
  | .arr elements => elements.mapM decode
  | _ => none

end Json

/-! ## Fields of records -/

section Fields

variable {α : Type} (decode : Json → Option α)

/-- A field that has a default value where it is missing. -/
def defaulted (default : α) (value : Option Json) : Option α :=
  value.elim (some default) decode

/-- A field that may be missing or `null`. -/
def optional : Option Json → Option (Option α)
  | none | some .null => some none
  | some j => (decode j).map some

end Fields

/-! ## Records -/

/-- The value of a key, if it is there; a key that is there twice is refused. -/
def lookupField (entries : List (String × Json)) (name : String) : Option (Option Json) :=
  match entries.filter (·.1 = name) with
  | [] => some none
  | [entry] => some (some entry.2)
  | _ => none

/-- What a document holds for each field of a record. -/
def recordFields (names : List String) : Json → Option (List (Option Json))
  | .obj entries => names.mapM (lookupField entries)
  | .arr elements =>
    if elements.length ≤ names.length then
      some (elements.map some ++ List.replicate (names.length - elements.length) none)
    else none
  | _ => none

end JsonFormat
