import Mathlib.Data.List.DropRight
import Mathlib.Data.List.Nodup
import ZcashVoting.Lib.Transaction
import ZcashVoting.Types

/-!
# ZcashVoting.Helper.Url

The identity of a helper server.  Every spelling of a helper's base URL has one canonical
form, and delivery history is kept by that form.  Parsing and serialising URLs is the
`url` crate's, which is a parameter.
-/

namespace ZcashVoting

open Transaction

/-- What the code uses of the `url` crate. -/
structure UrlCrate where
  Url : Type
  parse : String → Except String Url
  scheme : Url → String
  username : Url → String
  password : Url → Option String
  query : Url → Option String
  fragment : Url → Option String
  /-- The host, if it is a domain. -/
  domain : Url → Option String
  setHost : Url → String → Except String Url
  port : Url → Option Nat
  /-- `set_port(None)`. -/
  clearPort : Url → Except Unit Url
  path : Url → String
  setPath : Url → String → Url
  asStr : Url → String

/-! ## Texts -/

/-- `str::trim_end_matches('/')`. -/
def trimEndSlashes (text : String) : String :=
  String.ofList (text.toList.rdropWhile (· = '/'))

/-- `str::strip_suffix('.')`. -/
def stripDotSuffix (domain : String) : Option String :=
  if domain.toList.getLast? = some '.' then some (String.ofList domain.toList.dropLast) else none

/-- The unreserved characters, which are never escaped. -/
def isUnreserved (value : Nat) : Bool :=
  (48 ≤ value && value ≤ 57) || (65 ≤ value && value ≤ 90) || (97 ≤ value && value ≤ 122) ||
    value = 45 || value = 46 || value = 95 || value = 126

/-- One of `0123456789ABCDEF`. -/
def upperHexDigit (value : Nat) : Char :=
  if value < 10 then Char.ofNat (48 + value) else Char.ofNat (65 + (value - 10))

/-- `normalize_percent_escapes`. -/
def normalizePercentEscapes : List Char → Except Unit (List Char)
  | [] => .ok []
  | '%' :: high :: low :: rest =>
    match hexDigit high, hexDigit low with
    | some high, some low => do
      let normalized ← normalizePercentEscapes rest
      let value := 16 * high + low
      return if isUnreserved value then Char.ofNat value :: normalized
        else '%' :: upperHexDigit high :: upperHexDigit low :: normalized
    | _, _ => .error ()
  | '%' :: _ => .error ()
  | c :: rest => do
    let normalized ← normalizePercentEscapes rest
    return c :: normalized

/-! ## Canonical helper URLs -/

section

variable (U : UrlCrate)

/-- A host that ends in a dot loses it. -/
def stripHostDot (trimmed : String) (url : U.Url) : Except VotingError U.Url :=
  match (U.domain url).bind stripDotSuffix with
  | none => .ok url
  | some domain => (U.setHost url domain).mapError fun error =>
      .invalidInput s!"invalid helper server host in {trimmed}: {error}"

/-- The scheme's default port is not written. -/
def dropDefaultPort (trimmed : String) (url : U.Url) : Except VotingError U.Url :=
  let defaultPort := if U.scheme url = "http" then some 80
    else if U.scheme url = "https" then some 443 else none
  if U.port url = defaultPort then
    (U.clearPort url).mapError fun _ => .invalidInput s!"invalid helper server port in {trimmed}"
  else .ok url

/-- `canonicalize_helper_base_url`. -/
def canonicalizeHelperBaseUrl (value : String) : Except VotingError String := do
  let trimmed := trim value
  let quoted := trimmed.quote
  let url ← (U.parse trimmed).mapError fun error =>
    VotingError.invalidInput s!"invalid helper server url {quoted}: {error}"
  check (U.scheme url = "http" || U.scheme url = "https")
    (.invalidInput s!"helper server url must be http or https, got {trimmed}")
  check (U.username url = "" && (U.password url).isNone)
    (.invalidInput "helper server url must not contain credentials")
  check ((U.query url).isNone && (U.fragment url).isNone)
    (.invalidInput "helper server url must not contain a query or fragment")
  let url ← stripHostDot U trimmed url
  let url ← dropDefaultPort U trimmed url
  let path ← (normalizePercentEscapes (U.path url).toList).mapError fun _ =>
    VotingError.invalidInput s!"invalid percent escape in helper server path {quoted}"
  let url := U.setPath url (String.ofList path)
  return trimEndSlashes (U.asStr url)

/-- The loop of `canonical_helper_url_list`. -/
def canonicalUrls (canonical : List String) : List String → Except VotingError (List String)
  | [] => .ok canonical
  | url :: urls => do
    let url ← canonicalizeHelperBaseUrl U url
    canonicalUrls (if url ∈ canonical then canonical else canonical ++ [url]) urls

/-- `canonical_helper_url_list`. -/
def canonicalHelperUrlList (urls : List String) : Except VotingError (List String) :=
  canonicalUrls U [] urls

/-- The URLs are valid and name different helpers, by the canonical form `canonical`. -/
structure CanonicallyDistinct (urls : List String) (canonical : String → String) : Prop where
  valid : ∀ url ∈ urls, canonicalizeHelperBaseUrl U url = .ok (canonical url)
  distinct : (urls.map canonical).Nodup

end

section

variable {U : UrlCrate} {urls : List String} {canonical : String → String}

theorem CanonicallyDistinct.of_subset {part : List String} (h : CanonicallyDistinct U urls canonical)
    (hsub : part ⊆ urls) (hnodup : part.Nodup) : CanonicallyDistinct U part canonical where
  valid := fun url hurl => h.valid url (hsub hurl)
  distinct := (List.nodup_map_iff_inj_on hnodup).mpr fun _ ha _ hb heq =>
    List.inj_on_of_nodup_map h.distinct (hsub ha) (hsub hb) heq

theorem canonicalUrls_eq_ok {seen : List String}
    (hvalid : ∀ url ∈ urls, canonicalizeHelperBaseUrl U url = .ok (canonical url))
    (hdistinct : (seen ++ urls.map canonical).Nodup) :
    canonicalUrls U seen urls = .ok (seen ++ urls.map canonical) := by
  induction urls generalizing seen with
  | nil => simp [canonicalUrls]
  | cons url urls ih =>
    have hfresh : canonical url ∉ seen := by
      intro hmem
      exact (List.disjoint_of_nodup_append hdistinct) hmem (by simp)
    have happend : seen ++ (url :: urls).map canonical =
        (seen ++ [canonical url]) ++ urls.map canonical := by simp
    rw [happend] at hdistinct ⊢
    rw [canonicalUrls, hvalid url List.mem_cons_self]
    simp only [hfresh, if_false, bind, Except.bind]
    exact ih (fun other hother => hvalid other (List.mem_cons_of_mem _ hother)) hdistinct

/-- A list of different helpers is canonicalised entry by entry. -/
theorem CanonicallyDistinct.list (h : CanonicallyDistinct U urls canonical) :
    canonicalHelperUrlList U urls = .ok (urls.map canonical) := by
  rw [canonicalHelperUrlList, canonicalUrls_eq_ok h.valid (by simpa using h.distinct), List.nil_append]

end

/-- Spellings that differ in surrounding whitespace are one helper. -/
theorem canonicalizeHelperBaseUrl_congr {a b : String} (h : trim a = trim b) (U : UrlCrate) :
    canonicalizeHelperBaseUrl U a = canonicalizeHelperBaseUrl U b := by
  unfold canonicalizeHelperBaseUrl
  rw [h]

/-- URLs that are already in canonical form. -/
def sampleUrls : UrlCrate where
  Url := String
  parse := .ok
  scheme := fun _ => "https"
  username := fun _ => ""
  password := fun _ => none
  query := fun _ => none
  fragment := fun _ => none
  domain := fun _ => none
  setHost := fun url _ => .ok url
  port := fun _ => none
  clearPort := .ok
  path := fun _ => ""
  setPath := fun url _ => url
  asStr := id

end ZcashVoting
