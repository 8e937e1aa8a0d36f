import ZcashVoting.Helper.Url

/-!
# ZcashVoting.Helper.UrlIdentity

What makes the canonical form of a helper's URL an identity: a canonical URL is its own
canonical form, and a list of URLs names every helper once.

The first does not hold for every URL that is accepted.  One dot is taken off the end of the
host, so a host that ends in two dots is changed again by the next canonicalization.
-/

namespace ZcashVoting

open Transaction

/-! ## Texts -/

section

variable {U : UrlCrate}

/-- A base URL of the web. -/
structure UrlCrate.Plain (url : U.Url) : Prop where
  scheme : U.scheme url = "http" ∨ U.scheme url = "https"
  username : U.username url = ""
  password : U.password url = none
  query : U.query url = none
  fragment : U.fragment url = none

/-- What the code relies on in the `url` crate.  `origin` is what a serialization has before
the path. -/
structure UrlCrate.Lawful (U : UrlCrate) (origin : U.Url → String) : Prop where
  /-- Parsing a serialization is stable. -/
  parse_asStr : ∀ url, U.parse (U.asStr url) = .ok url
  asStr_eq : ∀ url : U.Url, Plain url → U.asStr url = origin url ++ U.path url
  /-- The root path may be left out. -/
  parse_origin : ∀ url : U.Url, Plain url → U.parse (origin url) = U.parse (origin url ++ "/")
  origin_last : ∀ url : U.Url, Plain url → ∃ front last, (origin url).toList = front ++ [last] ∧
    last ≠ '/'
  not_white : ∀ url, ∀ c ∈ (U.asStr url).toList, isWhiteSpace c = false
  /-- Setting the path changes nothing else. -/
  setPath : ∀ (url : U.Url) (path : String), Plain url → Plain (U.setPath url path) ∧
    origin (U.setPath url path) = origin url ∧ U.scheme (U.setPath url path) = U.scheme url ∧
    U.domain (U.setPath url path) = U.domain url ∧ U.port (U.setPath url path) = U.port url
  setPath_path : ∀ url : U.Url, Plain url → U.setPath url (U.path url) = url
  /-- A path is kept as it is set if it is the root, the path of a URL without slashes at its
  end, or one with its escapes normalised. -/
  path_setPath : ∀ (url : U.Url) (path : String), Plain url →
    path = "/" ∨ path = trimEndSlashes (U.path url) ∧ path ≠ "" ∨
      normalizePercentEscapes (U.path url).toList = .ok path.toList →
    U.path (U.setPath url path) = path
  /-- A host without its last dot is that domain, or an address. -/
  setHost : ∀ (url url' : U.Url) (domain : String), Plain url →
    U.setHost url domain = .ok url' → Plain url' ∧
    ∀ other, U.domain url' = some other → other = domain
  clearPort : ∀ url url' : U.Url, Plain url → U.clearPort url = .ok url' → Plain url' ∧
    U.scheme url' = U.scheme url ∧ U.domain url' = U.domain url ∧ U.port url' = none

/-! ## Canonical URLs -/

/-- The port that `dropDefaultPort` looks for. -/
def defaultPort (scheme : String) : Option Nat :=
  if scheme = "http" then some 80 else if scheme = "https" then some 443 else none

/-- A URL that canonicalization does not change, the dot at the end of its host and slashes at
its end apart. -/
structure UrlCrate.Tidy (url : U.Url) : Prop extends Plain url where
  port : U.port url ≠ defaultPort (U.scheme url)
  path : normalizePercentEscapes (U.path url).toList = .ok (U.path url).toList

open UrlCrate

variable {origin : U.Url → String} {url : U.Url} {value canonical : String}

/-- The path may be set to one that is normal and kept. -/
theorem UrlCrate.Tidy.setPath (hU : U.Lawful origin) (h : Tidy url) {path : String}
    (hkept : U.path (U.setPath url path) = path)
    (hnormal : normalizePercentEscapes path.toList = .ok path.toList) :
    Tidy (U.setPath url path) ∧ U.domain (U.setPath url path) = U.domain url := by
  obtain ⟨hplain, -, hscheme, hdomain, hport⟩ := hU.setPath url path h.toPlain
  refine ⟨⟨hplain, ?_, by rw [hkept, hnormal]⟩, hdomain⟩
  rw [hport, hscheme]
  exact h.port

theorem canonicalUrls_subset {seen urls list : List String}
    (h : canonicalUrls U seen urls = .ok list) : seen ⊆ list := by
  induction urls generalizing seen with
  | nil =>
    cases h
    exact List.Subset.refl _
  | cons url urls ih =>
    rw [canonicalUrls] at h
    obtain ⟨own, hown, h⟩ := except_bind_eq_ok.mp h
    refine List.Subset.trans ?_ (ih h)
    split <;> simp

/-- A list names the canonical form of each URL once. -/
theorem canonicalUrls_spec {seen urls list : List String}
    (h : canonicalUrls U seen urls = .ok list) (hseen : seen.Nodup) :
    list.Nodup ∧ (∀ url ∈ urls, ∃ canonical ∈ list, canonicalizeHelperBaseUrl U url = .ok canonical) ∧
      ∀ canonical ∈ list, canonical ∈ seen ∨
        ∃ url ∈ urls, canonicalizeHelperBaseUrl U url = .ok canonical := by
  induction urls generalizing seen with
  | nil =>
    cases h
    exact ⟨hseen, by simp, fun _ => .inl⟩
  | cons url urls ih =>
    rw [canonicalUrls] at h
    obtain ⟨own, hown, h⟩ := except_bind_eq_ok.mp h
    have hnext : (if own ∈ seen then seen else seen ++ [own]).Nodup := by
      split
      · exact hseen
      · next hnew => exact List.nodup_append.mpr ⟨hseen, by simp, by grind⟩
    obtain ⟨hnodup, hall, hfrom⟩ := ih h hnext
    have hkept : own ∈ list := canonicalUrls_subset h (by split <;> simp_all)
    refine ⟨hnodup, List.forall_mem_cons.mpr ⟨⟨own, hkept, hown⟩, hall⟩, fun canonical hmem => ?_⟩
    rcases hfrom canonical hmem with hmem | ⟨other, hother, heq⟩
    · have hcases : canonical ∈ seen ∨ canonical = own := by
        split at hmem <;> simp_all
      exact hcases.imp_right fun heq => ⟨url, List.mem_cons_self, by rw [heq, hown]⟩
    · exact .inr ⟨other, List.mem_cons_of_mem _ hother, heq⟩

end

/-! ## A host that ends in two dots -/

open UrlCrate

/-- There is no whitespace. -/
def visible (text : List Char) : Bool := text.all (!isWhiteSpace ·)

theorem visible_iff {text : List Char} :
    visible text = true ↔ ∀ c ∈ text, isWhiteSpace c = false := by
  simp [visible]

/-- An `http` URL with a host and a path. -/
@[ext]
structure PlainUrl where
  host : List Char
  path : List Char
  host_ne : host ≠ []
  slash : '/' ∉ host
  root : path.head? = some '/'
  percent : '%' ∉ path
  white : visible (host ++ path) = true

namespace PlainUrl

def httpScheme : List Char := ['h', 't', 't', 'p', ':', '/', '/']

/-- The path may be left out. -/
def parse (text : String) : Except String PlainUrl :=
  let body := text.toList.drop 7
  let host := body.takeWhile (· ≠ '/')
  let path := if body.dropWhile (· ≠ '/') = [] then ['/'] else body.dropWhile (· ≠ '/')
  if h : text.toList.take 7 = httpScheme ∧ host ≠ [] ∧ '/' ∉ host ∧
      path.head? = some '/' ∧ '%' ∉ path ∧ visible (host ++ path) then
    .ok ⟨host, path, h.2.1, h.2.2.1, h.2.2.2.1, h.2.2.2.2.1, h.2.2.2.2.2⟩
  else .error "relative URL without a base"

def setHost (url : PlainUrl) (domain : String) : Except String PlainUrl :=
  if h : domain.toList ≠ [] ∧ '/' ∉ domain.toList ∧ visible (domain.toList ++ url.path) then
    .ok { url with host := domain.toList, host_ne := h.1, slash := h.2.1, white := h.2.2 }
  else .error "empty host"

def setPath (url : PlainUrl) (path : String) : PlainUrl :=
  if h : path.toList.head? = some '/' ∧ '%' ∉ path.toList ∧
      visible (url.host ++ path.toList) then
    { url with path := path.toList, root := h.1, percent := h.2.1, white := h.2.2 }
  else url

def origin (url : PlainUrl) : String := String.ofList (httpScheme ++ url.host)

/-- A path that could be one is kept. -/
theorem path_setPath (url : PlainUrl) {path : String} (hroot : path.toList.head? = some '/')
    (hpercent : '%' ∉ path.toList) (hwhite : ∀ c ∈ path.toList, isWhiteSpace c = false) :
    (url.setPath path).path = path.toList := by
  have hall : visible (url.host ++ path.toList) = true := visible_iff.mpr
    (List.forall_mem_append.mpr ⟨(List.forall_mem_append.mp (visible_iff.mp url.white)).1, hwhite⟩)
  rw [setPath, dif_pos ⟨hroot, hpercent, hall⟩]

end PlainUrl

end ZcashVoting
