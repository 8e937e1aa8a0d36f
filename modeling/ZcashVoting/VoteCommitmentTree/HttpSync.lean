import ZcashVoting.Lib.JsonFormat
import ZcashVoting.Lib.Transaction
import ZcashVoting.VoteCommitmentTree.Client

/-!
# ZcashVoting.VoteCommitmentTree.HttpSync

The client's server over HTTP: the JSON of the commitment-tree endpoints and what becomes of it
in the tree states and pages that a sync reads.

Indices, leaves and roots are those of the response.  Heights and cursors are 64-bit numbers in
the response and 32-bit numbers in what is returned, and the cast between them drops their high
bits, so that a cursor may even become the zero that ends the pagination.
-/

namespace ZcashVoting.VoteCommitmentTree

open JsonFormat SyncApi Transaction

/-! ## Responses -/

/-- `ChainTreeState`. -/
structure ChainTreeState where
  nextIndex : U64
  root : Option String
  height : U64

/-- `ChainBlockCommitments`. -/
structure ChainBlockCommitments where
  height : U64
  startIndex : U64
  leaves : List String
  root : Option String

/-- `QueryCommitmentLeavesResponse`. -/
structure QueryCommitmentLeavesResponse where
  blocks : List ChainBlockCommitments
  nextFromHeight : U64

/-- A `u64` that is zero where it is left out. -/
def u64OrZero : Option Json → Option U64 := defaulted (Json.bounded u64Max) 0

/-- The derived deserializer of `ChainTreeState`. -/
def chainTreeState (document : Json) : Option ChainTreeState := do
  match ← recordFields ["next_index", "root", "height"] document with
  | [nextIndex, root, height] =>
    return {
      nextIndex := ← u64OrZero nextIndex
      root := ← optional Json.string root
      height := ← u64OrZero height }
  | _ => none

/-- The derived deserializer of `ChainBlockCommitments`. -/
def chainBlockCommitments (document : Json) : Option ChainBlockCommitments := do
  match ← recordFields ["height", "start_index", "leaves", "root"] document with
  | [height, startIndex, leaves, root] =>
    return {
      height := ← u64OrZero height
      startIndex := ← u64OrZero startIndex
      leaves := ← defaulted (Json.vec Json.string) [] leaves
      root := ← optional Json.string root }
  | _ => none

/-- The derived deserializer of `QueryCommitmentLeavesResponse`. -/
def queryCommitmentLeavesResponse (document : Json) : Option QueryCommitmentLeavesResponse := do
  match ← recordFields ["blocks", "next_from_height"] document with
  | [blocks, nextFromHeight] =>
    return {
      blocks := ← defaulted (Json.vec chainBlockCommitments) [] blocks
      nextFromHeight := ← u64OrZero nextFromHeight }
  | _ => none

/-- The derived deserializer of `QueryLatestTreeResponse`, by its only field.  It has no default,
so an array must have it. -/
def queryLatestTreeResponse : Json → Option (Option ChainTreeState)
  | .obj entries => (lookupField entries "tree").bind (optional chainTreeState)
  | .arr [tree] => optional chainTreeState (some tree)
  | _ => none

/-! ## Conversions -/

/-- `ParseError`; the error of the Base64 decoder by the text it refuses. -/
inductive ParseError where
  | missingField (field : String)
  | base64 (encoded : String)
  | invalidFpLength (context : String) (len : Nat)
  | nonCanonicalFp (context : String)

/-- The cast `as u32`. -/
def asU32 (n : U64) : U32 := .ofNat n.val

/-- It keeps the number if and only if the number has 32 bits. -/
theorem asU32_eq_iff {n : U64} : (asU32 n).val = n.val ↔ n.val < 2 ^ 32 := Nat.mod_eq_iff_lt (by decide)

section Conversions

variable [FieldRepr] (base64 : String → Option Bytes)

/-- `decode_fp_base64`, over the standard engine of the `base64` crate. -/
def decodeFpBase64 (b64 context : String) : Except ParseError MerkleHashVote :=
  match base64 b64 with
  | none => .error (.base64 b64)
  | some bytes =>
    if bytes.length ≠ 32 then .error (.invalidFpLength context bytes.length)
    else
      match FieldRepr.fromRepr bytes with
      | none => .error (.nonCanonicalFp context)
      | some fp => .ok fp

/-- The root of a tree state, which an empty tree may leave out. -/
def treeStateRoot : Option String → Except ParseError MerkleHashVote
  | some b64 => if b64 = "" then .ok .zero else decodeFpBase64 base64 b64 "tree_state.root"
  | none => .ok .zero

/-- `into_tree_state`. -/
def ChainTreeState.intoTreeState (state : ChainTreeState) : Except ParseError SyncApi.TreeState := do
  let root ← treeStateRoot base64 state.root
  return { nextIndex := state.nextIndex, root, height := asU32 state.height }

/-- The root of a block, which must be there. -/
def blockRoot : Option String → Except ParseError MerkleHashVote
  | some b64 => decodeFpBase64 base64 b64 "block_commitments.root"
  | none => .error (.missingField "block_commitments.root")

/-- `into_block_commitments`. -/
def ChainBlockCommitments.intoBlockCommitments (block : ChainBlockCommitments) :
    Except ParseError BlockCommitments := do
  let leaves ← block.leaves.mapM (decodeFpBase64 base64 · "block_commitments.leaf")
  let root ← blockRoot base64 block.root
  return { height := asU32 block.height, startIndex := block.startIndex, leaves, root }

/-- `into_block_commitments_page`. -/
def QueryCommitmentLeavesResponse.intoBlockCommitmentsPage
    (response : QueryCommitmentLeavesResponse) : Except ParseError BlockCommitmentsPage := do
  let blocks ← response.blocks.mapM (·.intoBlockCommitments base64)
  return { blocks, nextFromHeight := asU32 response.nextFromHeight }

end Conversions

/-! ## Requests -/

/-- `TransportResponse`. -/
structure TransportResponse where
  status : Nat
  body : Bytes

/-- `HttpSyncError`, over the errors of the transport. -/
inductive HttpSyncError (ε : Type) where
  | transport (error : ε)
  | httpStatus (url : String) (status : Nat) (body : String)
  | json (error : String)
  | parse (error : ParseError)
  | noTreeState

/-- `HttpTreeSyncApi`, over a network with state `σ`. -/
structure HttpTreeSyncApi (σ ε : Type) where
  transport : σ → String → Except ε TransportResponse × σ
  baseUrl : String
  roundId : String
  /-- `serde_json::from_slice`: the document of a body. -/
  fromSlice : Bytes → Except String Json
  /-- `BASE64_STANDARD.decode`. -/
  base64 : String → Option Bytes
  /-- The error of a document that has not the expected type. -/
  mismatch : Json → String
  /-- `String::from_utf8_lossy`. -/
  fromUtf8Lossy : Bytes → String

namespace HttpTreeSyncApi

variable [FieldRepr] {σ ε α : Type} (api : HttpTreeSyncApi σ ε)

/-- `success_body`. -/
def successBody (url : String) (response : TransportResponse) : Except (HttpSyncError ε) Bytes :=
  if 200 ≤ response.status ∧ response.status < 300 then .ok response.body
  else .error (.httpStatus url response.status (api.fromUtf8Lossy response.body))

/-- The document of a body as a value. -/
def parseBody (decode : Json → Option α) (body : Bytes) : Except String α := do
  let document ← api.fromSlice body
  match decode document with
  | some value => .ok value
  | none => .error (api.mismatch document)

/-- `get_json`. -/
def getJson (decode : Json → Option α) (s : σ) (url : String) :
    Except (HttpSyncError ε) α × σ :=
  let (response, s) := api.transport s url
  (do
    let response ← response.mapError .transport
    let body ← api.successBody url response
    (api.parseBody decode body).mapError .json, s)

/-- `get_tree_state`. -/
def getTreeState (s : σ) : Except (HttpSyncError ε) SyncApi.TreeState × σ :=
  let (response, s) := api.getJson queryLatestTreeResponse s
    s!"{api.baseUrl}/shielded-vote/v1/commitment-tree/{api.roundId}/latest"
  (do
    match ← response with
    | none => .error .noTreeState
    | some tree => (tree.intoTreeState api.base64).mapError .parse, s)

/-- `get_block_commitments`. -/
def getBlockCommitments (s : σ) (fromHeight toHeight : U32) :
    Except (HttpSyncError ε) BlockCommitmentsPage × σ :=
  let (response, s) := api.getJson queryCommitmentLeavesResponse s
    s!"{api.baseUrl}/shielded-vote/v1/commitment-tree/{api.roundId}/leaves?from_height={fromHeight.val}&to_height={toHeight.val}"
  (do
    let response ← response
    (response.intoBlockCommitmentsPage api.base64).mapError .parse, s)

/-- The server that a sync asks. -/
def treeSyncApi (elapsed : σ → Nat × σ) : TreeSyncApi σ (HttpSyncError ε) where
  getTreeState := api.getTreeState
  getBlockCommitments := api.getBlockCommitments
  elapsed := elapsed

end HttpTreeSyncApi

/-! ## What is returned of a response -/

section Served

variable [FieldRepr]

/-- The text is the Base64 of the element's 32 bytes. -/
def FieldText (base64 : String → Option Bytes) (b64 : String) (fp : MerkleHashVote) : Prop :=
  ∃ bytes, base64 b64 = some bytes ∧ bytes.length = 32 ∧ FieldRepr.fromRepr bytes = some fp

/-- A returned block has the served start index, leaves and root, and the served height exactly
if that is a 32-bit number. -/
structure ServedBlock (base64 : String → Option Bytes) (served : ChainBlockCommitments)
    (block : BlockCommitments) : Prop where
  startIndex : block.startIndex = served.startIndex
  leaves : List.Forall₂ (FieldText base64) served.leaves block.leaves
  root : ∃ b64, served.root = some b64 ∧ FieldText base64 b64 block.root
  height : block.height.val = served.height.val ↔ served.height.val < 2 ^ 32

variable {base64 : String → Option Bytes}

theorem fieldText_of_decode {b64 context : String} {fp : MerkleHashVote}
    (h : decodeFpBase64 base64 b64 context = .ok fp) : FieldText base64 b64 fp := by
  unfold decodeFpBase64 at h
  split at h
  · cases h
  case h_2 bytes hbytes =>
    split at h
    · cases h
    case isFalse hlength =>
      split at h
      · cases h
      case h_2 own hown =>
        cases h
        exact ⟨bytes, hbytes, by simpa using hlength, hown⟩

theorem served_of_intoTreeState {served : ChainTreeState} {state : SyncApi.TreeState}
    (h : served.intoTreeState base64 = .ok state) :
    state.nextIndex = served.nextIndex ∧
      (∀ b64, served.root = some b64 → b64 ≠ "" → FieldText base64 b64 state.root) ∧
      (state.height.val = served.height.val ↔ served.height.val < 2 ^ 32) := by
  simp only [ChainTreeState.intoTreeState, except_bind_eq_ok, except_pure_eq_ok] at h
  obtain ⟨root, hroot, rfl⟩ := h
  refine ⟨rfl, ?_, asU32_eq_iff⟩
  intro b64 hserved hne
  rw [hserved, treeStateRoot, if_neg hne] at hroot
  exact fieldText_of_decode hroot

theorem served_of_intoBlockCommitments {served : ChainBlockCommitments} {block : BlockCommitments}
    (h : served.intoBlockCommitments base64 = .ok block) : ServedBlock base64 served block := by
  simp only [ChainBlockCommitments.intoBlockCommitments, except_bind_eq_ok, except_pure_eq_ok] at h
  obtain ⟨leaves, hleaves, root, hroot, rfl⟩ := h
  refine ⟨rfl, (except_mapM_eq_ok.mp hleaves).imp fun _ _ => fieldText_of_decode, ?_, asU32_eq_iff⟩
  cases hserved : served.root with
  | none => simp [hserved, blockRoot] at hroot
  | some b64 =>
    rw [hserved] at hroot
    exact ⟨b64, rfl, fieldText_of_decode hroot⟩

theorem served_of_intoBlockCommitmentsPage {served : QueryCommitmentLeavesResponse}
    {page : BlockCommitmentsPage} (h : served.intoBlockCommitmentsPage base64 = .ok page) :
    List.Forall₂ (ServedBlock base64) served.blocks page.blocks ∧
      (page.nextFromHeight.val = served.nextFromHeight.val ↔
        served.nextFromHeight.val < 2 ^ 32) := by
  simp only [QueryCommitmentLeavesResponse.intoBlockCommitmentsPage, except_bind_eq_ok,
    except_pure_eq_ok] at h
  obtain ⟨blocks, hblocks, rfl⟩ := h
  exact ⟨(except_mapM_eq_ok.mp hblocks).imp fun _ _ => served_of_intoBlockCommitments,
    asU32_eq_iff⟩

end Served

namespace HttpTreeSyncApi

variable {σ ε α : Type} {api : HttpTreeSyncApi σ ε}

/-- The server answered the request with a document of this value. -/
def Answers (api : HttpTreeSyncApi σ ε) (s : σ) (url : String) (decode : Json → Option α)
    (value : α) : Prop :=
  ∃ response document, (api.transport s url).1 = .ok response ∧
    200 ≤ response.status ∧ response.status < 300 ∧
    api.fromSlice response.body = .ok document ∧ decode document = some value

theorem answers_of_getJson {decode : Json → Option α} {s : σ} {url : String} {value : α}
    (h : (api.getJson decode s url).1 = .ok value) : api.Answers s url decode value := by
  simp only [getJson, except_bind_eq_ok, except_mapError_eq_ok] at h
  obtain ⟨response, hresponse, body, hbody, hvalue⟩ := h
  simp only [successBody] at hbody
  split at hbody
  case isTrue hstatus =>
    cases hbody
    simp only [parseBody, except_bind_eq_ok] at hvalue
    obtain ⟨document, hdocument, hvalue⟩ := hvalue
    cases hdecode : decode document with
    | none => simp [hdecode] at hvalue
    | some own =>
      simp only [hdecode, Except.ok.injEq] at hvalue
      exact ⟨response, document, hresponse, hstatus.1, hstatus.2, hdocument, hvalue ▸ hdecode⟩
  · cases hbody

/-- A tree state or page that is returned was served: with its start indices and next index, its
leaves and its roots, and with exactly those heights and cursors that are 32-bit numbers. -/
theorem returned_is_served [FieldRepr] (api : HttpTreeSyncApi σ ε) (s : σ) :
    (∀ state, (api.getTreeState s).1 = .ok state → ∃ served,
      api.Answers s s!"{api.baseUrl}/shielded-vote/v1/commitment-tree/{api.roundId}/latest"
        queryLatestTreeResponse (some served) ∧
      state.nextIndex = served.nextIndex ∧
      (∀ b64, served.root = some b64 → b64 ≠ "" → FieldText api.base64 b64 state.root) ∧
      (state.height.val = served.height.val ↔ served.height.val < 2 ^ 32)) ∧
    ∀ fromHeight toHeight page, (api.getBlockCommitments s fromHeight toHeight).1 = .ok page →
      ∃ served, api.Answers s
        s!"{api.baseUrl}/shielded-vote/v1/commitment-tree/{api.roundId}/leaves?from_height={fromHeight.val}&to_height={toHeight.val}"
        queryCommitmentLeavesResponse served ∧
      List.Forall₂ (ServedBlock api.base64) served.blocks page.blocks ∧
      (page.nextFromHeight.val = served.nextFromHeight.val ↔
        served.nextFromHeight.val < 2 ^ 32) := by
  constructor
  · intro state h
    simp only [getTreeState, except_bind_eq_ok] at h
    obtain ⟨tree, htree, h⟩ := h
    cases tree with
    | none => cases h
    | some served =>
      rw [except_mapError_eq_ok] at h
      exact ⟨served, answers_of_getJson htree, served_of_intoTreeState h⟩
  · intro fromHeight toHeight page h
    simp only [getBlockCommitments, except_bind_eq_ok, except_mapError_eq_ok] at h
    obtain ⟨served, hserved, h⟩ := h
    exact ⟨served, answers_of_getJson hserved, served_of_intoBlockCommitmentsPage h⟩

/-- The Base64 of the zero element. -/
def zeroText : String := "AAAAAAAAAAAAAAAAAAAAAAAAAAAAAAAAAAAAAAAAAAA="

/-- What the text decodes to. -/
def decodeZeroText (text : String) : Option Bytes :=
  if text = zeroText then some (List.replicate 32 0) else none

/-- A server that answers every request with one document. -/
def sampleHttpApi (document : Json) : HttpTreeSyncApi Unit Unit where
  transport _ _ := (.ok ⟨200, []⟩, ())
  baseUrl := "http://localhost:1317"
  roundId := "0a"
  fromSlice _ := .ok document
  base64 := decodeZeroText
  mismatch _ := "invalid type"
  fromUtf8Lossy _ := ""

/-- A tree at this height with more blocks to come from it. -/
def sampleDocument (height : Nat) : Json :=
  .obj [("tree", .obj [("height", .nat height)]), ("next_from_height", .nat height)]

/-- The height `2 ^ 32` is returned as zero, and so is the cursor: a sync up to height 5 that is told
to go on at `2 ^ 32` takes the range for complete. -/
theorem heights_truncated :
    letI := littleEndian
    ((sampleHttpApi (sampleDocument (2 ^ 32))).getTreeState ()).1 = .ok ⟨0, .zero, 0⟩ ∧
    ((sampleHttpApi (sampleDocument (2 ^ 32))).getBlockCommitments () 0 5).1 = .ok ⟨[], 0⟩ ∧
    queryLatestTreeResponse (sampleDocument (2 ^ 32)) = some (some ⟨0, none, .ofNat (2 ^ 32)⟩) ∧
    queryCommitmentLeavesResponse (sampleDocument (2 ^ 32)) = some ⟨[], .ofNat (2 ^ 32)⟩ ∧
    ∀ (τ : Type) (tree : ShardTree τ) (client : TreeClient τ),
      TreeClient.syncPages tree
        ((sampleHttpApi (sampleDocument (2 ^ 32))).treeSyncApi fun s => (0, s)) .default
        5 1 0 ⟨client, ()⟩ = .ok () ⟨client, ()⟩ :=
  ⟨rfl, rfl, rfl, rfl, fun _ _ _ => rfl⟩

/-- A page of one block with the leaf and root zero. -/
def samplePage (height : Nat) : Json :=
  .obj [("blocks", .arr [.obj [("height", .nat height), ("leaves", .arr [.str zeroText]), ("root", .str zeroText)]]),
    ("next_from_height", .nat (height + 1))]

theorem returned_is_served_sample :
    letI := littleEndian
    ∃ served, (sampleHttpApi (samplePage 7)).Answers ()
      "http://localhost:1317/shielded-vote/v1/commitment-tree/0a/leaves?from_height=0&to_height=9"
      queryCommitmentLeavesResponse served ∧
      List.Forall₂ (ServedBlock decodeZeroText) served.blocks
        [⟨7, 0, [.zero], .zero⟩] ∧
      (8 = served.nextFromHeight.val ↔ served.nextFromHeight.val < 2 ^ 32) :=
  let _ := littleEndian
  (returned_is_served (sampleHttpApi (samplePage 7)) ()).2 0 9 ⟨[⟨7, 0, [.zero], .zero⟩], 8⟩ rfl

end HttpTreeSyncApi

end ZcashVoting.VoteCommitmentTree
