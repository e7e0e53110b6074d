import Jellyrin.Defs.Api.ApiError
import Jellyrin.Defs.Data.Json
import Jellyrin.Defs.Data.Text

/-! Byte ranges of HTTP requests, and the partial answers that they allow. -/

namespace Jellyrin.Http

open Ascii Text

inductive RangeSpec where
  | bounds (first : Nat) (last : Option Nat)
  | suffix (length : Nat)
  deriving DecidableEq

def digits (s : String) : Option Nat :=
  if s ≠ "" ∧ s.toList.all Char.isDigit then some (Nat.ofDigitChars 10 s.toList 0) else none

def parseRangeSpec (s : String) : Option RangeSpec :=
  match split '-' s with
  | [first, last] =>
    if first = "" then (digits last).map .suffix
    else if last = "" then (digits first).map fun first => .bounds first none
    else (digits first).bind fun first => (digits last).map fun last => .bounds first (some last)
  | _ => none

def parseRanges (header : String) : Option (List RangeSpec) :=
  match split '=' header with
  | [rangeUnit, specs] =>
    if eqIgnoreAsciiCase rangeUnit "bytes" then
      (split ',' specs).mapM fun spec => parseRangeSpec (Json.trim spec)
    else none
  | _ => none

def RangeSpec.resolve (total : Nat) : RangeSpec → Option (Nat × Nat)
  | .bounds first none => if first < total then some (first, total - 1) else none
  | .bounds first (some last) =>
    if first < total ∧ first ≤ last then some (first, min last (total - 1)) else none
  | .suffix length => if 0 < length ∧ 0 < total then some (total - length, total - 1) else none

def IsPartialAnswer (header : String) (source : List UInt8) (start : Nat) (body : List UInt8) :
    Prop :=
  ∃ specs, parseRanges header = some specs ∧ ∃ spec ∈ specs, ∃ last,
    spec.resolve source.length = some (start, last) ∧
      body = (source.drop start).take (last + 1 - start)

end Jellyrin.Http

/-! The relay of a provider's response, which looks for a manifest at the start of the body. -/

namespace Jellyrin.PluginVod

open Api Ascii Text

abbrev Bytes := List UInt8

def bom : Bytes := [0xef, 0xbb, 0xbf]

def magic : Bytes := [0x23, 0x45, 0x58, 0x54, 0x4d, 0x33, 0x55]

def isAsciiWhitespace (byte : UInt8) : Bool := [0x20, 0x09, 0x0a, 0x0c, 0x0d].contains byte

def stripBom (chunk : Bytes) : Bytes := if bom.isPrefixOf chunk then chunk.drop 3 else chunk

def skipLead (chunk : Bytes) : Bytes := (stripBom chunk).dropWhile isAsciiWhitespace

def hlsManifestPrefixClassification (chunk : Bytes) : Option Bool :=
  let start := (skipLead chunk).take 7
  if start.length = 7 then some (start == magic) else none

def isHlsManifestContentType (value : String) : Bool :=
  ["application/vnd.apple.mpegurl", "application/x-mpegurl", "audio/mpegurl",
    "audio/x-mpegurl"].contains
      (toAsciiLowercase (Json.trim ((split ';' value).head?.getD "")))

abbrev HeaderMap := List (String × Bytes)

def HeaderMap.get (headers : HeaderMap) (name : String) : Option Bytes := headers.lookup name

def toStr (value : Bytes) : Option String :=
  if value.all fun byte => byte == 9 || (32 ≤ byte && byte < 127) then
    some (String.ofList (value.map fun byte => Char.ofNat byte.toNat))
  else none

inductive ReadError where
  | timedOut
  | interrupted
  deriving DecidableEq

structure Upstream where
  status : Nat
  headers : HeaderMap
  reads : List (Except ReadError Bytes)

structure Relayed where
  status : Nat
  headers : HeaderMap
  body : List (Except ReadError Bytes)

def isSuccess (status : Nat) : Bool := 200 ≤ status && status < 300

def statusOk : Nat := 200
def partialContent : Nat := 206
def notModified : Nat := 304
def rangeNotSatisfiable : Nat := 416

def relayedHeaderNames : List String :=
  ["content-type", "content-length", "content-range", "accept-ranges", "etag", "last-modified",
    "cache-control"]

def headerValue (value : String) : Bytes := value.toList.map fun c => UInt8.ofNat c.toNat

def relayedHeaders (headers : HeaderMap) : HeaderMap :=
  let kept := relayedHeaderNames.filterMap fun name =>
    (headers.get name).map fun value => (name, value)
  if (HeaderMap.get kept "content-type").isSome then kept
  else kept ++ [("content-type", headerValue "video/mp2t")]

def ReadError.apiError : ReadError → ApiError
  | .timedOut => .serviceUnavailable "VOD provider source timed out"
  | .interrupted => .serviceUnavailable "VOD provider stream interrupted"

/-- The bytes that are read before the relay starts, with the reads that are left, and whether
the body ended among them. -/
structure Probe where
  start : Bytes
  reachedEof : Bool
  remaining : List (Except ReadError Bytes)

def readsOn (start : Bytes) : Bool :=
  (hlsManifestPrefixClassification start).isNone && start.length < 64

def readStart (start : Bytes) : List (Except ReadError Bytes) → Except ApiError Probe
  | [] => .ok ⟨start, readsOn start, []⟩
  | .error error :: rest =>
    if readsOn start then .error error.apiError else .ok ⟨start, false, .error error :: rest⟩
  | .ok chunk :: rest =>
    if readsOn start then readStart (start ++ chunk) rest
    else .ok ⟨start, false, .ok chunk :: rest⟩

def liveTvChunkIdleTimeoutStream :
    List (Except ReadError Bytes) → List (Except ReadError Bytes)
  | [] => []
  | .ok chunk :: rest => .ok chunk :: liveTvChunkIdleTimeoutStream rest
  | .error error :: _ => [.error error]

def trimStart (value : String) : String :=
  String.ofList (value.toList.dropWhile Json.isWhitespace)

def rangeStartsAtZero (requestHeaders : HeaderMap) : Bool :=
  ((requestHeaders.get "range").bind toStr).any fun value =>
    startsWith (trimStart value) "bytes=0-"

def Probe.isRejected (probe : Probe) : Bool :=
  let classification := hlsManifestPrefixClassification probe.start
  classification == some true ||
    (classification.isNone && !probe.reachedEof && 64 ≤ probe.start.length)

def classifiedBody (reads : List (Except ReadError Bytes)) :
    Except ApiError (List (Except ReadError Bytes)) := do
  let probe ← readStart [] reads
  if probe.isRejected then
    throw (.serviceUnavailable "VOD provider returned an unsupported manifest")
  return (if probe.start.isEmpty then [] else [.ok probe.start]) ++
    liveTvChunkIdleTimeoutStream probe.remaining

def pluginVodUpstreamResponse (upstream : Upstream) (requestHeaders : HeaderMap)
    (includeBody : Bool) : Except ApiError Relayed := do
  if !isSuccess upstream.status && upstream.status ≠ notModified &&
      upstream.status ≠ rangeNotSatisfiable then
    throw (.serviceUnavailable "VOD provider source is unavailable")
  if ((upstream.headers.get "content-type").bind toStr).any isHlsManifestContentType then
    throw (.serviceUnavailable "VOD provider returned an unsupported manifest")
  let headers := relayedHeaders upstream.headers
  if includeBody && upstream.status ≠ notModified && upstream.status ≠ rangeNotSatisfiable then
    if upstream.status = statusOk || rangeStartsAtZero requestHeaders then
      return ⟨upstream.status, headers, ← classifiedBody upstream.reads⟩
    else return ⟨upstream.status, headers, liveTvChunkIdleTimeoutStream upstream.reads⟩
  else return ⟨upstream.status, headers, []⟩

/-! What of a body the relay lets through. -/

def IsManifest (body : Bytes) : Prop := magic <+: skipLead body

instance (body : Bytes) : Decidable (IsManifest body) := inferInstanceAs (Decidable (_ <+: _))

def isLate (body : Bytes) : Prop :=
  hlsManifestPrefixClassification (body.take 64) = none ∧
    hlsManifestPrefixClassification body = some false

instance (body : Bytes) : Decidable (isLate body) := inferInstanceAs (Decidable (_ ∧ _))

/-! The classification of a start holds for the body. -/

theorem length_skipLead_le (chunk : Bytes) : (skipLead chunk).length ≤ chunk.length := by
  have hstrip : (stripBom chunk).length ≤ chunk.length := by
    simp only [stripBom]
    split
    · rw [List.length_drop]
      exact Nat.sub_le _ _
    · exact Nat.le_refl _
  exact (List.dropWhile_sublist _).length_le.trans hstrip

theorem stripBom_append {chunk : Bytes} (h : 3 ≤ chunk.length) (rest : Bytes) :
    stripBom (chunk ++ rest) = stripBom chunk ++ rest := by
  obtain ⟨a, b, c, tail, rfl⟩ : ∃ a b c tail, chunk = a :: b :: c :: tail := by
    match chunk, h with
    | a :: b :: c :: tail, _ => exact ⟨a, b, c, tail, rfl⟩
  simp only [stripBom, bom, List.cons_append, List.isPrefixOf_cons_cons, List.isPrefixOf_nil_left]
  split <;> rfl

theorem skipLead_append {chunk : Bytes} (h : 7 ≤ (skipLead chunk).length) (rest : Bytes) :
    skipLead (chunk ++ rest) = skipLead chunk ++ rest := by
  have hlen : 3 ≤ chunk.length := by
    have := length_skipLead_le chunk
    omega
  have hne : (stripBom chunk).dropWhile isAsciiWhitespace ≠ [] := by
    intro hnil
    rw [skipLead, hnil] at h
    cases h
  rw [skipLead, stripBom_append hlen, List.dropWhile_append]
  split
  · rename_i hempty
    exact absurd (List.isEmpty_iff.mp hempty) hne
  · rfl

theorem classification_eq_some_iff {chunk : Bytes} {verdict : Bool} :
    hlsManifestPrefixClassification chunk = some verdict ↔
      7 ≤ (skipLead chunk).length ∧ ((skipLead chunk).take 7 == magic) = verdict := by
  simp only [hlsManifestPrefixClassification, List.length_take]
  split
  · rename_i hlen
    simp only [Option.some.injEq]
    exact ⟨fun h => ⟨by omega, h⟩, fun h => h.2⟩
  · rename_i hlen
    constructor
    · intro h
      cases h
    · intro h
      have := h.1
      omega

theorem classification_append {chunk : Bytes} {verdict : Bool}
    (h : hlsManifestPrefixClassification chunk = some verdict) (rest : Bytes) :
    hlsManifestPrefixClassification (chunk ++ rest) = some verdict := by
  rw [classification_eq_some_iff] at h ⊢
  obtain ⟨hlen, hmagic⟩ := h
  rw [skipLead_append hlen, List.take_append_of_le_length hlen]
  exact ⟨by rw [List.length_append]; omega, hmagic⟩

variable {body : Bytes}

theorem isManifest_iff : IsManifest body ↔ hlsManifestPrefixClassification body = some true := by
  rw [classification_eq_some_iff, IsManifest, List.prefix_iff_eq_take, beq_iff_eq, eq_comm]
  constructor
  · intro h
    have hlen := congrArg List.length h
    rw [List.length_take] at hlen
    exact ⟨by simp [magic] at hlen; omega, h⟩
  · exact fun h => h.2

/-! What is read before the relay starts. -/

def chunkReads (chunks : List Bytes) : List (Except ReadError Bytes) := chunks.map .ok

inductive Probes (body : Bytes) : Probe → Prop
  | classified {start : Bytes} {rest : List Bytes} {verdict : Bool} :
      start ++ rest.flatten = body → hlsManifestPrefixClassification start = some verdict →
      Probes body ⟨start, false, chunkReads rest⟩
  | full {start : Bytes} {rest : List Bytes} :
      start ++ rest.flatten = body → hlsManifestPrefixClassification start = none →
      64 ≤ start.length → Probes body ⟨start, false, chunkReads rest⟩
  | whole : hlsManifestPrefixClassification body = none → body.length < 64 →
      Probes body ⟨body, true, []⟩

theorem probes_of_not_readsOn {start : Bytes} (rest : List Bytes) (h : readsOn start = false) :
    Probes (start ++ rest.flatten) ⟨start, false, chunkReads rest⟩ := by
  cases hverdict : hlsManifestPrefixClassification start with
  | some verdict => exact .classified rfl hverdict
  | none =>
    refine .full rfl hverdict ?_
    simpa [readsOn, hverdict] using h

theorem probes_readStart (start : Bytes) (chunks : List Bytes) :
    ∃ probe, readStart start (chunkReads chunks) = .ok probe ∧
      Probes (start ++ chunks.flatten) probe := by
  induction chunks generalizing start with
  | nil =>
    cases hreads : readsOn start with
    | false => exact ⟨_, by rw [chunkReads, List.map_nil, readStart, hreads],
        probes_of_not_readsOn [] hreads⟩
    | true =>
      refine ⟨_, by rw [chunkReads, List.map_nil, readStart, hreads], ?_⟩
      simp only [readsOn, Bool.and_eq_true, Option.isNone_iff_eq_none, decide_eq_true_eq] at hreads
      rw [List.flatten_nil, List.append_nil]
      exact .whole hreads.1 hreads.2
  | cons chunk rest ih =>
    cases hreads : readsOn start with
    | false =>
      refine ⟨_, ?_, probes_of_not_readsOn (chunk :: rest) hreads⟩
      rw [chunkReads, List.map_cons, readStart, hreads]
      rfl
    | true =>
      obtain ⟨probe, hprobe, hprobes⟩ := ih (start ++ chunk)
      refine ⟨probe, ?_, ?_⟩
      · rw [chunkReads, List.map_cons, readStart, hreads]
        exact hprobe
      · rw [List.flatten_cons, ← List.append_assoc]
        exact hprobes

def passes (body : Bytes) : Bool :=
  match hlsManifestPrefixClassification body with
  | some verdict => !verdict
  | none => body.length < 64

theorem passes_eq_false_of_full {start rest : Bytes}
    (hstart : hlsManifestPrefixClassification start = none) (hlen : 64 ≤ start.length)
    (hlate : ¬isLate (start ++ rest)) : passes (start ++ rest) = false := by
  have htake : (start ++ rest).take 64 = start.take 64 := List.take_append_of_le_length hlen
  have hnone : hlsManifestPrefixClassification (start.take 64) = none := by
    cases hverdict : hlsManifestPrefixClassification (start.take 64) with
    | none => rfl
    | some verdict =>
      have hclassified := classification_append hverdict (start.drop 64)
      rw [List.take_append_drop, hstart] at hclassified
      cases hclassified
  simp only [passes]
  cases hverdict : hlsManifestPrefixClassification (start ++ rest) with
  | none =>
    rw [decide_eq_false_iff_not, List.length_append]
    omega
  | some verdict =>
    cases verdict with
    | true => rfl
    | false => exact absurd ⟨by rw [htake]; exact hnone, hverdict⟩ hlate

theorem isRejected_of_probes {probe : Probe} (h : Probes body probe) (hlate : ¬isLate body) :
    probe.isRejected = !passes body := by
  cases h with
  | classified hbody hverdict =>
    subst hbody
    simp only [Probe.isRejected, passes, hverdict, classification_append hverdict]
    rename_i verdict
    cases verdict <;> rfl
  | full hbody hnone hlen =>
    subst hbody
    rw [passes_eq_false_of_full hnone hlen hlate]
    simp [Probe.isRejected, hnone, hlen]
  | whole hnone hlen =>
    simp [Probe.isRejected, passes, hnone, hlen]

theorem not_isManifest_of_probes {probe : Probe} (h : Probes body probe)
    (hpasses : probe.isRejected = false) : ¬IsManifest body := by
  rw [isManifest_iff]
  cases h with
  | classified hbody hverdict =>
    subst hbody
    rw [classification_append hverdict]
    rintro ⟨⟩
    simp [Probe.isRejected, hverdict] at hpasses
  | full hbody hnone hlen => simp [Probe.isRejected, hnone, hlen] at hpasses
  | whole hnone hlen =>
    rw [hnone]
    rintro ⟨⟩

theorem isLate.length_lt (h : isLate body) : 64 < body.length := by
  by_contra hlen
  have hnone := h.1
  rw [List.take_of_length_le (Nat.le_of_not_lt hlen), h.2] at hnone
  cases hnone

theorem readsOn_nil : readsOn [] = true := rfl

theorem readStart_whole (h : isLate body) :
    readStart [] (chunkReads [body]) = .ok ⟨body, false, []⟩ := by
  have hreads : readsOn body = false := by
    rw [readsOn, h.2]
    rfl
  simp only [chunkReads, List.map_cons, List.map_nil, readStart, readsOn_nil, if_true,
    List.nil_append, hreads]

theorem readStart_split (h : isLate body) :
    readStart [] (chunkReads [body.take 64, body.drop 64]) =
      .ok ⟨body.take 64, false, chunkReads [body.drop 64]⟩ := by
  have hreads : readsOn (body.take 64) = false := by
    rw [readsOn, List.length_take, Nat.min_eq_left h.length_lt.le]
    exact Bool.and_false _
  simp only [chunkReads, List.map_cons, List.map_nil, readStart, readsOn_nil, if_true,
    List.nil_append, hreads, Bool.false_eq_true, if_false]

/-! The relayed bytes. -/

theorem liveTvChunkIdleTimeoutStream_chunkReads (chunks : List Bytes) :
    liveTvChunkIdleTimeoutStream (chunkReads chunks) = chunkReads chunks := by
  induction chunks with
  | nil => rfl
  | cons chunk rest ih => exact congrArg (Except.ok chunk :: ·) ih

def Delivers (reads : List (Except ReadError Bytes)) (body : Bytes) : Prop :=
  ∃ chunks, reads = chunkReads chunks ∧ chunks.flatten = body

theorem delivers_of_probes {probe : Probe} (h : Probes body probe) :
    Delivers ((if probe.start.isEmpty then [] else [.ok probe.start]) ++
      liveTvChunkIdleTimeoutStream probe.remaining) body := by
  have hjoin : ∀ (start : Bytes) (rest : List Bytes), start ++ rest.flatten = body →
      Delivers ((if start.isEmpty then [] else [.ok start]) ++
        liveTvChunkIdleTimeoutStream (chunkReads rest)) body := by
    intro start rest hbody
    rw [liveTvChunkIdleTimeoutStream_chunkReads]
    cases start with
    | nil => exact ⟨rest, rfl, hbody⟩
    | cons byte tail => exact ⟨(byte :: tail) :: rest, rfl, hbody⟩
  cases h with
  | classified hbody _ => exact hjoin _ _ hbody
  | full hbody _ _ => exact hjoin _ _ hbody
  | whole _ _ => exact hjoin body [] (List.append_nil _)

theorem classifiedBody_chunkReads (chunks : List Bytes) :
    ∃ probe, readStart [] (chunkReads chunks) = .ok probe ∧ Probes chunks.flatten probe ∧
      classifiedBody (chunkReads chunks) =
        if probe.isRejected then
          .error (.serviceUnavailable "VOD provider returned an unsupported manifest")
        else
          .ok ((if probe.start.isEmpty then [] else [.ok probe.start]) ++
            liveTvChunkIdleTimeoutStream probe.remaining) := by
  obtain ⟨probe, hprobe, hprobes⟩ := probes_readStart [] chunks
  refine ⟨probe, hprobe, hprobes, ?_⟩
  rw [classifiedBody, hprobe]
  cases hrejected : probe.isRejected with
  | true => simp [bind, Except.bind, hrejected, throw, throwThe, MonadExceptOf.throw]
  | false => simp [bind, Except.bind, hrejected, pure, Except.pure]

/-! The rule for the bodies that have to be classified. -/

/-- A provider's answer; `start` is the position of the body in its source. -/
structure Answer where
  status : Nat
  headers : HeaderMap
  start : Nat
  body : Bytes

namespace Answer

def respond (answer : Answer) (requestHeaders : HeaderMap) (chunks : List Bytes) :
    Except ApiError Relayed :=
  pluginVodUpstreamResponse ⟨answer.status, answer.headers, chunkReads chunks⟩ requestHeaders true

def StartsSource (answer : Answer) : Prop :=
  answer.status = statusOk ∨ answer.status = partialContent ∧ answer.start = 0

def AreChunks (answer : Answer) (chunks : List Bytes) : Prop :=
  (∀ chunk ∈ chunks, chunk ≠ []) ∧ chunks.flatten = answer.body

/-- Manifests are held back, other bodies arrive as they are, and the chunks decide nothing. -/
def IsRuled (answer : Answer) (requestHeaders : HeaderMap) : Prop :=
  ∀ chunks, answer.AreChunks chunks →
    (∀ relayed, answer.respond requestHeaders chunks = .ok relayed →
      ¬IsManifest answer.body ∧ Delivers relayed.body answer.body) ∧
    ∀ chunks', answer.AreChunks chunks' →
      (answer.respond requestHeaders chunks).isOk = (answer.respond requestHeaders chunks').isOk

def hasManifestType (answer : Answer) : Bool :=
  ((answer.headers.get "content-type").bind toStr).any isHlsManifestContentType

def isClassified (answer : Answer) (requestHeaders : HeaderMap) : Bool :=
  answer.status = statusOk || rangeStartsAtZero requestHeaders

variable {answer : Answer} {requestHeaders : HeaderMap} {chunks : List Bytes}

theorem respond_eq (hstatus : answer.status = statusOk ∨ answer.status = partialContent) :
    answer.respond requestHeaders chunks =
      if answer.hasManifestType then
        .error (.serviceUnavailable "VOD provider returned an unsupported manifest")
      else if answer.isClassified requestHeaders then
        (classifiedBody (chunkReads chunks)).map
          (⟨answer.status, relayedHeaders answer.headers, ·⟩)
      else .ok ⟨answer.status, relayedHeaders answer.headers, chunkReads chunks⟩ := by
  have hsuccess : isSuccess answer.status = true := by
    obtain h | h := hstatus <;> rw [h] <;> rfl
  have hmodified : decide (answer.status ≠ notModified) = true := by
    obtain h | h := hstatus <;> rw [h] <;> rfl
  have hsatisfiable : decide (answer.status ≠ rangeNotSatisfiable) = true := by
    obtain h | h := hstatus <;> rw [h] <;> rfl
  simp only [respond, pluginVodUpstreamResponse, hsuccess, hmodified, hsatisfiable,
    liveTvChunkIdleTimeoutStream_chunkReads, Bool.not_true, Bool.false_and, Bool.and_self,
    Bool.false_eq_true, if_false, if_true]
  have htype : ((answer.headers.get "content-type").bind toStr).any isHlsManifestContentType =
      answer.hasManifestType := rfl
  have hclassified : (decide (answer.status = statusOk) || rangeStartsAtZero requestHeaders) =
      answer.isClassified requestHeaders := rfl
  rw [htype, hclassified]
  cases answer.hasManifestType with
  | true => rfl
  | false =>
    cases answer.isClassified requestHeaders with
    | true => cases classifiedBody (chunkReads chunks) <;> rfl
    | false => rfl

theorem areChunks_singleton (h : answer.body ≠ []) : answer.AreChunks [answer.body] := by
  refine ⟨?_, List.flatten_singleton⟩
  intro chunk hchunk
  rwa [List.mem_singleton.mp hchunk]

theorem areChunks_split (h : 64 < answer.body.length) :
    answer.AreChunks [answer.body.take 64, answer.body.drop 64] := by
  refine ⟨?_, by simp⟩
  intro chunk hchunk hnil
  have hlen := congrArg List.length hnil
  obtain rfl | rfl : chunk = answer.body.take 64 ∨ chunk = answer.body.drop 64 := by
    simpa using hchunk
  · rw [List.length_take, List.length_nil] at hlen
    omega
  · rw [List.length_drop, List.length_nil] at hlen
    omega

theorem isRuled_iff_of_not_classified
    (hstatus : answer.status = statusOk ∨ answer.status = partialContent)
    (htype : answer.hasManifestType = false)
    (hclassified : answer.isClassified requestHeaders = false) :
    answer.IsRuled requestHeaders ↔ ¬IsManifest answer.body := by
  have hrespond : ∀ chunks, answer.respond requestHeaders chunks =
      .ok ⟨answer.status, relayedHeaders answer.headers, chunkReads chunks⟩ := by
    intro chunks
    rw [respond_eq hstatus, htype, hclassified]
    rfl
  constructor
  · intro hruled hmanifest
    have hne : answer.body ≠ [] := by
      intro h
      rw [h] at hmanifest
      exact absurd hmanifest (by decide)
    exact ((hruled _ (areChunks_singleton hne)).1 _ (hrespond _)).1 hmanifest
  · intro hmanifest chunks hchunks
    refine ⟨?_, fun chunks' _ => by rw [hrespond, hrespond]; rfl⟩
    intro relayed hrelayed
    rw [hrespond] at hrelayed
    cases hrelayed
    exact ⟨hmanifest, chunks, rfl, hchunks.2⟩

theorem isRuled_iff_of_classified
    (hstatus : answer.status = statusOk ∨ answer.status = partialContent)
    (htype : answer.hasManifestType = false)
    (hclassified : answer.isClassified requestHeaders = true) :
    answer.IsRuled requestHeaders ↔ ¬isLate answer.body := by
  have hrespond : ∀ chunks, answer.respond requestHeaders chunks =
      (classifiedBody (chunkReads chunks)).map
        (⟨answer.status, relayedHeaders answer.headers, ·⟩) := by
    intro chunks
    rw [respond_eq hstatus, htype, hclassified]
    rfl
  have hprobe : ∀ chunks, ∃ probe, readStart [] (chunkReads chunks) = .ok probe ∧
      Probes chunks.flatten probe ∧
        (answer.respond requestHeaders chunks).isOk = !probe.isRejected := by
    intro chunks
    obtain ⟨probe, hprobe, hprobes, hbody⟩ := classifiedBody_chunkReads chunks
    refine ⟨probe, hprobe, hprobes, ?_⟩
    rw [hrespond, hbody]
    cases probe.isRejected <;> rfl
  constructor
  · intro hruled hlate
    -- The chunk that holds the whole body is classified; one of 64 bytes is not.
    obtain ⟨probe, hread, -, hok⟩ := hprobe [answer.body]
    obtain ⟨probe', hread', -, hok'⟩ := hprobe [answer.body.take 64, answer.body.drop 64]
    rw [readStart_whole hlate] at hread
    rw [readStart_split hlate] at hread'
    cases hread
    cases hread'
    have hne : answer.body ≠ [] := List.ne_nil_of_length_pos (by have := hlate.length_lt; omega)
    have hsame := (hruled _ (areChunks_singleton hne)).2 _ (areChunks_split hlate.length_lt)
    rw [hok, hok'] at hsame
    simp [Probe.isRejected, hlate.1, hlate.2, hlate.length_lt.le] at hsame
  · intro hlate chunks hchunks
    constructor
    · intro relayed hrelayed
      obtain ⟨probe, -, hprobes, hbody⟩ := classifiedBody_chunkReads chunks
      rw [hrespond, hbody] at hrelayed
      rw [hchunks.2] at hprobes
      cases hrejected : probe.isRejected with
      | true =>
        rw [hrejected] at hrelayed
        cases hrelayed
      | false =>
        rw [hrejected] at hrelayed
        cases hrelayed
        exact ⟨not_isManifest_of_probes hprobes hrejected, delivers_of_probes hprobes⟩
    · intro chunks' hchunks'
      obtain ⟨probe, -, hprobes, hok⟩ := hprobe chunks
      obtain ⟨probe', -, hprobes', hok'⟩ := hprobe chunks'
      rw [hchunks.2] at hprobes
      rw [hchunks'.2] at hprobes'
      rw [hok, hok', isRejected_of_probes hprobes hlate, isRejected_of_probes hprobes' hlate]

theorem isRuled_of_hasManifestType
    (hstatus : answer.status = statusOk ∨ answer.status = partialContent)
    (htype : answer.hasManifestType = true) : answer.IsRuled requestHeaders := by
  have hrespond : ∀ chunks, answer.respond requestHeaders chunks =
      .error (.serviceUnavailable "VOD provider returned an unsupported manifest") := by
    intro chunks
    rw [respond_eq hstatus, htype]
    rfl
  intro chunks _
  constructor
  · intro relayed hrelayed
    rw [hrespond] at hrelayed
    cases hrelayed
  · intro chunks' _
    rw [hrespond, hrespond]

/-- A start of a source is ruled exactly when it has the content type of a manifest, or is
classified and not late, or is not classified and no manifest. -/
theorem ruled_iff (answer : Answer) (requestHeaders : HeaderMap) :
    (answer.StartsSource → answer.IsRuled requestHeaders) ↔
      (answer.StartsSource → answer.hasManifestType = true ∨
        if answer.isClassified requestHeaders then ¬isLate answer.body
        else ¬IsManifest answer.body) := by
  refine forall_congr' fun hstarts => ?_
  have hstatus : answer.status = statusOk ∨ answer.status = partialContent :=
    hstarts.imp_right And.left
  cases htype : answer.hasManifestType with
  | true => simp [isRuled_of_hasManifestType hstatus htype]
  | false =>
    cases hclassified : answer.isClassified requestHeaders with
    | true => simp [isRuled_iff_of_classified hstatus htype hclassified]
    | false => simp [isRuled_iff_of_not_classified hstatus htype hclassified]

def playlist : Bytes := headerValue "#EXTM3U\n#EXTINF:6,\nhttps://provider/segment.ts?token=key\n"

def suffixAnswer : Answer := ⟨partialContent, [], 0, playlist⟩

def blankAnswer : Answer := ⟨statusOk, [], 0, List.replicate 60 0x20 ++ List.replicate 40 0x47⟩

/-- The last 1000 bytes of a short source are its whole, and a playlist is relayed; and one cut of
the blank body is relayed where another is refused. -/
theorem suffix_range_relays_manifest :
    (Http.IsPartialAnswer "bytes=-1000" playlist suffixAnswer.start suffixAnswer.body ∧
      suffixAnswer.StartsSource ∧
        ¬suffixAnswer.IsRuled [("range", headerValue "bytes=-1000")]) ∧
    blankAnswer.StartsSource ∧ ¬blankAnswer.IsRuled [] := by
  refine ⟨⟨?_, .inr ⟨rfl, rfl⟩, ?_⟩, .inl rfl, ?_⟩
  · exact ⟨[.suffix 1000], by decide, _, List.mem_singleton_self _, 56,
      by decide, by decide⟩
  · rw [isRuled_iff_of_not_classified (.inr rfl) rfl (by decide)]
    exact not_not_intro (by decide)
  · rw [isRuled_iff_of_classified (.inl rfl) rfl rfl]
    exact not_not_intro (by decide)

end Answer

end Jellyrin.PluginVod
