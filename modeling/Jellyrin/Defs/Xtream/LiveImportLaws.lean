import Jellyrin.Defs.Xtream.LiveImport
import Mathlib.Tactic.Linarith
import Mathlib.Tactic.Ring

/-! What is imported can be played, and under the tuner it was imported for only. -/

namespace Jellyrin.Xtream

open Ascii Json Text

namespace XtreamRemoteSourceRef

def live (tunerId streamId : String) : XtreamRemoteSourceRef where
  version := 1
  provider := xtreamProviderType
  tunerId
  kind := "live"
  remoteId := streamId
  extension := "ts"

structure IsMinted (tunerId streamId : String) : Prop where
  tunerId_ne : tunerId ≠ ""
  tunerId_size : tunerId.utf8ByteSize ≤ 512
  tunerId_printed : tunerId.toList.any isControl = false
  streamId_valid : validXtreamIdentifier streamId = true

theorem sanitized_ts : sanitizedXtreamExtension "ts" = some "ts" := by decide

theorem new_live_eq_some_iff {tunerId streamId : String} (htrim : trim tunerId = tunerId)
    {reference : XtreamRemoteSourceRef} :
    new tunerId "live" streamId "ts" = some reference ↔
      IsMinted tunerId streamId ∧ reference = live tunerId streamId := by
  rw [new, htrim, sanitized_ts]
  by_cases hguard : tunerId = "" ∨ 512 < tunerId.utf8ByteSize ∨
      tunerId.toList.any isControl = true ∨ validXtreamIdentifier streamId = false
  · rw [if_pos hguard]
    refine iff_of_false (by simp) ?_
    rintro ⟨hminted, -⟩
    obtain h | h | h | h := hguard
    · exact hminted.tunerId_ne h
    · exact absurd hminted.tunerId_size (Nat.not_le.mpr h)
    · simp [hminted.tunerId_printed] at h
    · simp [hminted.streamId_valid] at h
  · rw [if_neg hguard]
    have hminted : IsMinted tunerId streamId := by
      simp only [not_or, Nat.not_lt, Bool.not_eq_true, Bool.not_eq_false] at hguard
      exact ⟨hguard.1, hguard.2.1, hguard.2.2.1, hguard.2.2.2⟩
    simp only [Option.bind_some, List.mem_cons, true_or, if_true, Option.some.injEq, hminted,
      true_and]
    exact eq_comm

@[simp] theorem fromValue_toJson (reference : XtreamRemoteSourceRef) :
    fromValue reference.toJson = some reference := by
  obtain ⟨version, provider, tunerId, kind, remoteId, extension⟩ := reference
  have hversion : asU8 (.number version.toNat) = some version := by
    have hlt := version.toNat_lt
    rw [asU8, if_pos (by omega), Int.toNat_natCast, UInt8.ofNat_toNat]
  simp [fromValue, toJson, Json.get, asObject, asStr, hversion]

end XtreamRemoteSourceRef

open XtreamRemoteSourceRef

theorem xtreamRemoteSourceRef_toJson {tunerId streamId : String} (htrim : trim tunerId = tunerId)
    (h : IsMinted tunerId streamId) :
    xtreamRemoteSourceRef (live tunerId streamId).toJson = some (live tunerId streamId) := by
  rw [xtreamRemoteSourceRef, fromValue_toJson, Option.bind_eq_bind, Option.bind_some]
  have hguard : ¬((live tunerId streamId).version ≠ 1 ∨
      eqIgnoreAsciiCase (live tunerId streamId).provider xtreamProviderType = false) := by
    simp [live]
  rw [if_neg hguard]
  exact (new_live_eq_some_iff htrim).mpr ⟨h, rfl⟩

/-! The size of the text of a reference. -/

theorem utf8Len_escapeChar_le {c : Char} (h : isControl c = false) :
    String.utf8Len (escapeChar c) ≤ 2 * c.utf8Size := by
  have hpos := c.utf8Size_pos
  have hcode : 0x20 ≤ c.toNat := by
    simp only [isControl, Bool.or_eq_false_iff, decide_eq_false_iff_not] at h
    omega
  have hlow : ∀ d : Char, d.toNat < 0x20 → c ≠ d := by
    rintro d hd rfl
    omega
  rw [escapeChar]
  by_cases hquote : c = '"'
  · subst hquote
    decide
  by_cases hslash : c = '\\'
  · subst hslash
    decide
  rw [if_neg hquote, if_neg hslash, if_neg (hlow _ (by decide)), if_neg (hlow _ (by decide)),
    if_neg (hlow _ (by decide)), if_neg (hlow _ (by decide)), if_neg (hlow _ (by decide)),
    if_neg (by omega)]
  simp only [String.utf8Len_cons, String.utf8Len_nil]
  omega

theorem utf8ByteSize_jsonString_le {s : String} (h : s.toList.any isControl = false) :
    (jsonString s).utf8ByteSize ≤ 2 * s.utf8ByteSize + 2 := by
  have hchars : ∀ cs : List Char, (∀ c ∈ cs, isControl c = false) →
      String.utf8Len (cs.flatMap escapeChar) ≤ 2 * String.utf8Len cs := by
    intro cs hcs
    induction cs with
    | nil => simp
    | cons c cs ih =>
      obtain ⟨hc, hrest⟩ := List.forall_mem_cons.mp hcs
      have hhead := utf8Len_escapeChar_le hc
      have htail := ih hrest
      rw [List.flatMap_cons, String.utf8Len_append, String.utf8Len_cons]
      omega
  have hle := hchars s.toList (by simpa using h)
  rw [← utf8ByteSize_eq_utf8Len, ← String.utf8ByteSize_ofList] at hle
  have hquote : "\"".utf8ByteSize = 1 := rfl
  rw [jsonString, String.utf8ByteSize_append, String.utf8ByteSize_append, hquote]
  linarith

theorem utf8ByteSize_text (tunerId streamId : String) :
    (live tunerId streamId).text.utf8ByteSize =
      87 + (jsonString tunerId).utf8ByteSize + (jsonString streamId).utf8ByteSize := by
  have hversion : ("\x7b\"Version\":" ++
      ToString.toString (1 : UInt8).toNat).utf8ByteSize = 12 := by
    decide
  have hprovider : (",\"Provider\":" : String).utf8ByteSize = 12 := by decide
  have hxtream : (jsonString xtreamProviderType).utf8ByteSize = 8 := by decide
  have htuner : (",\"TunerId\":" : String).utf8ByteSize = 11 := by decide
  have hkind : (",\"Kind\":" : String).utf8ByteSize = 8 := by decide
  have hlive : (jsonString "live").utf8ByteSize = 6 := by decide
  have hremote : (",\"RemoteId\":" : String).utf8ByteSize = 12 := by decide
  have hextension : (",\"Extension\":" : String).utf8ByteSize = 13 := by decide
  have hts : (jsonString "ts").utf8ByteSize = 4 := by decide
  have hbrace : ("\x7d" : String).utf8ByteSize = 1 := by decide
  have happend : ∀ a b c d e f g h i j k l m : String,
      (a ++ b ++ c ++ d ++ e ++ f ++ g ++ h ++ i ++ j ++ k ++ l ++ m).utf8ByteSize =
        (a ++ b).utf8ByteSize + c.utf8ByteSize + d.utf8ByteSize + e.utf8ByteSize +
          f.utf8ByteSize + g.utf8ByteSize + h.utf8ByteSize + i.utf8ByteSize + j.utf8ByteSize +
          k.utf8ByteSize + l.utf8ByteSize + m.utf8ByteSize := by
    intros
    simp only [String.utf8ByteSize_append]
  refine (happend _ _ _ _ _ _ _ _ _ _ _ _ _).trans ?_
  simp only [live, hversion, hprovider, hxtream, htuner, hkind, hlive, hremote, hextension, hts,
    hbrace]
  ring

theorem utf8ByteSize_text_le {tunerId streamId : String} (h : IsMinted tunerId streamId) :
    (live tunerId streamId).text.utf8ByteSize ≤ 2139 := by
  have hvalid := h.streamId_valid
  simp only [validXtreamIdentifier, Bool.and_eq_true, decide_eq_true_eq, Bool.not_eq_true'] at hvalid
  have htuner := utf8ByteSize_jsonString_le h.tunerId_printed
  have hstream := utf8ByteSize_jsonString_le hvalid.2
  have hsizes := h.tunerId_size
  have hsize := hvalid.1.2
  rw [utf8ByteSize_text]
  linarith

theorem alphabet_spec {c : Char} (h : c ∈ Base64.alphabet) :
    c.utf8Size = 1 ∧ isWhitespace c = false := by
  have hall : Base64.alphabet.all
      (fun c => decide (c.utf8Size = 1 ∧ isWhitespace c = false)) = true := by decide
  exact of_decide_eq_true (List.all_eq_true.mp hall c h)

theorem utf8ByteSize_encode (bytes : List UInt8) :
    (String.ofList (Base64.encode bytes)).utf8ByteSize = (4 * bytes.length + 2) / 3 := by
  have hsize : ∀ cs : List Char, (∀ c ∈ cs, c ∈ Base64.alphabet) →
      String.utf8Len cs = cs.length := by
    intro cs hcs
    induction cs with
    | nil => rfl
    | cons c cs ih =>
      obtain ⟨hc, hrest⟩ := List.forall_mem_cons.mp hcs
      rw [String.utf8Len_cons, ih hrest, (alphabet_spec hc).1, List.length_cons]
  rw [String.utf8ByteSize_ofList, hsize _ fun c hc => Base64.mem_encode hc, Base64.length_encode]

theorem trim_encodedLiveProviderReference (reference : XtreamRemoteSourceRef) :
    trim (encodedLiveProviderReference reference) = encodedLiveProviderReference reference := by
  refine trim_of_forall fun c hc => ?_
  rw [encodedLiveProviderReference, String.toList_append, List.mem_append] at hc
  cases hc with
  | inl hscheme =>
    have hall : ("xtream:v1:".toList.all fun c => !isWhitespace c) = true := by decide
    simpa using List.all_eq_true.mp hall c hscheme
  | inr hencoded =>
    rw [String.toList_ofList] at hencoded
    exact (alphabet_spec (Base64.mem_encode hencoded)).2

section Playback

variable {Url : Type} {crate : UrlCrate Url} {fromSlice : List UInt8 → Option Json}
  {tunerId streamId : String}

theorem resolve_encoded (htrim : trim tunerId = tunerId) (h : IsMinted tunerId streamId)
    (hjson : fromSlice (asBytes (live tunerId streamId).text) =
      some (live tunerId streamId).toJson) (config : Json) :
    resolveLiveProviderReference crate fromSlice config
        (encodedLiveProviderReference (live tunerId streamId)) =
      resolveRemoteSourceRef crate config (live tunerId streamId).toJson := by
  have hsize := utf8ByteSize_encode (asBytes (live tunerId streamId).text)
  have hle := utf8ByteSize_text_le h
  have hpos : 0 < (live tunerId streamId).text.utf8ByteSize := by
    rw [utf8ByteSize_text, Nat.add_assoc]
    exact Nat.add_pos_left (by decide) _
  rw [length_asBytes] at hsize
  have hguard : ¬(String.ofList (Base64.encode (asBytes (live tunerId streamId).text)) = "" ∨
      4 * 1024 < (String.ofList
        (Base64.encode (asBytes (live tunerId streamId).text))).utf8ByteSize) := by
    rintro (hempty | hlarge)
    · rw [hempty, String.utf8ByteSize_empty] at hsize
      omega
    · omega
  rw [resolveLiveProviderReference, trim_encodedLiveProviderReference,
    encodedLiveProviderReference, stripPrefix_append]
  simp only [Option.bind_eq_bind, Option.bind_some, if_neg hguard, String.toList_ofList,
    Base64.decode_encode, hjson, xtreamRemoteSourceRef_toJson htrim h]
  rfl

theorem resolve_other_tuner (htrim : trim tunerId = tunerId) (h : IsMinted tunerId streamId)
    {config : Json} (hother : ∀ id, config.stringField "Id" = some id →
      eqIgnoreAsciiCase id tunerId = false) :
    resolveRemoteSourceRef crate config (live tunerId streamId).toJson = none := by
  rw [resolveRemoteSourceRef, xtreamRemoteSourceRef_toJson htrim h]
  simp only [Option.bind_eq_bind, Option.bind_some]
  cases hid : config.stringField "Id" with
  | none => rfl
  | some id =>
    rw [Option.bind_some, if_pos]
    exact hother id hid

theorem isHttp_of_validated (hcrate : crate.Lawful) {baseUrl : String} {base : Url}
    (h : validatedXtreamBaseUrl crate baseUrl = some base) : crate.isHttp base = true := by
  rw [validatedXtreamBaseUrl] at h
  split at h
  · cases h
  · obtain ⟨url, _, hvalid⟩ := Option.bind_eq_some_iff.mp h
    split at hvalid
    · cases hvalid
    · rename_i hguard
      cases hvalid
      simp only [not_or, Bool.not_eq_false] at hguard
      simp only [UrlCrate.isHttp, hcrate.scheme_clearFragment, hcrate.scheme_clearQuery,
        hcrate.scheme_setPath]
      exact hguard.1

theorem resolve_same_tuner (hcrate : crate.Lawful) (htrim : trim tunerId = tunerId)
    (h : IsMinted tunerId streamId) {config : Json} {base : Url} {username password : String}
    (hid : config.stringField "Id" = some tunerId)
    (hurl : (config.stringField "Url").bind (validatedXtreamBaseUrl crate) = some base)
    (husername : configuredUsername config = some username)
    (hpassword : config.stringField "Password" = some password)
    (hsecrets : validXtreamSecret username = true ∧ validXtreamSecret password = true) :
    ∃ address, streamUrl crate base username password streamId = some address ∧
      resolveRemoteSourceRef crate config (live tunerId streamId).toJson = some address := by
  obtain ⟨baseUrl, _, hvalidated⟩ := Option.bind_eq_some_iff.mp hurl
  have hhttp := isHttp_of_validated hcrate hvalidated
  have hsome := hcrate.withSegments base hhttp ["live", username, password, streamId ++ ".ts"]
  obtain ⟨url, hsegments⟩ := Option.isSome_iff_exists.mp hsome
  have hstream : streamUrl crate base username password streamId = some (crate.toString url) := by
    rw [streamUrl, itemUrl, hsegments, Option.map_some]
  refine ⟨crate.toString url, hstream, ?_⟩
  have hguard : ¬(validXtreamSecret username = false ∨ validXtreamSecret password = false) := by
    simp [hsecrets]
  rw [resolveRemoteSourceRef, xtreamRemoteSourceRef_toJson htrim h]
  simp only [Option.bind_eq_bind, Option.bind_some, hid, hurl, husername, hpassword,
    if_neg hguard]
  rw [if_neg (by simp [live])]
  exact hstream

theorem get_setIfSome {field other : String} (h : field ≠ other) (value : Option String)
    (channel : Json) : (setIfSome field value channel).get other = channel.get other := by
  cases value with
  | none => rfl
  | some text => exact get_set_of_ne channel (.string text) h

theorem parseStream_eq_some {stream channel : Json}
    (h : parseStream crate tunerId stream = some channel) :
    ∃ streamId reference, textOrNumberField stream "stream_id" = some streamId ∧
      streamReference tunerId stream = some reference ∧
      channel.get "ProviderReference" =
        some (.string (encodedLiveProviderReference reference)) := by
  rw [parseStream] at h
  obtain ⟨streamId, hid, h⟩ := Option.bind_eq_some_iff.mp h
  obtain ⟨reference, hreference, h⟩ := Option.bind_eq_some_iff.mp h
  refine ⟨streamId, reference, hid, hreference, ?_⟩
  obtain rfl := Option.some.inj h
  rw [get_setIfSome (by decide), get_setIfSome (by decide), get_setIfSome (by decide),
    get_setIfSome (by decide)]
  simp only [ofFields, List.foldl_cons, List.foldl_nil]
  rw [get_set_of_ne _ _ (by decide), get_set_of_ne _ _ (by decide), get_set_of_ne _ _ (by decide),
    get_set_of_ne _ _ (by decide), get_set]
  simp only [isObject_set]
  rfl

theorem mem_parseStreams {streams : List Json} {options : LiveTvXtreamImportOptions}
    {channel : Json} (h : channel ∈ parseStreams crate tunerId streams options) :
    ∃ stream ∈ streams, options.allows stream = true ∧
      parseStream crate tunerId stream = some channel := by
  rw [parseStreams, List.mem_filterMap] at h
  obtain ⟨stream, hstream, hchannel⟩ := h
  have hallowed : stream ∈ streams.filter options.allows := by
    cases hlimit : options.limit with
    | none => simpa [hlimit] using hstream
    | some limit =>
      simp only [hlimit, Option.map_some, Option.getD_some] at hstream
      exact List.mem_of_mem_take hstream
  exact ⟨stream, List.mem_of_mem_filter hallowed, (List.mem_filter.mp hallowed).2, hchannel⟩

/-- Each imported channel plays the stream it was made from, and does so for its tuner only. -/
theorem imported_channel_plays (hcrate : crate.Lawful) {config : Json} {base : Url}
    {username password : String} (hid : config.stringField "Id" = some tunerId)
    (hurl : (config.stringField "Url").bind (validatedXtreamBaseUrl crate) = some base)
    (husername : configuredUsername config = some username)
    (hpassword : config.stringField "Password" = some password)
    (hsecrets : validXtreamSecret username = true ∧ validXtreamSecret password = true)
    (streams : List Json) (options : LiveTvXtreamImportOptions)
    (hjson : ∀ stream ∈ streams, ∀ reference, streamReference tunerId stream = some reference →
      fromSlice (asBytes reference.text) = some reference.toJson)
    {channel : Json} (hchannel : channel ∈ parseStreams crate tunerId streams options) :
    ∃ stream ∈ streams, ∃ streamId providerReference,
      parseStream crate tunerId stream = some channel ∧
      textOrNumberField stream "stream_id" = some streamId ∧
      channel.get "ProviderReference" = some (.string providerReference) ∧
      (∃ address, streamUrl crate base username password streamId = some address ∧
        resolveLiveProviderReference crate fromSlice config providerReference = some address) ∧
      ∀ other : Json, (∀ id, other.stringField "Id" = some id →
          eqIgnoreAsciiCase id tunerId = false) →
        resolveLiveProviderReference crate fromSlice other providerReference = none := by
  obtain ⟨stream, hstream, _, hparse⟩ := mem_parseStreams hchannel
  obtain ⟨streamId, reference, hstreamId, hreference, hget⟩ := parseStream_eq_some hparse
  have htrim := (trim_stringField hid).1
  have hnew := hreference
  rw [streamReference, hstreamId, Option.bind_eq_bind, Option.bind_some] at hnew
  have hvalid : validXtreamIdentifier streamId = true := by
    by_contra hinvalid
    rw [if_neg hinvalid] at hnew
    cases hnew
  rw [if_pos hvalid] at hnew
  obtain ⟨hminted, rfl⟩ := (new_live_eq_some_iff htrim).mp hnew
  have hslice := hjson stream hstream _ hreference
  refine ⟨stream, hstream, streamId, _, hparse, hstreamId, hget, ?_, ?_⟩
  · rw [resolve_encoded htrim hminted hslice]
    exact resolve_same_tuner hcrate htrim hminted hid hurl husername hpassword hsecrets
  · intro other hother
    rw [resolve_encoded htrim hminted hslice]
    exact resolve_other_tuner htrim hminted hother

end Playback

structure PlainUrl where
  scheme : String
  host : String
  segments : List String
  deriving DecidableEq

def plainUrls : UrlCrate PlainUrl where
  parse text := (stripPrefix text "http://").map fun host => ⟨"http", host, []⟩
  toString url := url.scheme ++ "://" ++ url.host ++ "/" ++ "/".intercalate url.segments
  scheme := PlainUrl.scheme
  hostStr url := some url.host
  username _ := ""
  password _ := none
  query _ := none
  fragment _ := none
  setPath url _ := { url with segments := [] }
  clearQuery := id
  clearFragment := id
  withSegments url segments := some { url with segments }

theorem plainUrls_lawful : plainUrls.Lawful :=
  ⟨fun _ _ _ => rfl, fun _ _ => rfl, fun _ => rfl, fun _ => rfl⟩

def livingRoom : Json :=
  .object [("Id", .string " living-room"), ("Password", .string "secret"),
    ("Url", .string "http://tv.example"), ("Username", .string "alice")]

def seventhStream : Json := .object [("stream_id", .number 7)]

def seventhSlice (bytes : List UInt8) : Option Json :=
  if bytes = asBytes (live "living-room" "7").text then some (live "living-room" "7").toJson
  else none

def allStreams : LiveTvXtreamImportOptions := ⟨∅, ∅, none⟩

theorem seventh_channel_plays :
    ∃ channel ∈ parseStreams plainUrls "living-room" [seventhStream] allStreams,
      ∃ providerReference, channel.get "ProviderReference" = some (.string providerReference) ∧
        resolveLiveProviderReference plainUrls seventhSlice livingRoom providerReference =
          some "http://tv.example/live/alice/secret/7.ts" := by
  have hid : livingRoom.stringField "Id" = some "living-room" := by decide
  have hurl : (livingRoom.stringField "Url").bind (validatedXtreamBaseUrl plainUrls) =
      some ⟨"http", "tv.example", []⟩ := by decide
  have husername : configuredUsername livingRoom = some "alice" := by decide
  have hpassword : livingRoom.stringField "Password" = some "secret" := by decide
  have hsecrets : validXtreamSecret "alice" = true ∧ validXtreamSecret "secret" = true := by
    decide
  have hreference : streamReference "living-room" seventhStream =
      some (live "living-room" "7") := by decide
  have hjson : ∀ stream ∈ [seventhStream], ∀ reference,
      streamReference "living-room" stream = some reference →
        seventhSlice (asBytes reference.text) = some reference.toJson := by
    intro stream hstream reference h
    obtain rfl := List.mem_singleton.mp hstream
    obtain rfl := Option.some.inj (hreference.symm.trans h)
    exact if_pos rfl
  obtain ⟨channel, hchannel⟩ : ∃ channel,
      channel ∈ parseStreams plainUrls "living-room" [seventhStream] allStreams := by
    refine List.exists_mem_of_ne_nil _ ?_
    decide
  obtain ⟨stream, hstream, streamId, reference, -, hstreamId, hget, ⟨address, haddress, hplays⟩, -⟩ :=
    imported_channel_plays plainUrls_lawful hid hurl husername hpassword hsecrets [seventhStream]
      allStreams hjson hchannel
  obtain rfl := List.mem_singleton.mp hstream
  obtain rfl : streamId = "7" := by
    have hseven : textOrNumberField seventhStream "stream_id" = some "7" := by decide
    exact Option.some.inj (hstreamId.symm.trans hseven)
  have hseven : streamUrl plainUrls ⟨"http", "tv.example", []⟩ "alice" "secret" "7" =
      some "http://tv.example/live/alice/secret/7.ts" := by decide
  exact ⟨channel, hchannel, reference, hget, hplays.trans (haddress.symm.trans hseven)⟩

end Jellyrin.Xtream
