import Jellyrin.Defs.Data.Paragraphs
import Jellyrin.Defs.Data.Replace
import Jellyrin.Defs.Data.Rows
import Jellyrin.Defs.Playback.Delivery

/-! The master playlist of a transcode: its variant, and a rendition for each subtitle in text. -/

namespace Jellyrin.Playback.Master

open Ascii Text Transcode

structure HlsVariantInfo where
  uri : String
  bandwidth : UInt32
  resolution : Option (UInt32 × UInt32)
  codecs : Option String

structure TranscodeSession where
  item : Items.MediaItem
  dedupeKey : Option String
  subtitleStreamIndex : Option Int64

def directHlsSubtitleSegmentSeconds : Nat := 15

def replaceChar (c : Char) (new : String) (s : String) : String :=
  String.ofList (s.toList.flatMap fun d => if d = c then new.toList else [d])

def escapeHlsAttribute (value : String) : String :=
  replaceChar '"' "\\\"" (replaceChar '\\' "\\\\" value)

def escapeHlsCodecs (value : String) : String := replaceChar '"' "\\\"" value

def appendQuery (path : String) (rawQuery : Option String) : String :=
  match rawQuery.filter (Json.trim · ≠ "") with
  | none => path
  | some query => path ++ "?" ++ query

def positiveU32 (value : Int) : Option UInt32 :=
  if 0 < value ∧ value ≤ 4294967295 then some (UInt32.ofNat value.toNat) else none

/-! The variant. -/

def transcodedHlsCodecs : String → Option String
  | "Video" => some "avc1.4d401f,mp4a.40.2"
  | "Audio" => some "mp4a.40.2"
  | _ => none

def hlsTranscodeSessionCodecs (session : TranscodeSession) (mediaType : String) : Option String :=
  if mediaType = "Video" ∧
      (playbackHlsModesFromDedupeKey session.dedupeKey).any (·.1 == .copy) ∧
      (mediaItemStreamCodec session.item "Video").any (!eqIgnoreAsciiCase · "h264") then none
  else transcodedHlsCodecs mediaType

def hlsVariantInfo (session : TranscodeSession) (rawQuery : Option String) (mediaType : String) :
    HlsVariantInfo where
  uri := appendQuery hlsMediaPlaylistName rawQuery
  bandwidth := (session.item.bitrate.bind positiveU32).getD 1000000
  resolution :=
    match session.item.width.bind positiveU32, session.item.height.bind positiveU32 with
    | some width, some height => some (width, height)
    | _, _ => none
  codecs := hlsTranscodeSessionCodecs session mediaType

namespace HlsVariantInfo

variable (variant : HlsVariantInfo)

def attributes : List String :=
  ("BANDWIDTH=" ++ toString variant.bandwidth.toNat) :: variant.resolution.toList.map fun size =>
    "RESOLUTION=" ++ toString size.1.toNat ++ "x" ++ toString size.2.toNat

def quotedCodecs : List String := (variant.codecs.filter (· ≠ "")).toList.map escapeHlsCodecs

end HlsVariantInfo

def masterHeader : String := "#EXTM3U\n#EXT-X-VERSION:3\n"

def streamInf (attributes : List String) : String :=
  "#EXT-X-STREAM-INF:" ++ ",".intercalate attributes

def renderHlsMasterPlaylist (variant : HlsVariantInfo) : String :=
  let attributes :=
    variant.attributes ++ variant.quotedCodecs.map fun codecs => "CODECS=\"" ++ codecs ++ "\""
  masterHeader ++ streamInf attributes ++ "\n" ++ variant.uri ++ "\n"

/-! The renditions. -/

def hlsTextSubtitleStream (stream : Json) : Bool :=
  hasType stream "Subtitle" && (indexOf stream).any (0 ≤ ·) &&
    ((stream.get "Codec").bind Json.asStr).any isTextSubtitleCodec

def regionalTag (descriptor : String) : Option String :=
  if contains descriptor "latin american" ∨ contains descriptor "américa latina" ∨
      contains descriptor "latinoamérica" ∨ contains descriptor "latinoamerica" then
    some "es-419"
  else if contains descriptor "españa" ∨ contains descriptor "spain" then some "es-ES"
  else if contains descriptor "brazil" ∨ contains descriptor "brasil" then some "pt-BR"
  else if contains descriptor "english(us)" ∨ contains descriptor "english (us)" ∨
      contains descriptor "united states" then
    some "en-US"
  else if contains descriptor "france" then some "fr-FR"
  else none

def normalizedLanguage (language : String) : String :=
  match toAsciiLowercase (Json.trim language) with
  | "eng" => "en"
  | "spa" => "es"
  | "fra" => "fr"
  | "fre" => "fr"
  | "por" => "pt"
  | "ara" => "ar"
  | "ita" => "it"
  | "deu" => "de"
  | "ger" => "de"
  | "rus" => "ru"
  | _ => language

def suffixedTag (language : String) (index : Int) : String :=
  language ++ "-x-jellyrin-" ++ toString index

/-- What stands between the quotes of an `EXT-X-MEDIA` tag, before it is escaped, and its flags. -/
structure Rendition where
  name : String
  language : Option String
  isDefault : Bool
  forced : Bool
  uri : String

def yesNo (flag : Bool) : String := if flag then "YES" else "NO"

namespace Rendition

variable (rendition : Rendition)

def autoselect : Bool := rendition.isDefault || rendition.forced

def line : String :=
  "#EXT-X-MEDIA:TYPE=SUBTITLES,GROUP-ID=\"subs\",NAME=\"" ++ escapeHlsAttribute rendition.name ++
    "\"" ++
    (rendition.language.elim "" fun language =>
      ",LANGUAGE=\"" ++ escapeHlsAttribute language ++ "\"") ++
    ",DEFAULT=" ++ yesNo rendition.isDefault ++ ",AUTOSELECT=" ++ yesNo rendition.autoselect ++
    ",FORCED=" ++ yesNo rendition.forced ++ ",URI=\"" ++ escapeHlsAttribute rendition.uri ++ "\""

def quotedValues : List String :=
  ["subs", escapeHlsAttribute rendition.name] ++
    rendition.language.toList.map escapeHlsAttribute ++ [escapeHlsAttribute rendition.uri]

end Rendition

section Playlist

variable (toLowercase : String → String)

def hlsSubtitleLanguageTag (stream : Json) : Option String :=
  let descriptor := toLowercase (" ".intercalate (stream.stringFields ["DisplayTitle", "Title"]))
  (regionalTag descriptor).or ((stream.stringField "Language").map normalizedLanguage)

def hlsUniqueSubtitleLanguageTag (streams : List Json) (stream : Json) (index : Int) :
    Option String :=
  (hlsSubtitleLanguageTag toLowercase stream).map fun language =>
    let duplicates := (streams.filter hlsTextSubtitleStream).filter fun candidate =>
      hlsSubtitleLanguageTag toLowercase candidate == some language
    if 1 < duplicates.length then suffixedTag language index else language

def selectedSubtitleStreamIndex (session : TranscodeSession) : Option Int :=
  (session.subtitleStreamIndex.map Int64.toInt).filter (0 ≤ ·)

variable (session : TranscodeSession) (streams : List Json) (itemId : String)
  (rawQuery : Option String)

def subtitleQuery : String :=
  match rawQuery with
  | none => "segmentLength=" ++ toString directHlsSubtitleSegmentSeconds
  | some query => query ++ "&segmentLength=" ++ toString directHlsSubtitleSegmentSeconds

def renditionName (stream : Json) (index : Int) : String :=
  (["DisplayTitle", "Title", "Language"].findSome? stream.stringField).getD
    ("Subtitle " ++ toString index) ++ " [" ++ toString index ++ "]"

def subtitleUri (index : Int) : String :=
  appendQuery ("/Videos/" ++ itemId ++ "/" ++ itemId ++ "/Subtitles/" ++ toString index ++
    "/subtitles.m3u8") (some (subtitleQuery rawQuery))

def rendition (stream : Json) : Option Rendition :=
  (indexOf stream).map fun index =>
    { name := renditionName stream index
      language := hlsUniqueSubtitleLanguageTag toLowercase streams stream index
      isDefault := selectedSubtitleStreamIndex session == some index
      forced := ((stream.get "IsForced").bind Json.asBool).getD false
      uri := subtitleUri itemId rawQuery index }

def renditions : List Rendition :=
  (streams.filter hlsTextSubtitleStream).filterMap
    (rendition toLowercase session streams itemId rawQuery)

def rendersPlain : Bool :=
  selectedSubtitleStreamIsImage streams (selectedSubtitleStreamIndex session) ||
    !streams.any hlsTextSubtitleStream

def renderVideoHlsMasterPlaylist (variant : HlsVariantInfo) : String :=
  if rendersPlain session streams then renderHlsMasterPlaylist variant
  else
    let attributes := variant.attributes ++ ["CLOSED-CAPTIONS=NONE", "SUBTITLES=\"subs\""]
    masterHeader ++
      String.join ((renditions toLowercase session streams itemId rawQuery).map (·.line ++ "\n")) ++
      streamInf attributes ++ "\n" ++ variant.uri ++ "\n"

end Playlist

end Jellyrin.Playback.Master

/-! What is written between quotes, and on a line. -/

namespace Jellyrin.Playback.Master

open Ascii Text Transcode

def isLineBreak (c : Char) : Bool := c == '\n' || c == '\r'

def isBreaking (c : Char) : Bool := c == '"' || isLineBreak c

theorem isBreaking_of_isLineBreak {c : Char} (h : isLineBreak c = true) : isBreaking c = true := by
  rw [isBreaking, h, Bool.or_true]

theorem isBreaking_cases {c : Char} (h : isBreaking c = true) : c = '"' ∨ c = '\n' ∨ c = '\r' := by
  simpa [isBreaking, isLineBreak] using h

theorem oneLine_iff {s : String} : OneLine s ↔ ∀ c, isLineBreak c = true → c ∉ s.toList := by
  constructor
  · rintro ⟨hfeed, hreturn⟩ c hc
    rw [isLineBreak, Bool.or_eq_true, beq_iff_eq, beq_iff_eq] at hc
    obtain rfl | rfl := hc
    · exact hfeed
    · exact hreturn
  · exact fun h => ⟨h '\n' rfl, h '\r' rfl⟩

theorem notMem_literal {p : Char → Bool} {c : Char} {s : String} (h : p c = true)
    (hs : s.toList.any p = false) : c ∉ s.toList := by
  intro hmem
  rw [List.any_eq_false] at hs
  exact hs c hmem h

theorem notMem_append {c : Char} {s t : String} :
    c ∉ (s ++ t).toList ↔ c ∉ s.toList ∧ c ∉ t.toList := by
  rw [String.toList_append, List.mem_append, not_or]

def escapeChar (c : Char) : List Char :=
  if c = '\\' then ['\\', '\\'] else if c = '"' then ['\\', '"'] else [c]

theorem toList_escapeHlsAttribute (value : String) :
    (escapeHlsAttribute value).toList = value.toList.flatMap escapeChar := by
  simp only [escapeHlsAttribute, replaceChar, String.toList_ofList, List.flatMap_assoc]
  congr 1
  funext c
  by_cases hbackslash : c = '\\'
  · subst hbackslash
    decide
  · by_cases hquote : c = '"'
    · subst hquote
      decide
    · simp [escapeChar, hbackslash, hquote]

theorem escapeHlsAttribute_injective : Function.Injective escapeHlsAttribute := by
  have hwords : Function.Injective fun cs : List Char => cs.flatMap escapeChar := by
    refine flatMap_injective (fun c => ?_) (fun c d hprefix => ?_)
    · grind [escapeChar]
    · grind [escapeChar]
  intro value value' heq
  have hlists := congrArg String.toList heq
  rw [toList_escapeHlsAttribute, toList_escapeHlsAttribute] at hlists
  exact String.toList_injective (hwords hlists)

theorem notMem_escapeHlsAttribute {c : Char} {value : String} (hc : c ≠ '\\')
    (h : c ∉ value.toList) : c ∉ (escapeHlsAttribute value).toList := by
  rw [toList_escapeHlsAttribute, List.mem_flatMap]
  rintro ⟨d, hd, hmem⟩
  have hne : c ≠ d := by
    rintro rfl
    exact h hd
  grind [escapeChar]

theorem notMem_toString_int {c : Char} (h : isBreaking c = true) (index : Int) :
    c ∉ (toString index).toList := by
  intro hmem
  have hdigit := mem_toString_int hmem
  obtain rfl | rfl | rfl := isBreaking_cases h <;> exact absurd hdigit (by decide)

section Values

variable {c : Char} (h : isBreaking c = true)
include h

theorem notMem_appendQuery {path : String} {rawQuery : Option String} (hpath : c ∉ path.toList)
    (hquery : ∀ query ∈ rawQuery, c ∉ query.toList) : c ∉ (appendQuery path rawQuery).toList := by
  rw [appendQuery]
  split
  · exact hpath
  · rename_i query hsome
    rw [notMem_append, notMem_append]
    exact ⟨⟨hpath, notMem_literal h (by decide)⟩, hquery query (Option.filter_eq_some_iff.mp hsome).1⟩

theorem notMem_subtitleUri {itemId : String} {rawQuery : Option String} (hitem : c ∉ itemId.toList)
    (hquery : ∀ query ∈ rawQuery, c ∉ query.toList) (index : Int) :
    c ∉ (subtitleUri itemId rawQuery index).toList := by
  have hseconds : c ∉ (toString directHlsSubtitleSegmentSeconds).toList :=
    notMem_literal h (by decide)
  refine notMem_appendQuery h ?_ ?_
  · simp only [notMem_append]
    exact ⟨⟨⟨⟨⟨⟨notMem_literal h (by decide), hitem⟩, notMem_literal h (by decide)⟩, hitem⟩,
      notMem_literal h (by decide)⟩, notMem_toString_int h index⟩, notMem_literal h (by decide)⟩
  · rintro query ⟨⟩
    cases rawQuery with
    | none => exact notMem_append.mpr ⟨notMem_literal h (by decide), hseconds⟩
    | some query =>
      simp only [subtitleQuery, notMem_append]
      exact ⟨⟨hquery query rfl, notMem_literal h (by decide)⟩, hseconds⟩

theorem notMem_renditionName {stream : Json}
    (htexts : ∀ text ∈ stream.stringFields ["DisplayTitle", "Title", "Language"], c ∉ text.toList)
    (index : Int) : c ∉ (renditionName stream index).toList := by
  have hindex := notMem_toString_int h index
  have hbase : c ∉ ((["DisplayTitle", "Title", "Language"].findSome? stream.stringField).getD
      ("Subtitle " ++ toString index)).toList := by
    cases htitle : ["DisplayTitle", "Title", "Language"].findSome? stream.stringField with
    | none => exact notMem_append.mpr ⟨notMem_literal h (by decide), hindex⟩
    | some text =>
      obtain ⟨field, hfield, htext⟩ := List.exists_of_findSome?_eq_some htitle
      exact htexts text (List.mem_filterMap.mpr ⟨field, hfield, htext⟩)
  simp only [renditionName, notMem_append]
  exact ⟨⟨⟨hbase, notMem_literal h (by decide)⟩, hindex⟩, notMem_literal h (by decide)⟩

theorem notMem_regionalTag {descriptor tag : String} (htag : regionalTag descriptor = some tag) :
    c ∉ tag.toList := by
  have hknown : tag ∈ ["es-419", "es-ES", "pt-BR", "en-US", "fr-FR"] := by grind [regionalTag]
  have hplain : ["es-419", "es-ES", "pt-BR", "en-US", "fr-FR"].all
      (fun tag => !tag.toList.any isBreaking) = true := by decide
  exact notMem_literal h (by simpa using List.all_eq_true.mp hplain tag hknown)

theorem notMem_normalizedLanguage {language : String} (hlanguage : c ∉ language.toList) :
    c ∉ (normalizedLanguage language).toList := by
  rw [normalizedLanguage]
  split
  all_goals first | exact hlanguage | exact notMem_literal h (by decide)

theorem notMem_hlsSubtitleLanguageTag {toLowercase : String → String} {stream : Json} {tag : String}
    (htexts : ∀ text ∈ stream.stringFields ["DisplayTitle", "Title", "Language"], c ∉ text.toList)
    (htag : hlsSubtitleLanguageTag toLowercase stream = some tag) : c ∉ tag.toList := by
  rw [hlsSubtitleLanguageTag, Option.or_eq_some_iff] at htag
  obtain hregion | ⟨-, hlanguage⟩ := htag
  · exact notMem_regionalTag h hregion
  · obtain ⟨language, hfield, rfl⟩ := Option.map_eq_some_iff.mp hlanguage
    exact notMem_normalizedLanguage h
      (htexts language (List.mem_filterMap.mpr ⟨"Language", by simp, hfield⟩))

theorem notMem_hlsUniqueSubtitleLanguageTag {toLowercase : String → String} {streams : List Json}
    {stream : Json} {index : Int} {tag : String}
    (htexts : ∀ text ∈ stream.stringFields ["DisplayTitle", "Title", "Language"], c ∉ text.toList)
    (htag : hlsUniqueSubtitleLanguageTag toLowercase streams stream index = some tag) :
    c ∉ tag.toList := by
  obtain ⟨language, hlanguage, rfl⟩ := Option.map_eq_some_iff.mp htag
  have hkept := notMem_hlsSubtitleLanguageTag h htexts hlanguage
  dsimp only
  split
  · simp only [suffixedTag, notMem_append]
    exact ⟨⟨hkept, notMem_literal h (by decide)⟩, notMem_toString_int h index⟩
  · exact hkept

end Values

namespace Rendition

variable {rendition : Rendition}

theorem notMem_quotedValues {c : Char} (h : isBreaking c = true) (hname : c ∉ rendition.name.toList)
    (hlanguage : ∀ language ∈ rendition.language, c ∉ language.toList)
    (huri : c ∉ rendition.uri.toList) : ∀ value ∈ rendition.quotedValues, c ∉ value.toList := by
  have hbackslash : c ≠ '\\' := by
    rintro rfl
    cases h
  intro value hvalue
  simp only [quotedValues, List.mem_append, List.mem_cons, List.not_mem_nil, or_false,
    List.mem_map, Option.mem_toList] at hvalue
  obtain ((rfl | rfl) | ⟨language, hmem, rfl⟩) | rfl := hvalue
  · exact notMem_literal h (by decide)
  · exact notMem_escapeHlsAttribute hbackslash hname
  · exact notMem_escapeHlsAttribute hbackslash (hlanguage language hmem)
  · exact notMem_escapeHlsAttribute hbackslash huri

def flags (rendition : Rendition) : String :=
  ",DEFAULT=" ++ yesNo rendition.isDefault ++ ",AUTOSELECT=" ++ yesNo rendition.autoselect ++
    ",FORCED=" ++ yesNo rendition.forced ++ ",URI="

def parts (rendition : Rendition) : List String :=
  ["#EXT-X-MEDIA:TYPE=SUBTITLES,GROUP-ID=", "subs", ",NAME=", escapeHlsAttribute rendition.name] ++
    (rendition.language.elim [] fun language => [",LANGUAGE=", escapeHlsAttribute language]) ++
    [rendition.flags, escapeHlsAttribute rendition.uri, ""]

theorem line_eq_intercalate (rendition : Rendition) :
    rendition.line = "\"".intercalate rendition.parts := by
  have hfirst : "#EXT-X-MEDIA:TYPE=SUBTITLES,GROUP-ID=\"subs\",NAME=\"" =
      "#EXT-X-MEDIA:TYPE=SUBTITLES,GROUP-ID=" ++
        ("\"" ++ ("subs" ++ ("\"" ++ (",NAME=" ++ "\"")))) := by
    decide
  have hlanguage : ",LANGUAGE=\"" = ",LANGUAGE=" ++ "\"" := by decide
  have huri : ",URI=\"" = ",URI=" ++ "\"" := by decide
  unfold line parts flags
  cases rendition.language with
  | none =>
    simp only [hfirst, huri, Option.elim_none, List.append_nil, List.cons_append, List.nil_append,
      String.intercalate_cons_cons, String.intercalate_singleton, String.append_assoc,
      String.append_empty]
  | some language =>
    simp only [hfirst, huri, hlanguage, Option.elim_some, List.cons_append, List.nil_append,
      String.intercalate_cons_cons, String.intercalate_singleton, String.append_assoc,
      String.append_empty]

def literals : List String :=
  ["#EXT-X-MEDIA:TYPE=SUBTITLES,GROUP-ID=", ",NAME=", ",LANGUAGE=", ",DEFAULT=", ",AUTOSELECT=",
    ",FORCED=", ",URI=", "YES", "NO"]

theorem notMem_parts {c : Char} (hline : ∀ literal ∈ literals, c ∉ literal.toList)
    (hvalues : ∀ value ∈ rendition.quotedValues, c ∉ value.toList) :
    ∀ part ∈ rendition.parts, c ∉ part.toList := by
  have hyesNo : ∀ flag, c ∉ (yesNo flag).toList := by
    intro flag
    cases flag with
    | false => exact hline "NO" (by simp [literals])
    | true => exact hline "YES" (by simp [literals])
  have hflags : c ∉ rendition.flags.toList := by
    simp only [flags, notMem_append]
    exact ⟨⟨⟨⟨⟨⟨hline ",DEFAULT=" (by simp [literals]), hyesNo _⟩,
      hline ",AUTOSELECT=" (by simp [literals])⟩, hyesNo _⟩, hline ",FORCED=" (by simp [literals])⟩,
      hyesNo _⟩, hline ",URI=" (by simp [literals])⟩
  intro part hpart
  rw [parts, List.mem_append, List.mem_append] at hpart
  obtain (hpart | hpart) | hpart := hpart
  · simp only [List.mem_cons, List.not_mem_nil, or_false] at hpart
    obtain rfl | rfl | rfl | rfl := hpart
    · exact hline _ (by simp [literals])
    · exact hvalues _ (by simp [quotedValues])
    · exact hline _ (by simp [literals])
    · exact hvalues _ (by simp [quotedValues])
  · cases hsome : rendition.language with
    | none => simp [hsome] at hpart
    | some language =>
      simp only [hsome, Option.elim_some, List.mem_cons, List.not_mem_nil, or_false] at hpart
      obtain rfl | rfl := hpart
      · exact hline _ (by simp [literals])
      · exact hvalues _ (by simp [quotedValues, hsome])
  · simp only [List.mem_cons, List.not_mem_nil, or_false] at hpart
    obtain rfl | rfl | rfl := hpart
    · exact hflags
    · exact hvalues _ (by simp [quotedValues])
    · exact List.not_mem_nil

theorem oneLine_line (h : ∀ value ∈ rendition.quotedValues, OneLine value) :
    OneLine rendition.line := by
  refine oneLine_iff.mpr fun c hc hmem => ?_
  rw [line_eq_intercalate] at hmem
  obtain hquote | ⟨part, hpart, hmem⟩ := mem_intercalate hmem
  · exact notMem_literal hc (by decide) hquote
  · refine notMem_parts (fun literal hliteral => ?_)
      (fun value hvalue => oneLine_iff.mp (h value hvalue) c hc) part hpart hmem
    have hplain : literals.all (fun literal => !literal.toList.any isLineBreak) = true := by
      decide
    exact notMem_literal hc (by simpa using List.all_eq_true.mp hplain literal hliteral)

end Rendition

end Jellyrin.Playback.Master
