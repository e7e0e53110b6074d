import Jellyrin.Defs.Playback.MasterPlaylist

/-! A master playlist is read line by line, and its renditions are told apart. -/

namespace Jellyrin.Playback.Master

open Ascii Text Transcode

/-! The lines of a playlist. -/

def isTag (line : String) : Bool := startsWith line "#"

def isMediaTag (line : String) : Bool := startsWith line "#EXT-X-MEDIA:"

def masterLines (renditions : List Rendition) (attributes : List String) (uri : String) :
    List String :=
  ["#EXTM3U", "#EXT-X-VERSION:3"] ++ renditions.map Rendition.line ++ [streamInf attributes, uri]

theorem terminated_masterLines (renditions : List Rendition) (attributes : List String)
    (uri : String) : terminated (masterLines renditions attributes uri) =
      masterHeader ++ String.join (renditions.map (·.line ++ "\n")) ++
        streamInf attributes ++ "\n" ++ uri ++ "\n" := by
  have hheader : terminated ["#EXTM3U", "#EXT-X-VERSION:3"] = masterHeader := by decide
  have htail (tag : String) : terminated [tag, uri] = tag ++ "\n" ++ uri ++ "\n" := by
    simp only [terminated, List.map_cons, List.map_nil, String.join_cons, String.join_nil,
      String.append_empty, String.append_assoc]
  have hrenditions : terminated (renditions.map Rendition.line) =
      String.join (renditions.map (·.line ++ "\n")) := by
    simp only [terminated, List.map_map, Function.comp_def]
  simp only [masterLines, terminated_append, hheader, htail, hrenditions, String.append_assoc]

theorem startsWith_append {s start : String} (h : startsWith s start = true) (rest : String) :
    startsWith (s ++ rest) start = true := by
  rw [startsWith, List.isPrefixOf_iff_prefix] at h ⊢
  rw [String.toList_append]
  exact h.trans (List.prefix_append _ _)

theorem isMediaTag_line (rendition : Rendition) : isMediaTag rendition.line = true := by
  rw [Rendition.line_eq_intercalate, Rendition.parts, List.cons_append, List.cons_append,
    List.cons_append, List.cons_append, String.intercalate_cons_cons, isMediaTag]
  exact startsWith_append (startsWith_append (by decide) _) _

theorem isTag_of_isMediaTag {line : String} (h : isMediaTag line = true) : isTag line = true := by
  rw [isMediaTag, startsWith, List.isPrefixOf_iff_prefix] at h
  rw [isTag, startsWith, List.isPrefixOf_iff_prefix]
  exact List.IsPrefix.trans ⟨"EXT-X-MEDIA:".toList, rfl⟩ h

theorem isTag_append {s : String} (h : s.toList ≠ []) (rest : String) :
    isTag (s ++ rest) = isTag s := by
  simp only [isTag, startsWith, String.toList_append]
  cases hs : s.toList with
  | nil => exact absurd hs h
  | cons c cs => rfl

theorem isTag_appendQuery {path : String} (h : path.toList ≠ [] ∧ isTag path = false)
    (rawQuery : Option String) : isTag (appendQuery path rawQuery) = false := by
  rw [appendQuery]
  split
  · exact h.2
  · rw [String.append_assoc, isTag_append h.1]
    exact h.2

theorem isTag_streamInf (attributes : List String) : isTag (streamInf attributes) = true :=
  startsWith_append (by decide) _

theorem isMediaTag_streamInf (attributes : List String) :
    isMediaTag (streamInf attributes) = false := by
  rw [Bool.eq_false_iff]
  intro hmedia
  rw [isMediaTag, startsWith, List.isPrefixOf_iff_prefix] at hmedia
  have hstream : "#EXT-X-STREAM-INF:".toList <+: (streamInf attributes).toList :=
    ⟨_, String.toList_append.symm⟩
  cases List.prefix_or_prefix_of_prefix hmedia hstream with
  | inl hprefix => exact absurd hprefix (by decide)
  | inr hprefix => exact absurd hprefix (by decide)

section Lines

variable {renditions : List Rendition} {attributes : List String} {uri : String}
  (huri : isTag uri = false)
include huri

theorem filter_not_isTag_masterLines :
    (masterLines renditions attributes uri).filter (!isTag ·) = [uri] := by
  have hrenditions : (renditions.map Rendition.line).filter (!isTag ·) = [] := by
    rw [List.filter_eq_nil_iff]
    intro line hline
    obtain ⟨rendition, -, rfl⟩ := List.mem_map.mp hline
    simp [isTag_of_isMediaTag (isMediaTag_line rendition)]
  have hheader : ["#EXTM3U", "#EXT-X-VERSION:3"].filter (!isTag ·) = [] := by decide
  rw [masterLines, List.filter_append, List.filter_append, hheader, hrenditions]
  simp [isTag_streamInf, huri]

theorem filter_isMediaTag_masterLines :
    (masterLines renditions attributes uri).filter isMediaTag = renditions.map Rendition.line := by
  have hrenditions : (renditions.map Rendition.line).filter isMediaTag =
      renditions.map Rendition.line := by
    rw [List.filter_eq_self]
    intro line hline
    obtain ⟨rendition, -, rfl⟩ := List.mem_map.mp hline
    exact isMediaTag_line rendition
  have hheader : ["#EXTM3U", "#EXT-X-VERSION:3"].filter isMediaTag = [] := by decide
  have hplain : isMediaTag uri = false := by
    rw [Bool.eq_false_iff]
    intro hmedia
    rw [isTag_of_isMediaTag hmedia] at huri
    cases huri
  rw [masterLines, List.filter_append, List.filter_append, hheader, hrenditions]
  simp [isMediaTag_streamInf, hplain]

end Lines

theorem oneLine_masterLines {renditions : List Rendition} {attributes : List String} {uri : String}
    (hrenditions : ∀ rendition ∈ renditions, ∀ value ∈ rendition.quotedValues, OneLine value)
    (hattributes : ∀ entry ∈ attributes, OneLine entry) (huri : OneLine uri) :
    ∀ line ∈ masterLines renditions attributes uri, OneLine line := by
  have hstream : OneLine (streamInf attributes) := by
    refine oneLine_iff.mpr fun c hc => notMem_append.mpr ⟨notMem_literal hc (by decide), ?_⟩
    intro hmem
    obtain hcomma | ⟨entry, hentry, hmem⟩ := mem_intercalate hmem
    · exact notMem_literal hc (by decide) hcomma
    · exact oneLine_iff.mp (hattributes entry hentry) c hc hmem
  intro line hline
  simp only [masterLines, List.mem_append, List.mem_cons, List.not_mem_nil, or_false,
    List.mem_map] at hline
  obtain ((rfl | rfl) | ⟨rendition, hrendition, rfl⟩) | rfl | rfl := hline
  · exact oneLine_iff.mpr fun c hc => notMem_literal hc (by decide)
  · exact oneLine_iff.mpr fun c hc => notMem_literal hc (by decide)
  · exact Rendition.oneLine_line (hrenditions rendition hrendition)
  · exact hstream
  · exact huri

/-! Names and language tags. -/

theorem eq_of_append_cons_right {sep : Char} {first first' rest rest' : List Char} (h : sep ∉ rest)
    (h' : sep ∉ rest') (heq : first ++ sep :: rest = first' ++ sep :: rest') : rest = rest' := by
  have hreversed : rest.reverse ++ sep :: first.reverse = rest'.reverse ++ sep :: first'.reverse := by
    simpa using congrArg List.reverse heq
  exact List.reverse_injective (eq_of_append_cons (by simpa using h) (by simpa using h') hreversed)

theorem index_of_renditionName {stream other : Json} {index index' : Int}
    (h : renditionName stream index = renditionName other index') : index = index' := by
  have hname (stream : Json) (i : Int) : ∃ base,
      (renditionName stream i).toList = base ++ '[' :: ((toString i).toList ++ [']']) :=
    ⟨((["DisplayTitle", "Title", "Language"].findSome? stream.stringField).getD
      ("Subtitle " ++ toString i)).toList ++ [' '], by simp [renditionName]⟩
  have hdigits (i : Int) : '[' ∉ (toString i).toList ++ [']'] := by
    intro hmem
    rw [List.mem_append] at hmem
    cases hmem with
    | inl hnumeral => exact absurd (mem_toString_int hnumeral) (by decide)
    | inr hclose => simp at hclose
  obtain ⟨base, hbase⟩ := hname stream index
  obtain ⟨base', hbase'⟩ := hname other index'
  rw [h, hbase'] at hbase
  have hnumerals := eq_of_append_cons_right (hdigits index') (hdigits index) hbase
  exact toString_int_injective (String.toList_injective (List.append_cancel_right hnumerals).symm)

theorem index_of_suffixedTag {language language' : String} {index index' : Int} (hindex : 0 ≤ index)
    (hindex' : 0 ≤ index') (h : suffixedTag language index = suffixedTag language' index') :
    index = index' := by
  have htag (language : String) (i : Int) : (suffixedTag language i).toList =
      (language.toList ++ "-x-jellyrin".toList) ++ '-' :: (toString i).toList := by
    simp [suffixedTag]
  have hdigits {i : Int} (hi : 0 ≤ i) : '-' ∉ (toString i).toList := by
    obtain ⟨n, rfl⟩ := Int.eq_ofNat_of_zero_le hi
    exact fun hmem => absurd (isDigit_of_mem_toString hmem) (by decide)
  have hlists := congrArg String.toList h
  rw [htag, htag] at hlists
  exact toString_int_injective
    (String.toList_injective (eq_of_append_cons_right (hdigits hindex) (hdigits hindex') hlists))

section Distinct

variable {toLowercase : String → String} {session : TranscodeSession} {streams : List Json}
  {itemId : String} {rawQuery : Option String}

theorem index_of_hlsTextSubtitleStream {stream : Json} (h : hlsTextSubtitleStream stream = true) :
    ∃ index, indexOf stream = some index ∧ 0 ≤ index := by
  simp only [hlsTextSubtitleStream, Bool.and_eq_true, Option.any_eq_true, decide_eq_true_eq] at h
  exact h.1.2

theorem index_ne_of_sublist (hindices : (streams.filterMap indexOf).Nodup) {stream other : Json}
    (h : [stream, other].Sublist (streams.filter hlsTextSubtitleStream)) {index index' : Int}
    (hindex : indexOf stream = some index) (hindex' : indexOf other = some index') :
    index ≠ index' := by
  have hpairs := List.pairwise_filterMap.mp hindices
  exact List.pairwise_iff_forall_sublist.mp hpairs (h.trans List.filter_sublist) index hindex index'
    hindex'

theorem nodup_names (hindices : (streams.filterMap indexOf).Nodup) :
    ((renditions toLowercase session streams itemId rawQuery).map
      (escapeHlsAttribute ·.name)).Nodup := by
  rw [List.Nodup, List.pairwise_map, renditions, List.pairwise_filterMap,
    List.pairwise_iff_forall_sublist]
  rintro stream other hsub _ hstream _ hother heq
  obtain ⟨index, hindex, rfl⟩ := Option.map_eq_some_iff.mp hstream
  obtain ⟨index', hindex', rfl⟩ := Option.map_eq_some_iff.mp hother
  exact index_ne_of_sublist hindices hsub hindex hindex'
    (index_of_renditionName (escapeHlsAttribute_injective heq))

def sharedBy (toLowercase : String → String) (streams : List Json) (language : String) : Nat :=
  ((streams.filter hlsTextSubtitleStream).filter fun candidate =>
    hlsSubtitleLanguageTag toLowercase candidate == some language).length

theorem hlsUniqueSubtitleLanguageTag_eq_some {stream : Json} {index : Int} {tag : String}
    (h : hlsUniqueSubtitleLanguageTag toLowercase streams stream index = some tag) :
    ∃ language, hlsSubtitleLanguageTag toLowercase stream = some language ∧
      (tag = suffixedTag language index ∧ 1 < sharedBy toLowercase streams language ∨
        tag = language ∧ sharedBy toLowercase streams language ≤ 1) := by
  obtain ⟨language, hlanguage, rfl⟩ := Option.map_eq_some_iff.mp h
  refine ⟨language, hlanguage, ?_⟩
  dsimp only
  split
  · exact .inl ⟨rfl, ‹_›⟩
  · rename_i hone
    exact .inr ⟨rfl, Nat.not_lt.mp hone⟩

/-- No stream has, for itself alone, the language that one of several with a language is given. -/
def TagsApart (toLowercase : String → String) (streams : List Json) : Prop :=
  ∀ stream ∈ streams.filter hlsTextSubtitleStream, ∀ language index,
    hlsSubtitleLanguageTag toLowercase stream = some language → indexOf stream = some index →
      1 < sharedBy toLowercase streams language →
        sharedBy toLowercase streams (suffixedTag language index) ≠ 1

theorem sharedBy_pos {stream : Json} {language : String}
    (h : stream ∈ streams.filter hlsTextSubtitleStream)
    (hlanguage : hlsSubtitleLanguageTag toLowercase stream = some language) :
    0 < sharedBy toLowercase streams language := by
  refine List.length_pos_of_mem (List.mem_filter.mpr ⟨h, ?_⟩)
  rw [hlanguage, beq_self_eq_true]

theorem hlsUniqueSubtitleLanguageTag_ne (hindices : (streams.filterMap indexOf).Nodup)
    (hapart : TagsApart toLowercase streams) {stream other : Json}
    (hsub : [stream, other].Sublist (streams.filter hlsTextSubtitleStream)) {index index' : Int}
    (hindex : indexOf stream = some index) (hindex' : indexOf other = some index') {tag : String}
    (htag : hlsUniqueSubtitleLanguageTag toLowercase streams stream index = some tag) :
    hlsUniqueSubtitleLanguageTag toLowercase streams other index' ≠ some tag := by
  intro htag'
  have hstream : stream ∈ streams.filter hlsTextSubtitleStream := hsub.subset (by simp)
  have hother : other ∈ streams.filter hlsTextSubtitleStream := hsub.subset (by simp)
  have hnonneg : 0 ≤ index := by
    obtain ⟨i, hi, hle⟩ := index_of_hlsTextSubtitleStream (List.mem_filter.mp hstream).2
    rwa [Option.some.inj (hindex.symm.trans hi)]
  have hnonneg' : 0 ≤ index' := by
    obtain ⟨i, hi, hle⟩ := index_of_hlsTextSubtitleStream (List.mem_filter.mp hother).2
    rwa [Option.some.inj (hindex'.symm.trans hi)]
  obtain ⟨language, hlanguage, htag⟩ := hlsUniqueSubtitleLanguageTag_eq_some htag
  obtain ⟨language', hlanguage', htag'⟩ := hlsUniqueSubtitleLanguageTag_eq_some htag'
  obtain ⟨rfl, hmany⟩ | ⟨rfl, hone⟩ := htag
  · obtain ⟨hboth, -⟩ | ⟨hown, hone⟩ := htag'
    · exact index_ne_of_sublist hindices hsub hindex hindex'
        (index_of_suffixedTag hnonneg hnonneg' hboth)
    · refine hapart stream hstream language index hlanguage hindex hmany ?_
      rw [hown]
      exact le_antisymm hone (sharedBy_pos hother hlanguage')
  · obtain ⟨hsuffixed, hmany⟩ | ⟨rfl, -⟩ := htag'
    · refine hapart other hother language' index' hlanguage' hindex' hmany ?_
      rw [← hsuffixed]
      exact le_antisymm hone (sharedBy_pos hstream hlanguage)
    · -- The two streams are counted for the one tag.
      have hpair := hsub.filter fun candidate =>
        hlsSubtitleLanguageTag toLowercase candidate == some tag
      have htwo := hpair.length_le
      rw [sharedBy] at hone
      simp only [List.filter_cons, hlanguage, hlanguage', beq_self_eq_true, if_true,
        List.filter_nil, List.length_cons, List.length_nil] at htwo
      omega

theorem nodup_languages (hindices : (streams.filterMap indexOf).Nodup)
    (hapart : TagsApart toLowercase streams) :
    (((renditions toLowercase session streams itemId rawQuery).filterMap
      Rendition.language).map escapeHlsAttribute).Nodup := by
  refine List.Nodup.map escapeHlsAttribute_injective ?_
  rw [List.Nodup, List.pairwise_filterMap, renditions, List.pairwise_filterMap,
    List.pairwise_iff_forall_sublist]
  rintro stream other hsub _ hstream _ hother tag htag _ htag' rfl
  obtain ⟨index, hindex, rfl⟩ := Option.map_eq_some_iff.mp hstream
  obtain ⟨index', hindex', rfl⟩ := Option.map_eq_some_iff.mp hother
  exact hlsUniqueSubtitleLanguageTag_ne hindices hapart hsub hindex hindex' htag htag'

end Distinct

/-! A playlist as a whole. -/

def foreignTexts (streams : List Json) (itemId : String) (rawQuery : Option String) :
    List String :=
  ((streams.filter hlsTextSubtitleStream).flatMap fun stream =>
    stream.stringFields ["DisplayTitle", "Title", "Language"]) ++ itemId :: rawQuery.toList

theorem hlsVariantInfo_codecs {session : TranscodeSession} {rawQuery : Option String}
    {mediaType codecs : String} (h : codecs ∈ (hlsVariantInfo session rawQuery mediaType).quotedCodecs)
    {c : Char} (hc : isBreaking c = true) : c ∉ codecs.toList := by
  obtain ⟨codecs, hcodecs, rfl⟩ := List.mem_map.mp h
  have hsome := (Option.filter_eq_some_iff.mp (Option.mem_toList.mp hcodecs)).1
  have hknown : codecs ∈ ["avc1.4d401f,mp4a.40.2", "mp4a.40.2"] := by
    simp only [hlsVariantInfo, hlsTranscodeSessionCodecs] at hsome
    split at hsome
    · cases hsome
    · unfold transcodedHlsCodecs at hsome
      split at hsome <;> grind
  have hplain : ["avc1.4d401f,mp4a.40.2", "mp4a.40.2"].all
      (fun codecs => !(escapeHlsCodecs codecs).toList.any isBreaking) = true := by decide
  exact notMem_literal hc (by simpa using List.all_eq_true.mp hplain codecs hknown)

theorem HlsVariantInfo.oneLine_attributes (variant : HlsVariantInfo) :
    ∀ entry ∈ variant.attributes, OneLine entry := by
  have hnumeral {c : Char} (hc : isLineBreak c = true) (n : Nat) : c ∉ (toString n).toList :=
    notMem_toString_int (isBreaking_of_isLineBreak hc) n
  intro entry hentry
  refine oneLine_iff.mpr fun c hc => ?_
  obtain rfl | hentry := List.mem_cons.mp hentry
  · exact notMem_append.mpr ⟨notMem_literal hc (by decide), hnumeral hc _⟩
  · obtain ⟨size, -, rfl⟩ := List.mem_map.mp hentry
    simp only [notMem_append]
    exact ⟨⟨⟨notMem_literal hc (by decide), hnumeral hc _⟩, notMem_literal hc (by decide)⟩,
      hnumeral hc _⟩

section Whole

variable (toLowercase : String → String) (session : TranscodeSession) (streams : List Json)
  (itemId : String) (rawQuery : Option String)

def videoMasterPlaylist : String :=
  renderVideoHlsMasterPlaylist toLowercase session streams itemId rawQuery
    (hlsVariantInfo session rawQuery "Video")

def writtenRenditions : List Rendition :=
  if rendersPlain session streams then []
  else renditions toLowercase session streams itemId rawQuery

def writtenValues : List String :=
  if rendersPlain session streams then (hlsVariantInfo session rawQuery "Video").quotedCodecs
  else "subs" ::
    (renditions toLowercase session streams itemId rawQuery).flatMap Rendition.quotedValues

structure Uncorrupted : Prop where
  uriLine : (lines (videoMasterPlaylist toLowercase session streams itemId rawQuery)).filter
    (!isTag ·) = [(hlsVariantInfo session rawQuery "Video").uri]
  mediaLines : ((lines (videoMasterPlaylist toLowercase session streams itemId rawQuery)).filter
    isMediaTag).length = (streams.filter hlsTextSubtitleStream).length
  quotedValues : ∀ value ∈ writtenValues toLowercase session streams itemId rawQuery,
    '"' ∉ value.toList ∧ OneLine value
  names : ((writtenRenditions toLowercase session streams itemId rawQuery).map
    (escapeHlsAttribute ·.name)).Nodup
  languages : (((writtenRenditions toLowercase session streams itemId rawQuery).filterMap
    Rendition.language).map escapeHlsAttribute).Nodup

theorem videoMasterPlaylist_eq : ∃ attributes, (∀ entry ∈ attributes, OneLine entry) ∧
    videoMasterPlaylist toLowercase session streams itemId rawQuery =
      terminated (masterLines (writtenRenditions toLowercase session streams itemId rawQuery)
        attributes (hlsVariantInfo session rawQuery "Video").uri) := by
  have hattributes := (hlsVariantInfo session rawQuery "Video").oneLine_attributes
  by_cases hplain : rendersPlain session streams = true
  · refine ⟨(hlsVariantInfo session rawQuery "Video").attributes ++
      (hlsVariantInfo session rawQuery "Video").quotedCodecs.map fun codecs =>
        "CODECS=\"" ++ codecs ++ "\"", ?_, ?_⟩
    · intro entry hentry
      obtain hentry | hentry := List.mem_append.mp hentry
      · exact hattributes entry hentry
      · obtain ⟨codecs, hcodecs, rfl⟩ := List.mem_map.mp hentry
        refine oneLine_iff.mpr fun c hc => ?_
        simp only [notMem_append]
        exact ⟨⟨notMem_literal hc (by decide),
          hlsVariantInfo_codecs hcodecs (isBreaking_of_isLineBreak hc)⟩,
          notMem_literal hc (by decide)⟩
    · rw [terminated_masterLines, videoMasterPlaylist, renderVideoHlsMasterPlaylist, if_pos hplain,
        writtenRenditions, if_pos hplain, renderHlsMasterPlaylist, List.map_nil, String.join_nil,
        String.append_empty]
  · refine ⟨(hlsVariantInfo session rawQuery "Video").attributes ++
      ["CLOSED-CAPTIONS=NONE", "SUBTITLES=\"subs\""], ?_, ?_⟩
    · intro entry hentry
      obtain hentry | hentry := List.mem_append.mp hentry
      · exact hattributes entry hentry
      · simp only [List.mem_cons, List.not_mem_nil, or_false] at hentry
        obtain rfl | rfl := hentry
        · exact oneLine_iff.mpr fun c hc => notMem_literal hc (by decide)
        · exact oneLine_iff.mpr fun c hc => notMem_literal hc (by decide)
    · rw [terminated_masterLines, videoMasterPlaylist, renderVideoHlsMasterPlaylist, if_neg hplain,
        writtenRenditions, if_neg hplain]

variable {toLowercase session streams itemId rawQuery}

theorem notMem_quotedValues {c : Char} (hc : isBreaking c = true)
    (htexts : ∀ text ∈ foreignTexts streams itemId rawQuery, c ∉ text.toList) :
    ∀ rendition ∈ renditions toLowercase session streams itemId rawQuery,
      ∀ value ∈ rendition.quotedValues, c ∉ value.toList := by
  intro rendition hrendition
  obtain ⟨stream, hstream, hmap⟩ := List.mem_filterMap.mp hrendition
  obtain ⟨index, -, rfl⟩ := Option.map_eq_some_iff.mp hmap
  have hfields : ∀ text ∈ stream.stringFields ["DisplayTitle", "Title", "Language"],
      c ∉ text.toList := fun text htext =>
    htexts text (List.mem_append_left _ (List.mem_flatMap.mpr ⟨stream, hstream, htext⟩))
  have hitem : c ∉ itemId.toList := htexts itemId (List.mem_append_right _ List.mem_cons_self)
  have hquery : ∀ query ∈ rawQuery, c ∉ query.toList := fun query hmem =>
    htexts query (List.mem_append_right _ (List.mem_cons_of_mem _ (Option.mem_toList.mpr hmem)))
  exact Rendition.notMem_quotedValues hc (notMem_renditionName hc hfields index)
    (fun tag htag => notMem_hlsUniqueSubtitleLanguageTag hc hfields htag)
    (notMem_subtitleUri hc hitem hquery index)

theorem notMem_writtenValues {c : Char} (hc : isBreaking c = true)
    (htexts : ∀ text ∈ foreignTexts streams itemId rawQuery, c ∉ text.toList) :
    ∀ value ∈ writtenValues toLowercase session streams itemId rawQuery, c ∉ value.toList := by
  intro value hvalue
  rw [writtenValues] at hvalue
  split at hvalue
  · exact hlsVariantInfo_codecs hvalue hc
  · obtain rfl | hvalue := List.mem_cons.mp hvalue
    · exact notMem_literal hc (by decide)
    · obtain ⟨rendition, hrendition, hvalue⟩ := List.mem_flatMap.mp hvalue
      exact notMem_quotedValues hc htexts rendition hrendition value hvalue

theorem length_writtenRenditions :
    (writtenRenditions toLowercase session streams itemId rawQuery).length =
      if selectedSubtitleStreamIsImage streams (selectedSubtitleStreamIndex session) then 0
      else (streams.filter hlsTextSubtitleStream).length := by
  have hall : (renditions toLowercase session streams itemId rawQuery).length =
      (streams.filter hlsTextSubtitleStream).length := by
    rw [renditions, List.length_filterMap_eq_countP, List.countP_eq_length]
    intro stream hstream
    obtain ⟨index, hindex, -⟩ := index_of_hlsTextSubtitleStream (List.mem_filter.mp hstream).2
    simp [rendition, hindex]
  rw [writtenRenditions, rendersPlain]
  cases himage : selectedSubtitleStreamIsImage streams (selectedSubtitleStreamIndex session) with
  | true => simp
  | false =>
    cases htext : streams.any hlsTextSubtitleStream with
    | true => simpa using hall
    | false =>
      have hnone : streams.filter hlsTextSubtitleStream = [] := by
        rw [List.filter_eq_nil_iff]
        exact List.any_eq_false.mp htext
      simp [hnone]

theorem lines_videoMasterPlaylist
    (htexts : ∀ text ∈ foreignTexts streams itemId rawQuery, OneLine text) :
    (lines (videoMasterPlaylist toLowercase session streams itemId rawQuery)).filter (!isTag ·) =
        [(hlsVariantInfo session rawQuery "Video").uri] ∧
      (lines (videoMasterPlaylist toLowercase session streams itemId rawQuery)).filter isMediaTag =
        (writtenRenditions toLowercase session streams itemId rawQuery).map Rendition.line := by
  have hbreak {c : Char} (hc : isLineBreak c = true) :
      ∀ text ∈ foreignTexts streams itemId rawQuery, c ∉ text.toList :=
    fun text htext => oneLine_iff.mp (htexts text htext) c hc
  have hrenditions : ∀ rendition ∈ writtenRenditions toLowercase session streams itemId rawQuery,
      ∀ value ∈ rendition.quotedValues, OneLine value := by
    intro rendition hrendition value hvalue
    rw [writtenRenditions] at hrendition
    split at hrendition
    · cases hrendition
    · exact oneLine_iff.mpr fun c hc => notMem_quotedValues (isBreaking_of_isLineBreak hc)
        (hbreak hc) rendition hrendition value hvalue
  have huri : OneLine (hlsVariantInfo session rawQuery "Video").uri := by
    refine oneLine_iff.mpr fun c hc => notMem_appendQuery (isBreaking_of_isLineBreak hc)
      (notMem_literal hc (by decide)) fun query hquery => hbreak hc query ?_
    exact List.mem_append_right _ (List.mem_cons_of_mem _ (Option.mem_toList.mpr hquery))
  have hpath : isTag (hlsVariantInfo session rawQuery "Video").uri = false :=
    isTag_appendQuery (by decide) rawQuery
  obtain ⟨attributes, hattributes, heq⟩ :=
    videoMasterPlaylist_eq toLowercase session streams itemId rawQuery
  rw [heq, lines_terminated (oneLine_masterLines hrenditions hattributes huri)]
  exact ⟨filter_not_isTag_masterLines hpath, filter_isMediaTag_masterLines hpath⟩

theorem name_infix_videoMasterPlaylist {rendition : Rendition}
    (h : rendition ∈ writtenRenditions toLowercase session streams itemId rawQuery) :
    (escapeHlsAttribute rendition.name).toList <:+:
      (videoMasterPlaylist toLowercase session streams itemId rawQuery).toList := by
  obtain ⟨attributes, -, heq⟩ := videoMasterPlaylist_eq toLowercase session streams itemId rawQuery
  have hline : rendition.line ∈ masterLines
      (writtenRenditions toLowercase session streams itemId rawQuery) attributes
      (hlsVariantInfo session rawQuery "Video").uri :=
    List.mem_append_left _ (List.mem_append_right _ (List.mem_map_of_mem h))
  obtain ⟨start, rest, hparts⟩ : ∃ start rest,
      rendition.line = start ++ (escapeHlsAttribute rendition.name ++ rest) := by
    apply Exists.intro
    apply Exists.intro
    unfold Rendition.line
    simp only [String.append_assoc]
    rfl
  obtain ⟨before, after, hlines⟩ := List.append_of_mem hline
  have hname : (escapeHlsAttribute rendition.name).toList <:+: rendition.line.toList := by
    rw [hparts, String.toList_append, String.toList_append]
    exact List.infix_append' _ _ _
  rw [heq, toList_terminated, hlines, List.flatMap_append, List.flatMap_cons, List.append_assoc]
  exact hname.trans (List.infix_append' _ _ _)

variable (toLowercase session streams itemId rawQuery)

/-- A playlist is as it should be where no text has a quote or a line break, and no language looks
like the tag of another stream; an image that was chosen leaves no rendition. -/
theorem videoMasterPlaylist_uncorrupted (hindices : (streams.filterMap indexOf).Nodup) :
    ((writtenRenditions toLowercase session streams itemId rawQuery).map
      (escapeHlsAttribute ·.name)).Nodup ∧
    (TagsApart toLowercase streams →
      (((writtenRenditions toLowercase session streams itemId rawQuery).filterMap
        Rendition.language).map escapeHlsAttribute).Nodup) ∧
    ((∀ text ∈ foreignTexts streams itemId rawQuery, OneLine text) →
      (lines (videoMasterPlaylist toLowercase session streams itemId rawQuery)).filter (!isTag ·) =
          [(hlsVariantInfo session rawQuery "Video").uri] ∧
        ((lines (videoMasterPlaylist toLowercase session streams itemId rawQuery)).filter
          isMediaTag).length =
          if selectedSubtitleStreamIsImage streams (selectedSubtitleStreamIndex session) then 0
          else (streams.filter hlsTextSubtitleStream).length) ∧
    ((∀ text ∈ foreignTexts streams itemId rawQuery, '"' ∉ text.toList ∧ OneLine text) →
      ∀ value ∈ writtenValues toLowercase session streams itemId rawQuery,
        '"' ∉ value.toList ∧ OneLine value) := by
  refine ⟨?_, fun hapart => ?_, fun htexts => ?_, fun htexts value hvalue => ⟨?_, ?_⟩⟩
  · rw [writtenRenditions]
    split
    · exact List.nodup_nil
    · exact nodup_names hindices
  · rw [writtenRenditions]
    split
    · exact List.nodup_nil
    · exact nodup_languages hindices hapart
  · obtain ⟨huri, hmedia⟩ := @lines_videoMasterPlaylist toLowercase session streams itemId
      rawQuery htexts
    rw [hmedia, List.length_map, length_writtenRenditions]
    exact ⟨huri, rfl⟩
  · exact notMem_writtenValues rfl (fun text htext => (htexts text htext).1) value hvalue
  · exact oneLine_iff.mpr fun c hc => notMem_writtenValues (isBreaking_of_isLineBreak hc)
      (fun text htext => oneLine_iff.mp (htexts text htext).2 c hc) value hvalue

end Whole

def videoItem : Items.MediaItem where
  id := 1
  virtualFolderId := 1
  name := "Film"
  path := "/film.mkv"
  mediaType := "Video"
  collectionType := some "movies"
  bitrate := none
  width := none
  height := none
  mediaStreams := []
  createdAt := 0
  updatedAt := 0

def sessionWith (subtitleStreamIndex : Option Int64) : TranscodeSession :=
  ⟨videoItem, none, subtitleStreamIndex⟩

def subtitle (index : Int) (codec title language : String) : Json :=
  .object [("Codec", .string codec), ("DisplayTitle", .string title), ("Index", .number index),
    ("Language", .string language), ("Type", .string "Subtitle")]

def dialogues : List Json :=
  [subtitle 2 "subrip" "Dialogue" "eng", subtitle 3 "ass" "Dialogue" "eng"]

theorem tagsApart_dialogues : TagsApart toAsciiLowercase dialogues := by
  have htags : ∀ stream ∈ dialogues, hlsSubtitleLanguageTag toAsciiLowercase stream = some "en" :=
    forall_mem_of_all (by decide)
  intro stream _ language index _ _ _ hone
  obtain ⟨other, hother⟩ := List.exists_mem_of_length_pos (hone ▸ Nat.one_pos)
  obtain ⟨hmem, hown⟩ := List.mem_filter.mp hother
  rw [htags other (List.mem_filter.mp hmem).1, beq_iff_eq] at hown
  have hlength := congrArg String.length (Option.some.inj hown)
  simp only [suffixedTag, String.length_append] at hlength
  have hsuffix : "-x-jellyrin-".length = 12 := by decide
  have hshort : "en".length = 2 := by decide
  omega

theorem plain_of_any {text : String} (h : text.toList.any isBreaking = false) :
    '"' ∉ text.toList ∧ OneLine text :=
  ⟨notMem_literal rfl h,
    oneLine_iff.mpr fun _ hc => notMem_literal (isBreaking_of_isLineBreak hc) h⟩

theorem videoMasterPlaylist_uncorrupted_dialogues :
    ((writtenRenditions toAsciiLowercase (sessionWith none) dialogues "7"
      (some "static=true")).map (escapeHlsAttribute ·.name)).Nodup ∧
    (((writtenRenditions toAsciiLowercase (sessionWith none) dialogues "7"
      (some "static=true")).filterMap Rendition.language).map escapeHlsAttribute).Nodup ∧
    (lines (videoMasterPlaylist toAsciiLowercase (sessionWith none) dialogues "7"
      (some "static=true"))).filter (!isTag ·) = ["main.m3u8?static=true"] ∧
    ((lines (videoMasterPlaylist toAsciiLowercase (sessionWith none) dialogues "7"
      (some "static=true"))).filter isMediaTag).length = 2 ∧
    ∀ value ∈ writtenValues toAsciiLowercase (sessionWith none) dialogues "7"
      (some "static=true"), '"' ∉ value.toList ∧ OneLine value := by
  have hplain : ∀ text ∈ foreignTexts dialogues "7" (some "static=true"),
      text.toList.any isBreaking = false := forall_mem_of_all (by decide)
  obtain ⟨hnames, hlanguages, hlines, hvalues⟩ := videoMasterPlaylist_uncorrupted toAsciiLowercase
    (sessionWith none) dialogues "7" (some "static=true") (by decide)
  obtain ⟨huri, hmedia⟩ := hlines fun text htext => (plain_of_any (hplain text htext)).2
  exact ⟨hnames, hlanguages tagsApart_dialogues, huri.trans (by decide),
    hmedia.trans (by decide), hvalues fun text htext => plain_of_any (hplain text htext)⟩

/-- An image is chosen next to a subtitle in text, a title has a quote, a title has a line feed, and
the language of a stream is the tag that another one gets. -/
theorem not_uncorrupted :
    ¬Uncorrupted toAsciiLowercase (sessionWith (some 3))
        [subtitle 2 "subrip" "Dialogue" "eng", subtitle 3 "pgssub" "Signs" "eng"] "7" none ∧
      ¬Uncorrupted toAsciiLowercase (sessionWith none)
        [subtitle 2 "subrip" "The \"Director\"" "eng"] "7" none ∧
      ¬Uncorrupted toAsciiLowercase (sessionWith none)
        [subtitle 2 "subrip" "Dialogue\nother.m3u8" "eng"] "7" none ∧
      ¬Uncorrupted toAsciiLowercase (sessionWith none)
        [subtitle 1 "subrip" "A" "en", subtitle 2 "subrip" "B" "en",
          subtitle 3 "subrip" "C" "en-x-jellyrin-1"] "7" none := by
  refine ⟨fun h => ?_, fun h => ?_, fun h => ?_, fun h => ?_⟩
  · exact absurd h.mediaLines (by decide)
  · have hquote := h.quotedValues (escapeHlsAttribute "The \"Director\" [2]") (by decide)
    exact hquote.1 (by decide)
  · have hrendition : ∃ rendition ∈ writtenRenditions toAsciiLowercase (sessionWith none)
        [subtitle 2 "subrip" "Dialogue\nother.m3u8" "eng"] "7" none,
          ['\n', 'o'] <:+: (escapeHlsAttribute rendition.name).toList := by decide
    obtain ⟨rendition, hmem, hname⟩ := hrendition
    obtain ⟨line, hline, hstart⟩ := exists_mem_lines_of_infix (by decide) (by decide)
      (hname.trans (name_infix_videoMasterPlaylist hmem))
    have hother : isTag line = false := by
      rw [isTag, startsWith]
      cases hchars : line.toList with
      | nil => rfl
      | cons c cs =>
        rw [hchars] at hstart
        cases hstart
        rfl
    have huri : line ∈ [(hlsVariantInfo (sessionWith none) none "Video").uri] := by
      rw [← h.uriLine, List.mem_filter]
      exact ⟨hline, by rw [hother]; rfl⟩
    rw [List.mem_singleton.mp huri] at hstart
    exact absurd hstart (by decide)
  · exact absurd h.languages (by decide +kernel)

end Jellyrin.Playback.Master
