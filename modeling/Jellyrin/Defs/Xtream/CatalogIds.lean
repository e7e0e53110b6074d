import Jellyrin.Defs.Data.JsonObject
import Jellyrin.Defs.Data.Separated
import Jellyrin.Defs.Xtream.Catalogue

/-! The identifiers of imported items.  The tuner's, the series' and the provider's identifiers are
joined by colons that are not escaped, and the primary tuner's is left out. -/

namespace Jellyrin.Xtream

open Ascii Json

inductive CatalogItem where
  | vod (tunerId streamId : String)
  | episode (tunerId seriesId episodeId : String)
  | live (tunerId streamId : String)

namespace CatalogItem

def IsValid : CatalogItem → Prop
  | .vod _ streamId => validXtreamIdentifier streamId = true
  | .episode _ seriesId episodeId =>
    validXtreamIdentifier seriesId = true ∧ validXtreamIdentifier episodeId = true
  | .live _ streamId => validXtreamIdentifier streamId = true

instance : DecidablePred IsValid
  | .vod _ _ => inferInstanceAs (Decidable (_ = _))
  | .episode _ _ _ => inferInstanceAs (Decidable (_ ∧ _))
  | .live _ _ => inferInstanceAs (Decidable (_ = _))

def isPrimary (tunerId : String) : Bool := eqIgnoreAsciiCase tunerId xtreamPrimaryTunerId

/-- The text that is hashed; there is none for a channel of the primary tuner. -/
def key : CatalogItem → Option String
  | .vod tunerId streamId => some (xtreamScopedCatalogKey tunerId streamId)
  | .episode tunerId seriesId episodeId =>
    some (xtreamScopedCatalogKey tunerId (seriesId ++ ":" ++ episodeId))
  | .live tunerId streamId => if isPrimary tunerId then none else some (tunerId ++ ":" ++ streamId)

def id : CatalogItem → String
  | .vod tunerId streamId => stableEntityId "xtream-vod" (xtreamScopedCatalogKey tunerId streamId)
  | .episode tunerId seriesId episodeId =>
    stableEntityId "xtream-series-episode"
      (xtreamScopedCatalogKey tunerId (seriesId ++ ":" ++ episodeId))
  | .live tunerId streamId => xtreamLiveChannelId tunerId streamId

def hashed (key : String) : String := toAsciiLowercase (trim key)

def Same : CatalogItem → CatalogItem → Prop
  | .vod tunerId streamId, .vod tunerId' streamId' =>
    eqIgnoreAsciiCase tunerId tunerId' = true ∧ eqIgnoreAsciiCase streamId streamId' = true
  | .episode tunerId seriesId episodeId, .episode tunerId' seriesId' episodeId' =>
    eqIgnoreAsciiCase tunerId tunerId' = true ∧ eqIgnoreAsciiCase seriesId seriesId' = true ∧
      eqIgnoreAsciiCase episodeId episodeId' = true
  | .live tunerId streamId, .live tunerId' streamId' =>
    eqIgnoreAsciiCase tunerId tunerId' = true ∧ eqIgnoreAsciiCase streamId streamId' = true
  | _, _ => False

def SameKind : CatalogItem → CatalogItem → Prop
  | .vod _ _, .vod _ _ | .episode _ _ _, .episode _ _ _ | .live _ _, .live _ _ => True
  | _, _ => False

def scopedIds (tunerId : String) (ids : List String) : List (List Char) :=
  (if isPrimary tunerId then ids else tunerId :: ids).map fun id => id.toList.map Char.toLower

def ids : CatalogItem → List (List Char)
  | .vod tunerId streamId => scopedIds tunerId [streamId]
  | .episode tunerId seriesId episodeId => scopedIds tunerId [seriesId, episodeId]
  | .live tunerId streamId => scopedIds tunerId [streamId]

def idPieces (item : CatalogItem) : List (List Char) :=
  Separated.pieces ':' (Separated.dropWhileLast isWhitespace
    (Separated.dropWhileFirst isWhitespace item.ids))

def NamesHash : CatalogItem → CatalogItem → Prop
  | .live tunerId streamId, .live tunerId' streamId' =>
    isPrimary tunerId = true ∧ isPrimary tunerId' = false ∧
      streamId = stableEntityId "xtream-live-channel" (tunerId' ++ ":" ++ streamId')
  | _, _ => False

/-- Different identifiers of a kind with the same pieces, or a channel named like a hash. -/
def Clashes (item other : CatalogItem) : Prop :=
  (item.SameKind other ∧ item.key.isSome = true ∧ other.key.isSome = true ∧
      item.idPieces = other.idPieces ∧ item.ids ≠ other.ids) ∨
    item.NamesHash other ∨ other.NamesHash item

/-- Items of a kind with one key are one item, and no channel of the primary tuner has the
identifier of another tuner's channel. -/
def ToldApart (item other : CatalogItem) : Prop :=
  (item.SameKind other → ∀ key ∈ item.key, ∀ otherKey ∈ other.key,
      hashed key = hashed otherKey → item.Same other) ∧
    (∀ tunerId streamId tunerId' streamId', item = .live tunerId streamId →
      other = .live tunerId' streamId' → isPrimary tunerId ≠ isPrimary tunerId' →
        item.id ≠ other.id)

theorem toList_hashed (key : String) :
    (hashed key).toList = ((key.toList.map Char.toLower).dropWhile isWhitespace).rdropWhile
      isWhitespace := by
  rw [hashed, ← trim_toAsciiLowercase, trim, String.toList_ofList, toAsciiLowercase,
    String.toList_ofList]
  rfl

theorem ids_ne_nil (item : CatalogItem) : item.ids ≠ [] := by
  cases item <;> simp only [ids, scopedIds] <;> split <;> simp

theorem lower_scopedCatalogKey (tunerId : String) {ids : List String} {key : String}
    (hne : ids ≠ []) (h : key.toList = [':'].intercalate (ids.map String.toList)) :
    (xtreamScopedCatalogKey tunerId key).toList.map Char.toLower =
      [':'].intercalate (scopedIds tunerId ids) := by
  have hkey : key.toList.map Char.toLower =
      [':'].intercalate (ids.map fun id => id.toList.map Char.toLower) := by
    rw [h, Separated.map_intercalate, List.map_map]
    rfl
  cases hprimary : isPrimary tunerId with
  | true =>
    have hscoped : xtreamScopedCatalogKey tunerId key = key := if_pos hprimary
    rw [hscoped, hkey, scopedIds, if_pos hprimary]
  | false =>
    have hprimary : ¬isPrimary tunerId = true := by simp [hprimary]
    have hscoped : xtreamScopedCatalogKey tunerId key = tunerId ++ ":" ++ key := if_neg hprimary
    rw [hscoped, scopedIds, if_neg hprimary, List.map_cons,
      List.intercalate_cons_of_ne_nil (by simpa using hne), ← hkey]
    simp

theorem lower_key {item : CatalogItem} {key : String} (h : item.key = some key) :
    key.toList.map Char.toLower = [':'].intercalate item.ids := by
  cases item with
  | vod tunerId streamId =>
    obtain rfl := Option.some.inj h
    exact lower_scopedCatalogKey tunerId (by simp) (by simp [List.intercalate_singleton])
  | episode tunerId seriesId episodeId =>
    obtain rfl := Option.some.inj h
    exact lower_scopedCatalogKey tunerId (by simp)
      (by simp [List.intercalate_cons_cons, List.intercalate_singleton])
  | live tunerId streamId =>
    rw [CatalogItem.key] at h
    split at h
    · nomatch h
    · rename_i hprimary
      obtain rfl := Option.some.inj h
      have hscoped : xtreamScopedCatalogKey tunerId streamId = tunerId ++ ":" ++ streamId :=
        if_neg hprimary
      rw [← hscoped]
      exact lower_scopedCatalogKey tunerId (by simp) (by simp [List.intercalate_singleton])

theorem hashed_eq_iff {item other : CatalogItem} {key otherKey : String}
    (h : item.key = some key) (hother : other.key = some otherKey) :
    hashed key = hashed otherKey ↔ item.idPieces = other.idPieces := by
  have hends : ∀ {item : CatalogItem} {key : String}, item.key = some key →
      (hashed key).toList = [':'].intercalate (Separated.dropWhileLast isWhitespace
        (Separated.dropWhileFirst isWhitespace item.ids)) := by
    intro item key h
    rw [toList_hashed, lower_key h, Separated.dropWhile_intercalate (by decide),
      Separated.rdropWhile_intercalate (by decide)]
  have hne : ∀ item : CatalogItem, Separated.dropWhileLast isWhitespace
      (Separated.dropWhileFirst isWhitespace item.ids) ≠ [] := fun item =>
    Separated.dropWhileLast_ne_nil (Separated.dropWhileFirst_ne_nil item.ids_ne_nil)
  rw [← String.toList_inj, hends h, hends hother,
    Separated.intercalate_eq_iff ':' (hne item) (hne other)]
  rfl

theorem scopedIds_eq_iff (tunerId tunerId' : String) (ids ids' : List String)
    (hlength : ids.length = ids'.length) :
    scopedIds tunerId ids = scopedIds tunerId' ids' ↔ eqIgnoreAsciiCase tunerId tunerId' = true ∧
      ids.map (fun id => id.toList.map Char.toLower) =
        ids'.map fun id => id.toList.map Char.toLower := by
  have hprimary : isPrimary tunerId = isPrimary tunerId' ∨
      ¬eqIgnoreAsciiCase tunerId tunerId' = true := by
    by_cases h : eqIgnoreAsciiCase tunerId tunerId' = true
    · refine .inl (Bool.eq_iff_iff.mpr ?_)
      rw [isPrimary, isPrimary, eqIgnoreAsciiCase_iff, eqIgnoreAsciiCase_iff,
        eqIgnoreAsciiCase_iff.mp h]
    · exact .inr h
  simp only [scopedIds]
  cases h : isPrimary tunerId with
  | true =>
    cases h' : isPrimary tunerId' with
    | true =>
      have hsame : eqIgnoreAsciiCase tunerId tunerId' = true := by
        rw [eqIgnoreAsciiCase_iff, eqIgnoreAsciiCase_iff.mp h, eqIgnoreAsciiCase_iff.mp h']
      simp [hsame]
    | false =>
      refine iff_of_false (fun heq => ?_) (fun hsame => ?_)
      · have hlengths := congrArg List.length heq
        simp [hlength] at hlengths
      · rw [h, h'] at hprimary
        exact hprimary.elim (fun heq => nomatch heq) fun hne => hne hsame.1
  | false =>
    cases h' : isPrimary tunerId' with
    | true =>
      refine iff_of_false (fun heq => ?_) (fun hsame => ?_)
      · have hlengths := congrArg List.length heq
        simp [hlength] at hlengths
      · rw [h, h'] at hprimary
        exact hprimary.elim (fun heq => nomatch heq) fun hne => hne hsame.1
    | false => simp [eqIgnoreAsciiCase]

theorem same_iff {item other : CatalogItem} (h : item.SameKind other) :
    item.Same other ↔ item.ids = other.ids := by
  cases item with
  | vod tunerId streamId =>
    cases other with
    | vod tunerId' streamId' =>
      rw [ids, ids, scopedIds_eq_iff tunerId tunerId' [streamId] [streamId'] rfl]
      simp [Same, eqIgnoreAsciiCase]
    | _ => exact h.elim
  | episode tunerId seriesId episodeId =>
    cases other with
    | episode tunerId' seriesId' episodeId' =>
      rw [ids, ids, scopedIds_eq_iff tunerId tunerId' [seriesId, episodeId] [seriesId', episodeId'] rfl]
      simp [Same, eqIgnoreAsciiCase]
    | _ => exact h.elim
  | live tunerId streamId =>
    cases other with
    | live tunerId' streamId' =>
      rw [ids, ids, scopedIds_eq_iff tunerId tunerId' [streamId] [streamId'] rfl]
      simp [Same, eqIgnoreAsciiCase]
    | _ => exact h.elim

theorem id_live_eq_iff {tunerId streamId tunerId' streamId' : String}
    (h : isPrimary tunerId = true) (h' : isPrimary tunerId' = false) :
    (live tunerId streamId).id = (live tunerId' streamId').id ↔
      (live tunerId streamId).NamesHash (live tunerId' streamId') := by
  have hprimary : xtreamLiveChannelId tunerId streamId = "xtream_" ++ streamId := if_pos h
  have hother : xtreamLiveChannelId tunerId' streamId' =
      "xtream_" ++ stableEntityId "xtream-live-channel" (tunerId' ++ ":" ++ streamId') :=
    if_neg (by simpa [isPrimary] using h')
  simp only [id, hprimary, hother, NamesHash, h, h', true_and, String.append_right_inj]

theorem not_toldApart_of_clashes {item other : CatalogItem} (h : item.Clashes other) :
    ¬item.ToldApart other := by
  rintro ⟨hkeys, hchannels⟩
  obtain ⟨hkind, hkey, hotherKey, hpieces, hne⟩ | hhash | hhash := h
  · obtain ⟨key, hkey⟩ := Option.isSome_iff_exists.mp hkey
    obtain ⟨otherKey, hotherKey⟩ := Option.isSome_iff_exists.mp hotherKey
    have hsame := hkeys hkind key hkey otherKey hotherKey
      ((hashed_eq_iff hkey hotherKey).mpr hpieces)
    exact hne ((same_iff hkind).mp hsame)
  · cases item with
    | live tunerId streamId =>
      cases other with
      | live tunerId' streamId' =>
        refine hchannels _ _ _ _ rfl rfl ?_ ((id_live_eq_iff hhash.1 hhash.2.1).mpr hhash)
        simp [hhash.1, hhash.2.1]
      | _ => exact hhash
    | _ => exact hhash
  · cases item with
    | live tunerId streamId =>
      cases other with
      | live tunerId' streamId' =>
        refine hchannels _ _ _ _ rfl rfl ?_ ((id_live_eq_iff hhash.1 hhash.2.1).mpr hhash).symm
        simp [hhash.1, hhash.2.1]
      | _ => exact hhash
    | _ => cases other <;> exact hhash

theorem toldApart_of_not_clashes {item other : CatalogItem} (h : ¬item.Clashes other) :
    item.ToldApart other := by
  refine ⟨fun hkind key hkey otherKey hotherKey heq => ?_, ?_⟩
  · by_contra hne
    refine h (.inl ⟨hkind, Option.isSome_iff_exists.mpr ⟨key, hkey⟩,
      Option.isSome_iff_exists.mpr ⟨otherKey, hotherKey⟩, (hashed_eq_iff hkey hotherKey).mp heq,
      fun hids => hne ((same_iff hkind).mpr hids)⟩)
  · rintro tunerId streamId tunerId' streamId' rfl rfl hne heq
    cases hprimary : isPrimary tunerId with
    | true =>
      have hother : isPrimary tunerId' = false := by simpa [hprimary] using hne
      exact h (.inr (.inl ((id_live_eq_iff hprimary hother).mp heq)))
    | false =>
      have hother : isPrimary tunerId' = true := by simpa [hprimary] using hne
      exact h (.inr (.inr ((id_live_eq_iff hother hprimary).mp heq.symm)))

theorem toldApart_iff (item other : CatalogItem) : item.ToldApart other ↔ ¬item.Clashes other :=
  ⟨fun h hclash => not_toldApart_of_clashes hclash h, toldApart_of_not_clashes⟩

/-- The stream of a tuner has the key of the primary tuner's stream that is named after both. -/
theorem primary_stream_not_told_apart :
    ¬∀ item other : CatalogItem, item.IsValid → other.IsValid → item.ToldApart other := by
  intro h
  have hclash : (vod "xtream-plugin" "backup:7").Clashes (vod "backup" "7") :=
    .inl ⟨trivial, rfl, rfl, by decide, by decide⟩
  exact not_toldApart_of_clashes hclash (h (vod "xtream-plugin" "backup:7") (vod "backup" "7")
    (by decide) (by decide))

end CatalogItem

/-! The identifiers of what is parsed. -/

section Parsed

variable {Url : Type} {crate : UrlCrate Url}

theorem vod_of_mem {tunerId : String} {streams categories : List Json} {item : RemoteMediaItemUpsert}
    (h : item ∈ parseVodStreams crate tunerId streams categories) :
    ∃ streamId, (CatalogItem.vod tunerId streamId).IsValid ∧
      item.id = (CatalogItem.vod tunerId streamId).id := by
  obtain ⟨stream, -, hstream⟩ := List.mem_filterMap.mp h
  obtain ⟨streamId, -, hparsed⟩ := Option.bind_eq_some_iff.mp hstream
  split at hparsed
  · cases hparsed
  · rename_i hvalid
    obtain ⟨extension, -, hparsed⟩ := Option.bind_eq_some_iff.mp hparsed
    obtain ⟨reference, -, hparsed⟩ := Option.bind_eq_some_iff.mp hparsed
    obtain rfl := Option.some.inj hparsed
    exact ⟨streamId, eq_true_of_ne_false hvalid, rfl⟩

def SeriesContext.IsEpisode (series : SeriesContext) (item : RemoteMediaItemUpsert) : Prop :=
  ∃ episodeId, validXtreamIdentifier episodeId = true ∧
    item.id = (CatalogItem.episode series.tunerId series.seriesId episodeId).id

theorem isEpisode_of_parseEpisode {series : SeriesContext} {count : Nat} {entry : Option Int × Json}
    {item : RemoteMediaItemUpsert} (h : parseEpisode crate series count entry = some item) :
    series.IsEpisode item := by
  obtain ⟨episodeId, -, hparsed⟩ := Option.bind_eq_some_iff.mp h
  split at hparsed
  · cases hparsed
  · rename_i hvalid
    obtain ⟨extension, -, hparsed⟩ := Option.bind_eq_some_iff.mp hparsed
    obtain ⟨reference, -, hparsed⟩ := Option.bind_eq_some_iff.mp hparsed
    obtain rfl := Option.some.inj hparsed
    exact ⟨episodeId, eq_true_of_ne_false hvalid, rfl⟩

theorem isEpisode_of_mem_parseEpisodes {series : SeriesContext} {limit : Option Nat}
    {entries : List (Option Int × Json)} {episodes : List RemoteMediaItemUpsert}
    (hepisodes : ∀ item ∈ episodes, series.IsEpisode item) :
    ∀ item ∈ parseEpisodes crate series limit episodes entries, series.IsEpisode item := by
  induction entries generalizing episodes with
  | nil => exact hepisodes
  | cons entry entries ih =>
    rw [parseEpisodes]
    split
    · exact hepisodes
    · refine ih fun item hitem => ?_
      obtain hitem | hitem := List.mem_append.mp hitem
      · exact hepisodes item hitem
      · exact isEpisode_of_parseEpisode (Option.mem_toList.mp hitem)

theorem episode_of_mem {jsonText : Json → String} {tunerId : String} {seriesItem info : Json}
    {categories : List Json} {limit : Option Nat} {item : RemoteMediaItemUpsert}
    (h : item ∈ parseSeriesEpisodes crate jsonText tunerId seriesItem info categories limit) :
    (seriesContext crate jsonText tunerId seriesItem info categories).IsEpisode item :=
  isEpisode_of_mem_parseEpisodes (by simp) item h

end Parsed

end Jellyrin.Xtream
