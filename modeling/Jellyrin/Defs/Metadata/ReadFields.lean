import Jellyrin.Defs.Metadata.Facets
import Jellyrin.Defs.Metadata.QueryFilterProjection

/-! A field that no extractor reads may be written without changing what they give. -/

namespace Jellyrin.Metadata

open Ascii Json

variable {floatText : UInt64 → String}

def readFields : List String :=
  facetSpecs.flatMap Prod.snd ++ metadataSources.map (·.2.1) ++
    ["PremiereDate", "AirDate", "DateCreated", "RemoteTrailers", "Trailers"]

def IsReadField (field : String) : Bool := readFields.any (eqIgnoreAsciiCase field)

variable {metadata : Json} {field : String}

theorem eqIgnoreAsciiCase_of_notRead (h : IsReadField field = false) {read : String}
    (hread : read ∈ readFields) : eqIgnoreAsciiCase field read = false := by
  rw [IsReadField, List.any_eq_false] at h
  exact Bool.eq_false_iff.mpr (h read hread)

theorem ne_of_notRead (h : IsReadField field = false) {read : String} (hread : read ∈ readFields) :
    field ≠ read := by
  rintro rfl
  have hself := eqIgnoreAsciiCase_of_notRead h hread
  rw [eqIgnoreAsciiCase_self] at hself
  cases hself

theorem get_set_of_notRead (h : IsReadField field = false) (value : Json) {read : String}
    (hread : read ∈ readFields) : (metadata.set field value).get read = metadata.get read :=
  get_set_of_ne metadata value (ne_of_notRead h hread)

theorem fieldCaseInsensitive_set (value : Json) {other : String}
    (h : eqIgnoreAsciiCase field other = false) :
    (metadata.set field value).fieldCaseInsensitive other = metadata.fieldCaseInsensitive other := by
  cases metadata with
  | object fields =>
    have hfind := find?_insertField (p := fun name => eqIgnoreAsciiCase name other) value h fields
    simp only [fieldCaseInsensitive, Json.set, asObject, Option.bind_some, hfind]
  | _ => rfl

theorem collectFacets_congr {other : Json} {kind : MediaItemFacetKind} {keys : List String}
    (h : ∀ key ∈ keys, metadata.get key = other.get key) :
    collectFacets floatText metadata kind keys = collectFacets floatText other kind keys := by
  rw [collectFacets, collectFacets]
  refine congrArg Prod.snd (List.foldl_ext _ _ _ ?_)
  intro state key hkey
  rw [h key hkey]

theorem collectFields_congr {σ : Type} {other : Json} {keys : List String} {f : Json → σ → σ}
    (h : ∀ key ∈ keys, metadata.fieldCaseInsensitive key = other.fieldCaseInsensitive key)
    (acc : σ) : collectFields metadata keys f acc = collectFields other keys f acc := by
  rw [collectFields, collectFields]
  refine List.foldl_ext _ _ _ ?_
  intro acc key hkey
  rw [h key hkey]

theorem extractMediaItemFacets_set (h : IsReadField field = false) (value : Json) :
    extractMediaItemFacets floatText (metadata.set field value) =
      extractMediaItemFacets floatText metadata := by
  rw [extractMediaItemFacets, extractMediaItemFacets]
  refine congrArg _ (List.flatMap_congr ?_)
  rintro ⟨kind, keys⟩ hspec
  have hkeys : collectFacets floatText (metadata.set field value) kind keys =
      collectFacets floatText metadata kind keys := by
    refine collectFacets_congr fun key hkey => get_set_of_notRead h value ?_
    exact List.mem_append_left _ (List.mem_append_left _ (List.mem_flatMap.mpr ⟨_, hspec, hkey⟩))
  simp only [hkeys]

theorem fieldCaseInsensitive_set_of_notRead (h : IsReadField field = false) (value : Json)
    {read : String} (hread : read ∈ readFields) :
    (metadata.set field value).fieldCaseInsensitive read = metadata.fieldCaseInsensitive read :=
  fieldCaseInsensitive_set value (eqIgnoreAsciiCase_of_notRead h hread)

theorem extractMediaItemGenreSelectors_set (h : IsReadField field = false) (value : Json) :
    extractMediaItemGenreSelectors floatText (metadata.set field value) =
      extractMediaItemGenreSelectors floatText metadata := by
  have hread : ∀ key ∈ ["Genres", "SeriesGenres"], key ∈ readFields := by decide
  exact collectFields_congr (fun key hkey => fieldCaseInsensitive_set_of_notRead h value
    (hread key hkey)) ∅

theorem extractMediaItemFilterSelectors_set (h : IsReadField field = false) (value : Json) :
    extractMediaItemFilterSelectors floatText (metadata.set field value) =
      extractMediaItemFilterSelectors floatText metadata := by
  have hread : ∀ key ∈ ["People", "Cast", "SeriesPeople", "Studios", "SeriesStudios", "Tags"],
      key ∈ readFields := by decide
  have hfield : ∀ key ∈ ["People", "Cast", "SeriesPeople", "Studios", "SeriesStudios", "Tags"],
      (metadata.set field value).fieldCaseInsensitive key = metadata.fieldCaseInsensitive key :=
    fun key hkey => fieldCaseInsensitive_set_of_notRead h value (hread key hkey)
  simp only [extractMediaItemFilterSelectors, hfield "People" (by simp), hfield "Cast" (by simp),
    hfield "SeriesPeople" (by simp)]
  have htags : ∀ key ∈ ["Tags"],
      (metadata.set field value).fieldCaseInsensitive key = metadata.fieldCaseInsensitive key :=
    fun key hkey => hfield key (by simp_all)
  have hstudios : ∀ key ∈ ["Studios", "SeriesStudios"],
      (metadata.set field value).fieldCaseInsensitive key = metadata.fieldCaseInsensitive key :=
    fun key hkey => hfield key (by simp at hkey ⊢; tauto)
  rw [collectFields_congr htags, collectFields_congr hstudios]

theorem upcomingMediaItemPremiereParts_set {parse : String → Option (Int × Int)}
    (h : IsReadField field = false) (value : Json) :
    upcomingMediaItemPremiereParts parse (metadata.set field value) =
      upcomingMediaItemPremiereParts parse metadata := by
  have hget : ∀ key ∈ ["PremiereDate", "AirDate", "DateCreated"],
      (metadata.set field value).get key = metadata.get key := by
    intro key hkey
    have hread : ∀ key ∈ ["PremiereDate", "AirDate", "DateCreated"], key ∈ readFields := by decide
    exact get_set_of_notRead h value (hread key hkey)
  simp only [upcomingMediaItemPremiereParts, hget "PremiereDate" (by simp),
    hget "AirDate" (by simp), hget "DateCreated" (by simp)]

theorem metadataCandidates_set (h : IsReadField field = false) (value : Json) :
    metadataCandidates floatText (metadata.set field value) =
      metadataCandidates floatText metadata := by
  refine List.flatMap_congr ?_
  rintro ⟨kind, key, priority⟩ hsource
  have hread : key ∈ readFields :=
    List.mem_append_left _ (List.mem_append_right _ (List.mem_map.mpr ⟨_, hsource, rfl⟩))
  simp only [get_set_of_notRead h value hread]

theorem any_insertField {p : String × Json → Bool} (hp : ∀ value, p (field, value) = false)
    (value : Json) (fields : List (String × Json)) :
    (insertField field value fields).any p = fields.any p := by
  induction fields with
  | nil => simp [insertField, hp]
  | cons entry rest ih =>
    obtain ⟨name, old⟩ := entry
    simp only [insertField]
    split
    · rename_i hname
      rw [List.any_cons, List.any_cons, hp, hname, hp]
    · split
      · rw [List.any_cons, hp, Bool.false_or]
      · rw [List.any_cons, ih, List.any_cons]

theorem metadataHasTrailer_set (h : IsReadField field = false) (value : Json) :
    metadataHasTrailer (metadata.set field value) = metadataHasTrailer metadata := by
  have hother : toAsciiLowercase field ∉ ["remotetrailers", "trailers"] := by
    have hremote := eqIgnoreAsciiCase_of_notRead h (show "RemoteTrailers" ∈ readFields by decide)
    have htrailers := eqIgnoreAsciiCase_of_notRead h (show "Trailers" ∈ readFields by decide)
    rw [Bool.eq_false_iff, ne_eq, eqIgnoreAsciiCase_iff] at hremote htrailers
    have hsmall : toAsciiLowercase "RemoteTrailers" = "remotetrailers" ∧
        toAsciiLowercase "Trailers" = "trailers" := by decide
    rw [hsmall.1] at hremote
    rw [hsmall.2] at htrailers
    simp [hremote, htrailers]
  cases metadata with
  | object fields =>
    simp only [metadataHasTrailer, Json.set, asObject, Option.any_some]
    exact any_insertField (fun value => by simp only [decide_eq_false hother, Bool.false_and])
      value fields
  | _ => rfl

theorem extractMediaItemQueryFilterProjection_set (h : IsReadField field = false) (value : Json)
    (source : MediaItemQueryFilterProjectionSource) :
    extractMediaItemQueryFilterProjection floatText
        { source with metadata := source.metadata.set field value } =
      extractMediaItemQueryFilterProjection floatText source := by
  simp only [extractMediaItemQueryFilterProjection, metadataHasTrailer_set h value,
    metadataCandidates_set h value]

end Jellyrin.Metadata
