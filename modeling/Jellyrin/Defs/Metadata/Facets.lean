import Jellyrin.Defs.Data.JsonObject
import Jellyrin.Defs.Data.SortOn
import Jellyrin.Defs.Metadata.Selectors
import Mathlib.Data.Finset.Lattice.Basic
import Mathlib.Data.Prod.Lex

/-! The facets of a metadata document: what its fields name, one facet for each name of a kind. -/

namespace Jellyrin.Metadata

open Ascii Json

variable (floatText : UInt64 → String)

inductive MediaItemFacetKind where
  | genre
  | musicGenre
  | musicArtist
  | musicAlbumArtist
  | musicAlbum
  | person
  | studio
  | tag
  | year
  deriving DecidableEq

def MediaItemFacetKind.entityType : MediaItemFacetKind → String
  | .genre => "Genre"
  | .musicGenre => "MusicGenre"
  | .musicArtist | .musicAlbumArtist => "MusicArtist"
  | .musicAlbum => "MusicAlbum"
  | .person => "Person"
  | .studio => "Studio"
  | .tag => "Tag"
  | .year => "Year"

structure PendingFacet where
  normalizedValue : String
  displayValue : String
  position : Nat
  payload : Json
  aliases : Finset String

structure ExtractedMediaItemFacet where
  kind : MediaItemFacetKind
  normalizedValue : String
  displayValue : String
  stableId : String
  position : Nat
  payload : Json
  aliases : Finset String

/-- The other identifiers of a facet that an object with an identifier names. -/
def importedAliases (kind : MediaItemFacetKind) (stableId importedId : String) : Finset String :=
  let importedId := toAsciiLowercase importedId
  let aliases := if importedId ≠ stableId then {importedId} else ∅
  match kind, Uuid.parseStr importedId with
  | .person, some id => insert id.simple aliases
  | _, _ => aliases

abbrev FacetState := Nat × BTreeMap String PendingFacet

def insertFacet (kind : MediaItemFacetKind) (display : String) (payload : Json)
    (importedId : Option String) (state : FacetState) : FacetState :=
  let display := trim display
  if display = "" then state
  else
    let normalizedValue := toAsciiLowercase display
    let stableId := stableEntityId kind.entityType display
    let facet := (state.2.lookup normalizedValue).getD
      { normalizedValue, displayValue := display, position := state.1, payload, aliases := ∅ }
    let facet :=
      match (importedId.map trim).filter (· ≠ "") with
      | some id => { facet with aliases := facet.aliases ∪ importedAliases kind stableId id }
      | none => facet
    (min (state.1 + 1) (2 ^ 32 - 1), state.2.insert normalizedValue facet)

def collectFacetValues (kind : MediaItemFacetKind) : Json → FacetState → FacetState :=
  collect fun value state =>
    match nameText floatText value with
    | some display =>
      let importedId := if kind = .person then (value.get "Id").bind asStr else none
      insertFacet kind display value importedId state
    | none => state

def facetSpecs : List (MediaItemFacetKind × List String) :=
  [(.genre, ["Genres", "SeriesGenres"]),
    (.musicGenre, ["MusicGenres"]),
    (.musicArtist, ["Artists"]),
    (.musicAlbumArtist, ["AlbumArtists"]),
    (.musicAlbum, ["Album", "AlbumName", "Albums"]),
    (.person, ["People", "SeriesPeople", "Cast"]),
    (.studio, ["Studios", "SeriesStudios"]),
    (.tag, ["Tags"]),
    (.year, ["ProductionYear"])]

def collectFacets (metadata : Json) (kind : MediaItemFacetKind) (keys : List String) :
    BTreeMap String PendingFacet :=
  (keys.foldl (fun state key =>
    match metadata.get key with
    | some value => collectFacetValues floatText kind value state
    | none => state) (0, ∅)).2

def extractMediaItemFacets (metadata : Json) : List ExtractedMediaItemFacet :=
  sortOn (fun facet => toLex (facet.kind.ctorIdx, facet.position)) <|
    facetSpecs.flatMap fun (kind, keys) =>
      (collectFacets floatText metadata kind keys).values.map fun facet =>
        { kind
          normalizedValue := facet.normalizedValue
          displayValue := facet.displayValue
          stableId := stableEntityId kind.entityType facet.displayValue
          position := facet.position
          payload := facet.payload
          aliases := facet.aliases }

/-! The date of an item in the upcoming view. -/

section Premiere

variable (parseRfc3339 : String → Option (Int × Int))

def upcomingMediaItemPremiereParts (metadata : Json) : Option (Int × Int) :=
  (((metadata.get "PremiereDate").or (metadata.get "AirDate")).or
    (metadata.get "DateCreated")).bind asStr |>.bind parseRfc3339

end Premiere

end Jellyrin.Metadata

/-! The facets that are displayed, and the selectors that find the items of a facet. -/

namespace Jellyrin.Metadata

open Ascii Json

variable (floatText : UInt64 → String)

def Names (value : Json) (name : String) : Prop :=
  ∃ leaf ∈ leaves value, ∃ text, nameText floatText leaf = some text ∧ trim text ≠ "" ∧
    trim text = name

def HasSpelledName (metadata : Json) (keys : List String) (name : String) : Prop :=
  ∃ key ∈ keys, ∃ value, metadata.get key = some value ∧ Names floatText value name

/-- A name in a field that has the spelling of a key, where the key finds an earlier field that
differs in letter case. -/
def HiddenName (metadata : Json) (keys : List String) (name : String) : Prop :=
  ∃ key ∈ keys, ∃ value, metadata.get key = some value ∧
    metadata.fieldCaseInsensitive key ≠ some value ∧ Names floatText value name

def NameSelected (metadata : Json) (entityType : String) (keys : List String) (name : String) :
    Prop :=
  SelectedBy floatText metadata entityType keys (toAsciiLowercase name) ∧
    SelectedBy floatText metadata entityType keys (stableEntityId entityType name)

def TagSelected (metadata : Json) (name : String) : Prop :=
  ∃ other, HasName floatText metadata ["Tags"] other ∧
    toAsciiLowercase other = toAsciiLowercase name

def FacetsSelectable (metadata : Json) : Prop :=
  ∀ facet ∈ extractMediaItemFacets floatText metadata,
    (facet.kind = .genre →
      facet.normalizedValue ∈ extractMediaItemGenreSelectors floatText metadata ∧
      facet.stableId ∈ extractMediaItemGenreSelectors floatText metadata) ∧
    (facet.kind = .studio →
      (.studio, facet.normalizedValue) ∈ extractMediaItemFilterSelectors floatText metadata ∧
      (.studio, facet.stableId) ∈ extractMediaItemFilterSelectors floatText metadata) ∧
    (facet.kind = .tag →
      (.tag, facet.normalizedValue) ∈ extractMediaItemFilterSelectors floatText metadata)

def HiddenNamesSelected (metadata : Json) : Prop :=
  (∀ name, HiddenName floatText metadata ["Genres", "SeriesGenres"] name →
    NameSelected floatText metadata "Genre" ["Genres", "SeriesGenres"] name) ∧
  (∀ name, HiddenName floatText metadata ["Studios", "SeriesStudios"] name →
    NameSelected floatText metadata "Studio" ["Studios", "SeriesStudios"] name) ∧
  ∀ name, HiddenName floatText metadata ["Tags"] name → TagSelected floatText metadata name

variable {floatText} {metadata : Json} {entityType : String} {keys : List String} {name : String}

/-! The facets of a kind. -/

variable {kind : MediaItemFacetKind}

theorem mem_insertFacet {display : String} {payload : Json} {importedId : Option String}
    {state : FacetState} {k : String} :
    k ∈ (insertFacet kind display payload importedId state).2 ↔
      k ∈ state.2 ∨ trim display ≠ "" ∧ toAsciiLowercase (trim display) = k := by
  simp only [insertFacet]
  split
  · rename_i hblank
    simp [hblank]
  · rename_i hdisplay
    rw [AList.mem_insert, or_comm, eq_comm (a := k)]
    simp [hdisplay]

def FacetsSpell (state : FacetState) : Prop :=
  ∀ k facet, state.2.lookup k = some facet →
    facet.normalizedValue = k ∧ toAsciiLowercase facet.displayValue = k ∧
      trim facet.displayValue = facet.displayValue

theorem FacetsSpell.insertFacet {state : FacetState} (h : FacetsSpell state)
    (kind : MediaItemFacetKind) (display : String) (payload : Json) (importedId : Option String) :
    FacetsSpell (insertFacet kind display payload importedId state) := by
  intro k facet hlookup
  simp only [Metadata.insertFacet] at hlookup
  split at hlookup
  · exact h k facet hlookup
  · obtain ⟨rfl, rfl⟩ | ⟨-, hold⟩ := HashMap.lookup_insert_eq_some.mp hlookup
    · cases hentry : state.2.lookup (toAsciiLowercase (trim display)) with
      | none =>
        split
        · exact ⟨rfl, rfl, trim_trim display⟩
        · exact ⟨rfl, rfl, trim_trim display⟩
      | some facet =>
        have hfacet := h _ facet hentry
        split
        · exact hfacet
        · exact hfacet
    · exact h k facet hold

theorem mem_collectFacetValues (value : Json) (state : FacetState) (k : String) :
    k ∈ (collectFacetValues floatText kind value state).2 ↔
      k ∈ state.2 ∨ ∃ name, Names floatText value name ∧ toAsciiLowercase name = k := by
  have hcollect : k ∈ (collectFacetValues floatText kind value state).2 ↔
      k ∈ state.2 ∨ ∃ leaf ∈ leaves value, ∃ text, nameText floatText leaf = some text ∧
        trim text ≠ "" ∧ toAsciiLowercase (trim text) = k := by
    refine collect_iff (Q := fun state : FacetState => k ∈ state.2) ?_ value state
    intro leaf state
    cases hname : nameText floatText leaf with
    | none => simp
    | some text => simp [mem_insertFacet]
  rw [hcollect]
  refine or_congr_right ?_
  constructor
  · rintro ⟨leaf, hleaf, text, htext, hne, hk⟩
    exact ⟨_, ⟨leaf, hleaf, text, htext, hne, rfl⟩, hk⟩
  · rintro ⟨_, ⟨leaf, hleaf, text, htext, hne, rfl⟩, hk⟩
    exact ⟨leaf, hleaf, text, htext, hne, hk⟩

theorem mem_collectFacets (kind : MediaItemFacetKind) {k : String} :
    k ∈ collectFacets floatText metadata kind keys ↔
      ∃ name, HasSpelledName floatText metadata keys name ∧ toAsciiLowercase name = k := by
  have hfold := foldlFields_iff metadata.get (f := collectFacetValues floatText kind)
    (Q := fun state : FacetState => k ∈ state.2)
    (fun value state => mem_collectFacetValues value state k) keys (0, ∅)
  refine hfold.trans ?_
  constructor
  · rintro (hempty | ⟨key, hkey, value, hget, name, hname, hk⟩)
    · exact absurd hempty (AList.notMem_empty k)
    · exact ⟨name, ⟨key, hkey, value, hget, hname⟩, hk⟩
  · rintro ⟨name, ⟨key, hkey, value, hget, hname⟩, hk⟩
    exact .inr ⟨key, hkey, value, hget, name, hname, hk⟩

theorem facetsSpell_collectFacets {k : String} {facet : PendingFacet}
    (h : (collectFacets floatText metadata kind keys).lookup k = some facet) :
    facet.normalizedValue = k ∧ toAsciiLowercase facet.displayValue = k ∧
      trim facet.displayValue = facet.displayValue := by
  have hempty : FacetsSpell (0, ∅) := by
    intro k facet hlookup
    rw [AList.lookup_empty] at hlookup
    cases hlookup
  have hspell := foldlFields_preserves metadata.get
    (f := collectFacetValues floatText kind) (Q := FacetsSpell)
    (fun value state hstate => by
      refine collect_preserves ?_ value hstate
      intro leaf state hstate
      split
      · exact hstate.insertFacet _ _ _ _
      · exact hstate)
    keys hempty
  exact hspell k facet h

theorem trim_of_hasSpelledName (h : HasSpelledName floatText metadata keys name) :
    trim name = name := by
  obtain ⟨key, hkey, value, hget, leaf, hleaf, text, htext, hne, rfl⟩ := h
  exact trim_trim text

theorem facetSpecs_unique {other : List String} (hkeys : (kind, keys) ∈ facetSpecs)
    (hother : (kind, other) ∈ facetSpecs) : keys = other := by
  have hnodup : (facetSpecs.map Prod.fst).Nodup := by decide
  exact congrArg Prod.snd (List.inj_on_of_nodup_map hnodup hkeys hother rfl)

theorem forall_facets_iff (floatText : UInt64 → String) (metadata : Json)
    (hkind : (kind, keys) ∈ facetSpecs) {P : String → String → Prop} :
    (∀ facet ∈ extractMediaItemFacets floatText metadata, facet.kind = kind →
      P facet.normalizedValue facet.stableId) ↔
      ∀ name, HasSpelledName floatText metadata keys name →
        P (toAsciiLowercase name) (stableEntityId kind.entityType name) := by
  constructor
  · intro h name hname
    obtain ⟨pending, hpending⟩ := HashMap.exists_lookup_of_mem
      ((mem_collectFacets kind).mpr ⟨name, hname, rfl⟩)
    obtain ⟨hvalue, hlower, htrim⟩ := facetsSpell_collectFacets hpending
    have hstable : stableEntityId kind.entityType pending.displayValue =
        stableEntityId kind.entityType name :=
      stableEntityId_congr _ (by rw [htrim, hlower, trim_of_hasSpelledName hname])
    rw [← hvalue, ← hstable]
    refine h { kind, normalizedValue := pending.normalizedValue,
               displayValue := pending.displayValue,
               stableId := stableEntityId kind.entityType pending.displayValue,
               position := pending.position, payload := pending.payload,
               aliases := pending.aliases } (mem_sortOn.mpr ?_) rfl
    exact List.mem_flatMap.mpr ⟨_, hkind, List.mem_map.mpr
      ⟨pending, BTreeMap.mem_values.mpr ⟨_, hpending⟩, rfl⟩⟩
  · rintro h facet hfacet rfl
    obtain ⟨⟨kind, other⟩, hspec, hmem⟩ := List.mem_flatMap.mp (mem_sortOn.mp hfacet)
    obtain ⟨pending, hpending, rfl⟩ := List.mem_map.mp hmem
    obtain ⟨k, hk⟩ := BTreeMap.mem_values.mp hpending
    obtain ⟨name, hname, hlower⟩ := (mem_collectFacets kind).mp (HashMap.mem_of_lookup hk)
    obtain ⟨hvalue, hdisplay, htrim⟩ := facetsSpell_collectFacets hk
    have hstable : stableEntityId kind.entityType pending.displayValue =
        stableEntityId kind.entityType name :=
      stableEntityId_congr _ (by
        rw [htrim, hdisplay, trim_of_hasSpelledName hname, hlower])
    have hkeys := facetSpecs_unique hkind hspec
    have hresult := h name (hkeys ▸ hname)
    rw [hlower, ← hvalue, ← hstable] at hresult
    exact hresult

/-! The names that the selectors find. -/

theorem hasName_or_hiddenName (h : HasSpelledName floatText metadata keys name) :
    HasName floatText metadata keys name ∨ HiddenName floatText metadata keys name := by
  obtain ⟨key, hkey, value, hget, hname⟩ := h
  by_cases hfield : metadata.fieldCaseInsensitive key = some value
  · exact .inl ⟨key, hkey, value, hfield, hname⟩
  · exact .inr ⟨key, hkey, value, hget, hfield, hname⟩

theorem HiddenName.hasSpelledName (h : HiddenName floatText metadata keys name) :
    HasSpelledName floatText metadata keys name := by
  obtain ⟨key, hkey, value, hget, -, hname⟩ := h
  exact ⟨key, hkey, value, hget, hname⟩

theorem nameSelected_of_hasName (h : HasName floatText metadata keys name) :
    NameSelected floatText metadata entityType keys name := by
  refine ⟨selectedBy_iff.mpr (.inr ⟨name, h, .inl rfl⟩), selectedBy_iff.mpr (.inr ⟨name, h, .inr ?_⟩)⟩
  rw [toAsciiLowercase_stableEntityId]

theorem forall_spelled_iff {P : String → Prop}
    (h : ∀ name, HasName floatText metadata keys name → P name) :
    (∀ name, HasSpelledName floatText metadata keys name → P name) ↔
      ∀ name, HiddenName floatText metadata keys name → P name := by
  constructor
  · intro hspelled name hname
    exact hspelled name hname.hasSpelledName
  · intro hhidden name hname
    cases hasName_or_hiddenName hname with
    | inl hfound => exact h name hfound
    | inr hname => exact hhidden name hname

/-- A facet of a hidden name can be selected only if the fields that are found name it too. -/
theorem facetsSelectable_iff_hiddenNamesSelected (floatText : UInt64 → String) (metadata : Json) :
    FacetsSelectable floatText metadata ↔ HiddenNamesSelected floatText metadata := by
  have hgenre := forall_facets_iff floatText metadata
    (show (.genre, ["Genres", "SeriesGenres"]) ∈ facetSpecs by decide)
    (P := fun value id => value ∈ extractMediaItemGenreSelectors floatText metadata ∧
      id ∈ extractMediaItemGenreSelectors floatText metadata)
  have hstudio := forall_facets_iff floatText metadata
    (show (.studio, ["Studios", "SeriesStudios"]) ∈ facetSpecs by decide)
    (P := fun value id => (.studio, value) ∈ extractMediaItemFilterSelectors floatText metadata ∧
      (.studio, id) ∈ extractMediaItemFilterSelectors floatText metadata)
  have htag := forall_facets_iff floatText metadata (show (.tag, ["Tags"]) ∈ facetSpecs by decide)
    (P := fun value _ => (.tag, value) ∈ extractMediaItemFilterSelectors floatText metadata)
  simp only [mem_extractMediaItemGenreSelectors] at hgenre
  simp only [mem_extractMediaItemFilterSelectors, reduceCtorEq, false_and, true_and, false_or,
    or_false] at hstudio htag
  simp only [FacetsSelectable, mem_extractMediaItemGenreSelectors,
    mem_extractMediaItemFilterSelectors, reduceCtorEq, false_and, true_and, false_or, or_false]
  rw [forall₂_and, forall₂_and]
  exact and_congr (hgenre.trans (forall_spelled_iff fun _ => nameSelected_of_hasName))
    (and_congr (hstudio.trans (forall_spelled_iff fun _ => nameSelected_of_hasName))
      (htag.trans (forall_spelled_iff fun name hname => ⟨name, hname, rfl⟩)))

/-- The genre of the second field is displayed, and the selectors are those of the first one. -/
theorem drama_not_selectable : ¬FacetsSelectable (fun _ => "")
    (.object [("GENRES", .string "Comedy"), ("Genres", .string "Drama")]) := by
  rw [FacetsSelectable]
  decide

end Jellyrin.Metadata
