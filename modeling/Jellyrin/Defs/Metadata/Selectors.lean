import Jellyrin.Defs.Data.EntityId
import Jellyrin.Defs.Metadata.Values
import Mathlib.Data.Finset.Insert

/-! The two ways to select items by an entity: the matcher of the application, and the selectors
that the database keeps for every item. -/

namespace Jellyrin.Metadata

open Ascii Json

variable (floatText : UInt64 → String)

def importedId : Json → Option String
  | .object fields => ((((Json.object fields).get "Id").bind asStr).map trim).filter (· ≠ "")
  | _ => none

/-! The application. -/

def metadataValueHasItems : Json → Bool
  | .array values => !values.isEmpty
  | .string value => trim value ≠ ""
  | .object fields => !fields.isEmpty
  | _ => false

def insertEntityId (itemType name : String) (ids : Finset String) : Finset String :=
  if trim name = "" then ids
  else insert (toAsciiLowercase (stableEntityId itemType (trim name))) ids

def collectMetadataEntityIds (itemType : String) : Json → Finset String → Finset String :=
  collect fun value ids =>
    match value with
    | .object fields =>
      let ids :=
        match importedId (.object fields) with
        | some id => insert (toAsciiLowercase id) ids
        | none => ids
      match ((Json.object fields).get "Name").bind asStr with
      | some name => insertEntityId itemType name ids
      | none => ids
    | .string name => insertEntityId itemType name ids
    | _ => ids

def hasField (metadata : Json) (p : Json → Bool) (field : String) : Bool :=
  (metadata.fieldCaseInsensitive field).any p

def effectiveKeys (metadata : Json) (itemType : String) (keys : List String) : List String :=
  if eqIgnoreAsciiCase itemType "Person" &&
      keys.any (eqIgnoreAsciiCase · "SeriesPeople") &&
      (hasField metadata metadataValueHasItems "People" ||
        hasField metadata metadataValueHasItems "Cast") then
    keys.filter fun key => !eqIgnoreAsciiCase key "SeriesPeople"
  else keys

def metadataMatchesEntityIds (metadata : Json) (itemType : String) (keys : List String)
    (entityIds : List String) : Bool :=
  let keys := effectiveKeys metadata itemType keys
  let names := metadataValuesFromJson floatText metadata keys
  let ids := collectFields metadata keys (collectMetadataEntityIds itemType) ∅
  let ids := names.foldl (fun ids name =>
    insert (toAsciiLowercase (stableEntityId itemType name))
      (insert (toAsciiLowercase name) ids)) ids
  entityIds.isEmpty || entityIds.any (· ∈ ids)

/-! The database. -/

inductive MediaItemFilterSelectorKind where
  | person
  | studio
  | tag
  deriving DecidableEq

section Selectors

variable {α : Type} [DecidableEq α] (selector : String → α)

def insertEntitySelectors (entityType name : String) (selectors : Finset α) : Finset α :=
  if trim name = "" then selectors
  else insert (selector (toAsciiLowercase (stableEntityId entityType (trim name))))
    (insert (selector (toAsciiLowercase (trim name))) selectors)

def collectEntitySelectors (entityType : String) : Json → Finset α → Finset α :=
  collect fun value selectors =>
    let selectors :=
      match importedId value with
      | some id => insert (selector (toAsciiLowercase id)) selectors
      | none => selectors
    match nameText floatText value with
    | some name => insertEntitySelectors selector entityType name selectors
    | none => selectors

end Selectors

def collectGenreSelectors : Json → Finset String → Finset String :=
  collectEntitySelectors floatText id "Genre"

def collectEntityFilterSelectors (kind : MediaItemFilterSelectorKind) (entityType : String) :
    Json → Finset (MediaItemFilterSelectorKind × String) →
      Finset (MediaItemFilterSelectorKind × String) :=
  collectEntitySelectors floatText (kind, ·) entityType

def insertTagFilterSelector (tag : String)
    (selectors : Finset (MediaItemFilterSelectorKind × String)) :
    Finset (MediaItemFilterSelectorKind × String) :=
  if trim tag = "" then selectors else insert (.tag, toAsciiLowercase (trim tag)) selectors

def collectTagFilterSelectors :
    Json → Finset (MediaItemFilterSelectorKind × String) →
      Finset (MediaItemFilterSelectorKind × String) :=
  collect fun value selectors =>
    match nameText floatText value with
    | some tag => insertTagFilterSelector tag selectors
    | none => selectors

def extractMediaItemGenreSelectors (metadata : Json) : Finset String :=
  collectFields metadata ["Genres", "SeriesGenres"] (collectGenreSelectors floatText) ∅

def extractMediaItemFilterSelectors (metadata : Json) :
    Finset (MediaItemFilterSelectorKind × String) :=
  let people := metadata.fieldCaseInsensitive "People"
  let cast := metadata.fieldCaseInsensitive "Cast"
  let hasItemPeople := people.any metadataValueHasItems || cast.any metadataValueHasItems
  let seriesPeople :=
    if hasItemPeople then none else metadata.fieldCaseInsensitive "SeriesPeople"
  let selectors := ([people, cast, seriesPeople].filterMap id).foldl (fun selectors value =>
    collectEntityFilterSelectors floatText .person "Person" value selectors) ∅
  let selectors := collectFields metadata ["Studios", "SeriesStudios"]
    (collectEntityFilterSelectors floatText .studio "Studio") selectors
  collectFields metadata ["Tags"] (collectTagFilterSelectors floatText) selectors

end Jellyrin.Metadata

/-! The matcher of the application and the selectors of the database select the same items. -/

namespace Jellyrin.Metadata

open Ascii Json

variable (floatText : UInt64 → String)

/-- What names a value in a filter for entities: an imported identifier, its name, or the identifier
that is derived from the name. -/
def IsSelector (entityType : String) (value : Json) (id : String) : Prop :=
  (∃ imported, importedId value = some imported ∧ id = toAsciiLowercase imported) ∨
    ∃ name, nameText floatText value = some name ∧ trim name ≠ "" ∧
      (id = toAsciiLowercase (trim name) ∨
        id = toAsciiLowercase (stableEntityId entityType (trim name)))

def SelectedBy (metadata : Json) (entityType : String) (keys : List String) (id : String) : Prop :=
  ∃ key ∈ keys, ∃ value, metadata.fieldCaseInsensitive key = some value ∧
    ∃ leaf ∈ leaves value, IsSelector floatText entityType leaf id

variable {floatText} {metadata : Json} {entityType id : String} {keys : List String}

/-! The application. -/

theorem mem_insertEntityId {name : String} {ids : Finset String} :
    id ∈ insertEntityId entityType name ids ↔
      id ∈ ids ∨ trim name ≠ "" ∧ id = toAsciiLowercase (stableEntityId entityType (trim name)) := by
  rw [insertEntityId]
  split
  · rename_i hblank
    simp [hblank]
  · rename_i hname
    simp [hname, or_comm]

variable (entityType) in
theorem mem_collectMetadataEntityIds (value : Json) (ids : Finset String) :
    id ∈ collectMetadataEntityIds entityType value ids ↔
      id ∈ ids ∨ ∃ leaf ∈ leaves value,
        (∃ imported, importedId leaf = some imported ∧ id = toAsciiLowercase imported) ∨
        ∃ name, (leaf = .string name ∨ leaf.isObject = true ∧ (leaf.get "Name").bind asStr = some name) ∧
          trim name ≠ "" ∧ id = toAsciiLowercase (stableEntityId entityType (trim name)) := by
  refine collect_iff (Q := fun ids : Finset String => id ∈ ids) ?_ value ids
  intro leaf ids
  cases leaf with
  | object fields =>
    cases himported : importedId (.object fields) <;>
      cases hname : ((Json.object fields).get "Name").bind asStr <;>
      simp [mem_insertEntityId, isObject, himported, hname, or_assoc, or_comm]
  | string name => simp [importedId, mem_insertEntityId, isObject]
  | _ => simp [importedId, isObject]

theorem effectiveKeys_person :
    effectiveKeys metadata "Person" ["People", "Cast", "SeriesPeople"] =
      if hasField metadata metadataValueHasItems "People" ||
          hasField metadata metadataValueHasItems "Cast" then ["People", "Cast"]
      else ["People", "Cast", "SeriesPeople"] := by
  have hperson : eqIgnoreAsciiCase "Person" "Person" = true := eqIgnoreAsciiCase_self _
  have hany : (["People", "Cast", "SeriesPeople"].any (eqIgnoreAsciiCase · "SeriesPeople")) = true := by
    decide
  have hfilter : (["People", "Cast", "SeriesPeople"].filter
      fun key => !eqIgnoreAsciiCase key "SeriesPeople") = ["People", "Cast"] := by
    decide
  rw [effectiveKeys, hperson, hany, hfilter, Bool.true_and, Bool.true_and]

theorem effectiveKeys_of_ne (h : eqIgnoreAsciiCase entityType "Person" = false) :
    effectiveKeys metadata entityType keys = keys := by
  rw [effectiveKeys, h, Bool.false_and, Bool.false_and, if_neg Bool.false_ne_true]

theorem mem_foldl_insertNames (names : List String) (ids : Finset String) :
    (id ∈ names.foldl (fun ids name => insert (toAsciiLowercase (stableEntityId entityType name))
        (insert (toAsciiLowercase name) ids)) ids) ↔
      id ∈ ids ∨ ∃ name ∈ names, id = toAsciiLowercase name ∨
        id = toAsciiLowercase (stableEntityId entityType name) := by
  induction names generalizing ids with
  | nil => simp
  | cons name rest ih =>
    rw [List.foldl_cons, ih, Finset.mem_insert, Finset.mem_insert]
    simp only [List.mem_cons, exists_eq_or_imp, or_assoc, or_comm]

theorem isSelector_of_stable {leaf : Json} {name : String}
    (hleaf : leaf = .string name ∨ leaf.isObject = true ∧ (leaf.get "Name").bind asStr = some name)
    (hname : trim name ≠ "")
    (hid : id = toAsciiLowercase (stableEntityId entityType (trim name))) :
    IsSelector floatText entityType leaf id := by
  refine .inr ⟨name, ?_, hname, .inr hid⟩
  obtain rfl | ⟨hobject, hget⟩ := hleaf
  · rfl
  · cases leaf with
    | object fields => exact hget
    | _ => cases hobject

theorem selectedBy_iff :
    SelectedBy floatText metadata entityType keys id ↔
      (∃ key ∈ keys, ∃ value, metadata.fieldCaseInsensitive key = some value ∧
        ∃ leaf ∈ leaves value, ∃ imported, importedId leaf = some imported ∧
          id = toAsciiLowercase imported) ∨
      ∃ name, HasName floatText metadata keys name ∧
        (id = toAsciiLowercase name ∨ id = toAsciiLowercase (stableEntityId entityType name)) := by
  constructor
  · rintro ⟨key, hkey, value, hfield, leaf, hleaf, himported | ⟨text, htext, hne, hid⟩⟩
    · exact .inl ⟨key, hkey, value, hfield, leaf, hleaf, himported⟩
    · exact .inr ⟨_, ⟨key, hkey, value, hfield, leaf, hleaf, text, htext, hne, rfl⟩, hid⟩
  · rintro (⟨key, hkey, value, hfield, leaf, hleaf, himported⟩ |
      ⟨name, ⟨key, hkey, value, hfield, leaf, hleaf, text, htext, hne, rfl⟩, hid⟩)
    · exact ⟨key, hkey, value, hfield, leaf, hleaf, .inl himported⟩
    · exact ⟨key, hkey, value, hfield, leaf, hleaf, .inr ⟨text, htext, hne, hid⟩⟩

theorem exists_mem_metadataValues_iff :
    (∃ name ∈ metadataValuesFromJson floatText metadata keys, id = toAsciiLowercase name ∨
      id = toAsciiLowercase (stableEntityId entityType name)) ↔
      ∃ name, HasName floatText metadata keys name ∧
        (id = toAsciiLowercase name ∨ id = toAsciiLowercase (stableEntityId entityType name)) := by
  have hsame : ∀ {name other : String}, trim name = name → trim other = other →
      toAsciiLowercase name = toAsciiLowercase other →
      (id = toAsciiLowercase name ∨ id = toAsciiLowercase (stableEntityId entityType name)) →
      id = toAsciiLowercase other ∨ id = toAsciiLowercase (stableEntityId entityType other) := by
    intro name other hname hother heq hid
    have hstable : stableEntityId entityType name = stableEntityId entityType other :=
      stableEntityId_congr entityType (by rw [hname, hother, heq])
    rwa [heq, hstable] at hid
  have htrim : ∀ {name : String}, HasName floatText metadata keys name → trim name = name := by
    rintro name ⟨key, hkey, value, hfield, leaf, hleaf, text, htext, hne, rfl⟩
    exact trim_trim text
  constructor
  · rintro ⟨name, hname, hid⟩
    obtain ⟨other, hother, heq⟩ := exists_mem_metadataValuesFromJson.mp ⟨name, hname, rfl⟩
    exact ⟨other, hother,
      hsame (trim_of_mem_metadataValuesFromJson hname) (htrim hother) heq.symm hid⟩
  · rintro ⟨name, hname, hid⟩
    obtain ⟨other, hother, heq⟩ := exists_mem_metadataValuesFromJson.mpr ⟨name, hname, rfl⟩
    exact ⟨other, hother,
      hsame (htrim hname) (trim_of_mem_metadataValuesFromJson hother) heq.symm hid⟩

theorem metadataMatchesEntityIds_iff {entityIds : List String} (hne : entityIds ≠ []) :
    metadataMatchesEntityIds floatText metadata entityType keys entityIds = true ↔
      ∃ id ∈ entityIds,
        SelectedBy floatText metadata entityType (effectiveKeys metadata entityType keys) id := by
  rw [metadataMatchesEntityIds, List.isEmpty_eq_false_iff.mpr hne, Bool.false_or, List.any_eq_true]
  refine exists_congr fun id => and_congr_right fun _ => ?_
  have hcollect := collectFields_iff metadata
    (Q := fun ids : Finset String => id ∈ ids)
    (mem_collectMetadataEntityIds entityType)
    (effectiveKeys metadata entityType keys) ∅
  rw [decide_eq_true_iff, mem_foldl_insertNames, hcollect, exists_mem_metadataValues_iff,
    selectedBy_iff]
  constructor
  · rintro ((hempty | ⟨key, hkey, value, hfield, leaf, hleaf, himported | ⟨name, hname, htrim, hid⟩⟩) |
      hnames)
    · exact absurd hempty (Finset.notMem_empty id)
    · exact .inl ⟨key, hkey, value, hfield, leaf, hleaf, himported⟩
    · exact selectedBy_iff.mp ⟨key, hkey, value, hfield, leaf, hleaf,
        isSelector_of_stable hname htrim hid⟩
    · exact .inr hnames
  · rintro (⟨key, hkey, value, hfield, leaf, hleaf, himported⟩ | hnames)
    · exact .inl (.inr ⟨key, hkey, value, hfield, leaf, hleaf, .inl himported⟩)
    · exact .inr hnames

/-! The database. -/

section Selectors

variable {α : Type} [DecidableEq α] {selector : String → α}

theorem mem_insertEntitySelectors {name : String} {selectors : Finset α} {a : α} :
    a ∈ insertEntitySelectors selector entityType name selectors ↔
      a ∈ selectors ∨ trim name ≠ "" ∧ (a = selector (toAsciiLowercase (trim name)) ∨
        a = selector (toAsciiLowercase (stableEntityId entityType (trim name)))) := by
  rw [insertEntitySelectors]
  split
  · rename_i hblank
    simp [hblank]
  · rename_i hname
    simp [hname, or_assoc, or_comm]

omit [DecidableEq α] in
variable (floatText entityType selector) in
theorem exists_isSelector_iff (leaf : Json) (a : α) :
    (∃ id, IsSelector floatText entityType leaf id ∧ a = selector id) ↔
      (∃ imported, importedId leaf = some imported ∧ a = selector (toAsciiLowercase imported)) ∨
      ∃ name, nameText floatText leaf = some name ∧ trim name ≠ "" ∧
        (a = selector (toAsciiLowercase (trim name)) ∨
          a = selector (toAsciiLowercase (stableEntityId entityType (trim name)))) := by
  constructor
  · rintro ⟨id, ⟨imported, himported, rfl⟩ | ⟨name, hname, hne, rfl | rfl⟩, ha⟩
    · exact .inl ⟨imported, himported, ha⟩
    · exact .inr ⟨name, hname, hne, .inl ha⟩
    · exact .inr ⟨name, hname, hne, .inr ha⟩
  · rintro (⟨imported, himported, ha⟩ | ⟨name, hname, hne, ha | ha⟩)
    · exact ⟨_, .inl ⟨imported, himported, rfl⟩, ha⟩
    · exact ⟨_, .inr ⟨name, hname, hne, .inl rfl⟩, ha⟩
    · exact ⟨_, .inr ⟨name, hname, hne, .inr rfl⟩, ha⟩

variable (floatText entityType selector) in
theorem mem_collectEntitySelectors (value : Json) (selectors : Finset α) (a : α) :
    a ∈ collectEntitySelectors floatText selector entityType value selectors ↔
      a ∈ selectors ∨ ∃ leaf ∈ leaves value, ∃ id, IsSelector floatText entityType leaf id ∧
        a = selector id := by
  refine collect_iff (Q := fun selectors : Finset α => a ∈ selectors) ?_ value selectors
  intro leaf selectors
  rw [exists_isSelector_iff]
  cases himported : importedId leaf <;> cases hname : nameText floatText leaf <;>
    simp [mem_insertEntitySelectors, or_assoc, or_comm]

end Selectors

theorem mem_extractMediaItemGenreSelectors :
    id ∈ extractMediaItemGenreSelectors floatText metadata ↔
      SelectedBy floatText metadata "Genre" ["Genres", "SeriesGenres"] id := by
  have hcollect := collectFields_iff metadata
    (Q := fun selectors : Finset String => id ∈ selectors)
    (fun value selectors =>
      mem_collectEntitySelectors floatText "Genre" (fun text : String => text) value selectors id)
    ["Genres", "SeriesGenres"] ∅
  refine hcollect.trans ?_
  simp only [SelectedBy, Finset.notMem_empty, false_or, exists_eq_right']

variable (floatText entityType) in
theorem mem_collectEntityFilterSelectors (kind : MediaItemFilterSelectorKind)
    {other : MediaItemFilterSelectorKind} (value : Json)
    (selectors : Finset (MediaItemFilterSelectorKind × String)) :
    (other, id) ∈ collectEntityFilterSelectors floatText kind entityType value selectors ↔
      (other, id) ∈ selectors ∨
        other = kind ∧ ∃ leaf ∈ leaves value, IsSelector floatText entityType leaf id := by
  rw [collectEntityFilterSelectors, mem_collectEntitySelectors]
  refine or_congr_right ?_
  constructor
  · rintro ⟨leaf, hleaf, other, hother, heq⟩
    cases heq
    exact ⟨rfl, leaf, hleaf, hother⟩
  · rintro ⟨rfl, leaf, hleaf, hid⟩
    exact ⟨leaf, hleaf, id, hid, rfl⟩

variable (floatText) in
theorem mem_collectTagFilterSelectors {kind : MediaItemFilterSelectorKind} (value : Json)
    (selectors : Finset (MediaItemFilterSelectorKind × String)) :
    (kind, id) ∈ collectTagFilterSelectors floatText value selectors ↔
      (kind, id) ∈ selectors ∨ ∃ leaf ∈ leaves value, ∃ tag, nameText floatText leaf = some tag ∧
        trim tag ≠ "" ∧ (kind, id) = (.tag, toAsciiLowercase (trim tag)) := by
  refine collect_iff
    (Q := fun selectors : Finset (MediaItemFilterSelectorKind × String) => (kind, id) ∈ selectors)
    ?_ value selectors
  intro leaf selectors
  cases htag : nameText floatText leaf with
  | none => simp
  | some tag =>
    simp only [insertTagFilterSelector]
    split
    · rename_i hblank
      simp [hblank]
    · rename_i htrim
      simp [htrim, or_comm]

variable {kind : MediaItemFilterSelectorKind}

theorem mem_studios (selectors : Finset (MediaItemFilterSelectorKind × String)) :
    (kind, id) ∈ collectFields metadata ["Studios", "SeriesStudios"]
        (collectEntityFilterSelectors floatText .studio "Studio") selectors ↔
      (kind, id) ∈ selectors ∨ kind = .studio ∧
        SelectedBy floatText metadata "Studio" ["Studios", "SeriesStudios"] id := by
  have hcollect := collectFields_iff metadata
    (Q := fun selectors : Finset (MediaItemFilterSelectorKind × String) => (kind, id) ∈ selectors)
    (mem_collectEntityFilterSelectors floatText "Studio" .studio)
    ["Studios", "SeriesStudios"] selectors
  rw [hcollect]
  refine or_congr_right ?_
  constructor
  · rintro ⟨key, hkey, value, hfield, hkind, hid⟩
    exact ⟨hkind, key, hkey, value, hfield, hid⟩
  · rintro ⟨hkind, key, hkey, value, hfield, hid⟩
    exact ⟨key, hkey, value, hfield, hkind, hid⟩

theorem mem_tags (selectors : Finset (MediaItemFilterSelectorKind × String)) :
    (kind, id) ∈ collectFields metadata ["Tags"] (collectTagFilterSelectors floatText) selectors ↔
      (kind, id) ∈ selectors ∨ kind = .tag ∧
        ∃ name, HasName floatText metadata ["Tags"] name ∧ toAsciiLowercase name = id := by
  have hcollect := collectFields_iff metadata
    (Q := fun selectors : Finset (MediaItemFilterSelectorKind × String) => (kind, id) ∈ selectors)
    (mem_collectTagFilterSelectors floatText)
    ["Tags"] selectors
  rw [hcollect]
  refine or_congr_right ?_
  constructor
  · rintro ⟨key, hkey, value, hfield, leaf, hleaf, tag, htag, hne, heq⟩
    cases heq
    exact ⟨rfl, _, ⟨key, hkey, value, hfield, leaf, hleaf, tag, htag, hne, rfl⟩, rfl⟩
  · rintro ⟨rfl, _, ⟨key, hkey, value, hfield, leaf, hleaf, tag, htag, hne, rfl⟩, rfl⟩
    exact ⟨key, hkey, value, hfield, leaf, hleaf, tag, htag, hne, rfl⟩

theorem mem_people :
    (∃ value ∈ [metadata.fieldCaseInsensitive "People", metadata.fieldCaseInsensitive "Cast",
        if (metadata.fieldCaseInsensitive "People").any metadataValueHasItems ||
          (metadata.fieldCaseInsensitive "Cast").any metadataValueHasItems then none
        else metadata.fieldCaseInsensitive "SeriesPeople"].filterMap fun value => value,
      ∃ leaf ∈ leaves value, IsSelector floatText "Person" leaf id) ↔
      SelectedBy floatText metadata "Person"
        (effectiveKeys metadata "Person" ["People", "Cast", "SeriesPeople"]) id := by
  rw [effectiveKeys_person, SelectedBy]
  by_cases hown : ((metadata.fieldCaseInsensitive "People").any metadataValueHasItems ||
      (metadata.fieldCaseInsensitive "Cast").any metadataValueHasItems) = true
  · rw [if_pos hown, if_pos (show (hasField _ _ _ || hasField _ _ _) = true from hown)]
    simp [eq_comm, or_and_right, exists_or]
  · rw [if_neg hown, if_neg (show ¬(hasField _ _ _ || hasField _ _ _) = true from hown)]
    simp [eq_comm, or_and_right, exists_or]

theorem mem_extractMediaItemFilterSelectors :
    (kind, id) ∈ extractMediaItemFilterSelectors floatText metadata ↔
      kind = .person ∧ SelectedBy floatText metadata "Person"
        (effectiveKeys metadata "Person" ["People", "Cast", "SeriesPeople"]) id ∨
      kind = .studio ∧ SelectedBy floatText metadata "Studio" ["Studios", "SeriesStudios"] id ∨
      kind = .tag ∧ ∃ name, HasName floatText metadata ["Tags"] name ∧
        toAsciiLowercase name = id := by
  have hpeople : ∀ values : List Json, (kind, id) ∈ values.foldl (fun selectors value =>
      collectEntityFilterSelectors floatText .person "Person" value selectors) ∅ ↔
      kind = .person ∧ ∃ value ∈ values, ∃ leaf ∈ leaves value,
        IsSelector floatText "Person" leaf id := by
    intro values
    have hfold := foldl_iff
      (Q := fun selectors : Finset (MediaItemFilterSelectorKind × String) => (kind, id) ∈ selectors)
      (mem_collectEntityFilterSelectors floatText "Person" .person) values ∅
    rw [hfold]
    simp only [Finset.notMem_empty, false_or]
    exact ⟨fun ⟨value, hvalue, hkind, hid⟩ => ⟨hkind, value, hvalue, hid⟩,
      fun ⟨hkind, value, hvalue, hid⟩ => ⟨value, hvalue, hkind, hid⟩⟩
  rw [extractMediaItemFilterSelectors, mem_tags, mem_studios, or_assoc, hpeople]
  exact or_congr_left (and_congr_right fun _ => mem_people)

/-- Whichever way a filter is applied, it selects the same items. -/
theorem matcher_agrees_with_selectors (floatText : UInt64 → String) (metadata : Json)
    {selectors : List String} (hne : selectors ≠ []) :
    (metadataMatchesEntityIds floatText metadata "Genre" ["Genres", "SeriesGenres"] selectors ↔
      ∃ id ∈ selectors, id ∈ extractMediaItemGenreSelectors floatText metadata) ∧
    (metadataMatchesEntityIds floatText metadata "Studio" ["Studios", "SeriesStudios"] selectors ↔
      ∃ id ∈ selectors, (.studio, id) ∈ extractMediaItemFilterSelectors floatText metadata) ∧
    (metadataMatchesEntityIds floatText metadata "Person" ["People", "Cast", "SeriesPeople"]
        selectors ↔
      ∃ id ∈ selectors, (.person, id) ∈ extractMediaItemFilterSelectors floatText metadata) ∧
    (metadataMatchesValues floatText metadata ["Tags"] selectors ↔
      ∃ id ∈ selectors, (.tag, id) ∈ extractMediaItemFilterSelectors floatText metadata) := by
  have hgenre : effectiveKeys metadata "Genre" ["Genres", "SeriesGenres"] =
      ["Genres", "SeriesGenres"] := effectiveKeys_of_ne (by decide)
  have hstudio : effectiveKeys metadata "Studio" ["Studios", "SeriesStudios"] =
      ["Studios", "SeriesStudios"] := effectiveKeys_of_ne (by decide)
  refine ⟨?_, ?_, ?_, ?_⟩
  · rw [metadataMatchesEntityIds_iff hne, hgenre]
    simp only [mem_extractMediaItemGenreSelectors]
  · rw [metadataMatchesEntityIds_iff hne, hstudio]
    simp [mem_extractMediaItemFilterSelectors]
  · rw [metadataMatchesEntityIds_iff hne]
    simp [mem_extractMediaItemFilterSelectors]
  · rw [metadataMatchesValues_iff hne]
    simp only [mem_extractMediaItemFilterSelectors, reduceCtorEq, false_and, true_and, false_or]
    constructor
    · rintro ⟨name, hname, hid⟩
      exact ⟨_, hid, name, hname, rfl⟩
    · rintro ⟨_, hid, name, hname, rfl⟩
      exact ⟨name, hname, hid⟩

theorem matcher_agrees_with_selectors_on_tags :
    ∃ id ∈ ["slow", "4k"], (.tag, id) ∈ extractMediaItemFilterSelectors (fun _ => "")
      (.object [("tags", .array [.array [.number 4], .string " 4K "])]) :=
  (matcher_agrees_with_selectors (fun _ => "")
    (.object [("tags", .array [.array [.number 4], .string " 4K "])]) (List.cons_ne_nil "slow" ["4k"])
    ).2.2.2.mp (by decide)

end Jellyrin.Metadata
