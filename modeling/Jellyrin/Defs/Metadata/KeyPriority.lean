import Jellyrin.Defs.Metadata.Values

/-! Which of the values under several keys is the first one. -/

namespace Jellyrin.Metadata

open Ascii Json

variable (floatText : UInt64 → String)

def nonBlank (text : String) : Option String := if trim text = "" then none else some (trim text)

def namesOf (value : Json) : List String :=
  (leaves value).filterMap fun leaf => (nameText floatText leaf).bind nonBlank

def namesUnder (metadata : Json) (key : String) : List String :=
  ((metadata.fieldCaseInsensitive key).map (namesOf floatText)).getD []

def firstByPriority (metadata : Json) (keys : List String) : Option String :=
  keys.findSome? fun key => (namesUnder floatText metadata key).head?

variable {floatText}

theorem nonBlank_eq_some {text name : String} :
    nonBlank text = some name ↔ trim text ≠ "" ∧ trim text = name := by
  rw [nonBlank]
  split <;> simp [*]

theorem mem_namesOf {value : Json} {name : String} :
    name ∈ namesOf floatText value ↔
      ∃ leaf ∈ leaves value, ∃ text, nameText floatText leaf = some text ∧ trim text ≠ "" ∧
        trim text = name := by
  simp only [namesOf, List.mem_filterMap, Option.bind_eq_some_iff, nonBlank_eq_some]

theorem mem_namesUnder {metadata : Json} {key name : String} :
    name ∈ namesUnder floatText metadata key ↔
      ∃ value, metadata.fieldCaseInsensitive key = some value ∧ name ∈ namesOf floatText value := by
  rw [namesUnder]
  cases metadata.fieldCaseInsensitive key <;> simp

theorem mem_flatMap_namesUnder {metadata : Json} {keys : List String} {name : String} :
    name ∈ keys.flatMap (namesUnder floatText metadata) ↔
      HasName floatText metadata keys name := by
  simp only [List.mem_flatMap, mem_namesUnder, mem_namesOf, HasName]

/-! The map holds the names of all keys, each entered in its turn. -/

theorem insertMetadataValue_eq (text : String) (values : BTreeMap String String) :
    insertMetadataValue text values =
      BTreeMap.orInsertAll toAsciiLowercase (nonBlank text).toList values := by
  rw [insertMetadataValue, nonBlank]
  split <;> rfl

theorem collectMetadataValue_eq (value : Json) (values : BTreeMap String String) :
    collectMetadataValue floatText value values =
      BTreeMap.orInsertAll toAsciiLowercase (namesOf floatText value) values := by
  rw [collectMetadataValue, collect_eq_foldl, namesOf]
  induction leaves value generalizing values with
  | nil => rfl
  | cons leaf rest ih =>
    rw [List.foldl_cons, ih, List.filterMap_cons]
    cases hname : nameText floatText leaf with
    | none => rfl
    | some text =>
      rw [Option.bind_some]
      dsimp only
      rw [insertMetadataValue_eq]
      cases nonBlank text <;> rfl

theorem metadataValues_eq (metadata : Json) (keys : List String) :
    metadataValues floatText metadata keys =
      BTreeMap.orInsertAll toAsciiLowercase (keys.flatMap (namesUnder floatText metadata)) ∅ := by
  rw [metadataValues, collectFields]
  generalize (∅ : BTreeMap String String) = values
  induction keys generalizing values with
  | nil => rfl
  | cons key rest ih =>
    rw [List.foldl_cons, ih, List.flatMap_cons, BTreeMap.orInsertAll_append, namesUnder]
    cases metadata.fieldCaseInsensitive key with
    | none => rfl
    | some value =>
      dsimp only
      rw [collectMetadataValue_eq]
      rfl

theorem firstMetadataValueFromJson_eq_argmin (metadata : Json) (keys : List String) :
    firstMetadataValueFromJson floatText metadata keys =
      (keys.flatMap (namesUnder floatText metadata)).argmin toAsciiLowercase := by
  rw [firstMetadataValueFromJson, metadataValuesFromJson, BTreeMap.head?_values,
    metadataValues_eq, BTreeMap.first_orInsertAll]

theorem firstByPriority_eq_head? (metadata : Json) (keys : List String) :
    firstByPriority floatText metadata keys =
      (keys.flatMap (namesUnder floatText metadata)).head? := by
  rw [List.head?_flatMap]
  rfl

theorem firstMetadataValueFromJson_eq_firstByPriority_iff (metadata : Json) (keys : List String) :
    firstMetadataValueFromJson floatText metadata keys =
        firstByPriority floatText metadata keys ↔
      ∀ first ∈ firstByPriority floatText metadata keys, ∀ name,
        HasName floatText metadata keys name →
          toAsciiLowercase first ≤ toAsciiLowercase name := by
  rw [firstMetadataValueFromJson_eq_argmin, firstByPriority_eq_head?]
  simp only [← mem_flatMap_namesUnder]
  exact argmin_eq_head?_iff

theorem firstMetadataValueFromJson_ne_firstByPriority :
    ¬∀ metadata keys,
      firstMetadataValueFromJson (fun _ => "") metadata keys =
        firstByPriority (fun _ => "") metadata keys := by
  intro h
  have htitle := h (.object [("Name", .string "Zodiac"), ("Title", .string "Alien")])
    ["Name", "Title", "title"]
  revert htitle
  decide

end Jellyrin.Metadata
