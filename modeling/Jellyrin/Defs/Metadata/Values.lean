import Jellyrin.Defs.Data.BTreeMap
import Jellyrin.Defs.Data.Json

/-! The texts that a metadata document holds under a field. -/

namespace Jellyrin.Metadata

open Ascii Json

universe u

variable {metadata : Json}

section Collect

variable {σ : Type u} (leaf : Json → σ → σ)

mutual

def collect : Json → σ → σ
  | .array items, acc => collectItems items acc
  | value, acc => leaf value acc

def collectItems : List Json → σ → σ
  | [], acc => acc
  | value :: rest, acc => collectItems rest (collect value acc)

end

mutual

def leaves : Json → List Json
  | .array items => leavesOf items
  | value => [value]

def leavesOf : List Json → List Json
  | [] => []
  | value :: rest => leaves value ++ leavesOf rest

end

mutual

theorem collect_eq_foldl : (value : Json) → (acc : σ) →
    collect leaf value acc = (leaves value).foldl (fun acc v => leaf v acc) acc
  | .array items, acc => by rw [collect, leaves, collectItems_eq_foldl items]
  | .null, _ | .bool _, _ | .number _, _ | .float _, _ | .string _, _ | .object _, _ => rfl

theorem collectItems_eq_foldl : (items : List Json) → (acc : σ) →
    collectItems leaf items acc = (leavesOf items).foldl (fun acc v => leaf v acc) acc
  | [], _ => rfl
  | value :: rest, acc => by
    rw [collectItems, leavesOf, List.foldl_append, collect_eq_foldl value,
      collectItems_eq_foldl rest]

end

variable {leaf}

theorem foldl_iff {Q : σ → Prop} {P : Json → Prop}
    (h : ∀ value acc, Q (leaf value acc) ↔ Q acc ∨ P value) (values : List Json) (acc : σ) :
    Q (values.foldl (fun acc value => leaf value acc) acc) ↔ Q acc ∨ ∃ v ∈ values, P v := by
  induction values generalizing acc with
  | nil => simp
  | cons v rest ih =>
    rw [List.foldl_cons, ih, h, or_assoc]
    simp

theorem collect_iff {Q : σ → Prop} {P : Json → Prop}
    (h : ∀ value acc, Q (leaf value acc) ↔ Q acc ∨ P value) (value : Json) (acc : σ) :
    Q (collect leaf value acc) ↔ Q acc ∨ ∃ v ∈ leaves value, P v := by
  rw [collect_eq_foldl]
  exact foldl_iff h _ _

theorem collect_preserves {Q : σ → Prop} (h : ∀ value acc, Q acc → Q (leaf value acc))
    (value : Json) {acc : σ} (hacc : Q acc) : Q (collect leaf value acc) := by
  rw [collect_eq_foldl]
  induction leaves value generalizing acc with
  | nil => exact hacc
  | cons v rest ih => exact ih (h v acc hacc)

/-- The fields under the keys, each found whatever the case of its letters. -/
def collectFields (metadata : Json) (keys : List String) (f : Json → σ → σ) (acc : σ) : σ :=
  keys.foldl (fun acc key =>
    match metadata.fieldCaseInsensitive key with
    | some value => f value acc
    | none => acc) acc

theorem foldlFields_iff (find : String → Option Json) {f : Json → σ → σ} {Q : σ → Prop}
    {P : Json → Prop} (h : ∀ value acc, Q (f value acc) ↔ Q acc ∨ P value) (keys : List String)
    (acc : σ) :
    Q (keys.foldl (fun acc key =>
        match find key with
        | some value => f value acc
        | none => acc) acc) ↔
      Q acc ∨ ∃ key ∈ keys, ∃ value, find key = some value ∧ P value := by
  induction keys generalizing acc with
  | nil => simp
  | cons key rest ih =>
    rw [List.foldl_cons, ih]
    cases hfield : find key with
    | none => simp [hfield]
    | some value => simp [hfield, h, or_assoc]

theorem foldlFields_preserves (find : String → Option Json) {f : Json → σ → σ} {Q : σ → Prop}
    (h : ∀ value acc, Q acc → Q (f value acc)) (keys : List String) {acc : σ} (hacc : Q acc) :
    Q (keys.foldl (fun acc key =>
      match find key with
      | some value => f value acc
      | none => acc) acc) := by
  induction keys generalizing acc with
  | nil => exact hacc
  | cons key rest ih =>
    rw [List.foldl_cons]
    apply ih
    split
    · exact h _ _ hacc
    · exact hacc

theorem collectFields_iff (metadata : Json) {f : Json → σ → σ} {Q : σ → Prop} {P : Json → Prop}
    (h : ∀ value acc, Q (f value acc) ↔ Q acc ∨ P value) (keys : List String) (acc : σ) :
    Q (collectFields metadata keys f acc) ↔
      Q acc ∨ ∃ key ∈ keys, ∃ value, metadata.fieldCaseInsensitive key = some value ∧ P value :=
  foldlFields_iff metadata.fieldCaseInsensitive h keys acc

theorem collectFields_preserves {f : Json → σ → σ} {Q : σ → Prop}
    (h : ∀ value acc, Q acc → Q (f value acc)) (keys : List String) {acc : σ} (hacc : Q acc) :
    Q (collectFields metadata keys f acc) :=
  foldlFields_preserves metadata.fieldCaseInsensitive h keys hacc

end Collect

variable (floatText : UInt64 → String)

def nameText : Json → Option String
  | .string name => some name
  | .number name => some (toString name)
  | .float bits => some (floatText bits)
  | .object fields => ((Json.object fields).get "Name").bind asStr
  | _ => none

def insertMetadataValue (value : String) (values : BTreeMap String String) :
    BTreeMap String String :=
  let value := trim value
  if value = "" then values else values.orInsert (toAsciiLowercase value) value

def collectMetadataValue : Json → BTreeMap String String → BTreeMap String String :=
  collect fun value values =>
    match nameText floatText value with
    | some name => insertMetadataValue name values
    | none => values

def metadataValues (metadata : Json) (keys : List String) : BTreeMap String String :=
  collectFields metadata keys (collectMetadataValue floatText) ∅

def metadataValuesFromJson (metadata : Json) (keys : List String) : List String :=
  (metadataValues floatText metadata keys).values

def firstMetadataValueFromJson (metadata : Json) (keys : List String) : Option String :=
  (metadataValuesFromJson floatText metadata keys).head?

def metadataMatchesValues (metadata : Json) (keys : List String) (expected : List String) : Bool :=
  expected.isEmpty ||
    (metadataValuesFromJson floatText metadata keys).any fun value =>
      expected.contains (toAsciiLowercase value)

/-! Which values there are. -/

def HasName (metadata : Json) (keys : List String) (name : String) : Prop :=
  ∃ key ∈ keys, ∃ value, metadata.fieldCaseInsensitive key = some value ∧
    ∃ leaf ∈ leaves value, ∃ text, nameText floatText leaf = some text ∧
      trim text ≠ "" ∧ trim text = name

variable {floatText}

theorem mem_insertMetadataValue {values : BTreeMap String String} {value k : String} :
    k ∈ insertMetadataValue value values ↔
      k ∈ values ∨ trim value ≠ "" ∧ toAsciiLowercase (trim value) = k := by
  simp only [insertMetadataValue]
  split
  · rename_i hblank
    simp [hblank]
  · rename_i hvalue
    rw [BTreeMap.mem_orInsert, eq_comm (a := k)]
    simp [hvalue]

theorem mem_collectMetadataValue (value : Json) (values : BTreeMap String String) (k : String) :
    k ∈ collectMetadataValue floatText value values ↔
      k ∈ values ∨ ∃ leaf ∈ leaves value, ∃ text, nameText floatText leaf = some text ∧
        trim text ≠ "" ∧ toAsciiLowercase (trim text) = k := by
  refine collect_iff (Q := fun values : BTreeMap String String => k ∈ values) ?_ value values
  intro leaf values
  cases hname : nameText floatText leaf with
  | none => simp
  | some text => simp [mem_insertMetadataValue]

theorem mem_metadataValues {keys : List String} {k : String} :
    k ∈ metadataValues floatText metadata keys ↔
      ∃ name, HasName floatText metadata keys name ∧ toAsciiLowercase name = k := by
  have hmem := collectFields_iff metadata (f := collectMetadataValue floatText)
    (Q := fun values : BTreeMap String String => k ∈ values)
    (fun value values => mem_collectMetadataValue value values k) keys ∅
  rw [metadataValues, hmem]
  constructor
  · rintro (hempty | ⟨key, hkey, value, hfield, leaf, hleaf, text, htext, hne, rfl⟩)
    · exact absurd hempty (AList.notMem_empty k)
    · exact ⟨_, ⟨key, hkey, value, hfield, leaf, hleaf, text, htext, hne, rfl⟩, rfl⟩
  · rintro ⟨name, ⟨key, hkey, value, hfield, leaf, hleaf, text, htext, hne, rfl⟩, rfl⟩
    exact .inr ⟨key, hkey, value, hfield, leaf, hleaf, text, htext, hne, rfl⟩

def Spells (values : BTreeMap String String) : Prop :=
  ∀ k name, values.lookup k = some name → toAsciiLowercase name = k ∧ trim name = name

theorem Spells.insertMetadataValue {values : BTreeMap String String} (h : Spells values)
    (value : String) : Spells (insertMetadataValue value values) := by
  intro k name hlookup
  simp only [Metadata.insertMetadataValue] at hlookup
  split at hlookup
  · exact h k name hlookup
  · obtain hold | ⟨rfl, rfl⟩ := BTreeMap.lookup_orInsert hlookup
    · exact h k name hold
    · exact ⟨rfl, trim_trim value⟩

theorem spells_metadataValues (metadata : Json) (keys : List String) :
    Spells (metadataValues floatText metadata keys) := by
  refine collectFields_preserves ?_ keys ?_
  · intro value values hvalues
    refine collect_preserves ?_ value hvalues
    intro leaf values hvalues
    split
    · exact hvalues.insertMetadataValue _
    · exact hvalues
  · intro k name hlookup
    rw [AList.lookup_empty] at hlookup
    cases hlookup

theorem exists_mem_metadataValuesFromJson {keys : List String} {k : String} :
    (∃ value ∈ metadataValuesFromJson floatText metadata keys, toAsciiLowercase value = k) ↔
      ∃ name, HasName floatText metadata keys name ∧ toAsciiLowercase name = k := by
  rw [← mem_metadataValues]
  constructor
  · rintro ⟨value, hvalue, rfl⟩
    obtain ⟨k, hk⟩ := BTreeMap.mem_values.mp hvalue
    rw [(spells_metadataValues metadata keys k value hk).1]
    exact HashMap.mem_of_lookup hk
  · intro hk
    obtain ⟨value, hvalue⟩ := HashMap.exists_lookup_of_mem hk
    exact ⟨value, BTreeMap.mem_values.mpr ⟨k, hvalue⟩,
      (spells_metadataValues metadata keys k value hvalue).1⟩

theorem trim_of_mem_metadataValuesFromJson {keys : List String} {value : String}
    (h : value ∈ metadataValuesFromJson floatText metadata keys) : trim value = value := by
  obtain ⟨k, hk⟩ := BTreeMap.mem_values.mp h
  exact (spells_metadataValues metadata keys k value hk).2

theorem firstMetadataValueFromJson_of_string {key text : String}
    (h : metadata.fieldCaseInsensitive key = some (.string text)) (htrim : trim text = text)
    (hne : text ≠ "") : firstMetadataValueFromJson floatText metadata [key] = some text := by
  obtain ⟨values, hvalues⟩ : ∃ values : BTreeMap String String,
      values = AList.insert (toAsciiLowercase text) text ∅ := ⟨_, rfl⟩
  have hmetadata : metadataValues floatText metadata [key] = values := by
    simp [metadataValues, collectFields, h, collectMetadataValue, collect, nameText,
      insertMetadataValue, htrim, hne, BTreeMap.orInsert, hvalues]
  have hkeys : values.keys = [toAsciiLowercase text] := by simp [hvalues]
  have hlookup : values.lookup (toAsciiLowercase text) = some text := by
    rw [hvalues, AList.lookup_insert]
  rw [firstMetadataValueFromJson, metadataValuesFromJson, hmetadata, BTreeMap.values, hkeys]
  simp [hlookup]

theorem metadataMatchesValues_iff {keys expected : List String} (h : expected ≠ []) :
    metadataMatchesValues floatText metadata keys expected = true ↔
      ∃ name, HasName floatText metadata keys name ∧ toAsciiLowercase name ∈ expected := by
  rw [metadataMatchesValues, List.isEmpty_eq_false_iff.mpr h, Bool.false_or, List.any_eq_true]
  constructor
  · rintro ⟨value, hvalue, hexpected⟩
    obtain ⟨name, hname, heq⟩ := exists_mem_metadataValuesFromJson.mp ⟨value, hvalue, rfl⟩
    exact ⟨name, hname, heq ▸ List.contains_iff_mem.mp hexpected⟩
  · rintro ⟨name, hname, hexpected⟩
    obtain ⟨value, hvalue, heq⟩ := exists_mem_metadataValuesFromJson.mpr ⟨name, hname, rfl⟩
    exact ⟨value, hvalue, List.contains_iff_mem.mpr (heq ▸ hexpected)⟩

end Jellyrin.Metadata
