import Jellyrin.Defs.Data.Json
import Jellyrin.Defs.Data.Text
import Mathlib.Algebra.Group.Int.Defs

/-! Fields of JSON objects as booleans, numbers and lists of texts. -/

namespace Jellyrin

namespace Text

def contains (s part : String) : Bool := s.toList.tails.any part.toList.isPrefixOf

theorem contains_self (s : String) : contains s s = true := by
  rw [contains]
  cases s.toList with
  | nil => rfl
  | cons c cs =>
    rw [List.tails, List.any_cons, List.isPrefixOf_iff_prefix.mpr (List.prefix_refl _), Bool.true_or]

def parseI64 (s : String) : Option Int :=
  match s.toList with
  | '-' :: digits =>
    if digits.isEmpty || !digits.all Char.isDigit then none
    else if Nat.ofDigitChars 10 digits 0 ≤ 2 ^ 63 then some (-(Nat.ofDigitChars 10 digits 0 : Int))
    else none
  | _ => (parseUnsigned (2 ^ 63 - 1) s).map Int.ofNat

end Text

namespace Json

open Ascii Text

def isNull : Json → Bool
  | .null => true
  | _ => false

def remove (value : Json) (field : String) : Json :=
  match value with
  | .object fields => .object (fields.filter fun entry => entry.1 ≠ field)
  | other => other

section Floats

variable (f : UInt64 → Json)

mutual

/-- A document with other values for its floats. -/
def mapFloats : Json → Json
  | .float bits => f bits
  | .array items => .array (mapFloatsItems items)
  | .object fields => .object (mapFloatsFields fields)
  | value => value

def mapFloatsItems : List Json → List Json
  | [] => []
  | item :: items => mapFloats item :: mapFloatsItems items

def mapFloatsFields : List (String × Json) → List (String × Json)
  | [] => []
  | (name, value) :: fields => (name, mapFloats value) :: mapFloatsFields fields

end

theorem mapFloatsFields_insertField (field : String) (value : Json) (fields : List (String × Json)) :
    mapFloatsFields f (insertField field value fields) =
      insertField field (value.mapFloats f) (mapFloatsFields f fields) := by
  induction fields with
  | nil => rfl
  | cons entry rest ih =>
    obtain ⟨other, old⟩ := entry
    simp only [insertField, mapFloatsFields]
    split
    · rfl
    · split
      · rfl
      · rw [mapFloatsFields, ih]

theorem mapFloats_set (value : Json) (field : String) (new : Json)
    (h : value.isObject = true) :
    (value.set field new).mapFloats f = (value.mapFloats f).set field (new.mapFloats f) := by
  cases value with
  | object fields => simp only [set, mapFloats, mapFloatsFields_insertField]
  | _ => cases h

mutual

theorem mapFloats_float : (value : Json) → value.mapFloats .float = value
  | .null | .bool _ | .number _ | .float _ | .string _ => rfl
  | .array items => by rw [mapFloats, mapFloatsItems_float items]
  | .object fields => by rw [mapFloats, mapFloatsFields_float fields]

theorem mapFloatsItems_float : (items : List Json) → mapFloatsItems .float items = items
  | [] => rfl
  | item :: items => by rw [mapFloatsItems, mapFloats_float item, mapFloatsItems_float items]

theorem mapFloatsFields_float :
    (fields : List (String × Json)) → mapFloatsFields .float fields = fields
  | [] => rfl
  | (name, value) :: fields => by
    rw [mapFloatsFields, mapFloats_float value, mapFloatsFields_float fields]

end

end Floats

def valueI64 : Json → Option Int
  | .number value => if -2 ^ 63 ≤ value ∧ value < 2 ^ 63 then some value else none
  | .string text => parseI64 text
  | _ => none

def asI64 : Json → Option Int
  | .number value => if -2 ^ 63 ≤ value ∧ value < 2 ^ 63 then some value else none
  | _ => none

def i64Field (value : Json) (field : String) : Option Int :=
  (value.fieldCaseInsensitive field).bind valueI64

/-- `json_bool_field`: a field of that name that is no boolean is passed over. -/
def boolField (value : Json) (field : String) : Option Bool :=
  value.asObject.bind fun fields => fields.findSome? fun entry =>
    if eqIgnoreAsciiCase entry.1 field then entry.2.asBool else none

def commaDelimitedValues (value : String) : List String :=
  ((split ',' value).map trim).filter (· ≠ "")

def stringListField (value : Json) (field : String) : Option (List String) :=
  match value.fieldCaseInsensitive field with
  | some (.array items) => some (((items.filterMap asStr).map trim).filter (· ≠ ""))
  | some (.string text) => some (commaDelimitedValues text)
  | _ => none

def stringAnyField (value : Json) (fields : List String) : Option String :=
  fields.findSome? fun field => (((value.get field).bind asStr).map trim).filter (· ≠ "")

theorem trim_stringField {value : Json} {field text : String}
    (h : value.stringField field = some text) : trim text = text ∧ text ≠ "" := by
  rw [stringField] at h
  split at h
  · split at h
    · cases h
    · rename_i hne
      cases h
      exact ⟨trim_trim _, hne⟩
  · cases h

def stringFields (value : Json) (fields : List String) : List String :=
  fields.filterMap value.stringField

/-! The values in a value. -/

inductive Holds : Json → Json → Prop
  | self (value : Json) : Holds value value
  | item {items : List Json} {value part : Json} :
      value ∈ items → Holds value part → Holds (.array items) part
  | field {fields : List (String × Json)} {entry : String × Json} {part : Json} :
      entry ∈ fields → Holds entry.2 part → Holds (.object fields) part

theorem Holds.trans {whole value part : Json} (h : Holds whole value) (hpart : Holds value part) :
    Holds whole part := by
  induction h with
  | self => exact hpart
  | item hmem _ ih => exact .item hmem (ih hpart)
  | field hmem _ ih => exact .field hmem (ih hpart)

def HoldsLoose (value : Json) (text : String) : Prop :=
  value = .string text ∨ ∃ items, Holds value (.array items) ∧ .string text ∈ items

theorem holds_string {value : Json} {text : String} (h : Holds value (.string text)) :
    HoldsLoose value text ∨
      ∃ fields, Holds value (.object fields) ∧ ∃ key, (key, .string text) ∈ fields := by
  generalize hpart : Json.string text = part at h
  induction h with
  | self => exact .inl (.inl hpart.symm)
  | @item items value part hmem hvalue ih =>
    obtain (rfl | ⟨inner, hinner, htext⟩) | ⟨fields, hfields, hkey⟩ := ih hpart
    · exact .inl (.inr ⟨items, .self _, hmem⟩)
    · exact .inl (.inr ⟨inner, .item hmem hinner, htext⟩)
    · exact .inr ⟨fields, .item hmem hfields, hkey⟩
  | @field fields entry part hmem hvalue ih =>
    obtain (hstring | ⟨inner, hinner, htext⟩) | ⟨inner, hinner, hkey⟩ := ih hpart
    · exact .inr ⟨fields, .self _, entry.1, by rwa [← hpart, ← hstring]⟩
    · exact .inl (.inr ⟨inner, .field hmem hinner, htext⟩)
    · exact .inr ⟨inner, .field hmem hinner, hkey⟩

end Json

/-! A name that is not in a list. -/

open Ascii

def unusedName (names : List String) : String :=
  String.ofList (List.replicate ((names.map String.toList).flatten.length + 1) 'x')

theorem not_any_unusedName (names : List String) :
    names.any (eqIgnoreAsciiCase · (unusedName names)) = false := by
  rw [List.any_eq_false]
  intro name hname hmatch
  have hlists : name.toList.map Char.toLower =
    (unusedName names).toList.map Char.toLower := of_decide_eq_true hmatch
  have hlength := congrArg List.length hlists
  rw [List.length_map, List.length_map, unusedName, String.toList_ofList,
    List.length_replicate] at hlength
  have hle := (List.sublist_flatten_of_mem
    (List.mem_map_of_mem (f := String.toList) hname)).length_le
  omega

theorem trim_unusedName (names : List String) : Json.trim (unusedName names) = unusedName names := by
  refine Json.trim_of_forall fun c hc => ?_
  rw [unusedName, String.toList_ofList] at hc
  rw [List.eq_of_mem_replicate hc]
  decide

theorem unusedName_ne_empty (names : List String) : unusedName names ≠ "" := by
  intro hempty
  have hlist := congrArg String.toList hempty
  simp [unusedName] at hlist

end Jellyrin
