import Jellyrin.Defs.Data.Ascii
import Mathlib.Data.List.DropRight
import Mathlib.Data.String.Basic

namespace Jellyrin

/-- `serde_json::Value`.  The fields of an object are kept in the order of their names, and a
number with a fraction or an exponent by the bits of its `f64`. -/
inductive Json where
  | null
  | bool (value : Bool)
  | number (value : Int)
  | float (bits : UInt64)
  | string (value : String)
  | array (items : List Json)
  | object (fields : List (String × Json))

namespace Json

open Ascii

mutual

def beq : Json → Json → Bool
  | .null, .null => true
  | .bool a, .bool b => a == b
  | .number a, .number b => a == b
  | .float a, .float b => a == b
  | .string a, .string b => a == b
  | .array as, .array bs => beqItems as bs
  | .object as, .object bs => beqFields as bs
  | _, _ => false

def beqItems : List Json → List Json → Bool
  | [], [] => true
  | a :: as, b :: bs => a.beq b && beqItems as bs
  | _, _ => false

def beqFields : List (String × Json) → List (String × Json) → Bool
  | [], [] => true
  | (field, a) :: as, (other, b) :: bs => field == other && a.beq b && beqFields as bs
  | _, _ => false

end

mutual

theorem beq_iff : (a b : Json) → (a.beq b = true ↔ a = b)
  | .null, b => by cases b <;> simp [beq]
  | .bool _, b => by cases b <;> simp [beq]
  | .number _, b => by cases b <;> simp [beq]
  | .float _, b => by cases b <;> simp [beq]
  | .string _, b => by cases b <;> simp [beq]
  | .array as, b => by cases b <;> simp [beq, beqItems_iff as]
  | .object as, b => by cases b <;> simp [beq, beqFields_iff as]

theorem beqItems_iff : (as bs : List Json) → (beqItems as bs = true ↔ as = bs)
  | [], bs => by cases bs <;> simp [beqItems]
  | a :: as, bs => by cases bs <;> simp [beqItems, beq_iff a, beqItems_iff as]

theorem beqFields_iff : (as bs : List (String × Json)) → (beqFields as bs = true ↔ as = bs)
  | [], bs => by cases bs <;> simp [beqFields]
  | (_, a) :: as, bs => by
    cases bs <;> simp [beqFields, beq_iff a, beqFields_iff as, Prod.ext_iff]

end

instance : DecidableEq Json := fun a b => decidable_of_iff _ (beq_iff a b)

def isObject : Json → Bool
  | .object _ => true
  | _ => false

def asArray : Json → Option (List Json)
  | .array items => some items
  | _ => none

def asStr : Json → Option String
  | .string value => some value
  | _ => none

def asBool : Json → Option Bool
  | .bool value => some value
  | _ => none

def asObject : Json → Option (List (String × Json))
  | .object fields => some fields
  | _ => none

def get (value : Json) (field : String) : Option Json :=
  value.asObject.bind fun fields => (fields.find? fun entry => entry.1 == field).map Prod.snd

def insertField (field : String) (value : Json) : List (String × Json) → List (String × Json)
  | [] => [(field, value)]
  | (other, old) :: rest =>
    if other = field then (field, value) :: rest
    else if field < other then (field, value) :: (other, old) :: rest
    else (other, old) :: insertField field value rest

def set (value : Json) (field : String) (new : Json) : Json :=
  match value with
  | .object fields => .object (insertField field new fields)
  | other => other

def ofFields (fields : List (String × Json)) : Json :=
  fields.foldl (fun value entry => value.set entry.1 entry.2) (.object [])

def isWhitespace (c : Char) : Bool :=
  let code := c.toNat
  (9 ≤ code && code ≤ 13) || code == 0x20 || code == 0x85 || code == 0xA0 || code == 0x1680 ||
    (0x2000 ≤ code && code ≤ 0x200A) || code == 0x2028 || code == 0x2029 || code == 0x202F ||
    code == 0x205F || code == 0x3000

def trim (value : String) : String :=
  String.ofList
    (((value.toList.dropWhile isWhitespace).reverse.dropWhile isWhitespace).reverse)

theorem trim_trim (value : String) : trim (trim value) = trim value := by
  have hhead : ((value.toList.dropWhile isWhitespace).rdropWhile isWhitespace).dropWhile
      isWhitespace = (value.toList.dropWhile isWhitespace).rdropWhile isWhitespace := by
    rw [List.dropWhile_eq_self_iff]
    intro hlen
    have hkept := List.rdropWhile_prefix (l := value.toList.dropWhile isWhitespace)
      (p := isWhitespace)
    rw [hkept.getElem hlen]
    have hfirst := List.dropWhile_get_zero_not isWhitespace value.toList
      (hlen.trans_le hkept.length_le)
    simpa using hfirst
  have htrim : ∀ s : String, trim s =
      String.ofList ((s.toList.dropWhile isWhitespace).rdropWhile isWhitespace) := fun _ => rfl
  rw [htrim, htrim, String.toList_ofList, hhead, List.rdropWhile_idempotent]

theorem trim_of_forall {s : String} (h : ∀ c ∈ s.toList, isWhitespace c = false) : trim s = s := by
  have hdrop : ∀ l : List Char, (∀ c ∈ l, isWhitespace c = false) →
      l.dropWhile isWhitespace = l := by
    intro l hl
    rw [List.dropWhile_eq_self_iff]
    intro hlen
    simp [hl _ (List.getElem_mem hlen)]
  rw [trim, hdrop _ h, hdrop _ (by simpa using h), List.reverse_reverse, String.ofList_toList]

@[simp] theorem isWhitespace_toLower (c : Char) : isWhitespace c.toLower = isWhitespace c := by
  by_cases h : 'A'.val ≤ c.val ∧ c.val ≤ 'Z'.val
  · have hupper : 65 ≤ c.toNat ∧ c.toNat ≤ 90 := h
    have hlower := toNat_toLower h
    simp only [isWhitespace, hlower]
    grind
  · rw [toLower_eq_self h]

theorem trim_toAsciiLowercase (s : String) :
    trim (toAsciiLowercase s) = toAsciiLowercase (trim s) := by
  have hblank : isWhitespace ∘ Char.toLower = isWhitespace := funext isWhitespace_toLower
  simp only [trim, toAsciiLowercase, String.toList_ofList, List.dropWhile_map, hblank,
    ← List.map_reverse]

theorem mem_of_mem_trim {s : String} {c : Char} (h : c ∈ (trim s).toList) : c ∈ s.toList := by
  rw [trim, String.toList_ofList, List.mem_reverse] at h
  have hmem := (List.dropWhile_suffix _).mem h
  exact (List.dropWhile_suffix _).mem (List.mem_reverse.mp hmem)

def fieldCaseInsensitive (value : Json) (field : String) : Option Json :=
  value.asObject.bind fun fields =>
    (fields.find? fun entry => eqIgnoreAsciiCase entry.1 field).map Prod.snd

def stringField (value : Json) (field : String) : Option String :=
  match value.fieldCaseInsensitive field with
  | some (.string text) => if trim text = "" then none else some (trim text)
  | _ => none

theorem find?_insertField_self (field : String) (new : Json) (fields : List (String × Json)) :
    (insertField field new fields).find? (fun entry => entry.1 == field) = some (field, new) := by
  induction fields with
  | nil => simp [insertField]
  | cons entry rest ih =>
    obtain ⟨name, old⟩ := entry
    simp only [insertField]
    split
    · simp
    · rename_i hname
      split
      · simp
      · rw [List.find?_cons_of_neg (by simpa using hname), ih]

theorem get_set {value : Json} (h : value.isObject = true) (field : String) (new : Json) :
    (value.set field new).get field = some new := by
  cases value with
  | object fields =>
    simp only [get, set, asObject, Option.bind_some, find?_insertField_self, Option.map_some]
  | _ => cases h

theorem isObject_set (value new : Json) (field : String) :
    (value.set field new).isObject = value.isObject := by
  cases value <;> rfl

theorem isObject_of_stringField {value : Json} {field text : String}
    (h : value.stringField field = some text) : value.isObject = true := by
  cases value with
  | object fields => rfl
  | _ => cases h

theorem find?_insertField {p : String → Bool} {field : String} (new : Json)
    (h : p field = false) (fields : List (String × Json)) :
    (insertField field new fields).find? (fun entry => p entry.1) =
      fields.find? fun entry => p entry.1 := by
  induction fields with
  | nil => simp [insertField, h]
  | cons entry rest ih =>
    obtain ⟨name, old⟩ := entry
    simp only [insertField]
    split
    · rename_i hname
      simp [hname, h]
    · split
      · simp [List.find?_cons, h]
      · simp only [List.find?_cons, ih]

theorem get_set_of_ne (value new : Json) {field other : String} (h : field ≠ other) :
    (value.set field new).get other = value.get other := by
  cases value with
  | object fields =>
    have hfind := find?_insertField (p := fun name => name == other) new (by simpa using h) fields
    simp only [get, set, asObject, Option.bind_some, hfind]
  | _ => rfl

theorem stringField_set (value new : Json) {field other : String}
    (h : eqIgnoreAsciiCase field other = false) :
    (value.set field new).stringField other = value.stringField other := by
  cases value with
  | object fields =>
    have hfind := find?_insertField (p := fun name => eqIgnoreAsciiCase name other) new h fields
    simp only [stringField, fieldCaseInsensitive, set, asObject, Option.bind_some, hfind]
  | _ => rfl

/-! Fields that have one spelling. -/

theorem mem_insertField {field : String} {new : Json} {fields : List (String × Json)}
    {entry : String × Json} (h : entry ∈ insertField field new fields) :
    entry = (field, new) ∨ entry ∈ fields := by
  induction fields with
  | nil => exact .inl (List.mem_singleton.mp h)
  | cons first rest ih =>
    obtain ⟨name, old⟩ := first
    simp only [insertField] at h
    split at h
    · exact (List.mem_cons.mp h).imp_right (List.mem_cons_of_mem _)
    · split at h
      · exact List.mem_cons.mp h
      · obtain rfl | hrest := List.mem_cons.mp h
        · exact .inr List.mem_cons_self
        · exact (ih hrest).imp_right (List.mem_cons_of_mem _)

def HasSpelling (value : Json) (field : String) : Prop :=
  ∀ fields, value.asObject = some fields → ∀ entry ∈ fields,
    eqIgnoreAsciiCase entry.1 field = true → entry.1 = field

theorem HasSpelling.set {value : Json} {field : String} (h : value.HasSpelling field)
    (new : Json) {other : String} (hother : eqIgnoreAsciiCase other field = false) :
    (value.set other new).HasSpelling field := by
  intro fields hfields entry hentry hname
  cases value with
  | object old =>
    cases hfields
    obtain rfl | hold := mem_insertField hentry
    · rw [hother] at hname
      cases hname
    · exact h old rfl entry hold hname
  | _ => cases hfields

theorem find?_insertField_of_spelling {field : String} (new : Json)
    {fields : List (String × Json)}
    (h : ∀ entry ∈ fields, eqIgnoreAsciiCase entry.1 field = true → entry.1 = field) :
    (insertField field new fields).find? (fun entry => eqIgnoreAsciiCase entry.1 field) =
      some (field, new) := by
  induction fields with
  | nil => simp [insertField]
  | cons entry rest ih =>
    obtain ⟨name, old⟩ := entry
    simp only [insertField]
    split
    · simp
    · rename_i hname
      split
      · simp
      · have hskip : eqIgnoreAsciiCase name field = false := by
          rw [Bool.eq_false_iff]
          exact fun heq => hname (h _ List.mem_cons_self heq)
        rw [List.find?_cons_of_neg (by simpa using hskip)]
        exact ih fun other hother => h other (List.mem_cons_of_mem _ hother)

theorem stringField_set_self {value : Json} {field text : String} (hobject : value.isObject = true)
    (h : value.HasSpelling field) :
    (value.set field (.string text)).stringField field =
      if trim text = "" then none else some (trim text) := by
  cases value with
  | object fields =>
    simp only [stringField, fieldCaseInsensitive, set, asObject, Option.bind_some,
      find?_insertField_of_spelling _ (h fields rfl), Option.map_some]
  | _ => cases hobject

end Json

end Jellyrin
