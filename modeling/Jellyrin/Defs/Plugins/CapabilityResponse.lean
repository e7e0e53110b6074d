import Jellyrin.Defs.Data.JsonMap

/-! What the response of a plugin becomes for its host. -/

namespace Jellyrin.Plugins

open Json

structure CapabilityResponse where
  status : String
  capability : Option String
  result : Option Json
  isMap : ∀ fields, result = some (.object fields) → IsMap fields

def CapabilityResponse.toValue (response : CapabilityResponse) : Json :=
  ofFields ([("Status", .string response.status)] ++
    response.capability.toList.map (fun capability => ("Capability", .string capability)) ++
    response.result.toList.map (fun result => ("Result", result)))

def removeField (field : String) (fields : List (String × Json)) : List (String × Json) :=
  fields.filter fun entry => decide (entry.1 ≠ field)

def flattenResultObject (object : List (String × Json)) : List (String × Json) :=
  match (Json.object object).get "Result" with
  | some (.object result) =>
    result.foldl (fun object entry => insertField entry.1 entry.2 object)
      (removeField "Result" object)
  | _ => removeField "Result" object

def CapabilityResponse.intoHostValue (response : CapabilityResponse) : Json :=
  match response.toValue with
  | .object fields => .object (flattenResultObject fields)
  | value => value

/-- The response keeps its own fields, and each member of an object result its key. -/
structure CapabilityResponse.KeptBy (response : CapabilityResponse) (host : Json) : Prop where
  status : host.get "Status" = some (.string response.status)
  capability : host.get "Capability" = response.capability.map .string
  member : ∀ fields, response.result = some (.object fields) →
    ∀ entry ∈ fields, host.get entry.1 = some entry.2
  result : ∀ result, response.result = some result → result.isObject = false →
    host.get "Result" = some result

/-- The result, if there is one, is an object and says nothing else about the response. -/
def CapabilityResponse.IsConsistent (response : CapabilityResponse) : Prop :=
  ∀ result, response.result = some result → result.isObject = true ∧
    (∀ value, result.get "Status" = some value → value = .string response.status) ∧
    ∀ value, result.get "Capability" = some value → response.capability.map .string = some value

/-! Members of maps. -/

variable {fields : List (String × Json)} {name : String}

theorem get_removeField (field : String) : (Json.object (removeField field fields)).get name =
    if name ≠ field then (Json.object fields).get name else none := by
  rw [removeField, get_filter fun name => decide (name ≠ field)]
  simp

theorem get_foldl_insertField (h : IsMap fields) (object : List (String × Json)) :
    (Json.object (fields.foldl (fun object entry => insertField entry.1 entry.2 object)
      object)).get name = ((Json.object fields).get name).or ((Json.object object).get name) := by
  induction fields generalizing object with
  | nil => simp [Json.get, asObject]
  | cons entry fields ih =>
    obtain ⟨hfirst, hrest⟩ := isMap_cons.mp h
    rw [List.foldl_cons, ih hrest, get_insertField, get_object_cons]
    by_cases hname : name = entry.1
    · have hlater : (Json.object fields).get name = none := by
        rw [Option.eq_none_iff_forall_ne_some]
        intro value hvalue
        exact (hfirst _ (mem_of_get hvalue)).ne hname.symm
      rw [hlater, if_pos hname, if_pos hname.symm, Option.none_or, Option.some_or]
    · rw [if_neg hname, if_neg (Ne.symm hname)]

theorem get_eq_none_of_not_object {value : Json} (h : value.isObject = false) :
    value.get name = none := by
  cases value with
  | object fields => cases h
  | _ => rfl

namespace CapabilityResponse

variable (response : CapabilityResponse)

theorem isObject_toValue : ∃ fields, response.toValue = .object fields := by
  obtain ⟨status, capability, result, -⟩ := response
  cases capability <;> cases result <;> exact ⟨_, rfl⟩

theorem get_toValue (name : String) : response.toValue.get name =
    if name = "Result" then response.result
    else if name = "Capability" then response.capability.map .string
    else if name = "Status" then some (.string response.status) else none := by
  obtain ⟨status, capability, result, -⟩ := response
  have hnone : ∀ name, (Json.object []).get name = none := fun _ => rfl
  cases capability <;> cases result <;>
    simp only [toValue, ofFields, Option.toList, List.map_cons, List.map_nil, List.append_nil,
      List.cons_append, List.nil_append, List.foldl_cons, List.foldl_nil, Json.set,
      get_insertField, hnone, Option.map_some, Option.map_none] <;>
    split_ifs <;> simp_all

theorem get_intoHostValue (name : String) : response.intoHostValue.get name =
    (response.result.bind fun result => result.get name).or
      (if name ≠ "Result" then response.toValue.get name else none) := by
  obtain ⟨fields, hfields⟩ := response.isObject_toValue
  have hresult := response.get_toValue "Result"
  rw [if_pos rfl, hfields] at hresult
  rw [intoHostValue, hfields]
  simp only [flattenResultObject, hresult]
  split
  · rename_i result heq
    rw [get_foldl_insertField (response.isMap _ heq), get_removeField, heq, Option.bind_some]
  · rename_i hother
    have hmember : (response.result.bind fun result => result.get name) = none := by
      cases hcases : response.result with
      | none => rfl
      | some result =>
        refine get_eq_none_of_not_object ?_
        cases result with
        | object fields => exact absurd hcases (hother fields)
        | _ => rfl
    rw [get_removeField, hmember, Option.none_or]

/-- The host gets all of the response if and only if the response is consistent. -/
theorem keptBy_intoHostValue_iff :
    response.KeptBy response.intoHostValue ↔ response.IsConsistent := by
  have hstatus : response.toValue.get "Status" = some (.string response.status) :=
    response.get_toValue "Status"
  have hcapability : response.toValue.get "Capability" = response.capability.map .string :=
    response.get_toValue "Capability"
  constructor
  · intro hkept result hresult
    have hobject : result.isObject = true := by
      rw [← Bool.not_eq_false]
      intro hother
      have hget := hkept.result result hresult hother
      rw [get_intoHostValue, hresult, Option.bind_some, if_neg (by simp), Option.or_none] at hget
      rw [get_eq_none_of_not_object hother] at hget
      cases hget
    refine ⟨hobject, fun value hvalue => ?_, fun value hvalue => ?_⟩
    · have hget := hkept.status
      rw [get_intoHostValue, hresult, Option.bind_some, hvalue, Option.some_or] at hget
      exact Option.some.inj hget
    · have hget := hkept.capability
      rw [get_intoHostValue, hresult, Option.bind_some, hvalue, Option.some_or] at hget
      exact hget.symm
  · intro hconsistent
    refine ⟨?_, ?_, ?_, ?_⟩
    · rw [get_intoHostValue, if_pos (by decide), hstatus]
      cases hvalue : response.result.bind fun result => result.get "Status" with
      | none => rfl
      | some value =>
        obtain ⟨result, hresult, hget⟩ := Option.bind_eq_some_iff.mp hvalue
        rw [(hconsistent result hresult).2.1 value hget, Option.some_or]
    · rw [get_intoHostValue, if_pos (by decide), hcapability]
      cases hvalue : response.result.bind fun result => result.get "Capability" with
      | none => rfl
      | some value =>
        obtain ⟨result, hresult, hget⟩ := Option.bind_eq_some_iff.mp hvalue
        rw [(hconsistent result hresult).2.2 value hget, Option.some_or]
    · intro fields hfields entry hentry
      rw [get_intoHostValue, hfields, Option.bind_some,
        (response.isMap fields hfields).get_eq_some_iff.mpr hentry, Option.some_or]
    · intro result hresult hother
      rw [(hconsistent result hresult).1] at hother
      cases hother

end CapabilityResponse

def listResponse : CapabilityResponse where
  status := "Executed"
  capability := some "ImportProvider"
  result := some (.array [.string "a"])
  isMap := fun _ h => nomatch h

def claimingResponse : CapabilityResponse where
  status := "NotSupported"
  capability := none
  result := some (.object [("Status", .string "Executed")])
  isMap := fun fields h => by
    cases h
    decide

/-- A list of results is lost, and a member of the name replaces the status. -/
theorem response_lost : ¬ listResponse.KeptBy listResponse.intoHostValue ∧
    ¬ claimingResponse.KeptBy claimingResponse.intoHostValue := by
  constructor
  · intro h
    exact absurd (h.result _ rfl rfl) (by decide)
  · intro h
    exact absurd h.status (by decide)

end Jellyrin.Plugins
