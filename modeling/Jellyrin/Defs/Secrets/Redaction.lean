import Jellyrin.Defs.Data.JsonMap
import Jellyrin.Defs.Secrets.References
import Jellyrin.Defs.Secrets.Vault

/-! Configurations of providers without their credentials, and with them again. -/

namespace Jellyrin.Secrets

open Ascii Json

def credentialMask : String := "********"

def isUsernameField (key : String) : Bool :=
  eqIgnoreAsciiCase key "Username" || eqIgnoreAsciiCase key "UserName"

def isPasswordField (key : String) : Bool := eqIgnoreAsciiCase key "Password"

def isCredentialField (key : String) : Bool := isUsernameField key || isPasswordField key

def usernameOf (entry : String × Json) : Option String :=
  if isUsernameField entry.1 then
    (entry.2.asStr.map trim).filter fun value => value ≠ "" && value ≠ credentialMask
  else none

def passwordOf (entry : String × Json) : Option String :=
  if isPasswordField entry.1 then
    entry.2.asStr.filter fun value => value ≠ "" && value ≠ credentialMask
  else none

def providerCredentialsFromConfiguration (configuration : Json) :
    Option (Option String × Option String) :=
  match configuration.asObject with
  | none => none
  | some fields =>
    let username := fields.findSome? usernameOf
    let password := fields.findSome? passwordOf
    if username.isNone && password.isNone then none else some (username, password)

mutual

def zeroizeJsonStrings : Json → Json
  | .string _ => .string ""
  | .array values => .array (zeroizeItems values)
  | .object values => .object (zeroizeFields values)
  | value => value

def zeroizeItems : List Json → List Json
  | [] => []
  | value :: values => zeroizeJsonStrings value :: zeroizeItems values

def zeroizeFields : List (String × Json) → List (String × Json)
  | [] => []
  | (key, value) :: values => (key, zeroizeJsonStrings value) :: zeroizeFields values

end

def zeroizeProviderCredentialFields (fields : List (String × Json)) : List (String × Json) :=
  fields.map fun entry =>
    if isCredentialField entry.1 then (entry.1, zeroizeJsonStrings entry.2) else entry

def ProviderSecretReference.toJson (reference : ProviderSecretReference) : Json :=
  ofFields
    [("Id", .string reference.id), ("Provider", .string reference.providerType),
      ("Revision", .number reference.revision)]

def redactedProviderConfiguration (configuration : Json) (reference : ProviderSecretReference) :
    Except String Json := do
  let fields ← context "provider configuration must be an object" configuration.asObject
  let fields := zeroizeProviderCredentialFields fields
  let fields := fields.filter fun entry => !isCredentialField entry.1
  let fields := insertField providerSecretReferenceField reference.toJson fields
  let fields := insertField "CredentialsConfigured" (.bool true) fields
  let fields := insertField "JellyrinConfigurationRevision"
    (.string ("provider-secret:" ++ reference.id ++ ":" ++ toString reference.revision)) fields
  .ok (.object fields)

def resolvedProviderConfiguration (configuration : Json) (reference : ProviderSecretReference)
    (credentials : ProviderCredentials) : Except String Json := do
  let configuration ← redactedProviderConfiguration configuration reference
  let fields ← context "provider configuration must be an object" configuration.asObject
  let fields := insertField "Username" (.string credentials.username) fields
  let fields := insertField "Password" (.string credentials.password) fields
  .ok (.object fields)

/-! A redacted configuration tells nothing of its credentials, and a resolved one gives them back. -/

variable {fields other : List (String × Json)} {reference : ProviderSecretReference}
  {credentials : ProviderCredentials}

def managedFields : List String :=
  [providerSecretReferenceField, "CredentialsConfigured", "JellyrinConfigurationRevision"]

def redactedFields (fields : List (String × Json)) (reference : ProviderSecretReference) :
    List (String × Json) :=
  insertField "JellyrinConfigurationRevision"
    (.string ("provider-secret:" ++ reference.id ++ ":" ++ toString reference.revision))
    (insertField "CredentialsConfigured" (.bool true)
      (insertField providerSecretReferenceField reference.toJson
        (fields.filter fun entry => !isCredentialField entry.1)))

theorem filter_zeroizeProviderCredentialFields (fields : List (String × Json)) :
    ((zeroizeProviderCredentialFields fields).filter fun entry => !isCredentialField entry.1) =
      fields.filter fun entry => !isCredentialField entry.1 := by
  induction fields with
  | nil => rfl
  | cons entry fields ih =>
    rw [zeroizeProviderCredentialFields] at ih ⊢
    rw [List.map_cons]
    by_cases h : isCredentialField entry.1 = true
    · rw [if_pos h, List.filter_cons_of_neg (by simp [h]), List.filter_cons_of_neg (by simp [h]), ih]
    · rw [if_neg h, List.filter_cons_of_pos (by simpa using h),
        List.filter_cons_of_pos (by simpa using h), ih]

theorem redactedProviderConfiguration_eq (fields : List (String × Json))
    (reference : ProviderSecretReference) :
    redactedProviderConfiguration (.object fields) reference =
      .ok (.object (redactedFields fields reference)) := by
  rw [redactedFields, ← filter_zeroizeProviderCredentialFields]
  rfl

theorem isMap_redactedFields (h : IsMap fields) : IsMap (redactedFields fields reference) :=
  (h.filter _).insertField.insertField.insertField

theorem get_redactedFields {name : String} (h : name ∉ managedFields) :
    (Json.object (redactedFields fields reference)).get name =
      if isCredentialField name then none else (Json.object fields).get name := by
  simp only [managedFields, List.mem_cons, List.not_mem_nil, or_false, not_or] at h
  rw [redactedFields, get_insertField, if_neg h.2.2, get_insertField, if_neg h.2.1,
    get_insertField, if_neg h.1, get_filter fun name => !isCredentialField name]
  cases isCredentialField name <;> rfl

theorem get_redactedFields_managed {name : String} (h : name ∈ managedFields) :
    (Json.object (redactedFields fields reference)).get name =
      (Json.object (redactedFields other reference)).get name := by
  simp only [redactedFields, get_insertField]
  simp only [managedFields, List.mem_cons, List.not_mem_nil, or_false] at h
  obtain rfl | rfl | rfl := h <;> simp

theorem redactedFields_congr (h : IsMap fields) (hother : IsMap other)
    (hget : ∀ name, isCredentialField name = false →
      (Json.object fields).get name = (Json.object other).get name) :
    redactedFields fields reference = redactedFields other reference := by
  apply (isMap_redactedFields h).ext (isMap_redactedFields hother)
  intro name
  by_cases hmanaged : name ∈ managedFields
  · exact get_redactedFields_managed hmanaged
  · rw [get_redactedFields hmanaged, get_redactedFields hmanaged]
    cases hcredential : isCredentialField name with
    | true => rfl
    | false => exact hget name hcredential

theorem redactedFields_redactedFields (h : IsMap fields) :
    redactedFields (redactedFields fields reference) reference = redactedFields fields reference := by
  apply (isMap_redactedFields (isMap_redactedFields h)).ext (isMap_redactedFields h)
  intro name
  by_cases hmanaged : name ∈ managedFields
  · exact get_redactedFields_managed hmanaged
  · rw [get_redactedFields hmanaged, get_redactedFields hmanaged]
    cases isCredentialField name <;> rfl

/-! The credentials of a resolved configuration. -/

def resolvedFields (fields : List (String × Json)) (reference : ProviderSecretReference)
    (credentials : ProviderCredentials) : List (String × Json) :=
  insertField "Password" (.string credentials.password)
    (insertField "Username" (.string credentials.username) (redactedFields fields reference))

theorem resolvedProviderConfiguration_eq (fields : List (String × Json))
    (reference : ProviderSecretReference) (credentials : ProviderCredentials) :
    resolvedProviderConfiguration (.object fields) reference credentials =
      .ok (.object (resolvedFields fields reference credentials)) := by
  rw [resolvedProviderConfiguration, redactedProviderConfiguration_eq]
  rfl

theorem not_isCredentialField_of_managed {name : String} (h : name ∈ managedFields) :
    isCredentialField name = false := by
  have hall : ∀ name ∈ managedFields, isCredentialField name = false := by decide
  exact hall name h

theorem isCredentialField_of_mem_redactedFields {entry : String × Json}
    (h : entry ∈ redactedFields fields reference) : isCredentialField entry.1 = false := by
  obtain rfl | h := mem_insertField h
  · exact not_isCredentialField_of_managed (by simp [managedFields])
  obtain rfl | h := mem_insertField h
  · exact not_isCredentialField_of_managed (by simp [managedFields])
  obtain rfl | h := mem_insertField h
  · exact not_isCredentialField_of_managed (by simp [managedFields])
  · simpa using (List.mem_filter.mp h).2

theorem mem_resolvedFields {entry : String × Json}
    (h : entry ∈ resolvedFields fields reference credentials) :
    entry = ("Password", .string credentials.password) ∨
      entry = ("Username", .string credentials.username) ∨ isCredentialField entry.1 = false := by
  obtain rfl | h := mem_insertField h
  · exact .inl rfl
  obtain rfl | h := mem_insertField h
  · exact .inr (.inl rfl)
  · exact .inr (.inr (isCredentialField_of_mem_redactedFields h))

theorem findSome?_usernameOf :
    (resolvedFields fields reference credentials).findSome? usernameOf =
      if trim credentials.username = credentialMask then none
      else some (trim credentials.username) := by
  have hmem : ("Username", Json.string credentials.username) ∈
      resolvedFields fields reference credentials :=
    mem_of_get (by
      rw [resolvedFields, get_insertField, if_neg (by decide), get_insertField, if_pos rfl])
  rw [findSome?_eq_of_unique hmem]
  · have hfield : isUsernameField "Username" = true := by decide
    by_cases hmask : trim credentials.username = credentialMask <;>
      simp [usernameOf, hfield, asStr, hmask, credentials.hasUsername]
  · intro entry hentry
    obtain rfl | rfl | hcredential := mem_resolvedFields hentry
    · have hfield : isUsernameField "Password" = false := by decide
      exact .inr (by simp [usernameOf, hfield])
    · exact .inl rfl
    · rw [isCredentialField, Bool.or_eq_false_iff] at hcredential
      exact .inr (by simp [usernameOf, hcredential.1])

theorem findSome?_passwordOf :
    (resolvedFields fields reference credentials).findSome? passwordOf =
      if credentials.password = credentialMask then none else some credentials.password := by
  have hmem : ("Password", Json.string credentials.password) ∈
      resolvedFields fields reference credentials :=
    mem_of_get (by rw [resolvedFields, get_insertField, if_pos rfl])
  rw [findSome?_eq_of_unique hmem]
  · have hfield : isPasswordField "Password" = true := by decide
    by_cases hmask : credentials.password = credentialMask <;>
      simp [passwordOf, hfield, asStr, hmask, credentials.hasPassword]
  · intro entry hentry
    obtain rfl | rfl | hcredential := mem_resolvedFields hentry
    · exact .inl rfl
    · have hfield : isPasswordField "Username" = false := by decide
      exact .inr (by simp [passwordOf, hfield])
    · rw [isCredentialField, Bool.or_eq_false_iff] at hcredential
      exact .inr (by simp [passwordOf, hcredential.2])

theorem providerCredentialsFromConfiguration_resolved :
    providerCredentialsFromConfiguration (.object (resolvedFields fields reference credentials)) =
        some (some (trim credentials.username), some credentials.password) ↔
      trim credentials.username ≠ credentialMask ∧ credentials.password ≠ credentialMask := by
  simp only [providerCredentialsFromConfiguration, asObject, findSome?_usernameOf,
    findSome?_passwordOf]
  by_cases husername : trim credentials.username = credentialMask <;>
    by_cases hpassword : credentials.password = credentialMask <;> simp [husername, hpassword]

/-- Redaction forgets the credentials and nothing else, and credentials other than the mask are
read back from a resolved configuration. -/
theorem redacted_and_resolved (fields : List (String × Json)) (h : IsMap fields)
    (reference : ProviderSecretReference) (credentials : ProviderCredentials) :
    (∀ other, IsMap other →
        (∀ name, isCredentialField name = false →
          (Json.object fields).get name = (Json.object other).get name) →
        redactedProviderConfiguration (.object fields) reference =
          redactedProviderConfiguration (.object other) reference) ∧
      (∃ redacted, redactedProviderConfiguration (.object fields) reference = .ok redacted ∧
        (∀ name, isCredentialField name = false → name ∉ managedFields →
          redacted.get name = (Json.object fields).get name) ∧
        redactedProviderConfiguration redacted reference = .ok redacted) ∧
      ∃ resolved, resolvedProviderConfiguration (.object fields) reference credentials =
          .ok resolved ∧
        (providerCredentialsFromConfiguration resolved =
            some (some (trim credentials.username), some credentials.password) ↔
          trim credentials.username ≠ credentialMask ∧ credentials.password ≠ credentialMask) := by
  refine ⟨?_, ⟨_, redactedProviderConfiguration_eq fields reference, ?_, ?_⟩,
    ⟨_, resolvedProviderConfiguration_eq fields reference credentials,
      providerCredentialsFromConfiguration_resolved⟩⟩
  · intro other hother hget
    rw [redactedProviderConfiguration_eq, redactedProviderConfiguration_eq,
      redactedFields_congr h hother hget]
  · intro name hcredential hmanaged
    rw [get_redactedFields hmanaged, hcredential, if_neg Bool.false_ne_true]
  · rw [redactedProviderConfiguration_eq, redactedFields_redactedFields h]

def spelledFields : List (String × Json) :=
  [("PASSWORD", .string "old"), ("Url", .string "https://provider.example"),
    ("UserName", .string "alice"), ("username", .string "bob")]

def primaryReference : ProviderSecretReference := ⟨"ps_test", "xtream", 1⟩

theorem spelled_configuration_resolved :
    ∃ resolved, resolvedProviderConfiguration (.object spelledFields) primaryReference
        aliceCredentials = .ok resolved ∧
      providerCredentialsFromConfiguration resolved = some (some "alice", some "secret") := by
  obtain ⟨-, -, resolved, hresolved, hextracted⟩ := redacted_and_resolved spelledFields
    (by decide) primaryReference aliceCredentials
  exact ⟨resolved, hresolved, hextracted.mpr (by decide)⟩

theorem mask_ne_empty : "********" ≠ "" := by decide

theorem mask_bounded :
    "alice".utf8ByteSize + "********".utf8ByteSize ≤ providerSecretMaxPlaintextBytes := by
  decide

def maskedCredentials : ProviderCredentials where
  username := "alice"
  password := "********"
  hasUsername := aliceCredentials.hasUsername
  hasPassword := mask_ne_empty
  bounded := mask_bounded

theorem masked_password_is_lost :
    ∃ resolved, ProviderCredentials.new "alice" "********" = .ok maskedCredentials ∧
      resolvedProviderConfiguration (.object spelledFields) primaryReference maskedCredentials =
        .ok resolved ∧
      providerCredentialsFromConfiguration resolved = some (some "alice", none) :=
  ⟨_, rfl, resolvedProviderConfiguration_eq _ _ _, by decide⟩

end Jellyrin.Secrets
