import Jellyrin.Defs.Data.JsonFields
import Mathlib.Algebra.Ring.Int.Defs
import Mathlib.Data.Finset.Insert

/-! References of stored configurations to the envelopes of the vault, and the deletion of the
envelopes that none of them names. -/

namespace Jellyrin.Secrets

open Ascii Json

def providerSecretReferenceField : String := "JellyrinProviderSecretRef"

structure ProviderSecretReference where
  id : String
  providerType : String
  revision : Int
  deriving DecidableEq

def ProviderSecretReference.fromJson (reference : Json) : Option ProviderSecretReference := do
  let id := trim (← (← reference.get "Id").asStr)
  let providerType := trim (← (← reference.get "Provider").asStr)
  let revision ← (← reference.get "Revision").asI64
  if id = "" ∨ providerType = "" ∨ revision ≤ 0 then none
  else some { id, providerType, revision }

def directlyReferencesEnvelope (reference : ProviderSecretReference) (key : String)
    (value : Json) : Bool :=
  eqIgnoreAsciiCase key providerSecretReferenceField &&
    ((value.get "Id").bind asStr).any (fun id => trim id == reference.id) &&
    ((value.get "Provider").bind asStr).any fun provider =>
      eqIgnoreAsciiCase (trim provider) reference.providerType

mutual

def configurationReferencesProviderSecret (reference : ProviderSecretReference) : Json → Bool
  | .array values => itemsReferenceProviderSecret reference values
  | .object fields =>
    fields.any (fun field => directlyReferencesEnvelope reference field.1 field.2) ||
      fieldsReferenceProviderSecret reference fields
  | _ => false

def itemsReferenceProviderSecret (reference : ProviderSecretReference) : List Json → Bool
  | [] => false
  | value :: values =>
    configurationReferencesProviderSecret reference value ||
      itemsReferenceProviderSecret reference values

def fieldsReferenceProviderSecret (reference : ProviderSecretReference) :
    List (String × Json) → Bool
  | [] => false
  | (_, value) :: fields =>
    configurationReferencesProviderSecret reference value ||
      fieldsReferenceProviderSecret reference fields

end

abbrev Identities := Finset (String × String)

def ProviderSecretReference.identity (reference : ProviderSecretReference) : String × String :=
  (reference.id, toAsciiLowercase reference.providerType)

mutual

def collectProviderSecretReferenceIdentities : Json → Identities → Except Identities Identities
  | .array values, references => collectFromItems values references
  | .object fields, references => collectFromFields fields references
  | _, references => .ok references

def collectFromItems : List Json → Identities → Except Identities Identities
  | [], references => .ok references
  | value :: values, references => do
    let references ← collectProviderSecretReferenceIdentities value references
    collectFromItems values references

def collectFromFields : List (String × Json) → Identities → Except Identities Identities
  | [], references => .ok references
  | (key, value) :: fields, references => do
    let references ←
      if eqIgnoreAsciiCase key providerSecretReferenceField then
        match ProviderSecretReference.fromJson value with
        | none => .error references
        | some reference => .ok (insert reference.identity references)
      else .ok references
    let references ← collectProviderSecretReferenceIdentities value references
    collectFromFields fields references

end

/-! Reconciliation. -/

structure ProviderSecretRow where
  secretId : String
  providerType : String
  deriving DecidableEq

structure SecretStore where
  providerSecrets : List ProviderSecretRow
  liveTvTuners : List Json
  pluginConfigurations : List Json
  namedConfigurations : List Json
  /-- The primary key. -/
  distinct : (providerSecrets.map (·.secretId)).Nodup

namespace SecretStore

def configurations (s : SecretStore) : List Json :=
  s.liveTvTuners ++ s.pluginConfigurations ++ s.namedConfigurations

def filterSecrets (s : SecretStore) (keep : ProviderSecretRow → Bool) : SecretStore where
  providerSecrets := s.providerSecrets.filter keep
  liveTvTuners := s.liveTvTuners
  pluginConfigurations := s.pluginConfigurations
  namedConfigurations := s.namedConfigurations
  distinct := s.distinct.sublist (List.filter_sublist.map _)

end SecretStore

section Reconciliation

-- `lower` of the database.
variable (lower : String → String)

/-- `DELETE … WHERE secret_id = $1 AND lower(provider_type) = lower($2)`. -/
def isDeletedWith (envelope row : ProviderSecretRow) : Bool :=
  row.secretId == envelope.secretId && lower row.providerType == lower envelope.providerType

def deleteUnreferenced (references : Identities) (state : Nat × SecretStore)
    (envelope : ProviderSecretRow) : Nat × SecretStore :=
  if (envelope.secretId, toAsciiLowercase envelope.providerType) ∈ references then state
  else
    (state.1 + state.2.providerSecrets.countP (isDeletedWith lower envelope),
      state.2.filterSecrets fun row => !isDeletedWith lower envelope row)

def reconcileOrphanedProviderSecrets (s : SecretStore) : Except Identities (Nat × SecretStore) := do
  let references ←
    s.configurations.foldlM (fun references configuration =>
      collectProviderSecretReferenceIdentities configuration references) ∅
  .ok (s.providerSecrets.foldl (deleteUnreferenced lower references) (0, s))

def SecretStore.afterReconciliation (s : SecretStore) : SecretStore :=
  match reconcileOrphanedProviderSecrets lower s with
  | .error _ => s
  | .ok (_, s') => s'

end Reconciliation

end Jellyrin.Secrets
