import Jellyrin.Defs.Secrets.References
import Mathlib.Data.Finset.Basic

/-! The two walks through a configuration agree, and reconciliation deletes by them. -/

namespace Jellyrin.Secrets

open Ascii Json

variable {references identities : Identities} {reference : ProviderSecretReference}

theorem ProviderSecretReference.identity_eq_iff {other : ProviderSecretReference} :
    reference.identity = other.identity ↔
      other.id = reference.id ∧
        toAsciiLowercase other.providerType = toAsciiLowercase reference.providerType := by
  simp [identity, eq_comm]

theorem ProviderSecretReference.of_fromJson {value : Json}
    (h : ProviderSecretReference.fromJson value = some reference) :
    (∃ id, (value.get "Id").bind asStr = some id ∧ reference.id = trim id) ∧
      ∃ provider, (value.get "Provider").bind asStr = some provider ∧
        reference.providerType = trim provider := by
  obtain ⟨idField, hidField, h⟩ := Option.bind_eq_some_iff.mp h
  obtain ⟨id, hid, h⟩ := Option.bind_eq_some_iff.mp h
  obtain ⟨providerField, hproviderField, h⟩ := Option.bind_eq_some_iff.mp h
  obtain ⟨provider, hprovider, h⟩ := Option.bind_eq_some_iff.mp h
  obtain ⟨revisionField, -, h⟩ := Option.bind_eq_some_iff.mp h
  obtain ⟨revision, -, h⟩ := Option.bind_eq_some_iff.mp h
  split at h
  · cases h
  · cases h
    exact ⟨⟨id, by simp [hidField, hid], rfl⟩, provider, by simp [hproviderField, hprovider], rfl⟩

theorem directlyReferencesEnvelope_iff {key : String} {value : Json}
    {stored : ProviderSecretReference}
    (hkey : eqIgnoreAsciiCase key providerSecretReferenceField = true)
    (hstored : ProviderSecretReference.fromJson value = some stored) :
    directlyReferencesEnvelope reference key value = true ↔
      reference.identity = stored.identity := by
  obtain ⟨⟨id, hid, hstoredId⟩, provider, hprovider, hstoredProvider⟩ :=
    ProviderSecretReference.of_fromJson hstored
  simp [directlyReferencesEnvelope, hkey, hid, hprovider, eqIgnoreAsciiCase_iff,
    ProviderSecretReference.identity_eq_iff, hstoredId, hstoredProvider]

theorem collectFromFields_cons {key : String} {value : Json} {fields : List (String × Json)}
    (h : collectFromFields ((key, value) :: fields) references = .ok identities) :
    ∃ named collected, collectProviderSecretReferenceIdentities value named = .ok collected ∧
      collectFromFields fields collected = .ok identities ∧
      ∀ reference : ProviderSecretReference, reference.identity ∈ named ↔
        reference.identity ∈ references ∨
          directlyReferencesEnvelope reference key value = true := by
  rw [collectFromFields] at h
  by_cases hkey : eqIgnoreAsciiCase key providerSecretReferenceField = true
  · cases hstored : ProviderSecretReference.fromJson value with
    | none =>
      rw [if_pos hkey, hstored] at h
      cases h
    | some stored =>
      rw [if_pos hkey, hstored] at h
      change (collectProviderSecretReferenceIdentities value _ >>= _) = _ at h
      cases hcollected : collectProviderSecretReferenceIdentities value
          (insert stored.identity references) with
      | error partly =>
        rw [hcollected] at h
        cases h
      | ok collected =>
        rw [hcollected] at h
        refine ⟨_, collected, hcollected, h, fun reference => ?_⟩
        rw [Finset.mem_insert, directlyReferencesEnvelope_iff hkey hstored, or_comm]
  · rw [if_neg hkey] at h
    change (collectProviderSecretReferenceIdentities value _ >>= _) = _ at h
    cases hcollected : collectProviderSecretReferenceIdentities value references with
    | error partly =>
      rw [hcollected] at h
      cases h
    | ok collected =>
      rw [hcollected] at h
      refine ⟨_, collected, hcollected, h, fun reference => ?_⟩
      simp [directlyReferencesEnvelope, Bool.eq_false_iff.mpr hkey]

theorem collectFromItems_cons {value : Json} {values : List Json}
    (h : collectFromItems (value :: values) references = .ok identities) :
    ∃ collected, collectProviderSecretReferenceIdentities value references = .ok collected ∧
      collectFromItems values collected = .ok identities := by
  rw [collectFromItems] at h
  cases hcollected : collectProviderSecretReferenceIdentities value references with
  | error partly =>
    rw [hcollected] at h
    cases h
  | ok collected =>
    rw [hcollected] at h
    exact ⟨collected, rfl, h⟩

mutual

theorem mem_collected_iff (reference : ProviderSecretReference) : (configuration : Json) →
    {references identities : Identities} →
    collectProviderSecretReferenceIdentities configuration references = .ok identities →
      (reference.identity ∈ identities ↔ reference.identity ∈ references ∨
        configurationReferencesProviderSecret reference configuration = true)
  | .null, _, _, h => by
    cases h
    simp [configurationReferencesProviderSecret]
  | .bool _, _, _, h => by
    cases h
    simp [configurationReferencesProviderSecret]
  | .number _, _, _, h => by
    cases h
    simp [configurationReferencesProviderSecret]
  | .float _, _, _, h => by
    cases h
    simp [configurationReferencesProviderSecret]
  | .string _, _, _, h => by
    cases h
    simp [configurationReferencesProviderSecret]
  | .array values, _, _, h => by
    rw [collectProviderSecretReferenceIdentities] at h
    rw [configurationReferencesProviderSecret]
    exact mem_collectedFromItems_iff reference values h
  | .object fields, _, _, h => by
    rw [collectProviderSecretReferenceIdentities] at h
    rw [configurationReferencesProviderSecret, Bool.or_eq_true]
    exact mem_collectedFromFields_iff reference fields h

theorem mem_collectedFromItems_iff (reference : ProviderSecretReference) : (values : List Json) →
    {references identities : Identities} → collectFromItems values references = .ok identities →
      (reference.identity ∈ identities ↔ reference.identity ∈ references ∨
        itemsReferenceProviderSecret reference values = true)
  | [], _, _, h => by
    cases h
    simp [itemsReferenceProviderSecret]
  | value :: values, _, _, h => by
    obtain ⟨collected, hvalue, hvalues⟩ := collectFromItems_cons h
    rw [mem_collectedFromItems_iff reference values hvalues,
      mem_collected_iff reference value hvalue, itemsReferenceProviderSecret, Bool.or_eq_true,
      or_assoc]

theorem mem_collectedFromFields_iff (reference : ProviderSecretReference) :
    (fields : List (String × Json)) → {references identities : Identities} →
    collectFromFields fields references = .ok identities →
      (reference.identity ∈ identities ↔ reference.identity ∈ references ∨
        fields.any (fun field => directlyReferencesEnvelope reference field.1 field.2) = true ∨
          fieldsReferenceProviderSecret reference fields = true)
  | [], _, _, h => by
    cases h
    simp [fieldsReferenceProviderSecret]
  | (key, value) :: fields, _, _, h => by
    obtain ⟨named, collected, hvalue, hfields, hnamed⟩ := collectFromFields_cons h
    rw [mem_collectedFromFields_iff reference fields hfields,
      mem_collected_iff reference value hvalue, hnamed, fieldsReferenceProviderSecret,
      List.any_cons, Bool.or_eq_true, Bool.or_eq_true]
    tauto

end

/-! Whether a walk succeeds does not depend on what was collected before it. -/

mutual

theorem collect_ok (more : Identities) : (configuration : Json) →
    {references identities : Identities} →
    collectProviderSecretReferenceIdentities configuration references = .ok identities →
      ∃ collected, collectProviderSecretReferenceIdentities configuration more = .ok collected
  | .null, _, _, _ => ⟨_, rfl⟩
  | .bool _, _, _, _ => ⟨_, rfl⟩
  | .number _, _, _, _ => ⟨_, rfl⟩
  | .float _, _, _, _ => ⟨_, rfl⟩
  | .string _, _, _, _ => ⟨_, rfl⟩
  | .array values, _, _, h => by
    rw [collectProviderSecretReferenceIdentities] at h ⊢
    exact collectFromItems_ok more values h
  | .object fields, _, _, h => by
    rw [collectProviderSecretReferenceIdentities] at h ⊢
    exact collectFromFields_ok more fields h

theorem collectFromItems_ok (more : Identities) : (values : List Json) →
    {references identities : Identities} → collectFromItems values references = .ok identities →
      ∃ collected, collectFromItems values more = .ok collected
  | [], _, _, _ => ⟨more, rfl⟩
  | value :: values, _, _, h => by
    obtain ⟨_, hvalue, hvalues⟩ := collectFromItems_cons h
    obtain ⟨collected, hcollected⟩ := collect_ok more value hvalue
    obtain ⟨all, hall⟩ := collectFromItems_ok collected values hvalues
    refine ⟨all, ?_⟩
    rw [collectFromItems, hcollected]
    exact hall

theorem collectFromFields_ok (more : Identities) : (fields : List (String × Json)) →
    {references identities : Identities} → collectFromFields fields references = .ok identities →
      ∃ collected, collectFromFields fields more = .ok collected
  | [], _, _, _ => ⟨more, rfl⟩
  | (key, value) :: fields, references, _, h => by
    obtain ⟨_, _, hvalue, hfields, -⟩ := collectFromFields_cons h
    by_cases hkey : eqIgnoreAsciiCase key providerSecretReferenceField = true
    · cases hstored : ProviderSecretReference.fromJson value with
      | none =>
        rw [collectFromFields, if_pos hkey, hstored] at h
        cases h
      | some stored =>
        obtain ⟨collected, hcollected⟩ := collect_ok (insert stored.identity more) value hvalue
        obtain ⟨all, hall⟩ := collectFromFields_ok collected fields hfields
        refine ⟨all, ?_⟩
        rw [collectFromFields, if_pos hkey, hstored]
        change (collectProviderSecretReferenceIdentities value _ >>= _) = _
        rw [hcollected]
        exact hall
    · obtain ⟨collected, hcollected⟩ := collect_ok more value hvalue
      obtain ⟨all, hall⟩ := collectFromFields_ok collected fields hfields
      refine ⟨all, ?_⟩
      rw [collectFromFields, if_neg hkey]
      change (collectProviderSecretReferenceIdentities value _ >>= _) = _
      rw [hcollected]
      exact hall

end

/-! Reconciliation. -/

theorem mem_collectedFromAll_iff {configurations : List Json}
    (h : configurations.foldlM (fun references configuration =>
      collectProviderSecretReferenceIdentities configuration references) references =
        .ok identities) :
    (∀ configuration ∈ configurations, ∃ collected,
        collectProviderSecretReferenceIdentities configuration ∅ = .ok collected) ∧
      ∀ reference : ProviderSecretReference, reference.identity ∈ identities ↔
        reference.identity ∈ references ∨ ∃ configuration ∈ configurations,
          configurationReferencesProviderSecret reference configuration = true := by
  induction configurations generalizing references with
  | nil =>
    cases h
    simp
  | cons configuration configurations ih =>
    rw [List.foldlM_cons] at h
    cases hcollected : collectProviderSecretReferenceIdentities configuration references with
    | error partly =>
      rw [hcollected] at h
      cases h
    | ok collected =>
      rw [hcollected] at h
      obtain ⟨hall, hmem⟩ := ih h
      constructor
      · simpa using ⟨collect_ok ∅ configuration hcollected, hall⟩
      · intro reference
        rw [hmem, mem_collected_iff reference configuration hcollected]
        simp [or_assoc]

variable {lower : String → String}

theorem mem_deleteUnreferenced {row : ProviderSecretRow} {rows : List ProviderSecretRow}
    {state : Nat × SecretStore} (hrows : ∀ envelope ∈ rows, envelope.secretId = row.secretId →
      envelope = row) :
    row ∈ (rows.foldl (deleteUnreferenced lower references) state).2.providerSecrets ↔
      row ∈ state.2.providerSecrets ∧
        (row ∈ rows → (row.secretId, toAsciiLowercase row.providerType) ∈ references) := by
  induction rows generalizing state with
  | nil => simp
  | cons envelope rows ih =>
    rw [List.foldl_cons, ih fun other hother => hrows other (List.mem_cons_of_mem _ hother),
      deleteUnreferenced]
    have hsame := hrows envelope List.mem_cons_self
    split
    · rename_i hreferenced
      grind
    · rename_i hreferenced
      have hdeleted : isDeletedWith lower envelope row = true ↔ envelope = row := by
        simp only [isDeletedWith, Bool.and_eq_true, beq_iff_eq]
        constructor
        · exact fun h => hsame h.1.symm
        · rintro rfl
          exact ⟨rfl, rfl⟩
      simp only [SecretStore.filterSecrets, List.mem_filter, List.mem_cons, Bool.not_eq_true',
        ← Bool.not_eq_true, hdeleted]
      grind

theorem subset_of_foldl_deleteUnreferenced {row : ProviderSecretRow}
    {rows : List ProviderSecretRow} {state : Nat × SecretStore}
    (h : row ∈ (rows.foldl (deleteUnreferenced lower references) state).2.providerSecrets) :
    row ∈ state.2.providerSecrets := by
  induction rows generalizing state with
  | nil => exact h
  | cons envelope rows ih =>
    have hstep := ih h
    rw [deleteUnreferenced] at hstep
    split at hstep
    · exact hstep
    · exact (List.mem_filter.mp hstep).1

theorem reconcile_eq_error (lower : String → String) {s : SecretStore} {configuration : Json}
    (hconfiguration : configuration ∈ s.configurations) {partly : Identities}
    (h : collectProviderSecretReferenceIdentities configuration ∅ = .error partly) :
    ∃ collected, reconcileOrphanedProviderSecrets lower s = .error collected := by
  rw [reconcileOrphanedProviderSecrets]
  cases hall : s.configurations.foldlM (fun references configuration =>
      collectProviderSecretReferenceIdentities configuration references) ∅ with
  | error collected => exact ⟨collected, rfl⟩
  | ok identities =>
    obtain ⟨hcollected, -⟩ := mem_collectedFromAll_iff hall
    obtain ⟨collected, hcollected⟩ := hcollected configuration hconfiguration
    rw [h] at hcollected
    cases hcollected

theorem mem_reconciled_iff {s s' : SecretStore} {deleted : Nat} {row : ProviderSecretRow}
    (h : reconcileOrphanedProviderSecrets lower s = .ok (deleted, s')) :
    row ∈ s'.providerSecrets ↔ row ∈ s.providerSecrets ∧
      ∃ configuration ∈ s.configurations, configurationReferencesProviderSecret
        ⟨row.secretId, row.providerType, 1⟩ configuration = true := by
  rw [reconcileOrphanedProviderSecrets] at h
  cases hall : s.configurations.foldlM (fun references configuration =>
      collectProviderSecretReferenceIdentities configuration references) ∅ with
  | error collected =>
    rw [hall] at h
    cases h
  | ok identities =>
    rw [hall] at h
    obtain ⟨-, hidentities⟩ := mem_collectedFromAll_iff hall
    have hreferenced : (row.secretId, toAsciiLowercase row.providerType) ∈ identities ↔
        ∃ configuration ∈ s.configurations, configurationReferencesProviderSecret
          ⟨row.secretId, row.providerType, 1⟩ configuration = true := by
      simpa [ProviderSecretReference.identity] using
        hidentities ⟨row.secretId, row.providerType, 1⟩
    have hs' : (s.providerSecrets.foldl (deleteUnreferenced lower identities) (0, s)).2 = s' :=
      congrArg Prod.snd (Except.ok.inj h)
    rw [← hreferenced, ← hs']
    by_cases hrow : row ∈ s.providerSecrets
    · rw [mem_deleteUnreferenced fun envelope henvelope hid =>
        List.inj_on_of_nodup_map s.distinct henvelope hrow hid]
      simp [hrow]
    · simp only [hrow, false_and, iff_false]
      exact fun hmem => hrow (subset_of_foldl_deleteUnreferenced hmem)

/-- The identities that are collected are those of the point lookups, and no envelope is deleted
after a collection that failed. -/
theorem reconciliation_exact_and_fails_closed (lower : String → String) (s : SecretStore) :
    (∀ configuration identities,
      collectProviderSecretReferenceIdentities configuration ∅ = .ok identities →
        ∀ reference : ProviderSecretReference,
          configurationReferencesProviderSecret reference configuration = true ↔
            (reference.id, toAsciiLowercase reference.providerType) ∈ identities) ∧
    (∀ configuration ∈ s.configurations, ∀ partly,
      collectProviderSecretReferenceIdentities configuration ∅ = .error partly →
        s.afterReconciliation lower = s) ∧
    ∀ deleted s', reconcileOrphanedProviderSecrets lower s = .ok (deleted, s') →
      ∀ row, row ∈ s'.providerSecrets ↔ row ∈ s.providerSecrets ∧
        ∃ configuration ∈ s.configurations, configurationReferencesProviderSecret
          ⟨row.secretId, row.providerType, 1⟩ configuration = true := by
  refine ⟨?_, ?_, ?_⟩
  · intro configuration identities h reference
    simpa [ProviderSecretReference.identity] using
      (mem_collected_iff reference configuration h).symm
  · intro configuration hconfiguration partly h
    obtain ⟨collected, herror⟩ := reconcile_eq_error lower hconfiguration h
    simp [SecretStore.afterReconciliation, herror]
  · exact fun deleted s' h row => mem_reconciled_iff h

def nestedReference : Json :=
  .object [("nested", .array [.object [("jellyrinprovidersecretref",
    .object [("Id", .string " ps_one"), ("Provider", .string "MAGSTV"), ("Revision", .number 1)])]])]

def tunerStore (configuration : Json) : SecretStore where
  providerSecrets := [⟨"ps_one", "magstv"⟩, ⟨"ps_two", "magstv"⟩]
  liveTvTuners := [configuration]
  pluginConfigurations := []
  namedConfigurations := []
  distinct := by decide

def brokenReference : Json :=
  .object [("JellyrinProviderSecretRef", .object [("Id", .string "ps_one")])]

theorem reconciliation_of_a_tuner :
    (configurationReferencesProviderSecret ⟨"ps_one", "MagsTV", 7⟩ nestedReference = true) ∧
      (tunerStore brokenReference).afterReconciliation toAsciiLowercase =
        tunerStore brokenReference ∧
      ∃ deleted s', reconcileOrphanedProviderSecrets toAsciiLowercase (tunerStore nestedReference) =
          .ok (deleted, s') ∧ ⟨"ps_one", "magstv"⟩ ∈ s'.providerSecrets := by
  obtain ⟨hexact, -, hkept⟩ :=
    reconciliation_exact_and_fails_closed toAsciiLowercase (tunerStore nestedReference)
  refine ⟨?_, ?_, ?_⟩
  · exact (hexact nestedReference {("ps_one", "magstv")} (by decide) _).mpr
      (by decide)
  · obtain ⟨-, hclosed, -⟩ := reconciliation_exact_and_fails_closed toAsciiLowercase
      (tunerStore brokenReference)
    exact hclosed brokenReference (by decide) ∅ (by decide)
  · refine ⟨1, (tunerStore nestedReference).filterSecrets fun row => row.secretId == "ps_one",
      ?_, ?_⟩
    · rfl
    · exact (hkept 1 _ rfl ⟨"ps_one", "magstv"⟩).mpr ⟨by decide, nestedReference,
        by decide, by decide⟩

end Jellyrin.Secrets
