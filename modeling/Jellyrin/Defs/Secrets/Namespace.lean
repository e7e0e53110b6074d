import Jellyrin.Defs.Data.EntityId
import Jellyrin.Defs.Data.Fallible
import Jellyrin.Defs.Data.Separated
import Jellyrin.Defs.Data.Utf8

/-! The names under which the credentials of providers are kept. -/

namespace Jellyrin.Secrets

open Ascii Json

structure Lowercase where
  toLowercase : String → String
  toLower_eq : ∀ {s c}, c ∈ (toLowercase s).toList → c.toLower = c

def asciiLowercase : Lowercase where
  toLowercase := toAsciiLowercase
  toLower_eq := by
    intro s c hc
    rw [toAsciiLowercase, String.toList_ofList] at hc
    obtain ⟨d, -, rfl⟩ := List.mem_map.mp hc
    exact toLower_toLower d

def isTypeCharacter (c : Char) : Bool := c.isAlphanum || c == '-' || c == '_'

def normalizeProviderType (providerType : String) : Except String String :=
  let providerType := toAsciiLowercase (trim providerType)
  if providerType ≠ "" ∧ providerType.utf8ByteSize ≤ 128 ∧
      providerType.toList.all isTypeCharacter = true then .ok providerType
  else .error "provider type is invalid"

section Derivation

variable (locale : Lowercase) (sha256 : String → BitVec 256)

def pluginIdentityKey (value : String) : Except String String :=
  let value := trim value
  if value ≠ "" ∧ value.utf8ByteSize ≤ 512 ∧ value.toList.any isControl = false then
    .ok (locale.toLowercase value)
  else .error "plugin id is invalid"

def splitKind (providerType : String) : String × Option String :=
  match splitOnce (· == ':') providerType.toList with
  | none => (providerType, none)
  | some (kind, id) => (String.ofList kind, some (String.ofList id))

def configuredPluginId (configuration : Json) : Except String (Option String) :=
  match configuration.fieldCaseInsensitive "PluginId" with
  | some (.string value) => .ok (some (trim value))
  | some _ => .error "plugin id must be a string"
  | none => .ok none

def declaredPluginIdentity (inlinePluginId : Option String) (configuration : Json) :
    Except String String := do
  let configuredPluginId ← configuredPluginId configuration
  let inlinePluginId := (inlinePluginId.map trim).filter (· ≠ "")
  match inlinePluginId, configuredPluginId with
  | some inline, some configured =>
    if (← pluginIdentityKey locale inline) ≠ (← pluginIdentityKey locale configured) then
      .error "plugin type and PluginId identify different plugins"
    else pluginIdentityKey locale inline
  | some pluginId, none => pluginIdentityKey locale pluginId
  | none, some pluginId => pluginIdentityKey locale pluginId
  | none, none => .error "plugin id is required for provider credentials"

def isReadable (identity : String) : Bool :=
  identity.utf8ByteSize ≤ 121 && identity.toList.all isTypeCharacter

def hexDigits (hash : BitVec 256) : String :=
  String.ofList ((Uuid.lowDigits 16 64 hash.toNat).map Nat.digitChar)

def pluginNamespace (identity : String) : String :=
  if isReadable identity then "plugin-" ++ identity
  else "plugin-sha256-" ++ hexDigits (sha256 identity)

def deriveProviderSecretNamespace (providerType : String) (configuration : Json) :
    Except String String :=
  let providerType := trim providerType
  if providerType ≠ "" ∧ providerType.utf8ByteSize ≤ 512 ∧
      providerType.toList.any isControl = false then
    let (kind, inlinePluginId) := splitKind providerType
    if eqIgnoreAsciiCase kind "plugin" then do
      let identity ← declaredPluginIdentity locale inlinePluginId configuration
      normalizeProviderType (pluginNamespace sha256 identity)
    else normalizeProviderType providerType
  else .error "provider type is invalid"

end Derivation

end Jellyrin.Secrets

/-! Which providers share a namespace. -/

namespace Jellyrin.Secrets

open Ascii Json

inductive Provider where
  | plain (providerType : String)
  | plugin (identity : String)
  deriving DecidableEq

variable (locale : Lowercase) (sha256 : String → BitVec 256)

def providerOf (providerType : String) (configuration : Json) : Option Provider :=
  let (kind, inlinePluginId) := splitKind (trim providerType)
  if eqIgnoreAsciiCase kind "plugin" then
    (declaredPluginIdentity locale inlinePluginId configuration).toOption.map .plugin
  else some (.plain (toAsciiLowercase (trim providerType)))

namespace Provider

def secretNamespace : Provider → String
  | .plain providerType => providerType
  | .plugin identity => pluginNamespace sha256 identity

def IsHashOf (identity other : String) : Prop :=
  isReadable identity = true ∧ isReadable other = false ∧
    identity = "sha256-" ++ hexDigits (sha256 other)

def IsSpelledLike (providerType identity : String) : Prop :=
  (isReadable identity = true ∧ providerType = "plugin-" ++ identity) ∨
    (isReadable identity = false ∧
      providerType = "plugin-sha256-" ++ hexDigits (sha256 identity))

def Shadows : Provider → Provider → Prop
  | .plain providerType, .plugin identity => IsSpelledLike sha256 providerType identity
  | .plugin identity, .plain providerType => IsSpelledLike sha256 providerType identity
  | .plugin identity, .plugin other =>
    IsHashOf sha256 identity other ∨ IsHashOf sha256 other identity
  | .plain _, .plain _ => False

def CollisionFree : Provider → Provider → Prop
  | .plugin identity, .plugin other => sha256 identity = sha256 other → identity = other
  | _, _ => True

end Provider

variable {locale sha256}

theorem normalizeProviderType_eq_ok {providerType normalized : String}
    (h : normalizeProviderType providerType = .ok normalized) :
    normalized = toAsciiLowercase (trim providerType) := by
  rw [normalizeProviderType] at h
  split at h
  · exact (Except.ok.inj h).symm
  · nomatch h

theorem isWhitespace_eq_false_of_isTypeCharacter {c : Char} (h : isTypeCharacter c = true) :
    isWhitespace c = false := by
  simp only [isTypeCharacter, Bool.or_eq_true, beq_iff_eq] at h
  change (((decide (65 ≤ c.val ∧ c.val ≤ 90) || (decide (97 ≤ c.val) && decide (c.val ≤ 122))) ||
    (decide (48 ≤ c.val) && decide (c.val ≤ 57))) = true ∨ c = '-') ∨ c = '_' at h
  simp only [Bool.or_eq_true, Bool.and_eq_true, decide_eq_true_eq, UInt32.le_iff_toNat_le] at h
  change ((((65 ≤ c.toNat ∧ c.toNat ≤ 90) ∨ (97 ≤ c.toNat ∧ c.toNat ≤ 122)) ∨
    (48 ≤ c.toNat ∧ c.toNat ≤ 57)) ∨ c = '-') ∨ c = '_' at h
  obtain ((halphanumeric | rfl) | rfl) := h
  · simp only [isWhitespace, Bool.or_eq_false_iff, Bool.and_eq_false_iff, decide_eq_false_iff_not,
      beq_eq_false_iff_ne]
    omega
  · decide
  · decide

theorem hexDigits_injective {a b : BitVec 256} (h : hexDigits a = hexDigits b) : a = b := by
  have hsize : (2 : Nat) ^ 256 = 16 ^ 64 := by norm_num
  have hlt : ∀ hash : BitVec 256, hash.toNat < 16 ^ 64 := by
    intro hash
    rw [← hsize]
    exact hash.isLt
  have hdigits : Uuid.lowDigits 16 64 a.toNat = Uuid.lowDigits 16 64 b.toNat := by
    rw [← Uuid.map_idxOf_digitChar fun digit => Uuid.lt_of_mem_lowDigits (n := a.toNat) (by decide),
      String.ofList_inj.mp h,
      Uuid.map_idxOf_digitChar fun digit => Uuid.lt_of_mem_lowDigits (by decide)]
  exact BitVec.eq_of_toNat_eq (Uuid.lowDigits_injective (hlt a) (hlt b) hdigits)

theorem mem_hexDigits {hash : BitVec 256} {c : Char} (hc : c ∈ (hexDigits hash).toList) :
    isTypeCharacter c = true ∧ c.toLower = c := by
  have hall : ∀ digit < 16, isTypeCharacter digit.digitChar = true ∧
      digit.digitChar.toLower = digit.digitChar := by decide
  rw [hexDigits, String.toList_ofList] at hc
  obtain ⟨digit, hdigit, rfl⟩ := List.mem_map.mp hc
  exact hall digit (Uuid.lt_of_mem_lowDigits (by decide) hdigit)

theorem toAsciiLowercase_trim_eq_self {s : String}
    (h : ∀ c ∈ s.toList, isTypeCharacter c = true ∧ c.toLower = c) :
    toAsciiLowercase (trim s) = s := by
  rw [trim_of_forall fun c hc => isWhitespace_eq_false_of_isTypeCharacter (h c hc).1,
    toAsciiLowercase, List.map_congr_left fun c hc => (h c hc).2, List.map_id',
    String.ofList_toList]

theorem pluginIdentityKey_eq_ok {value identity : String}
    (h : pluginIdentityKey locale value = .ok identity) :
    ∀ c ∈ identity.toList, c.toLower = c := by
  simp only [pluginIdentityKey] at h
  split at h
  · cases h
    exact fun c hc => locale.toLower_eq hc
  · cases h

theorem declaredPluginIdentity_eq_ok {inlinePluginId : Option String} {configuration : Json}
    {identity : String}
    (h : declaredPluginIdentity locale inlinePluginId configuration = .ok identity) :
    ∀ c ∈ identity.toList, c.toLower = c := by
  have hkey : ∃ value, pluginIdentityKey locale value = .ok identity := by
    obtain ⟨configured, -, h⟩ := exists_of_bind_eq_ok h
    dsimp only at h
    split at h
    · obtain ⟨key, hkey, h⟩ := exists_of_bind_eq_ok h
      obtain ⟨other, -, h⟩ := exists_of_bind_eq_ok h
      split at h
      · nomatch h
      · exact ⟨_, h⟩
    · exact ⟨_, h⟩
    · exact ⟨_, h⟩
    · nomatch h
  obtain ⟨value, hvalue⟩ := hkey
  exact pluginIdentityKey_eq_ok hvalue

theorem pluginNamespace_normalized {identity : String}
    (h : ∀ c ∈ identity.toList, c.toLower = c) :
    toAsciiLowercase (trim (pluginNamespace sha256 identity)) = pluginNamespace sha256 identity := by
  refine toAsciiLowercase_trim_eq_self fun c hc => ?_
  rw [pluginNamespace] at hc
  split at hc
  · rename_i hreadable
    rw [isReadable, Bool.and_eq_true, List.all_eq_true] at hreadable
    rw [String.toList_append, List.mem_append] at hc
    obtain hc | hc := hc
    · have hall : "plugin-".toList.all
          (fun c => decide (isTypeCharacter c = true ∧ c.toLower = c)) = true := by decide
      exact of_decide_eq_true (List.all_eq_true.mp hall c hc)
    · exact ⟨hreadable.2 c hc, h c hc⟩
  · rw [String.toList_append, List.mem_append] at hc
    obtain hc | hc := hc
    · have hall : "plugin-sha256-".toList.all
          (fun c => decide (isTypeCharacter c = true ∧ c.toLower = c)) = true := by decide
      exact of_decide_eq_true (List.all_eq_true.mp hall c hc)
    · exact mem_hexDigits hc

theorem deriveProviderSecretNamespace_eq_ok {providerType name : String} {configuration : Json}
    (h : deriveProviderSecretNamespace locale sha256 providerType configuration = .ok name) :
    ∃ provider, providerOf locale providerType configuration = some provider ∧
      name = provider.secretNamespace sha256 := by
  simp only [deriveProviderSecretNamespace] at h
  split at h
  · split at h
    · rename_i hkind
      obtain ⟨identity, hidentity, h⟩ := exists_of_bind_eq_ok h
      refine ⟨.plugin identity, ?_, ?_⟩
      · simp [providerOf, hkind, hidentity, Except.toOption]
      · rw [normalizeProviderType_eq_ok h]
        exact pluginNamespace_normalized (declaredPluginIdentity_eq_ok hidentity)
    · rename_i hkind
      refine ⟨.plain (toAsciiLowercase (trim providerType)), ?_, ?_⟩
      · simp [providerOf, hkind]
      · rw [normalizeProviderType_eq_ok h, trim_trim]
        rfl
  · exact absurd h error_ne_ok

theorem isSpelledLike_iff {providerType identity : String} :
    Provider.IsSpelledLike sha256 providerType identity ↔
      providerType = pluginNamespace sha256 identity := by
  simp only [Provider.IsSpelledLike, pluginNamespace]
  split <;> simp [*]

theorem append_left_inj (s : String) {t u : String} : s ++ t = s ++ u ↔ t = u := by
  simp [← String.toList_inj, String.toList_append]

theorem plugin_sha256_append (s : String) :
    "plugin-sha256-" ++ s = "plugin-" ++ ("sha256-" ++ s) := by
  rw [← String.append_assoc]
  exact congrArg (· ++ s) (show "plugin-sha256-" = "plugin-" ++ "sha256-" by decide)

theorem ne_of_isReadable {identity other : String} (h : isReadable identity = true)
    (hother : isReadable other = false) : identity ≠ other := by
  rintro rfl
  rw [h] at hother
  cases hother

theorem pluginNamespace_eq_iff {identity other : String}
    (hfree : sha256 identity = sha256 other → identity = other) :
    pluginNamespace sha256 identity = pluginNamespace sha256 other ↔
      identity = other ∨ Provider.IsHashOf sha256 identity other ∨
        Provider.IsHashOf sha256 other identity := by
  simp only [pluginNamespace, Provider.IsHashOf]
  cases hreadable : isReadable identity with
  | true =>
    cases hother : isReadable other with
    | true => simp
    | false =>
      simp [plugin_sha256_append, ne_of_isReadable hreadable hother]
  | false =>
    cases hother : isReadable other with
    | true =>
      simp [plugin_sha256_append, (ne_of_isReadable hother hreadable).symm, eq_comm]
    | false =>
      simp only [Bool.false_eq_true, if_false, append_left_inj, false_and, or_false]
      constructor
      · exact fun h => hfree (hexDigits_injective h)
      · rintro rfl
        rfl

theorem not_isHashOf_self (identity : String) : ¬Provider.IsHashOf sha256 identity identity :=
  fun h => ne_of_isReadable h.1 h.2.1 rfl

/-- Two inputs share a namespace without being one provider just when one shadows the other. -/
theorem namespaces_tell_providers_apart_iff {providerType otherType name otherName : String}
    {configuration otherConfiguration : Json}
    (h : deriveProviderSecretNamespace locale sha256 providerType configuration = .ok name)
    (hother : deriveProviderSecretNamespace locale sha256 otherType otherConfiguration =
      .ok otherName)
    (hfree : ∀ provider ∈ providerOf locale providerType configuration,
      ∀ other ∈ providerOf locale otherType otherConfiguration,
        provider.CollisionFree sha256 other) :
    (name = otherName → providerOf locale providerType configuration =
        providerOf locale otherType otherConfiguration) ↔
      ∀ provider ∈ providerOf locale providerType configuration,
        ∀ other ∈ providerOf locale otherType otherConfiguration,
          ¬provider.Shadows sha256 other := by
  obtain ⟨provider, hprovider, rfl⟩ := deriveProviderSecretNamespace_eq_ok h
  obtain ⟨other, hotherProvider, rfl⟩ := deriveProviderSecretNamespace_eq_ok hother
  have hfree := hfree provider hprovider other hotherProvider
  simp only [hprovider, hotherProvider, Option.mem_some_iff, forall_eq', Option.some_inj]
  cases provider with
  | plain providerType =>
    cases other with
    | plain otherType => simp [Provider.secretNamespace, Provider.Shadows]
    | plugin identity =>
      simp [Provider.secretNamespace, Provider.Shadows, isSpelledLike_iff]
  | plugin identity =>
    cases other with
    | plain otherType =>
      simp [Provider.secretNamespace, Provider.Shadows, isSpelledLike_iff, eq_comm]
    | plugin other =>
      simp only [Provider.secretNamespace, Provider.Shadows, pluginNamespace_eq_iff hfree,
        Provider.plugin.injEq]
      constructor
      · intro hsame hshadows
        cases hsame (.inr hshadows)
        exact hshadows.elim (not_isHashOf_self identity) (not_isHashOf_self identity)
      · rintro hshadows (heq | hshadow)
        · exact heq
        · exact absurd hshadow hshadows

def pluginConfiguration (pluginId : String) : Json := .object [("PluginId", .string pluginId)]

theorem xtream_shadows_no_plugin :
    ¬(Provider.plain "xtream").Shadows (fun _ => 0) (.plugin "abc") := by
  have hxtream : providerOf asciiLowercase " Xtream" (.object []) = some (.plain "xtream") := by
    decide
  have hplugin : providerOf asciiLowercase "plugin" (pluginConfiguration "ABC") =
      some (.plugin "abc") := by decide
  refine (namespaces_tell_providers_apart_iff (by decide) (by decide)
    ?_).mp (fun h => absurd h (show "xtream" ≠ "plugin-abc" by decide)) _ hxtream _ hplugin
  rintro provider hprovider other -
  cases Option.some_inj.mp (hprovider.symm.trans hxtream)
  exact trivial

theorem plain_type_takes_plugin_namespace :
    ¬∀ (locale : Lowercase) (sha256 : String → BitVec 256) (providerType otherType name : String)
      (configuration otherConfiguration : Json),
      (∀ provider ∈ providerOf locale providerType configuration,
        ∀ other ∈ providerOf locale otherType otherConfiguration,
          provider.CollisionFree sha256 other) →
      deriveProviderSecretNamespace locale sha256 providerType configuration = .ok name →
      deriveProviderSecretNamespace locale sha256 otherType otherConfiguration = .ok name →
        providerOf locale providerType configuration =
          providerOf locale otherType otherConfiguration := by
  intro hclaim
  have hplain : providerOf asciiLowercase "plugin-abc" (.object []) = some (.plain "plugin-abc") := by
    decide
  have hplugin : providerOf asciiLowercase "plugin" (pluginConfiguration "abc") =
      some (.plugin "abc") := by decide
  have hsame := hclaim asciiLowercase (fun _ => 0) "plugin-abc" "plugin" "plugin-abc" (.object [])
    (pluginConfiguration "abc")
    (by simp [hplain, hplugin, Provider.CollisionFree]) (by decide) (by decide)
  rw [hplain, hplugin] at hsame
  cases hsame

end Jellyrin.Secrets
