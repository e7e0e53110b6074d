import Jellyrin.Defs.Data.HashMap
import Jellyrin.Defs.Data.Text
import Jellyrin.Defs.Secrets.Namespace
import Mathlib

/-! Credentials that are sealed for one secret of one provider. -/

namespace Jellyrin.Secrets

open Ascii Json

def providerSecretEnvelopeVersion : Nat := 1

def providerSecretKeyBytes : Nat := 32

def providerSecretMaxPlaintextBytes : Nat := 64 * 1024

abbrev SecretKey := { key : List UInt8 // key.length = providerSecretKeyBytes }

abbrev Nonce := BitVec 96

/-- An ideal cipher: what it seals is opened with its own key, nonce and associated data only. -/
structure Aead (Ciphertext : Type) where
  sealInPlace : SecretKey → Nonce → ByteArray → ByteArray → Ciphertext
  openInPlace : SecretKey → Nonce → ByteArray → Ciphertext → Option ByteArray
  openInPlace_eq_some_iff : ∀ {key nonce aad ciphertext plaintext},
    openInPlace key nonce aad ciphertext = some plaintext ↔
      ciphertext = sealInPlace key nonce aad plaintext
  sealInPlace_inj : ∀ {key key' nonce nonce' aad aad' plaintext plaintext'},
    sealInPlace key nonce aad plaintext = sealInPlace key' nonce' aad' plaintext' →
      key = key' ∧ nonce = nonce' ∧ aad = aad'

def recordAead : Aead (SecretKey × Nonce × ByteArray × ByteArray) where
  sealInPlace key nonce aad plaintext := (key, nonce, aad, plaintext)
  openInPlace key nonce aad ciphertext :=
    if ciphertext.1 = key ∧ ciphertext.2.1 = nonce ∧ ciphertext.2.2.1 = aad then
      some ciphertext.2.2.2
    else none
  openInPlace_eq_some_iff := by
    rintro key nonce aad ⟨key', nonce', aad', plaintext'⟩ plaintext
    simp only [Option.ite_none_right_eq_some, Option.some_inj, Prod.mk.injEq, and_assoc]
  sealInPlace_inj h := by
    simp only [Prod.mk.injEq] at h
    exact ⟨h.1, h.2.1, h.2.2.1⟩

structure JsonCodec where
  toVec : Json → ByteArray
  fromSlice : ByteArray → Option Json

def validateKeyId (value : String) : Except String String :=
  let value := trim value
  if value ≠ "" ∧ value.utf8ByteSize ≤ 128 ∧
      value.toList.all (fun c => c.isAlphanum || c == '.' || c == '_' || c == '-') = true then
    .ok value
  else .error "provider secret key id is invalid"

def validateKey (key : List UInt8) : Except String SecretKey :=
  if h : key.length = providerSecretKeyBytes then .ok ⟨key, h⟩
  else .error "provider secret key must decode to exactly 32 bytes"

def validateSecretComponent (name value : String) : Except String String :=
  let value := trim value
  if value ≠ "" ∧ value.utf8ByteSize ≤ 512 ∧ value.toList.any isControl = false ∧
      ':' ∉ value.toList then
    .ok (toAsciiLowercase value)
  else .error s!"provider {name} is invalid"

structure ProviderSecretVault where
  activeKeyId : String
  keys : HashMap String SecretKey
  active : activeKeyId ∈ keys

namespace ProviderSecretVault

def new (activeKeyId : String) (key : List UInt8) : Except String ProviderSecretVault := do
  let activeKeyId ← validateKeyId activeKeyId
  let key ← validateKey key
  .ok
    { activeKeyId
      keys := AList.insert activeKeyId key ∅
      active := (AList.mem_insert _).mpr (.inl rfl) }

def withDecryptionKey (vault : ProviderSecretVault) (keyId : String) (key : List UInt8) :
    Except String ProviderSecretVault := do
  let keyId ← validateKeyId keyId
  let key ← validateKey key
  .ok
    { vault with
      keys := vault.keys.insert keyId key
      active := (AList.mem_insert _).mpr (.inr vault.active) }

end ProviderSecretVault

structure ProviderSecretEnvelope (Ciphertext : Type) where
  version : Nat
  keyId : String
  nonce : Nonce
  ciphertext : Ciphertext

structure ProviderCredentials where
  username : String
  password : String
  hasUsername : trim username ≠ ""
  hasPassword : password ≠ ""
  bounded : username.utf8ByteSize + password.utf8ByteSize ≤ providerSecretMaxPlaintextBytes

def ProviderCredentials.new (username password : String) : Except String ProviderCredentials :=
  if husername : trim username ≠ "" then
    if hpassword : password ≠ "" then
      if hbounded : username.utf8ByteSize + password.utf8ByteSize ≤
          providerSecretMaxPlaintextBytes then
        .ok ⟨username, password, husername, hpassword, hbounded⟩
      else .error "provider credentials exceed the maximum supported size"
    else .error "provider password must not be empty"
  else .error "provider username must not be empty"

def providerSecretAad (version : Nat) (keyId secretId providerType : String) : ByteArray :=
  ("jellyrin:provider-secret:" ++ toString version ++ ":" ++ keyId ++ ":" ++ providerType ++ ":" ++
    secretId).toUTF8

def ProviderCredentials.toJson (credentials : ProviderCredentials) : Json :=
  .object [("password", .string credentials.password), ("username", .string credentials.username)]

def context {α : Type} (message : String) : Option α → Except String α
  | none => .error message
  | some value => .ok value

section Vault

variable {Ciphertext : Type} (aead : Aead Ciphertext) (codec : JsonCodec)

def ProviderSecretVault.sealCredentials (vault : ProviderSecretVault) (nonce : Nonce)
    (secretId providerType : String) (credentials : ProviderCredentials) :
    Except String (ProviderSecretEnvelope Ciphertext) := do
  let secretId ← validateSecretComponent "secret id" secretId
  let providerType ← validateSecretComponent "provider type" providerType
  let keyId := vault.activeKeyId
  let key ← context "active provider secret key is unavailable" (vault.keys.lookup keyId)
  let aad := providerSecretAad providerSecretEnvelopeVersion keyId secretId providerType
  let plaintext := codec.toVec credentials.toJson
  if plaintext.size ≤ providerSecretMaxPlaintextBytes then
    .ok
      { version := providerSecretEnvelopeVersion
        keyId
        nonce
        ciphertext := aead.sealInPlace key nonce aad plaintext }
  else .error "provider credentials exceed the maximum supported size"

def ProviderSecretVault.openEnvelope (vault : ProviderSecretVault) (secretId providerType : String)
    (envelope : ProviderSecretEnvelope Ciphertext) : Except String ProviderCredentials := do
  if envelope.version ≠ providerSecretEnvelopeVersion then
    .error "unsupported provider secret envelope version"
  else
    let secretId ← validateSecretComponent "secret id" secretId
    let providerType ← validateSecretComponent "provider type" providerType
    let key ← context "provider secret key id is unavailable" (vault.keys.lookup envelope.keyId)
    let aad := providerSecretAad envelope.version envelope.keyId secretId providerType
    let opened ← context "provider secret authentication failed"
      (aead.openInPlace key envelope.nonce aad envelope.ciphertext)
    let payload ← context "decrypted provider credentials are invalid" (codec.fromSlice opened)
    let username ← context "decrypted provider username is unavailable"
      ((payload.get "username").bind asStr)
    let password ← context "decrypted provider password is unavailable"
      ((payload.get "password").bind asStr)
    ProviderCredentials.new username password

end Vault

end Jellyrin.Secrets

/-! What a vault seals is opened for the same secret of the same provider. -/

namespace Jellyrin.Secrets

open Ascii Json Text

theorem context_eq_ok_iff {α : Type} {message : String} {value : Option α} {a : α} :
    context message value = .ok a ↔ value = some a := by
  cases value <;> simp [context]

/-! The components of an identity. -/

def normalized (value : String) : String := toAsciiLowercase (trim value)

theorem toLower_eq_colon_iff (c : Char) : c.toLower = ':' ↔ c = ':' := by
  by_cases h : 'A'.val ≤ c.val ∧ c.val ≤ 'Z'.val
  · have hrange : 65 ≤ c.toNat ∧ c.toNat ≤ 90 := h
    have hcolon : ':'.toNat = 58 := rfl
    constructor
    · intro heq
      have hlower := toNat_toLower h
      rw [heq] at hlower
      omega
    · rintro rfl
      omega
  · rw [toLower_eq_self h]

theorem colon_mem_toAsciiLowercase_iff (s : String) :
    ':' ∈ (toAsciiLowercase s).toList ↔ ':' ∈ s.toList := by
  simp [toAsciiLowercase, toLower_eq_colon_iff]

theorem any_isControl_toAsciiLowercase (s : String) :
    (toAsciiLowercase s).toList.any isControl = s.toList.any isControl := by
  simp [toAsciiLowercase, List.any_map, Function.comp_def, isControl_toLower]

theorem toAsciiLowercase_eq_empty_iff (s : String) : toAsciiLowercase s = "" ↔ s = "" := by
  rw [← String.utf8ByteSize_eq_zero_iff, utf8ByteSize_toAsciiLowercase,
    String.utf8ByteSize_eq_zero_iff]

theorem validateSecretComponent_eq (name value : String) :
    validateSecretComponent name value =
      if normalized value ≠ "" ∧ (normalized value).utf8ByteSize ≤ 512 ∧
          (normalized value).toList.any isControl = false ∧ ':' ∉ (normalized value).toList then
        .ok (normalized value)
      else .error ("provider " ++ name ++ " is invalid") := by
  simp only [normalized, ne_eq, toAsciiLowercase_eq_empty_iff, utf8ByteSize_toAsciiLowercase,
    any_isControl_toAsciiLowercase, colon_mem_toAsciiLowercase_iff]
  rfl

theorem validateSecretComponent_congr (name : String) {value other : String}
    (h : normalized value = normalized other) :
    validateSecretComponent name value = validateSecretComponent name other := by
  rw [validateSecretComponent_eq, validateSecretComponent_eq, h]

theorem validateSecretComponent_eq_ok {name value valid : String}
    (h : validateSecretComponent name value = .ok valid) :
    valid = normalized value ∧ ':' ∉ valid.toList := by
  rw [validateSecretComponent_eq] at h
  split at h
  · rename_i hvalid
    have heq := Except.ok.inj h
    exact ⟨heq.symm, heq ▸ hvalid.2.2.2⟩
  · nomatch h

theorem providerSecretAad_inj {version : Nat} {keyId secretId secretId' providerType
    providerType' : String} (hprovider : ':' ∉ providerType.toList)
    (hprovider' : ':' ∉ providerType'.toList)
    (h : providerSecretAad version keyId secretId providerType =
      providerSecretAad version keyId secretId' providerType') :
    secretId = secretId' ∧ providerType = providerType' := by
  simp only [providerSecretAad, String.toUTF8_eq_toByteArray, String.toByteArray_inj,
    ← String.toList_inj, String.toList_append, List.append_assoc, List.append_cancel_left_eq] at h
  have hcolon : ":".toList = [':'] := by decide
  rw [hcolon, List.singleton_append, List.singleton_append] at h
  have hsame := eq_of_append_cons hprovider hprovider' h
  rw [hsame] at h
  have hrest := List.cons_inj_right _ |>.mp (List.append_cancel_left h)
  exact ⟨String.toList_inj.mp hrest, String.toList_inj.mp hsame⟩

/-! The credentials. -/

theorem ProviderCredentials.new_eq_ok (credentials : ProviderCredentials) :
    ProviderCredentials.new credentials.username credentials.password = .ok credentials := by
  rw [new, dif_pos credentials.hasUsername, dif_pos credentials.hasPassword,
    dif_pos credentials.bounded]

theorem ProviderCredentials.get_toJson (credentials : ProviderCredentials) :
    (credentials.toJson.get "username").bind asStr = some credentials.username ∧
      (credentials.toJson.get "password").bind asStr = some credentials.password :=
  ⟨rfl, rfl⟩

variable {Ciphertext : Type} {aead : Aead Ciphertext} {codec : JsonCodec}
  {vault : ProviderSecretVault} {nonce : Nonce} {secretId providerType : String}
  {credentials : ProviderCredentials} {envelope : ProviderSecretEnvelope Ciphertext}

theorem sealCredentials_eq_ok
    (h : vault.sealCredentials aead codec nonce secretId providerType credentials =
      .ok envelope) :
    ∃ key, validateSecretComponent "secret id" secretId = .ok (normalized secretId) ∧
      validateSecretComponent "provider type" providerType = .ok (normalized providerType) ∧
      vault.keys.lookup vault.activeKeyId = some key ∧
      envelope.version = providerSecretEnvelopeVersion ∧ envelope.keyId = vault.activeKeyId ∧
      envelope.ciphertext = aead.sealInPlace key envelope.nonce
        (providerSecretAad envelope.version envelope.keyId (normalized secretId)
          (normalized providerType)) (codec.toVec credentials.toJson) := by
  obtain ⟨id, hid, h⟩ := exists_of_bind_eq_ok h
  obtain ⟨provider, hprovider, h⟩ := exists_of_bind_eq_ok h
  obtain ⟨key, hkey, h⟩ := exists_of_bind_eq_ok h
  obtain ⟨rfl, -⟩ := validateSecretComponent_eq_ok hid
  obtain ⟨rfl, -⟩ := validateSecretComponent_eq_ok hprovider
  dsimp only at h
  split at h
  · cases h
    exact ⟨key, hid, hprovider, context_eq_ok_iff.mp hkey, rfl, rfl, rfl⟩
  · nomatch h

theorem openEnvelope_eq_ok {opened : ProviderCredentials}
    (h : vault.openEnvelope aead codec secretId providerType envelope = .ok opened) :
    ∃ key plaintext, validateSecretComponent "secret id" secretId = .ok (normalized secretId) ∧
      validateSecretComponent "provider type" providerType = .ok (normalized providerType) ∧
      vault.keys.lookup envelope.keyId = some key ∧
      envelope.ciphertext = aead.sealInPlace key envelope.nonce
        (providerSecretAad envelope.version envelope.keyId (normalized secretId)
          (normalized providerType)) plaintext := by
  rw [ProviderSecretVault.openEnvelope] at h
  split at h
  · nomatch h
  · obtain ⟨id, hid, h⟩ := exists_of_bind_eq_ok h
    obtain ⟨provider, hprovider, h⟩ := exists_of_bind_eq_ok h
    obtain ⟨key, hkey, h⟩ := exists_of_bind_eq_ok h
    obtain ⟨plaintext, hplaintext, -⟩ := exists_of_bind_eq_ok h
    obtain ⟨rfl, -⟩ := validateSecretComponent_eq_ok hid
    obtain ⟨rfl, -⟩ := validateSecretComponent_eq_ok hprovider
    exact ⟨key, plaintext, hid, hprovider, context_eq_ok_iff.mp hkey,
      aead.openInPlace_eq_some_iff.mp (context_eq_ok_iff.mp hplaintext)⟩

def SealedFor (vault reader : ProviderSecretVault) (envelope : ProviderSecretEnvelope Ciphertext)
    (secretId providerType secretId' providerType' : String) : Prop :=
  reader.keys.lookup envelope.keyId = vault.keys.lookup envelope.keyId ∧
    normalized secretId' = normalized secretId ∧
    normalized providerType' = normalized providerType

theorem open_of_sealedFor {reader : ProviderSecretVault} {secretId' providerType' : String}
    (h : vault.sealCredentials aead codec nonce secretId providerType credentials = .ok envelope)
    (hpayload : codec.fromSlice (codec.toVec credentials.toJson) = some credentials.toJson)
    (hsealed : SealedFor vault reader envelope secretId providerType secretId' providerType') :
    reader.openEnvelope aead codec secretId' providerType' envelope = .ok credentials := by
  obtain ⟨key, hid, hprovider, hkey, hversion, hkeyId, hciphertext⟩ := sealCredentials_eq_ok h
  obtain ⟨hkeys, hsecret, hsameProvider⟩ := hsealed
  have hlookup : reader.keys.lookup envelope.keyId = some key := by rw [hkeys, hkeyId, hkey]
  have hplaintext := aead.openInPlace_eq_some_iff.mpr hciphertext
  obtain ⟨husername, hpassword⟩ := credentials.get_toJson
  rw [ProviderSecretVault.openEnvelope, if_neg (not_not_intro hversion),
    validateSecretComponent_congr _ hsecret, hid, validateSecretComponent_congr _ hsameProvider,
    hprovider]
  simp [context, hlookup, hplaintext, hpayload, husername, hpassword, bind, Except.bind,
    ProviderCredentials.new_eq_ok]

/-- A sealed envelope yields its credentials to a vault with the same key for the same secret of the
same provider, and nothing to any other. -/
theorem open_of_sealed_iff {reader : ProviderSecretVault} {secretId' providerType' : String}
    (h : vault.sealCredentials aead codec nonce secretId providerType credentials = .ok envelope)
    (hpayload : codec.fromSlice (codec.toVec credentials.toJson) = some credentials.toJson) :
    (reader.openEnvelope aead codec secretId' providerType' envelope = .ok credentials ↔
      SealedFor vault reader envelope secretId providerType secretId' providerType') ∧
    (¬SealedFor vault reader envelope secretId providerType secretId' providerType' →
      ∃ message, reader.openEnvelope aead codec secretId' providerType' envelope =
        .error message) := by
  obtain ⟨key, hid, hprovider, hkey, hversion, hkeyId, hciphertext⟩ := sealCredentials_eq_ok h
  have hopened : ∀ {opened}, reader.openEnvelope aead codec secretId' providerType' envelope =
      .ok opened → SealedFor vault reader envelope secretId providerType secretId' providerType' := by
    intro opened hopen
    obtain ⟨key', plaintext, hid', hprovider', hkey', hciphertext'⟩ := openEnvelope_eq_ok hopen
    obtain ⟨rfl, -, haad⟩ := aead.sealInPlace_inj (hciphertext.symm.trans hciphertext')
    obtain ⟨hsecret, hsameProvider⟩ := providerSecretAad_inj
      (validateSecretComponent_eq_ok hprovider).2 (validateSecretComponent_eq_ok hprovider').2 haad
    exact ⟨by rw [hkey', hkeyId, hkey], hsecret.symm, hsameProvider.symm⟩
  refine ⟨⟨hopened, open_of_sealedFor h hpayload⟩, ?_⟩
  intro hsealed
  cases hopen : reader.openEnvelope aead codec secretId' providerType' envelope with
  | error message => exact ⟨message, rfl⟩
  | ok opened => exact absurd (hopened hopen) hsealed

def primaryVault : ProviderSecretVault where
  activeKeyId := "primary"
  keys := AList.insert "primary" ⟨List.replicate 32 0x33, by decide⟩ ∅
  active := (AList.mem_insert _).mpr (.inl rfl)

def aliceCredentials : ProviderCredentials where
  username := "alice"
  password := "secret"
  hasUsername := by decide
  hasPassword := by decide
  bounded := by decide

def alicePayload : ByteArray := "\x7b\"password\":\"secret\",\"username\":\"alice\"\x7d".toUTF8

def aliceCodec : JsonCodec where
  toVec value := if value = aliceCredentials.toJson then alicePayload else ByteArray.empty
  fromSlice text := if text = alicePayload then some aliceCredentials.toJson else none

theorem open_alice_secret :
    ∃ envelope, primaryVault.sealCredentials recordAead aliceCodec 7 "secret-1" "xtream"
        aliceCredentials = .ok envelope ∧
      primaryVault.openEnvelope recordAead aliceCodec " Secret-1" "XTREAM" envelope =
        .ok aliceCredentials ∧
      ∃ message, primaryVault.openEnvelope recordAead aliceCodec "secret-2" "xtream" envelope =
        .error message := by
  have hpayload : aliceCodec.fromSlice (aliceCodec.toVec aliceCredentials.toJson) =
      some aliceCredentials.toJson := by
    simp [aliceCodec]
  have hsealed : ∃ envelope, primaryVault.sealCredentials recordAead aliceCodec 7 "secret-1"
      "xtream" aliceCredentials = .ok envelope :=
    ⟨_, rfl⟩
  obtain ⟨envelope, henvelope⟩ := hsealed
  refine ⟨envelope, henvelope, (open_of_sealed_iff henvelope hpayload).1.mpr ⟨rfl, ?_, ?_⟩,
    (open_of_sealed_iff henvelope hpayload).2 ?_⟩
  · decide
  · decide
  · intro hsealedFor
    exact absurd hsealedFor.2.1 (by decide)

end Jellyrin.Secrets
