import Jellyrin.Defs.Data.JsonObject
import Jellyrin.Defs.Secrets.Vault

/-! The keyring document from which a vault is loaded. -/

namespace Jellyrin.Secrets

open Json

structure KeyringFormats where
  fromStr : String → Option Json
  decode : String → Option (List UInt8)

namespace KeyringFormats

variable (fmt : KeyringFormats)

def fromBase64 (activeKeyId encodedKey : String) : Except String ProviderSecretVault := do
  let key ← context "provider secret key must be valid standard base64"
    (fmt.decode (trim encodedKey))
  ProviderSecretVault.new activeKeyId key

def addDecryptionKeys (activeKeyId : String) :
    List (String × Json) → ProviderSecretVault → Except String ProviderSecretVault
  | [], vault => .ok vault
  | (keyId, encodedKey) :: keys, vault =>
    if keyId = activeKeyId then addDecryptionKeys activeKeyId keys vault
    else do
      let encodedKey ← context "provider secret keyring values must be base64 strings"
        encodedKey.asStr
      let key ← context "provider secret keyring contains invalid base64"
        (fmt.decode (trim encodedKey))
      let vault ← vault.withDecryptionKey keyId key
      addDecryptionKeys activeKeyId keys vault

def fromKeyringJson (payload : String) : Except String ProviderSecretVault := do
  let document ← context "provider secret keyring must be valid JSON" (fmt.fromStr payload)
  let activeKeyId ← context "provider secret keyring active_key_id is required"
    ((document.get "active_key_id").bind asStr)
  let keys ← context "provider secret keyring keys object is required"
    ((document.get "keys").bind asObject)
  if keys ≠ [] ∧ keys.length ≤ 32 then
    let activeEncoded ← context "provider secret keyring active key is unavailable"
      (((Json.object keys).get activeKeyId).bind asStr)
    let vault ← fmt.fromBase64 activeKeyId activeEncoded
    fmt.addDecryptionKeys activeKeyId keys vault
  else .error "provider secret keyring must contain between 1 and 32 keys"

end KeyringFormats

/-! What a vault keeps of the keyring from which it is loaded. -/

open Json

/-! The parts of a keyring. -/

theorem validateKeyId_eq_ok {value keyId : String} (h : validateKeyId value = .ok keyId) :
    keyId = trim value := by
  rw [validateKeyId] at h
  split at h
  · exact (Except.ok.inj h).symm
  · nomatch h

namespace KeyringFormats

variable {fmt : KeyringFormats} {activeKeyId keyId encoded : String}
  {vault loaded : ProviderSecretVault}

def secretKey (fmt : KeyringFormats) (encoded : String) : Except String SecretKey := do
  let key ← context "provider secret keyring contains invalid base64" (fmt.decode (trim encoded))
  validateKey key

theorem mem_insert_key (keyId : String) (key : SecretKey) :
    keyId ∈ AList.insert keyId key (∅ : AList fun _ : String => SecretKey) :=
  (AList.mem_insert _).mpr (.inl rfl)

def single (keyId : String) (key : SecretKey) : ProviderSecretVault where
  activeKeyId := keyId
  keys := AList.insert keyId key ∅
  active := mem_insert_key keyId key

theorem fromBase64_eq_ok (h : fmt.fromBase64 keyId encoded = .ok vault) :
    ∃ key, validateKeyId keyId = .ok (trim keyId) ∧ fmt.secretKey encoded = .ok key ∧
      vault = single (trim keyId) key := by
  obtain ⟨bytes, hbytes, h⟩ := exists_of_bind_eq_ok h
  obtain ⟨id, hid, h⟩ := exists_of_bind_eq_ok h
  obtain ⟨key, hkey, h⟩ := exists_of_bind_eq_ok h
  obtain rfl := validateKeyId_eq_ok hid
  refine ⟨key, hid, ?_, (Except.ok.inj h).symm⟩
  rw [secretKey, context_eq_ok_iff.mpr (context_eq_ok_iff.mp hbytes), ok_bind, hkey]

theorem fromBase64_of_secretKey {key : SecretKey} (hid : validateKeyId keyId = .ok (trim keyId))
    (hkey : fmt.secretKey encoded = .ok key) :
    fmt.fromBase64 keyId encoded = .ok (single (trim keyId) key) := by
  obtain ⟨bytes, hbytes, hkey⟩ := exists_of_bind_eq_ok hkey
  rw [fromBase64, context_eq_ok_iff.mpr (context_eq_ok_iff.mp hbytes), ok_bind,
    ProviderSecretVault.new, hid, ok_bind, hkey, ok_bind]
  rfl

structure IsKept (fmt : KeyringFormats) (entry : String × Json) (kept : String × SecretKey) :
    Prop where
  valid : validateKeyId entry.1 = .ok (trim entry.1)
  name : kept.1 = trim entry.1
  key : ∃ encoded, entry.2 = .string encoded ∧ fmt.secretKey encoded = .ok kept.2

theorem addDecryptionKeys_eq_ok {keys : List (String × Json)}
    (h : fmt.addDecryptionKeys activeKeyId keys vault = .ok loaded) :
    ∃ kept, List.Forall₂ fmt.IsKept (keys.filter fun entry => entry.1 ≠ activeKeyId) kept ∧
      loaded.activeKeyId = vault.activeKeyId ∧
      loaded.keys = HashMap.insertAll kept vault.keys := by
  induction keys generalizing vault with
  | nil =>
    obtain rfl := Except.ok.inj h
    exact ⟨[], .nil, rfl, rfl⟩
  | cons entry keys ih =>
    obtain ⟨keyId, value⟩ := entry
    rw [addDecryptionKeys] at h
    split at h
    · rename_i hactive
      rw [List.filter_cons_of_neg (by simp [hactive])]
      exact ih h
    · rename_i hactive
      obtain ⟨encoded, hencoded, h⟩ := exists_of_bind_eq_ok h
      obtain ⟨bytes, hbytes, h⟩ := exists_of_bind_eq_ok h
      obtain ⟨next, hnext, h⟩ := exists_of_bind_eq_ok h
      obtain ⟨id, hid, hnext⟩ := exists_of_bind_eq_ok hnext
      obtain ⟨key, hkey, hnext⟩ := exists_of_bind_eq_ok hnext
      obtain rfl := validateKeyId_eq_ok hid
      obtain rfl := Except.ok.inj hnext
      obtain ⟨kept, hkept, hactiveId, hkeys⟩ := ih h
      rw [List.filter_cons_of_pos (by simpa using hactive)]
      refine ⟨(trim keyId, key) :: kept, .cons ⟨hid, rfl, encoded, ?_, ?_⟩ hkept, hactiveId, hkeys⟩
      · cases value <;> simp_all [context, asStr]
      · rw [secretKey, context_eq_ok_iff.mpr (context_eq_ok_iff.mp hbytes), ok_bind, hkey]

structure Document (fmt : KeyringFormats) (payload activeKeyId : String)
    (keys : List (String × Json)) : Prop where
  parsed : ∃ document, fmt.fromStr payload = some document ∧
    (document.get "active_key_id").bind asStr = some activeKeyId ∧
    (document.get "keys").bind asObject = some keys

variable {payload : String} {keys : List (String × Json)}

theorem fromKeyringJson_eq_ok (hdocument : fmt.Document payload activeKeyId keys)
    (h : fmt.fromKeyringJson payload = .ok vault) :
    ∃ encoded key kept, (Json.object keys).get activeKeyId = some (.string encoded) ∧
      validateKeyId activeKeyId = .ok (trim activeKeyId) ∧ fmt.secretKey encoded = .ok key ∧
      List.Forall₂ fmt.IsKept (keys.filter fun entry => entry.1 ≠ activeKeyId) kept ∧
      vault.activeKeyId = trim activeKeyId ∧
      vault.keys = HashMap.insertAll ((trim activeKeyId, key) :: kept) ∅ := by
  obtain ⟨document, hparsed, hactive, hkeys⟩ := hdocument.parsed
  rw [fromKeyringJson, context_eq_ok_iff.mpr hparsed, ok_bind, context_eq_ok_iff.mpr hactive,
    ok_bind, context_eq_ok_iff.mpr hkeys, ok_bind] at h
  split at h
  · obtain ⟨encoded, hencoded, h⟩ := exists_of_bind_eq_ok h
    obtain ⟨start, hstart, h⟩ := exists_of_bind_eq_ok h
    obtain ⟨key, hid, hkey, rfl⟩ := fromBase64_eq_ok hstart
    obtain ⟨kept, hkept, hactiveId, hloaded⟩ := addDecryptionKeys_eq_ok h
    obtain ⟨value, hget, hvalue⟩ := Option.bind_eq_some_iff.mp (context_eq_ok_iff.mp hencoded)
    have hstring : value = .string encoded := by
      cases value <;> simp_all [asStr]
    exact ⟨encoded, key, kept, by rw [hget, hstring], hid, hkey, hkept, hactiveId, hloaded⟩
  · nomatch h

end KeyringFormats

section Keeps

variable {Ciphertext : Type} (aead : Aead Ciphertext) (codec : JsonCodec) (fmt : KeyringFormats)

/-- The vault seals with the key of the active entry, opens what is sealed with the key of any
entry under its trimmed id, and has as many keys as the document. -/
structure KeepsKeyring (activeKeyId : String) (keys : List (String × Json))
    (vault : ProviderSecretVault) : Prop where
  active : ∃ encoded writer, (Json.object keys).get activeKeyId = some (.string encoded) ∧
    fmt.fromBase64 activeKeyId encoded = .ok writer ∧
    ∀ nonce secretId providerType credentials,
      vault.sealCredentials aead codec nonce secretId providerType credentials =
        writer.sealCredentials aead codec nonce secretId providerType credentials
  opens : ∀ entry ∈ keys, ∃ encoded writer, entry.2 = .string encoded ∧
    fmt.fromBase64 entry.1 encoded = .ok writer ∧ writer.activeKeyId = trim entry.1 ∧
    ∀ nonce secretId providerType credentials envelope,
      codec.fromSlice (codec.toVec credentials.toJson) = some credentials.toJson →
      writer.sealCredentials aead codec nonce secretId providerType credentials = .ok envelope →
      vault.openEnvelope aead codec secretId providerType envelope = .ok credentials
  kept : vault.keys.size = keys.length

end Keeps

section Loaded

variable {Ciphertext : Type} {aead : Aead Ciphertext} {codec : JsonCodec} {fmt : KeyringFormats}
  {vault : ProviderSecretVault} {keyId : String} {key : SecretKey}

theorem sealCredentials_of_lookup (hactive : vault.activeKeyId = keyId)
    (hkey : vault.keys.lookup keyId = some key) (nonce : Nonce) (secretId providerType : String)
    (credentials : ProviderCredentials) :
    vault.sealCredentials aead codec nonce secretId providerType credentials =
      (KeyringFormats.single keyId key).sealCredentials aead codec nonce secretId providerType
        credentials := by
  subst hactive
  have hsingle : (KeyringFormats.single vault.activeKeyId key).keys.lookup vault.activeKeyId =
      some key :=
    AList.lookup_insert _
  simp only [ProviderSecretVault.sealCredentials]
  rw [hkey, show (KeyringFormats.single vault.activeKeyId key).activeKeyId = vault.activeKeyId from rfl,
    hsingle]

theorem openEnvelope_of_lookup (hkey : vault.keys.lookup keyId = some key) {nonce : Nonce}
    {secretId providerType : String} {credentials : ProviderCredentials}
    {envelope : ProviderSecretEnvelope Ciphertext}
    (hpayload : codec.fromSlice (codec.toVec credentials.toJson) = some credentials.toJson)
    (h : (KeyringFormats.single keyId key).sealCredentials aead codec nonce secretId providerType
      credentials = .ok envelope) :
    vault.openEnvelope aead codec secretId providerType envelope = .ok credentials := by
  obtain ⟨-, -, -, -, -, hkeyId, -⟩ := sealCredentials_eq_ok h
  apply open_of_sealedFor h hpayload
  refine ⟨?_, rfl, rfl⟩
  have hsingle : (KeyringFormats.single keyId key).keys.lookup keyId = some key :=
    AList.lookup_insert _
  rw [hkeyId, show (KeyringFormats.single keyId key).activeKeyId = keyId from rfl, hkey, hsingle]

theorem exists_kept {keys : List (String × Json)} {kept : List (String × SecretKey)}
    (h : List.Forall₂ fmt.IsKept keys kept) {entry : String × Json} (hentry : entry ∈ keys) :
    ∃ one ∈ kept, fmt.IsKept entry one := by
  induction h with
  | nil => cases hentry
  | cons hfirst _ ih =>
    cases hentry with
    | head => exact ⟨_, List.mem_cons_self, hfirst⟩
    | tail _ hentry =>
      obtain ⟨one, hone, hkept⟩ := ih hentry
      exact ⟨one, List.mem_cons_of_mem _ hone, hkept⟩

theorem map_fst_kept {keys : List (String × Json)} {kept : List (String × SecretKey)}
    (h : List.Forall₂ fmt.IsKept keys kept) :
    kept.map Prod.fst = keys.map fun entry => trim entry.1 := by
  induction h with
  | nil => rfl
  | cons hfirst _ ih => rw [List.map_cons, List.map_cons, ih, hfirst.name]

/-- A vault keeps every entry of its keyring if no two ids differ in surrounding blanks only, and
otherwise loses one. -/
theorem keepsKeyring_iff {payload activeKeyId : String} {keys : List (String × Json)}
    (hdocument : fmt.Document payload activeKeyId keys)
    (h : fmt.fromKeyringJson payload = .ok vault) :
    KeepsKeyring aead codec fmt activeKeyId keys vault ↔
      (keys.map fun entry => trim entry.1).Nodup := by
  obtain ⟨encoded, key, kept, hget, hid, hkey, hkept, hactiveId, hloaded⟩ :=
    KeyringFormats.fromKeyringJson_eq_ok hdocument h
  have hactive : (activeKeyId, Json.string encoded) ∈ keys := mem_of_get hget
  have hnames := map_fst_kept hkept
  have hmem : ∀ name, name ∈ vault.keys ↔ name ∈ keys.map fun entry => trim entry.1 := by
    intro name
    rw [hloaded, HashMap.mem_insertAll_iff, List.map_cons, hnames, List.mem_cons]
    simp only [AList.notMem_empty, or_false, List.mem_map, List.mem_filter, decide_eq_true_eq]
    constructor
    · rintro (rfl | ⟨entry, ⟨hentry, -⟩, rfl⟩)
      · exact ⟨_, hactive, rfl⟩
      · exact ⟨entry, hentry, rfl⟩
    · rintro ⟨entry, hentry, rfl⟩
      by_cases hsame : entry.1 = activeKeyId
      · exact .inl (by rw [hsame])
      · exact .inr ⟨entry, ⟨hentry, hsame⟩, rfl⟩
  have hsize : vault.keys.size = keys.length ↔ (keys.map fun entry => trim entry.1).Nodup := by
    rw [← HashMap.size_eq_length_iff hmem, List.length_map]
  refine ⟨fun hkeeps => hsize.mp hkeeps.kept, fun hnodup => ?_⟩
  -- With distinct trimmed ids, each key that was inserted is still there.
  have hfresh : trim activeKeyId ∉ kept.map Prod.fst := by
    rw [hnames, List.mem_map]
    rintro ⟨entry, hentry, hname⟩
    obtain ⟨hentry, hother⟩ := List.mem_filter.mp hentry
    have hsame := List.inj_on_of_nodup_map hnodup hentry hactive hname
    rw [hsame] at hother
    simp at hother
  have hkeptNodup : (kept.map Prod.fst).Nodup := by
    rw [hnames]
    exact hnodup.sublist (List.filter_sublist.map _)
  have hallNodup : (((trim activeKeyId, key) :: kept).map Prod.fst).Nodup :=
    List.nodup_cons.mpr ⟨hfresh, hkeptNodup⟩
  have hactiveKey : vault.keys.lookup (trim activeKeyId) = some key := by
    rw [hloaded]
    exact HashMap.lookup_insertAll hallNodup List.mem_cons_self
  refine ⟨⟨encoded, _, hget, KeyringFormats.fromBase64_of_secretKey hid hkey, ?_⟩, ?_,
    hsize.mpr hnodup⟩
  · exact sealCredentials_of_lookup hactiveId hactiveKey
  · intro entry hentry
    by_cases hsame : entry.1 = activeKeyId
    · obtain rfl := List.inj_on_of_nodup_map hnodup hentry hactive (by rw [hsame])
      exact ⟨encoded, _, rfl, KeyringFormats.fromBase64_of_secretKey hid hkey, rfl,
        fun _ _ _ _ _ => openEnvelope_of_lookup hactiveKey⟩
    · obtain ⟨one, hone, hvalid, hname, text, htext, hsecret⟩ :=
        exists_kept hkept (List.mem_filter.mpr ⟨hentry, by simpa using hsame⟩)
      have hlookup : vault.keys.lookup (trim entry.1) = some one.2 := by
        rw [hloaded, ← hname]
        exact HashMap.lookup_insertAll hallNodup (List.mem_cons_of_mem _ hone)
      exact ⟨text, _, htext, KeyringFormats.fromBase64_of_secretKey hvalid hsecret, rfl,
        fun _ _ _ _ _ => openEnvelope_of_lookup hlookup⟩

end Loaded

/-! A keyring with the key that was active before. -/

def newKey : String := "VVVVVVVVVVVVVVVVVVVVVVVVVVVVVVVVVVVVVVVVVVU="

def oldKey : String := "REREREREREREREREREREREREREREREREREREREREREQ="

def keyringText (oldId : String) : String :=
  "\x7b\"active_key_id\":\"new\",\"keys\":\x7b\"" ++ oldId ++ "\":\"" ++ oldKey ++
    "\",\"new\":\"" ++ newKey ++ "\"\x7d\x7d"

def keyringKeys (oldId : String) : List (String × Json) :=
  Json.insertField oldId (.string oldKey) [("new", .string newKey)]

def keyringFormats (oldId : String) : KeyringFormats where
  fromStr text :=
    if text = keyringText oldId then
      some (.object [("active_key_id", .string "new"), ("keys", .object (keyringKeys oldId))])
    else none
  decode text :=
    if text = newKey then some (List.replicate 32 0x55)
    else if text = oldKey then some (List.replicate 32 0x44)
    else none

theorem document_keyringText (oldId : String) :
    (keyringFormats oldId).Document (keyringText oldId) "new" (keyringKeys oldId) :=
  ⟨_, if_pos rfl, rfl, rfl⟩

theorem old_key_is_kept :
    ∃ vault, (keyringFormats "old").fromKeyringJson (keyringText "old") = .ok vault ∧
      KeepsKeyring recordAead aliceCodec (keyringFormats "old") "new" (keyringKeys "old") vault := by
  have hloaded : ∃ vault, (keyringFormats "old").fromKeyringJson (keyringText "old") = .ok vault :=
    ⟨_, rfl⟩
  obtain ⟨vault, hvault⟩ := hloaded
  exact ⟨vault, hvault, (keepsKeyring_iff (document_keyringText "old") hvault).mpr
    (by decide)⟩

theorem old_key_replaces_active_key :
    ∃ vault, (keyringFormats " new").fromKeyringJson (keyringText " new") = .ok vault ∧
      vault.keys.lookup "new" = some ⟨List.replicate 32 0x44, rfl⟩ ∧
      ¬KeepsKeyring recordAead aliceCodec (keyringFormats " new") "new" (keyringKeys " new")
        vault := by
  have hloaded : ∃ vault, (keyringFormats " new").fromKeyringJson (keyringText " new") = .ok vault ∧
      vault.keys.lookup "new" = some ⟨List.replicate 32 0x44, rfl⟩ ∧ vault.keys.size = 1 :=
    ⟨_, rfl, rfl, rfl⟩
  obtain ⟨vault, hvault, hkey, hsize⟩ := hloaded
  refine ⟨vault, hvault, hkey, fun hkeeps => ?_⟩
  have hlength := hkeeps.kept
  rw [hsize] at hlength
  exact absurd hlength (by decide)

end Jellyrin.Secrets
