import Jellyrin.Defs.Data.SortOn
import Jellyrin.Defs.Data.Text
import Jellyrin.Defs.Secrets.Namespace
import Mathlib.Data.List.Dedup

/-! The key under which a page of a folder's series is shared between users. -/

namespace Jellyrin.CatalogCache

def cacheNamespace : String := "jellyrin:catalog:v2"

structure ListingPage where
  virtualFolderId : Option Uuid
  startIndex : Nat
  limit : Nat
  includeTotal : Bool
  nameFilter : String
  visibilityScope : Option (List String)
  deriving DecidableEq

namespace ListingPage

def sortedScope (scope : List String) : List String := (sortOn (fun tuner => tuner) scope).dedup

def digestInput (page : ListingPage) : List UInt8 :=
  asBytes page.nameFilter ++ [0] ++
    match page.visibilityScope with
    | none => asBytes "all"
    | some scope => (sortedScope scope).flatMap fun tuner => asBytes tuner ++ [0]

def folderText (page : ListingPage) : String := page.virtualFolderId.elim "all" Uuid.simple

end ListingPage

variable (sha256 : List UInt8 → BitVec 256)

def tvSeriesListingCacheKey (page : ListingPage) : String :=
  cacheNamespace ++ ":tv-series-page:" ++ page.folderText ++ ":" ++ toString page.startIndex ++
    ":" ++ toString page.limit ++ ":" ++ toString page.includeTotal ++ ":" ++
    Secrets.hexDigits (sha256 page.digestInput)

namespace ListingPage

def SameScope : Option (List String) → Option (List String) → Prop
  | none, none => True
  | some scope, some scope' => ∀ tuner, tuner ∈ scope ↔ tuner ∈ scope'
  | _, _ => False

structure Same (page other : ListingPage) : Prop where
  virtualFolderId : page.virtualFolderId = other.virtualFolderId
  startIndex : page.startIndex = other.startIndex
  limit : page.limit = other.limit
  includeTotal : page.includeTotal = other.includeTotal
  nameFilter : page.nameFilter = other.nameFilter
  visibilityScope : SameScope page.visibilityScope other.visibilityScope

def texts (page : ListingPage) : List String :=
  page.nameFilter :: match page.visibilityScope with
    | none => ["all"]
    | some scope => sortedScope scope ++ [""]

def pieces (page : ListingPage) : List (List Char) :=
  Separated.pieces '\x00' (page.texts.map String.toList)

structure Shifted (page other : ListingPage) : Prop where
  virtualFolderId : page.virtualFolderId = other.virtualFolderId
  startIndex : page.startIndex = other.startIndex
  limit : page.limit = other.limit
  includeTotal : page.includeTotal = other.includeTotal
  pieces : page.pieces = other.pieces
  texts : page.texts ≠ other.texts

theorem mem_sortedScope {scope : List String} {tuner : String} :
    tuner ∈ sortedScope scope ↔ tuner ∈ scope := by
  rw [sortedScope, List.mem_dedup, mem_sortOn]

theorem sortedScope_eq_iff {scope scope' : List String} :
    sortedScope scope = sortedScope scope' ↔ ∀ tuner, tuner ∈ scope ↔ tuner ∈ scope' := by
  constructor
  · intro h tuner
    rw [← mem_sortedScope, h, mem_sortedScope]
  · intro h
    have hsorted : ∀ scope : List String, (sortedScope scope).Pairwise (· ≤ ·) := fun scope =>
      (pairwise_sortOn (fun tuner => tuner) scope).sublist (List.dedup_sublist _)
    have hperm : (sortedScope scope).Perm (sortedScope scope') := by
      refine (List.perm_ext_iff_of_nodup (List.nodup_dedup _) (List.nodup_dedup _)).mpr ?_
      intro tuner
      exact (mem_sortedScope.trans (h tuner)).trans mem_sortedScope.symm
    exact hperm.eq_of_pairwise (fun _ _ _ _ => le_antisymm) (hsorted scope) (hsorted scope')

theorem texts_eq_iff {page other : ListingPage} :
    page.texts = other.texts ↔ page.nameFilter = other.nameFilter ∧
      SameScope page.visibilityScope other.visibilityScope := by
  simp only [texts, List.cons.injEq]
  refine and_congr_right fun _ => ?_
  cases page.visibilityScope with
  | none =>
    cases other.visibilityScope with
    | none => simp [SameScope]
    | some scope' =>
      refine iff_of_false (fun h => ?_) id
      have hlast := congrArg List.getLast? h
      simp at hlast
  | some scope =>
    cases other.visibilityScope with
    | none =>
      refine iff_of_false (fun h => ?_) id
      have hlast := congrArg List.getLast? h
      simp at hlast
    | some scope' => rw [List.append_left_inj, sortedScope_eq_iff, SameScope]

theorem digestInput_eq (page : ListingPage) :
    page.digestInput = asBytes ("\x00".intercalate page.texts) := by
  have hscope : ∀ tuners : List String, asBytes ("\x00".intercalate (tuners ++ [""])) =
      tuners.flatMap fun tuner => asBytes tuner ++ [0] := by
    intro tuners
    induction tuners with
    | nil => rfl
    | cons tuner tuners ih =>
      rw [List.cons_append, String.intercalate_cons_of_ne_nil (by simp), asBytes_append,
        asBytes_append, ih]
      rfl
  simp only [digestInput, texts]
  cases page.visibilityScope with
  | none =>
    rw [String.intercalate_cons_cons, String.intercalate_singleton, asBytes_append, asBytes_append]
    rfl
  | some scope =>
    rw [String.intercalate_cons_of_ne_nil (by simp), asBytes_append, asBytes_append]
    simp only [hscope]
    rfl

theorem digestInput_eq_iff {page other : ListingPage} :
    page.digestInput = other.digestInput ↔ page.pieces = other.pieces := by
  have hlist : ∀ page : ListingPage, ("\x00".intercalate page.texts).toList =
      ['\x00'].intercalate (page.texts.map String.toList) := by
    intro page
    rw [String.toList_intercalate]
    rfl
  have hne : ∀ page : ListingPage, page.texts.map String.toList ≠ [] := by simp [texts]
  rw [digestInput_eq, digestInput_eq, asBytes_inj, ← String.toList_inj, hlist, hlist,
    Separated.intercalate_eq_iff '\x00' (hne page) (hne other)]
  rfl

/-! The fields of a key. -/

def keyFields (page : ListingPage) : List String :=
  ["jellyrin", "catalog", "v2", "tv-series-page", page.folderText, toString page.startIndex,
    toString page.limit, toString page.includeTotal, Secrets.hexDigits (sha256 page.digestInput)]

theorem tvSeriesListingCacheKey_eq (page : ListingPage) :
    tvSeriesListingCacheKey sha256 page = ":".intercalate (page.keyFields sha256) := by
  have hstart : cacheNamespace ++ ":tv-series-page:" =
      "jellyrin" ++ ":" ++ ("catalog" ++ ":" ++ ("v2" ++ ":" ++ ("tv-series-page" ++ ":"))) := by
    decide
  rw [tvSeriesListingCacheKey, hstart]
  simp only [keyFields, String.intercalate_cons_cons, String.intercalate_singleton,
    String.append_assoc]

theorem notMem_folderText (page : ListingPage) : ':' ∉ page.folderText.toList := by
  rw [folderText]
  cases page.virtualFolderId with
  | none => decide
  | some id =>
    intro hmem
    obtain hdigit | hletter := Uuid.mem_simple hmem
    · exact absurd hdigit (by decide)
    · exact absurd hletter (by decide)

theorem notMem_toString_nat (n : Nat) : ':' ∉ (toString n).toList := fun hmem =>
  absurd (Text.isDigit_of_mem_toString hmem) (by decide)

theorem notMem_hexDigits (hash : BitVec 256) : ':' ∉ (Secrets.hexDigits hash).toList := fun hmem =>
  absurd (Secrets.mem_hexDigits hmem).1 (by decide)

theorem notMem_keyFields (page : ListingPage) :
    ∀ field ∈ (page.keyFields sha256).map String.toList, ':' ∉ field := by
  simp only [keyFields, List.map_cons, List.map_nil, List.forall_mem_cons]
  refine ⟨by decide, by decide, by decide, by decide, page.notMem_folderText,
    notMem_toString_nat _, notMem_toString_nat _, ?_, notMem_hexDigits _, by simp⟩
  cases page.includeTotal <;> decide

theorem folderText_inj {page other : ListingPage} :
    page.folderText = other.folderText ↔ page.virtualFolderId = other.virtualFolderId := by
  have hlength : ∀ id : Uuid, id.simple ≠ "all" := by
    intro id hall
    have hmem : 'l' ∈ id.simple.toList := by
      rw [hall]
      decide
    obtain hdigit | hletter := Uuid.mem_simple hmem
    · exact absurd hdigit (by decide)
    · exact absurd hletter (by decide)
  simp only [folderText]
  cases page.virtualFolderId with
  | none =>
    cases other.virtualFolderId with
    | none => simp
    | some id => simpa using (hlength id).symm
  | some id =>
    cases other.virtualFolderId with
    | none => simpa using hlength id
    | some id' => simpa using ⟨Uuid.simple_injective, fun h => congrArg Uuid.simple h⟩

theorem tvSeriesListingCacheKey_eq_iff {page other : ListingPage} :
    tvSeriesListingCacheKey sha256 page = tvSeriesListingCacheKey sha256 other ↔
      page.virtualFolderId = other.virtualFolderId ∧ page.startIndex = other.startIndex ∧
        page.limit = other.limit ∧ page.includeTotal = other.includeTotal ∧
          sha256 page.digestInput = sha256 other.digestInput := by
  have hlist : ∀ page : ListingPage, (tvSeriesListingCacheKey sha256 page).toList =
      [':'].intercalate ((page.keyFields sha256).map String.toList) := by
    intro page
    rw [tvSeriesListingCacheKey_eq, String.toList_intercalate]
    rfl
  have hne : ∀ page : ListingPage, (page.keyFields sha256).map String.toList ≠ [] := by
    simp [keyFields]
  constructor
  · intro h
    have hfields := Separated.eq_of_intercalate_eq ':' (hne page) (hne other)
      (page.notMem_keyFields sha256) (other.notMem_keyFields sha256)
      ((hlist page).symm.trans ((congrArg String.toList h).trans (hlist other)))
    have hfields := List.map_injective_iff.mpr (fun _ _ => String.toList_inj.mp) hfields
    simp only [keyFields, List.cons.injEq, true_and, and_true] at hfields
    obtain ⟨hfolder, hstart, hlimit, htotal, hhash⟩ := hfields
    refine ⟨folderText_inj.mp hfolder, Text.toString_injective hstart,
      Text.toString_injective hlimit, ?_, Secrets.hexDigits_injective hhash⟩
    cases hpage : page.includeTotal <;> cases hother : other.includeTotal <;>
      simp_all [toString]
  · rintro ⟨hfolder, hstart, hlimit, htotal, hhash⟩
    rw [tvSeriesListingCacheKey_eq, tvSeriesListingCacheKey_eq, keyFields, keyFields,
      folderText_inj.mpr hfolder, hstart, hlimit, htotal, hhash]

/-- Where two hashes tell the hashed texts apart, a key is that of one page exactly if no NUL
characters shift what is filtered and who sees it. -/
theorem same_of_key_iff (page other : ListingPage)
    (hfree : sha256 page.digestInput = sha256 other.digestInput →
      page.digestInput = other.digestInput) :
    (tvSeriesListingCacheKey sha256 page = tvSeriesListingCacheKey sha256 other →
      page.Same other) ↔ ¬page.Shifted other := by
  have hhash : sha256 page.digestInput = sha256 other.digestInput ↔ page.pieces = other.pieces :=
    ⟨fun h => digestInput_eq_iff.mp (hfree h), fun h => congrArg sha256 (digestInput_eq_iff.mpr h)⟩
  rw [tvSeriesListingCacheKey_eq_iff, hhash]
  constructor
  · intro h hshifted
    have hsame := h ⟨hshifted.virtualFolderId, hshifted.startIndex, hshifted.limit,
      hshifted.includeTotal, hshifted.pieces⟩
    exact hshifted.texts (texts_eq_iff.mpr ⟨hsame.nameFilter, hsame.visibilityScope⟩)
  · rintro h ⟨hfolder, hstart, hlimit, htotal, hpieces⟩
    have htexts : page.texts = other.texts := by
      by_contra hne
      exact h ⟨hfolder, hstart, hlimit, htotal, hpieces, hne⟩
    obtain ⟨hfilter, hscope⟩ := texts_eq_iff.mp htexts
    exact ⟨hfolder, hstart, hlimit, htotal, hfilter, hscope⟩

theorem same_of_sorted_scope :
    (ListingPage.mk none 0 25 true "x" (some ["b", "a", "b"])).Same
      (.mk none 0 25 true "x" (some ["a", "b"])) := by
  refine (same_of_key_iff (fun bytes => .ofNat 256 bytes.length) _ _ fun _ => by decide).mpr
    ?_ (by decide)
  exact fun hshifted => hshifted.texts (by decide)

theorem filter_shifts_scope :
    ¬∀ (sha256 : List UInt8 → BitVec 256) (page other : ListingPage),
      (sha256 page.digestInput = sha256 other.digestInput →
        page.digestInput = other.digestInput) →
      tvSeriesListingCacheKey sha256 page = tvSeriesListingCacheKey sha256 other →
        page.Same other := by
  intro h
  have hinput : (ListingPage.mk (some 7) 0 25 true "\x1f\x1f\x1fx\x00y" (some [])).digestInput =
      (ListingPage.mk (some 7) 0 25 true "\x1f\x1f\x1fx" (some ["y"])).digestInput := by
    decide
  have hsame := h (fun bytes => .ofNat 256 bytes.length) _ _ (fun _ => hinput)
    ((tvSeriesListingCacheKey_eq_iff _).mpr
      ⟨rfl, rfl, rfl, rfl, congrArg (fun bytes => BitVec.ofNat 256 bytes.length) hinput⟩)
  exact absurd hsame.nameFilter (by decide)

end ListingPage

end Jellyrin.CatalogCache
