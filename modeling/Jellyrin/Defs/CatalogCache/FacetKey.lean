import Jellyrin.Defs.CatalogCache.ListingKey
import Jellyrin.Defs.Metadata.Facets

/-! The key under which the facets of some folders are kept. -/

namespace Jellyrin

open Uuid

def Uuid.asBytes (id : Uuid) : List UInt8 := (lowDigits 256 16 id.toNat).map UInt8.ofNat

theorem Uuid.length_asBytes (id : Uuid) : (Uuid.asBytes id).length = 16 := by
  rw [Uuid.asBytes, List.length_map, length_lowDigits]

theorem Uuid.asBytes_injective : Function.Injective Uuid.asBytes := by
  intro a b h
  have hbytes : ∀ id : Uuid, (Uuid.asBytes id).map UInt8.toNat = lowDigits 256 16 id.toNat := by
    intro id
    rw [Uuid.asBytes, List.map_map]
    refine (List.map_congr_left fun digit hdigit => ?_).trans (List.map_id _)
    exact Nat.mod_eq_of_lt (lt_of_mem_lowDigits (by decide) hdigit)
  have hsize : (2 : Nat) ^ 128 = 256 ^ 16 := by norm_num
  have hdigits : lowDigits 256 16 a.toNat = lowDigits 256 16 b.toNat := by
    rw [← hbytes, h, hbytes]
  exact BitVec.eq_of_toNat_eq
    (lowDigits_injective (hsize ▸ a.isLt) (hsize ▸ b.isLt) hdigits)

section Blocks

universe u v

variable {α : Type u} {β : Type v} {f : α → List β}

theorem flatMap_append_eq_iff (hlength : ∀ a b, (f a).length = (f b).length)
    (hinj : Function.Injective f) {as bs : List α} {s t : List β} :
    as.flatMap f ++ s = bs.flatMap f ++ t ↔
      (∃ further, bs = as ++ further ∧ s = further.flatMap f ++ t) ∨
        ∃ further, as = bs ++ further ∧ t = further.flatMap f ++ s := by
  constructor
  · intro h
    induction as generalizing bs with
    | nil => exact .inl ⟨bs, rfl, h⟩
    | cons a as ih =>
      cases bs with
      | nil => exact .inr ⟨a :: as, rfl, h.symm⟩
      | cons b bs =>
        rw [List.flatMap_cons, List.flatMap_cons, List.append_assoc, List.append_assoc] at h
        obtain ⟨hblock, hrest⟩ := List.append_inj h (hlength a b)
        cases hinj hblock
        refine (ih hrest).imp ?_ ?_
        · rintro ⟨further, rfl, hs⟩
          exact ⟨further, rfl, hs⟩
        · rintro ⟨further, rfl, ht⟩
          exact ⟨further, rfl, ht⟩
  · rintro (⟨further, rfl, rfl⟩ | ⟨further, rfl, rfl⟩)
    · rw [List.flatMap_append, List.append_assoc]
    · rw [List.flatMap_append, List.append_assoc]

end Blocks

end Jellyrin

namespace Jellyrin.Metadata.MediaItemFacetKind

def asStr : MediaItemFacetKind → String
  | .genre => "genre"
  | .musicGenre => "music_genre"
  | .musicArtist => "music_artist"
  | .musicAlbumArtist => "music_album_artist"
  | .musicAlbum => "music_album"
  | .person => "person"
  | .studio => "studio"
  | .tag => "tag"
  | .year => "year"

theorem asStr_injective : Function.Injective asStr := by
  intro kind other h
  cases kind <;> cases other <;> first | rfl | exact absurd h (by decide)

theorem notMem_asStr (kind : MediaItemFacetKind) : ':' ∉ kind.asStr.toList := by
  cases kind <;> decide

end Jellyrin.Metadata.MediaItemFacetKind

namespace Jellyrin.CatalogCache

open Metadata ListingPage

structure FacetPage where
  kind : MediaItemFacetKind
  virtualFolderIds : List Uuid
  effectiveItemTypes : List String

namespace FacetPage

def folderIds (page : FacetPage) : List Uuid :=
  (sortOn BitVec.toNat page.virtualFolderIds).dedup

def itemTypes (page : FacetPage) : List String := sortedScope page.effectiveItemTypes

def typeBytes (page : FacetPage) : List UInt8 :=
  page.itemTypes.flatMap fun itemType => 0 :: asBytes itemType

def digestInput (page : FacetPage) : List UInt8 :=
  page.folderIds.flatMap Uuid.asBytes ++ page.typeBytes

end FacetPage

variable (sha256 : List UInt8 → BitVec 256)

def facetCacheKey (page : FacetPage) : String :=
  cacheNamespace ++ ":facet:" ++ page.kind.asStr ++ ":" ++
    Secrets.hexDigits (sha256 page.digestInput)

namespace FacetPage

structure Same (page other : FacetPage) : Prop where
  kind : page.kind = other.kind
  virtualFolderIds : ∀ id, id ∈ page.virtualFolderIds ↔ id ∈ other.virtualFolderIds
  effectiveItemTypes :
    ∀ itemType, itemType ∈ page.effectiveItemTypes ↔ itemType ∈ other.effectiveItemTypes

/-- Further folders of another page, then its types, are written as the types of this page. -/
structure RunsInto (page other : FacetPage) : Prop where
  kind : page.kind = other.kind
  further : ∃ further, other.folderIds = page.folderIds ++ further ∧
    page.typeBytes = further.flatMap Uuid.asBytes ++ other.typeBytes
  differs : page.folderIds = other.folderIds → page.itemTypes ≠ other.itemTypes

theorem folderIds_eq_iff {page other : FacetPage} : page.folderIds = other.folderIds ↔
    ∀ id, id ∈ page.virtualFolderIds ↔ id ∈ other.virtualFolderIds := by
  have hmem : ∀ (page : FacetPage) (id : Uuid), id ∈ page.folderIds ↔ id ∈ page.virtualFolderIds :=
    fun page id => by rw [folderIds, List.mem_dedup, mem_sortOn]
  have hsorted : ∀ page : FacetPage, page.folderIds.Pairwise fun a b => a.toNat ≤ b.toNat :=
    fun page => (pairwise_sortOn BitVec.toNat page.virtualFolderIds).sublist (List.dedup_sublist _)
  constructor
  · intro h id
    rw [← hmem page, h, hmem other]
  · intro h
    have hperm : page.folderIds.Perm other.folderIds := by
      refine (List.perm_ext_iff_of_nodup (List.nodup_dedup _) (List.nodup_dedup _)).mpr ?_
      intro id
      exact (hmem page id).trans ((h id).trans (hmem other id).symm)
    exact hperm.eq_of_pairwise (fun _ _ _ _ hab hba => BitVec.eq_of_toNat_eq (le_antisymm hab hba))
      (hsorted page) (hsorted other)

theorem same_iff {page other : FacetPage} : page.Same other ↔
    page.kind = other.kind ∧ page.folderIds = other.folderIds ∧
      page.itemTypes = other.itemTypes := by
  rw [folderIds_eq_iff, itemTypes, itemTypes, sortedScope_eq_iff]
  exact ⟨fun h => ⟨h.kind, h.virtualFolderIds, h.effectiveItemTypes⟩,
    fun h => ⟨h.1, h.2.1, h.2.2⟩⟩

theorem facetCacheKey_eq_iff {page other : FacetPage} :
    facetCacheKey sha256 page = facetCacheKey sha256 other ↔
      page.kind = other.kind ∧ sha256 page.digestInput = sha256 other.digestInput := by
  constructor
  · intro h
    have hlists : page.kind.asStr.toList ++ ':' ::
          (Secrets.hexDigits (sha256 page.digestInput)).toList =
        other.kind.asStr.toList ++ ':' ::
          (Secrets.hexDigits (sha256 other.digestInput)).toList := by
      have hkey := congrArg String.toList h
      simp only [facetCacheKey, String.toList_append, List.append_assoc,
        List.append_cancel_left_eq] at hkey
      exact hkey
    have hkind := Text.eq_of_append_cons page.kind.notMem_asStr other.kind.notMem_asStr hlists
    rw [hkind, List.append_cancel_left_eq, List.cons.injEq] at hlists
    exact ⟨MediaItemFacetKind.asStr_injective (String.toList_inj.mp hkind),
      Secrets.hexDigits_injective (String.toList_inj.mp hlists.2)⟩
  · rintro ⟨hkind, hhash⟩
    rw [facetCacheKey, facetCacheKey, hkind, hhash]

theorem digestInput_eq_iff {page other : FacetPage} :
    page.digestInput = other.digestInput ↔
      (∃ further, other.folderIds = page.folderIds ++ further ∧
        page.typeBytes = further.flatMap Uuid.asBytes ++ other.typeBytes) ∨
      ∃ further, page.folderIds = other.folderIds ++ further ∧
        other.typeBytes = further.flatMap Uuid.asBytes ++ page.typeBytes :=
  flatMap_append_eq_iff (fun a b => (Uuid.length_asBytes a).trans (Uuid.length_asBytes b).symm)
    Uuid.asBytes_injective

/-- Where two hashes tell the hashed bytes apart, keys are equal for the same pages exactly if
neither page runs into the other. -/
theorem facetCacheKey_sound_iff (page other : FacetPage)
    (hfree : sha256 page.digestInput = sha256 other.digestInput →
      page.digestInput = other.digestInput) :
    (facetCacheKey sha256 page = facetCacheKey sha256 other ↔ page.Same other) ↔
      ¬page.RunsInto other ∧ ¬other.RunsInto page := by
  have hhash : sha256 page.digestInput = sha256 other.digestInput ↔
      page.digestInput = other.digestInput := ⟨hfree, congrArg sha256⟩
  rw [facetCacheKey_eq_iff, hhash, same_iff, digestInput_eq_iff]
  constructor
  · intro h
    constructor
    · intro hruns
      obtain ⟨-, hfolders, htypes⟩ := h.mp ⟨hruns.kind, .inl hruns.further⟩
      exact hruns.differs hfolders htypes
    · intro hruns
      obtain ⟨-, hfolders, htypes⟩ := h.mp ⟨hruns.kind.symm, .inr hruns.further⟩
      exact hruns.differs hfolders.symm htypes.symm
  · rintro ⟨hpage, hother⟩
    constructor
    · rintro ⟨hkind, hfurther | hfurther⟩
      · by_contra hdiffers
        exact hpage ⟨hkind, hfurther, fun hfolders htypes => hdiffers ⟨hkind, hfolders, htypes⟩⟩
      · by_contra hdiffers
        exact hother ⟨hkind.symm, hfurther, fun hfolders htypes =>
          hdiffers ⟨hkind, hfolders.symm, htypes.symm⟩⟩
    · rintro ⟨hkind, hfolders, htypes⟩
      refine ⟨hkind, .inl ⟨[], by rw [hfolders, List.append_nil], ?_⟩⟩
      rw [typeBytes, typeBytes, htypes]
      rfl

theorem facetCacheKey_sorted :
    facetCacheKey (fun bytes => .ofNat 256 bytes.length) ⟨.genre, [2, 1, 1], ["movie"]⟩ =
        facetCacheKey (fun bytes => .ofNat 256 bytes.length) ⟨.genre, [1, 2], ["movie"]⟩ ↔
      (FacetPage.mk .genre [2, 1, 1] ["movie"]).Same ⟨.genre, [1, 2], ["movie"]⟩ := by
  refine (facetCacheKey_sound_iff (fun bytes => .ofNat 256 bytes.length) _ _
    fun _ => by decide).mpr ⟨fun hruns => ?_, fun hruns => ?_⟩
  · exact hruns.differs (by decide) (by decide)
  · exact hruns.differs (by decide) (by decide)

theorem type_taken_for_folder :
    ¬∀ (sha256 : List UInt8 → BitVec 256) (page other : FacetPage),
      (sha256 page.digestInput = sha256 other.digestInput →
        page.digestInput = other.digestInput) →
      (facetCacheKey sha256 page = facetCacheKey sha256 other ↔ page.Same other) := by
  intro h
  have hinput : (FacetPage.mk .genre [] ["book", "musicvideo"]).digestInput =
      (FacetPage.mk .genre [0x00626f6f6b006d75736963766964656f] []).digestInput := by
    decide
  have hsame := (h (fun bytes => .ofNat 256 bytes.length) _ _ fun _ => hinput).mp
    ((facetCacheKey_eq_iff _).mpr
      ⟨rfl, congrArg (fun bytes => BitVec.ofNat 256 bytes.length) hinput⟩)
  exact absurd ((hsame.effectiveItemTypes "book").mp (by simp)) (by simp)

end FacetPage

end Jellyrin.CatalogCache
