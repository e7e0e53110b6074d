import Jellyrin.Defs.Data.FirstsBy
import Jellyrin.Defs.Metadata.Facets

/-! The facets of a kind, in the order in which a document names them. -/

namespace Jellyrin.Metadata

open Ascii Json

variable (floatText : UInt64 → String)

structure FacetOccurrence where
  display : String
  payload : Json
  importedId : Option String

namespace FacetOccurrence

def name (occurrence : FacetOccurrence) : String := toAsciiLowercase occurrence.display

def ofLeaf (kind : MediaItemFacetKind) (leaf : Json) : Option FacetOccurrence :=
  (((nameText floatText leaf).map trim).filter (· ≠ "")).map fun display =>
    { display
      payload := leaf
      importedId :=
        (((if kind = .person then (leaf.get "Id").bind asStr else none).map trim).filter (· ≠ "")) }

end FacetOccurrence

def facetOccurrences (kind : MediaItemFacetKind) (metadata : Json) (keys : List String) :
    List FacetOccurrence :=
  ((keys.filterMap metadata.get).flatMap leaves).filterMap (FacetOccurrence.ofLeaf floatText kind)

def MediaItemFacetKind.keys (kind : MediaItemFacetKind) : List String :=
  (facetSpecs.lookup kind).getD []

def lastPosition : Nat := 2 ^ 32 - 1

def listedOccurrences (occurrences : List FacetOccurrence) : List FacetOccurrence :=
  (sortOn (fun entry => toLex (min entry.2 lastPosition, entry.1.name))
    (firstsBy (fun entry => entry.1.name) occurrences.zipIdx)).map Prod.fst

/-- A lower-cased identifier beside a text of the name, unless it is the stable one, or the
compact form of it. -/
def IsAlias (occurrences : List FacetOccurrence) (name stableId text : String) : Prop :=
  ∃ occurrence ∈ occurrences, occurrence.name = name ∧ ∃ id, occurrence.importedId = some id ∧
    (text = toAsciiLowercase id ∧ text ≠ stableId ∨
      ∃ uuid, Uuid.parseStr (toAsciiLowercase id) = some uuid ∧ text = uuid.simple)

structure Shows (kind : MediaItemFacetKind) (occurrences : List FacetOccurrence)
    (first : FacetOccurrence) (facet : ExtractedMediaItemFacet) : Prop where
  normalizedValue : facet.normalizedValue = first.name
  displayValue : facet.displayValue = first.display
  stableId : facet.stableId = stableEntityId kind.entityType first.display
  payload : facet.payload = first.payload
  aliases : ∀ text, text ∈ facet.aliases ↔ IsAlias occurrences first.name facet.stableId text
  kind : facet.kind = kind

/-! The state after some occurrences. -/

def gatheredAliases (kind : MediaItemFacetKind) (name : String) :
    List FacetOccurrence → Finset String :=
  List.foldl (fun aliases occurrence =>
    if occurrence.name = name then
      aliases ∪ (occurrence.importedId.map
        (importedAliases kind (stableEntityId kind.entityType occurrence.display))).getD ∅
    else aliases) ∅

def pendingFacet (kind : MediaItemFacetKind) (occurrences : List FacetOccurrence)
    (entry : FacetOccurrence × Nat) : PendingFacet where
  normalizedValue := entry.1.name
  displayValue := entry.1.display
  position := min entry.2 lastPosition
  payload := entry.1.payload
  aliases := gatheredAliases kind entry.1.name occurrences

structure Records (kind : MediaItemFacetKind) (occurrences : List FacetOccurrence)
    (state : FacetState) : Prop where
  position : state.1 = min occurrences.length lastPosition
  lookup : ∀ name, state.2.lookup name =
    (occurrences.zipIdx.find? fun entry => entry.1.name = name).map (pendingFacet kind occurrences)

variable {floatText} {kind : MediaItemFacetKind} {occurrences : List FacetOccurrence}
  {state : FacetState}

theorem gatheredAliases_concat (occurrence : FacetOccurrence) (name : String) :
    gatheredAliases kind name (occurrences ++ [occurrence]) =
      if occurrence.name = name then
        gatheredAliases kind name occurrences ∪ (occurrence.importedId.map
          (importedAliases kind (stableEntityId kind.entityType occurrence.display))).getD ∅
      else gatheredAliases kind name occurrences := by
  rw [gatheredAliases, List.foldl_append]
  rfl

theorem records_empty : Records kind [] (0, ∅) where
  position := rfl
  lookup := fun name => AList.lookup_empty name

theorem gatheredAliases_eq_empty {name : String} (h : ∀ o ∈ occurrences, o.name ≠ name) :
    gatheredAliases kind name occurrences = ∅ := by
  induction occurrences using List.reverseRecOn with
  | nil => rfl
  | append_singleton occurrences o ih =>
    rw [gatheredAliases_concat, if_neg (h o (by simp)),
      ih fun o ho => h o (List.mem_append_left _ ho)]

theorem Records.insertFacet (h : Records kind occurrences state) {display : String}
    (payload : Json) (importedId : Option String) (hdisplay : trim display ≠ "") :
    Records kind (occurrences ++ [⟨trim display, payload, (importedId.map trim).filter (· ≠ "")⟩])
      (insertFacet kind display payload importedId state) := by
  obtain ⟨hposition, hlookup⟩ := h
  simp only [Metadata.insertFacet, if_neg hdisplay]
  generalize (importedId.map trim).filter (· ≠ "") = id
  generalize trim display = display
  generalize ho : (⟨display, payload, id⟩ : FacetOccurrence) = o
  have hname : o.name = toAsciiLowercase display := by rw [← ho, FacetOccurrence.name]
  refine ⟨?_, fun name => ?_⟩
  · rw [hposition, List.length_append, List.length_singleton]
    change min (min occurrences.length lastPosition + 1) lastPosition = _
    omega
  · rw [List.zipIdx_append, List.zipIdx_singleton, List.find?_append, Nat.zero_add]
    by_cases hsame : name = toAsciiLowercase display
    · subst hsame
      rw [AList.lookup_insert, hlookup]
      have hkind : stableEntityId kind.entityType display =
          stableEntityId kind.entityType o.display := by rw [← ho]
      cases hfind : occurrences.zipIdx.find? fun entry => entry.1.name = toAsciiLowercase display with
      | some entry =>
        have hentry : entry.1.name = toAsciiLowercase display := by
          simpa using List.find?_some hfind
        rw [Option.some_or, Option.map_some, Option.map_some, Option.getD_some, pendingFacet,
          pendingFacet, gatheredAliases_concat, if_pos (hname.trans hentry.symm), ← hkind]
        cases id <;> simp [← ho]
      | none =>
        have hnew : gatheredAliases kind (toAsciiLowercase display) occurrences = ∅ := by
          refine gatheredAliases_eq_empty fun other hother heq => ?_
          rw [← List.zipIdx_map_fst 0 occurrences] at hother
          obtain ⟨entry, hentry, rfl⟩ := List.mem_map.mp hother
          exact absurd (decide_eq_true heq) (List.find?_eq_none.mp hfind entry hentry)
        rw [Option.none_or, List.find?_cons_of_pos (by simp [hname]), Option.map_none,
          Option.map_some, Option.getD_none, pendingFacet, gatheredAliases_concat, hname,
          if_pos rfl, hnew, hposition, ← hkind]
        cases id <;> simp [← ho]
    · rw [AList.lookup_insert_ne hsame, hlookup, List.find?_cons_of_neg (by simp [hname, Ne.symm hsame]),
        List.find?_nil, Option.or_none]
      refine Option.map_congr fun entry hentry => ?_
      have hentry : entry.1.name = name := by simpa using List.find?_some hentry
      rw [pendingFacet, pendingFacet, gatheredAliases_concat,
        if_neg (by rw [hname, hentry]; exact Ne.symm hsame)]

/-! The facets of a document. -/

def insertLeaf (floatText : UInt64 → String) (kind : MediaItemFacetKind) (value : Json)
    (state : FacetState) : FacetState :=
  match nameText floatText value with
  | some display =>
    insertFacet kind display value (if kind = .person then (value.get "Id").bind asStr else none)
      state
  | none => state

variable (floatText) in
theorem Records.insertLeaf (h : Records kind occurrences state) (leaf : Json) :
    Records kind (occurrences ++ (FacetOccurrence.ofLeaf floatText kind leaf).toList)
      (insertLeaf floatText kind leaf state) := by
  rw [Metadata.insertLeaf, FacetOccurrence.ofLeaf]
  cases hname : nameText floatText leaf with
  | none => simpa using h
  | some display =>
    by_cases hdisplay : trim display = ""
    · have hfilter : (some (trim display)).filter (· ≠ "") = none := by
        rw [hdisplay]
        rfl
      rw [Option.map_some, hfilter, Option.map_none, Option.toList_none, List.append_nil]
      simpa only [Metadata.insertFacet, if_pos hdisplay] using h
    · have hfilter : (some (trim display)).filter (· ≠ "") = some (trim display) := by
        simp [hdisplay]
      rw [Option.map_some, hfilter]
      exact h.insertFacet leaf _ hdisplay

theorem Records.foldl (h : Records kind occurrences state) (leaves : List Json) :
    Records kind (occurrences ++ leaves.filterMap (FacetOccurrence.ofLeaf floatText kind))
      (leaves.foldl (fun state leaf => Metadata.insertLeaf floatText kind leaf state) state) := by
  induction leaves generalizing occurrences state with
  | nil => simpa using h
  | cons leaf leaves ih =>
    have hrest := ih (h.insertLeaf floatText leaf)
    rw [List.append_assoc] at hrest
    rw [List.foldl_cons, List.filterMap_cons]
    cases hleaf : FacetOccurrence.ofLeaf floatText kind leaf with
    | none => simpa [hleaf] using hrest
    | some occurrence => simpa [hleaf] using hrest

theorem collectFacets_eq (metadata : Json) (kind : MediaItemFacetKind) (keys : List String) :
    collectFacets floatText metadata kind keys =
      (((keys.filterMap metadata.get).flatMap leaves).foldl
        (fun state leaf => insertLeaf floatText kind leaf state) (0, ∅)).2 := by
  have hcollect : ∀ value state, collectFacetValues floatText kind value state =
      (leaves value).foldl (fun state leaf => insertLeaf floatText kind leaf state) state :=
    fun value state => collect_eq_foldl (insertLeaf floatText kind) value state
  rw [collectFacets, List.foldl_flatMap, List.foldl_filterMap]
  congr 3
  funext state key
  cases metadata.get key with
  | none => rfl
  | some value => exact hcollect value state

theorem lookup_collectFacets (metadata : Json) (name : String) :
    (collectFacets floatText metadata kind kind.keys).lookup name =
      ((facetOccurrences floatText kind metadata kind.keys).zipIdx.find?
        fun entry => entry.1.name = name).map
          (pendingFacet kind (facetOccurrences floatText kind metadata kind.keys)) := by
  rw [collectFacets_eq]
  exact (records_empty.foldl _).lookup name

def extractedFacet (kind : MediaItemFacetKind) (facet : PendingFacet) : ExtractedMediaItemFacet where
  kind
  normalizedValue := facet.normalizedValue
  displayValue := facet.displayValue
  stableId := stableEntityId kind.entityType facet.displayValue
  position := facet.position
  payload := facet.payload
  aliases := facet.aliases

theorem filter_map_extractedFacet (other : MediaItemFacetKind) (facets : List PendingFacet) :
    (facets.map (extractedFacet other)).filter (fun facet => facet.kind = kind) =
      if other = kind then facets.map (extractedFacet other) else [] := by
  rw [List.filter_map]
  split
  · rename_i hkind
    rw [List.filter_eq_self.mpr]
    intro facet _
    exact decide_eq_true hkind
  · rename_i hkind
    rw [List.filter_eq_nil_iff.mpr, List.map_nil]
    intro facet _ hfacet
    exact hkind (of_decide_eq_true hfacet)

theorem filter_flatMap_specs (kind : MediaItemFacetKind)
    (facets : MediaItemFacetKind → List String → List PendingFacet)
    (specs : List (MediaItemFacetKind × List String)) (h : (specs.map Prod.fst).Nodup) :
    (specs.flatMap fun spec => (facets spec.1 spec.2).map (extractedFacet spec.1)).filter
        (fun facet => facet.kind = kind) =
      ((specs.lookup kind).map fun keys => (facets kind keys).map (extractedFacet kind)).getD [] := by
  induction specs with
  | nil => rfl
  | cons spec specs ih =>
    obtain ⟨other, keys⟩ := spec
    obtain ⟨hnew, hrest⟩ := List.nodup_cons.mp h
    rw [List.flatMap_cons, List.filter_append, filter_map_extractedFacet, ih hrest,
      List.lookup_cons]
    by_cases hkind : kind = other
    · subst hkind
      have hlookup : specs.lookup kind = none := by
        rw [List.lookup_eq_none_iff]
        intro spec hspec
        rw [bne_iff_ne]
        rintro rfl
        exact hnew (List.mem_map.mpr ⟨spec, hspec, rfl⟩)
      simp [hlookup]
    · have hbeq : (kind == other) = false := beq_eq_false_iff_ne.mpr hkind
      rw [if_neg (Ne.symm hkind), List.nil_append, hbeq]

theorem filter_extractMediaItemFacets (metadata : Json) (kind : MediaItemFacetKind) :
    (extractMediaItemFacets floatText metadata).filter (fun facet => facet.kind = kind) =
      sortOn (fun facet => toLex (facet.kind.ctorIdx, facet.position))
        ((collectFacets floatText metadata kind kind.keys).values.map (extractedFacet kind)) := by
  have hkeys : facetSpecs.lookup kind = some kind.keys := by cases kind <;> rfl
  have hfilter := filter_flatMap_specs kind
    (fun kind keys => (collectFacets floatText metadata kind keys).values) facetSpecs (by decide)
  rw [hkeys, Option.map_some, Option.getD_some] at hfilter
  rw [extractMediaItemFacets, ← sortOn_filter, ← hfilter]
  rfl

theorem pairwise_values {facets : BTreeMap String PendingFacet}
    (h : ∀ name facet, facets.lookup name = some facet → facet.normalizedValue = name) :
    facets.values.Pairwise fun a b => a.normalizedValue < b.normalizedValue := by
  have hkeys : (facets.keys.insertionSort (· ≤ ·)).Pairwise (· < ·) := by
    have hnodup : (facets.keys.insertionSort (· ≤ ·)).Nodup :=
      (List.perm_insertionSort _ _).nodup_iff.mpr facets.keys_nodup
    exact ((List.pairwise_insertionSort (· ≤ ·) facets.keys).and hnodup).imp
      fun h => lt_of_le_of_ne h.1 h.2
  rw [BTreeMap.values, List.pairwise_filterMap]
  refine hkeys.imp ?_
  intro name other hlt facet hfacet later hlater
  rw [h name facet hfacet, h other later hlater]
  exact hlt

theorem mem_gatheredAliases {name text : String} :
    text ∈ gatheredAliases kind name occurrences ↔ ∃ o ∈ occurrences, o.name = name ∧
      ∃ id, o.importedId = some id ∧
        text ∈ importedAliases kind (stableEntityId kind.entityType o.display) id := by
  induction occurrences using List.reverseRecOn with
  | nil => simp [gatheredAliases]
  | append_singleton occurrences o ih =>
    rw [gatheredAliases_concat]
    split
    · rename_i hname
      rw [Finset.mem_union, ih]
      cases hid : o.importedId with
      | none => simp [hid, or_and_right, exists_or]
      | some id => simp [hid, hname, or_and_right, exists_or]
    · rename_i hname
      rw [ih]
      simp [hname, or_and_right, exists_or]

theorem importedId_isSome {metadata : Json} {keys : List String} {o : FacetOccurrence} {id : String}
    (ho : o ∈ facetOccurrences floatText kind metadata keys) (hid : o.importedId = some id) :
    kind = .person := by
  obtain ⟨leaf, -, hleaf⟩ := List.mem_filterMap.mp ho
  obtain ⟨display, -, rfl⟩ := Option.map_eq_some_iff.mp hleaf
  by_contra hkind
  simp [hkind] at hid

theorem mem_importedAliases {stableId id text : String} :
    text ∈ importedAliases .person stableId id ↔
      text = toAsciiLowercase id ∧ text ≠ stableId ∨
        ∃ uuid, Uuid.parseStr (toAsciiLowercase id) = some uuid ∧ text = uuid.simple := by
  have hplain : text ∈ (if toAsciiLowercase id ≠ stableId then {toAsciiLowercase id} else ∅ :
      Finset String) ↔ text = toAsciiLowercase id ∧ text ≠ stableId := by
    split
    · rename_i hne
      rw [Finset.mem_singleton]
      exact ⟨fun heq => ⟨heq, heq ▸ hne⟩, fun h => h.1⟩
    · rename_i heq
      rw [not_not] at heq
      exact ⟨fun h => absurd h (Finset.notMem_empty _), fun h => absurd (h.1.trans heq) h.2⟩
  cases hparse : Uuid.parseStr (toAsciiLowercase id) with
  | none =>
    simp only [importedAliases, hparse]
    simpa using hplain
  | some uuid =>
    simp only [importedAliases, hparse, Finset.mem_insert, hplain, Option.some.injEq,
      exists_eq_left']
    exact or_comm

variable (floatText)

theorem shows_pendingFacet (metadata : Json) (kind : MediaItemFacetKind)
    (entry : FacetOccurrence × Nat) :
    Shows kind (facetOccurrences floatText kind metadata kind.keys) entry.1
      (extractedFacet kind
        (pendingFacet kind (facetOccurrences floatText kind metadata kind.keys) entry)) := by
  refine ⟨rfl, rfl, rfl, rfl, fun text => ?_, rfl⟩
  refine mem_gatheredAliases.trans (exists_congr fun o => and_congr_right fun ho =>
    and_congr_right fun hname => exists_congr fun id => and_congr_right fun hid => ?_)
  have hkind := importedId_isSome ho hid
  have hstable : stableEntityId kind.entityType o.display =
      stableEntityId kind.entityType entry.1.display := by
    refine stableEntityId_congr _ ?_
    rw [← trim_toAsciiLowercase, ← trim_toAsciiLowercase]
    exact congrArg trim hname
  rw [hstable]
  subst hkind
  exact mem_importedAliases

theorem perm_values (metadata : Json) (kind : MediaItemFacetKind) :
    (collectFacets floatText metadata kind kind.keys).values.Perm
      ((firstsBy (fun entry => entry.1.name)
        (facetOccurrences floatText kind metadata kind.keys).zipIdx).map
          (pendingFacet kind (facetOccurrences floatText kind metadata kind.keys))) := by
  have hspell : ∀ name facet, (collectFacets floatText metadata kind kind.keys).lookup name =
      some facet → facet.normalizedValue = name := fun _ _ h => (facetsSpell_collectFacets h).1
  have hlookup : ∀ name, (collectFacets floatText metadata kind kind.keys).lookup name = _ :=
    lookup_collectFacets metadata
  generalize facetOccurrences floatText kind metadata kind.keys = occurrences at hlookup
  generalize collectFacets floatText metadata kind kind.keys = facets at hlookup hspell
  have hvalues : facets.values.Nodup := by
    refine (pairwise_values hspell).imp fun hlt heq => ?_
    exact absurd hlt (heq ▸ lt_irrefl _)
  have hfirsts : ((firstsBy (fun entry => entry.1.name) occurrences.zipIdx).map
      (pendingFacet kind occurrences)).Nodup := by
    refine List.Nodup.of_map PendingFacet.normalizedValue ?_
    rw [List.map_map]
    exact nodup_firstsBy
  rw [List.perm_ext_iff_of_nodup hvalues hfirsts]
  intro facet
  rw [BTreeMap.mem_values, List.mem_map]
  constructor
  · rintro ⟨name, hname⟩
    rw [hlookup] at hname
    obtain ⟨entry, hentry, rfl⟩ := Option.map_eq_some_iff.mp hname
    have hkey : entry.1.name = name := by simpa using List.find?_some hentry
    exact ⟨entry, mem_firstsBy.mpr (by rw [hkey, hentry]), rfl⟩
  · rintro ⟨entry, hentry, rfl⟩
    refine ⟨entry.1.name, ?_⟩
    rw [hlookup, mem_firstsBy.mp hentry]
    rfl

theorem filter_extractMediaItemFacets_eq (metadata : Json) (kind : MediaItemFacetKind) :
    (extractMediaItemFacets floatText metadata).filter (fun facet => facet.kind = kind) =
      (sortOn (fun entry => toLex (min entry.2 lastPosition, entry.1.name))
        (firstsBy (fun entry => entry.1.name)
          (facetOccurrences floatText kind metadata kind.keys).zipIdx)).map fun entry =>
            extractedFacet kind
              (pendingFacet kind (facetOccurrences floatText kind metadata kind.keys) entry) := by
  have hperm := perm_values floatText metadata kind
  have hvalues : ((collectFacets floatText metadata kind kind.keys).values.map
      (extractedFacet kind)).Pairwise fun a b => a.normalizedValue < b.normalizedValue := by
    rw [List.pairwise_map]
    exact pairwise_values fun _ _ h => (facetsSpell_collectFacets h).1
  rw [filter_extractMediaItemFacets]
  generalize facetOccurrences floatText kind metadata kind.keys = occurrences at hperm
  generalize (collectFacets floatText metadata kind kind.keys).values = values at hperm hvalues
  have hfirsts : ((firstsBy (fun entry : FacetOccurrence × Nat => entry.1.name)
      occurrences.zipIdx).map
        fun entry => toLex (min entry.2 lastPosition, entry.1.name)).Nodup := by
    refine List.Nodup.of_map (fun key => (ofLex key).2) ?_
    rw [List.map_map]
    exact nodup_firstsBy
  have hsorted : (sortOn (fun facet : ExtractedMediaItemFacet =>
      toLex (facet.kind.ctorIdx, facet.position)) (values.map (extractedFacet kind))).Pairwise
        fun a b => toLex (toLex (a.kind.ctorIdx, a.position), a.normalizedValue) <
          toLex (toLex (b.kind.ctorIdx, b.position), b.normalizedValue) :=
    pairwise_lex_sortOn hvalues
  have hlisted : ((sortOn (fun entry => toLex (min entry.2 lastPosition, entry.1.name))
      (firstsBy (fun entry => entry.1.name) occurrences.zipIdx)).map fun entry =>
        extractedFacet kind (pendingFacet kind occurrences entry)).Pairwise fun a b =>
          toLex (toLex (a.kind.ctorIdx, a.position), a.normalizedValue) <
            toLex (toLex (b.kind.ctorIdx, b.position), b.normalizedValue) := by
    rw [List.pairwise_map]
    refine (pairwise_lt_sortOn hfirsts).imp fun hlt => ?_
    refine Prod.Lex.toLex_lt_toLex.mpr ((Prod.Lex.toLex_lt_toLex.mp hlt).imp ?_ ?_)
    · exact fun hposition => Prod.Lex.toLex_lt_toLex.mpr (.inr ⟨rfl, hposition⟩)
    · exact fun hsame => ⟨congrArg (fun position => toLex (kind.ctorIdx, position)) hsame.1, hsame.2⟩
  have hsame := (sortOn_perm (fun entry : FacetOccurrence × Nat =>
    toLex (min entry.2 lastPosition, entry.1.name)) (firstsBy (fun entry => entry.1.name)
      occurrences.zipIdx)).map fun entry => extractedFacet kind (pendingFacet kind occurrences entry)
  have hfacets := hperm.map (extractedFacet kind)
  rw [List.map_map] at hfacets
  exact ((sortOn_perm _ _).trans (hfacets.trans hsame.symm)).eq_of_pairwise
    (fun a b _ _ hab hba => absurd hab (lt_asymm hba)) hsorted hlisted

theorem listedOccurrences_eq {occurrences : List FacetOccurrence}
    (h : occurrences.length ≤ 2 ^ 32) :
    listedOccurrences occurrences = firstsBy FacetOccurrence.name occurrences := by
  have hindices : occurrences.zipIdx.Pairwise fun a b => a.2 < b.2 := by
    have hsorted : (occurrences.zipIdx.map Prod.snd).Pairwise (· < ·) := by
      rw [List.zipIdx_map_snd]
      exact List.pairwise_lt_range'
    exact List.pairwise_map.mp hsorted
  have hkeys : (firstsBy (fun entry : FacetOccurrence × Nat => entry.1.name)
      occurrences.zipIdx).Pairwise fun a b => toLex (min a.2 lastPosition, a.1.name) <
        toLex (min b.2 lastPosition, b.1.name) := by
    refine (hindices.sublist (firstsBy_sublist _ _)).imp_of_mem fun {a b} _ hb hlt => ?_
    have hbound := List.snd_lt_of_mem_zipIdx ((firstsBy_sublist _ _).mem hb)
    refine Prod.Lex.toLex_lt_toLex.mpr (.inl ?_)
    change min a.2 (2 ^ 32 - 1) < min b.2 (2 ^ 32 - 1)
    omega
  rw [listedOccurrences, sortOn_eq (List.Perm.refl _) hkeys, map_fst_firstsBy,
    List.zipIdx_map_fst]

theorem shows_listedOccurrences (metadata : Json) (kind : MediaItemFacetKind) :
    List.Forall₂ (Shows kind (facetOccurrences floatText kind metadata kind.keys))
      (listedOccurrences (facetOccurrences floatText kind metadata kind.keys))
      ((extractMediaItemFacets floatText metadata).filter fun facet => facet.kind = kind) := by
  rw [filter_extractMediaItemFacets_eq, listedOccurrences, List.forall₂_map_left_iff,
    List.forall₂_map_right_iff, List.forall₂_same]
  exact fun entry _ => shows_pendingFacet floatText metadata kind entry

theorem map_name_eq {kind : MediaItemFacetKind} {occurrences listed : List FacetOccurrence}
    {facets : List ExtractedMediaItemFacet}
    (h : List.Forall₂ (Shows kind occurrences) listed facets) :
    listed.map FacetOccurrence.name = facets.map ExtractedMediaItemFacet.normalizedValue :=
  (map_eq_map_of_forall₂ h fun _ _ hshows => hshows.normalizedValue).symm

/-- The facets of a kind are the first occurrences of its names, in their order up to the last
position. -/
theorem facets_listed (metadata : Json) (kind : MediaItemFacetKind) :
    List.Forall₂ (Shows kind (facetOccurrences floatText kind metadata kind.keys))
        (listedOccurrences (facetOccurrences floatText kind metadata kind.keys))
        ((extractMediaItemFacets floatText metadata).filter fun facet => facet.kind = kind) ∧
      ((facetOccurrences floatText kind metadata kind.keys).length ≤ 2 ^ 32 →
        listedOccurrences (facetOccurrences floatText kind metadata kind.keys) =
          firstsBy FacetOccurrence.name (facetOccurrences floatText kind metadata kind.keys)) :=
  ⟨shows_listedOccurrences floatText metadata kind, listedOccurrences_eq⟩

/-! A document whose positions run out. -/

def crowdedGenres (count : Nat) : Json :=
  .object [("Genres", .array
    (List.replicate count (.string "a") ++ [.string "c", .string "b"]))]

def genreOccurrence (name : String) : FacetOccurrence := ⟨name, .string name, none⟩

theorem leavesOf_eq_self {items : List Json} (h : ∀ item ∈ items, leaves item = [item]) :
    leavesOf items = items := by
  induction items with
  | nil => rfl
  | cons item items ih =>
    rw [leavesOf, h item List.mem_cons_self, ih fun item hitem => h item (List.mem_cons_of_mem _ hitem),
      List.singleton_append]

theorem facetOccurrences_crowdedGenres (count : Nat) :
    facetOccurrences floatText .genre (crowdedGenres count) MediaItemFacetKind.genre.keys =
      List.replicate count (genreOccurrence "a") ++ [genreOccurrence "c", genreOccurrence "b"] := by
  have hleaf : ∀ name, name = "a" ∨ name = "b" ∨ name = "c" →
      FacetOccurrence.ofLeaf floatText .genre (.string name) = some (genreOccurrence name) := by
    rintro name (rfl | rfl | rfl) <;> rfl
  have hfound : MediaItemFacetKind.genre.keys.filterMap (crowdedGenres count).get =
      [.array (List.replicate count (.string "a") ++ [.string "c", .string "b"])] := rfl
  have hleaves : leaves (.array (List.replicate count (.string "a") ++
      [.string "c", .string "b"])) =
        List.replicate count (.string "a") ++ [.string "c", .string "b"] := by
    rw [leaves, leavesOf_eq_self]
    intro item hitem
    rw [List.mem_append, List.mem_replicate] at hitem
    obtain ⟨-, rfl⟩ | hitem := hitem
    · rfl
    · simp only [List.mem_cons, List.not_mem_nil, or_false] at hitem
      obtain rfl | rfl := hitem <;> rfl
  rw [facetOccurrences, hfound, List.flatMap_singleton, hleaves, List.filterMap_append,
    List.filterMap_replicate_of_some (hleaf "a" (by simp))]
  simp [hleaf]

theorem firstsBy_crowded {count : Nat} (hcount : 0 < count) :
    firstsBy (fun entry => entry.1.name) (List.replicate count (genreOccurrence "a") ++
        [genreOccurrence "c", genreOccurrence "b"]).zipIdx =
      [(genreOccurrence "a", 0), (genreOccurrence "c", count), (genreOccurrence "b", count + 1)] := by
  obtain ⟨count, rfl⟩ := Nat.exists_eq_succ_of_ne_zero hcount.ne'
  have hreplicate : firstsBy (fun entry => entry.1.name)
      (List.replicate (count + 1) (genreOccurrence "a")).zipIdx = [(genreOccurrence "a", 0)] := by
    rw [List.replicate_succ, List.zipIdx_cons]
    refine firstsBy_of_forall_eq fun entry hentry => ?_
    rw [List.eq_of_mem_replicate (List.fst_mem_of_mem_zipIdx hentry)]
  have hkeys : ∀ name, name ∈ ((List.replicate (count + 1) (genreOccurrence "a")).zipIdx.map
      fun entry => entry.1.name) ↔ name = "a" := by
    intro name
    rw [← mem_map_firstsBy, hreplicate, List.map_singleton, List.mem_singleton]
    rfl
  have hc : (genreOccurrence "c").name = "c" := rfl
  have hb : (genreOccurrence "b").name = "b" := rfl
  rw [List.append_cons, List.zipIdx_append, List.zipIdx_append, List.zipIdx_singleton,
    List.zipIdx_singleton, firstsBy_concat, firstsBy_concat, hreplicate, List.map_append,
    List.map_singleton]
  simp [hkeys, hc, hb]

theorem crowdedGenres_not_in_order :
    ¬ List.Forall₂ (Shows .genre (facetOccurrences (fun _ => "") .genre
        (crowdedGenres lastPosition) MediaItemFacetKind.genre.keys))
      (firstsBy FacetOccurrence.name (facetOccurrences (fun _ => "") .genre
        (crowdedGenres lastPosition) MediaItemFacetKind.genre.keys))
      ((extractMediaItemFacets (fun _ => "") (crowdedGenres lastPosition)).filter
        fun facet => facet.kind = .genre) := by
  intro h
  have hnames := (map_name_eq h).trans
    (map_name_eq (shows_listedOccurrences (fun _ => "") _ .genre)).symm
  rw [listedOccurrences, ← List.zipIdx_map_fst 0 (facetOccurrences (fun _ => "") .genre _ _),
    ← map_fst_firstsBy, List.zipIdx_map_fst, facetOccurrences_crowdedGenres,
    firstsBy_crowded (by decide)] at hnames
  exact absurd hnames (by decide)

end Jellyrin.Metadata
