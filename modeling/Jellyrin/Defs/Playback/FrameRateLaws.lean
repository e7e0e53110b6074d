import Jellyrin.Defs.Playback.OutputConstraints

/-! The greatest frame rate that a list of conditions admits, and when the rates that the conditions
put forward contain it. -/

namespace Jellyrin.Playback

def Satisfies (conditions : List CodecCondition) (rate : UInt32) : Prop :=
  codecOutputConditionsMatch conditions (.numeric rate) = true

instance (conditions : List CodecCondition) (rate : UInt32) :
    Decidable (Satisfies conditions rate) :=
  inferInstanceAs (Decidable (_ = true))

/-- A limit for a source of a given rate: none where the source meets the conditions, else the
greatest lower rate that does. -/
structure IsFrameRateLimit (conditions : List CodecCondition) (input : UInt32)
    (limit : Option (Option UInt32)) : Prop where
  kept : limit = some none ↔ Satisfies conditions input
  limited : ∀ rate, limit = some (some rate) ↔ ¬ Satisfies conditions input ∧
    IsGreatest {rate | rate < input ∧ Satisfies conditions rate} rate
  refused : limit = none ↔ ∀ rate ≤ input, ¬ Satisfies conditions rate

namespace CodecCondition

def Tries (condition : CodecCondition) (rate : UInt32) : Prop :=
  ∃ value, .numeric value ∈ condition.values ∧
    (rate = value ∨ condition.comparison = .lessThan ∧ value.toNat = rate.toNat + 1 ∨
      condition.comparison = .greaterThan ∧ value.toNat + 1 = rate.toNat)

def Excludes (condition : CodecCondition) (rate : UInt32) : Prop :=
  condition.comparison = .notEqual ∧ condition.values.head? = some (.numeric rate) ∨
    condition.comparison = .notEqualAny ∧ .numeric rate ∈ condition.values

theorem mem_numbers {values : List CodecConditionValue} {value : UInt32} :
    value ∈ values.filterMap codecNumericValue ↔ .numeric value ∈ values := by
  rw [List.mem_filterMap]
  constructor
  · rintro ⟨found, hfound, hvalue⟩
    cases found with
    | numeric found =>
      cases hvalue
      exact hfound
    | text found => cases hvalue
  · exact fun h => ⟨_, h, rfl⟩

theorem mem_candidates {condition : CodecCondition} {rate : UInt32} :
    rate ∈ condition.candidates ↔ condition.Tries rate := by
  simp only [candidates, List.mem_flatMap, mem_numbers, List.mem_cons, Tries]
  apply exists_congr
  intro value
  apply and_congr_right
  intro _
  apply or_congr_right
  split
  · rename_i hcomparison
    simp [hcomparison, U32.checkedSub_eq_some]
  · rename_i hcomparison
    simp [hcomparison, U32.checkedAdd_eq_some]
  · rename_i hless hgreater
    simp only [List.not_mem_nil, false_iff, not_or, not_and]
    exact ⟨fun h => absurd h hless, fun h => absurd h hgreater⟩

theorem compareNumbers_numeric {test : UInt32 → UInt32 → Bool} {condition : CodecCondition}
    {actual : UInt32} : compareNumbers test condition (.numeric actual) = true ↔
      ∃ value, condition.values.head? = some (.numeric value) ∧ test actual value = true := by
  rw [compareNumbers]
  split
  · rename_i value hvalue
    simp [hvalue]
  · rename_i hnone
    constructor
    · intro h
      cases h
    · rintro ⟨value, hvalue, -⟩
      exact absurd hvalue (hnone value)

theorem tries_or_excludes {condition : CodecCondition} {rate next : UInt32}
    (hnext : next.toNat = rate.toNat + 1)
    (hrate : codecConditionMatches condition (some (.numeric rate)) = true)
    (hrefused : ¬ codecConditionMatches condition (some (.numeric next)) = true) :
    condition.Tries rate ∨ condition.Excludes next := by
  have hfirst : ∀ value, condition.values.head? = some value → value ∈ condition.values :=
    fun value h => List.mem_of_head? h
  cases hcomparison : condition.comparison with
  | equal =>
    simp only [codecConditionMatches, hcomparison, beq_iff_eq] at hrate
    exact .inl ⟨rate, hfirst _ hrate, .inl rfl⟩
  | notEqual =>
    simp only [codecConditionMatches, hcomparison, bne_iff_ne, ne_eq, not_not] at hrefused
    exact .inr (.inl ⟨hcomparison, hrefused⟩)
  | equalAny =>
    simp only [codecConditionMatches, hcomparison, List.contains_iff_mem] at hrate
    exact .inl ⟨rate, hrate, .inl rfl⟩
  | notEqualAny =>
    simp only [codecConditionMatches, hcomparison, Bool.not_eq_true', Bool.not_eq_false,
      List.contains_iff_mem] at hrefused
    exact .inr (.inr ⟨hcomparison, hrefused⟩)
  | lessThan | lessThanEqual =>
    simp only [codecConditionMatches, hcomparison, compareNumbers_numeric, decide_eq_true_iff,
      UInt32.lt_iff_toNat_lt, UInt32.le_iff_toNat_le] at hrate hrefused
    obtain ⟨value, hvalue, hrate⟩ := hrate
    have hbound : ¬ _ := fun h => hrefused ⟨value, hvalue, h⟩
    refine .inl ⟨value, hfirst _ hvalue, ?_⟩
    rw [← UInt32.toNat_inj, hcomparison]
    simp only [reduceCtorEq, true_and, false_and, or_false]
    omega
  | greaterThan | greaterThanEqual =>
    -- What lets a rate through lets every greater one through.
    simp only [codecConditionMatches, hcomparison, compareNumbers_numeric, decide_eq_true_iff,
      UInt32.lt_iff_toNat_lt, UInt32.le_iff_toNat_le] at hrate hrefused
    obtain ⟨value, hvalue, hrate⟩ := hrate
    exact absurd ⟨value, hvalue, by omega⟩ hrefused

end CodecCondition

variable {conditions : List CodecCondition} {input : UInt32}

theorem satisfies_iff {rate : UInt32} : Satisfies conditions rate ↔
    ∀ condition ∈ conditions, codecConditionMatches condition (some (.numeric rate)) = true := by
  rw [Satisfies, codecOutputConditionsMatch, List.all_eq_true]

theorem mem_sortDescending {rates : List UInt32} {rate : UInt32} :
    rate ∈ sortDescending rates ↔ rate ∈ rates := by
  rw [sortDescending, List.mem_dedup, mem_sortOn]

theorem pairwise_sortDescending (rates : List UInt32) :
    (sortDescending rates).Pairwise fun a b => b.toNat ≤ a.toNat :=
  List.Pairwise.sublist (List.dedup_sublist _)
    (pairwise_sortOn (fun rate : UInt32 => OrderDual.toDual rate.toNat) rates)

def Tried (conditions : List CodecCondition) (rate : UInt32) : Prop :=
  ∃ condition ∈ conditions, condition.Tries rate

theorem mem_search {rate : UInt32} :
    rate ∈ sortDescending (input :: conditions.flatMap CodecCondition.candidates) ↔
      rate = input ∨ Tried conditions rate := by
  simp only [mem_sortDescending, List.mem_cons, List.mem_flatMap, CodecCondition.mem_candidates,
    Tried]

theorem frameRateLimit_of_satisfies (h : Satisfies conditions input) :
    frameRateLimit conditions (some input) = some none := by
  rw [Satisfies] at h
  rw [frameRateLimit, Option.any_some, if_pos h]

theorem frameRateLimit_of_not (h : ¬ Satisfies conditions input) :
    frameRateLimit conditions (some input) =
      ((sortDescending (input :: conditions.flatMap CodecCondition.candidates)).find?
        fun rate => decide (rate ≤ input) &&
          codecOutputConditionsMatch conditions (.numeric rate)).map some := by
  rw [Satisfies] at h
  rw [frameRateLimit, Option.any_some, if_neg h]
  apply Option.map_congr
  intro rate hrate
  have hmeets := List.find?_some hrate
  rw [if_neg]
  intro heq
  rw [Option.some.inj heq] at h
  exact h ((Bool.and_eq_true ..).mp hmeets).2

theorem frameRateLimit_eq_limit (h : ¬ Satisfies conditions input) {rate : UInt32}
    (hlimit : frameRateLimit conditions (some input) = some (some rate)) :
    rate < input ∧ Satisfies conditions rate ∧ Tried conditions rate ∧
      ∀ other ≤ input, Tried conditions other → Satisfies conditions other → other ≤ rate := by
  rw [frameRateLimit_of_not h] at hlimit
  obtain ⟨found, hfound, heq⟩ := Option.map_eq_some_iff.mp hlimit
  cases heq
  have hmeets := List.find?_some hfound
  simp only [Bool.and_eq_true, decide_eq_true_iff] at hmeets
  obtain ⟨hle, hsat⟩ := hmeets
  have hne : rate ≠ input := fun heq => h (heq ▸ hsat)
  have htried := (mem_search.mp (List.mem_of_find?_eq_some hfound)).resolve_left hne
  refine ⟨?_, hsat, htried, ?_⟩
  · exact UInt32.lt_of_le_of_ne hle hne
  · intro other hother htried' hsat'
    rw [UInt32.le_iff_toNat_le]
    exact rel_of_find?_eq_some (R := fun a b : UInt32 => b.toNat ≤ a.toNat)
      (fun _ => Nat.le_refl _) (pairwise_sortDescending _) hfound (mem_search.mpr (.inr htried'))
      ((Bool.and_eq_true ..).mpr ⟨decide_eq_true hother, hsat'⟩)

theorem frameRateLimit_eq_none (h : ¬ Satisfies conditions input) :
    frameRateLimit conditions (some input) = none ↔
      ∀ rate ≤ input, Tried conditions rate → ¬ Satisfies conditions rate := by
  rw [frameRateLimit_of_not h, Option.map_eq_none_iff, List.find?_eq_none]
  constructor
  · intro hall rate hle htried hsat
    exact hall rate (mem_search.mpr (.inr htried))
      ((Bool.and_eq_true ..).mpr ⟨decide_eq_true hle, hsat⟩)
  · intro hall rate hmem htest
    simp only [Bool.and_eq_true, decide_eq_true_iff] at htest
    obtain ⟨hle, hsat⟩ := htest
    cases mem_search.mp hmem with
    | inl heq => exact h (heq ▸ hsat)
    | inr htried => exact hall rate hle htried hsat

theorem frameRateLimit_ne_kept (h : ¬ Satisfies conditions input) :
    frameRateLimit conditions (some input) ≠ some none := by
  rw [frameRateLimit_of_not h]
  intro heq
  obtain ⟨_, -, hnone⟩ := Option.map_eq_some_iff.mp heq
  cases hnone

theorem exists_isGreatest (h : ∃ rate, rate < input ∧ Satisfies conditions rate) :
    ∃ rate, IsGreatest {rate | rate < input ∧ Satisfies conditions rate} rate := by
  classical
  obtain ⟨first, hfirst, hsat⟩ := h
  let P := fun n => ∃ rate : UInt32, rate.toNat = n ∧ rate < input ∧ Satisfies conditions rate
  have hle : ∀ {rate : UInt32}, rate < input → rate.toNat ≤ input.toNat :=
    fun h => Nat.le_of_lt (UInt32.lt_iff_toNat_lt.mp h)
  obtain ⟨rate, hrate, hmem⟩ :=
    Nat.findGreatest_spec (P := P) (hle hfirst) ⟨first, rfl, hfirst, hsat⟩
  refine ⟨rate, hmem, ?_⟩
  intro other hother
  rw [UInt32.le_iff_toNat_le, hrate]
  exact Nat.le_findGreatest (hle hother.1) ⟨other, rfl, hother⟩

/-- No condition refuses the rate right above the greatest admissible one alone, unless another
condition puts the admissible one forward. -/
def TriesBelowExcluded (conditions : List CodecCondition) (input : UInt32) : Prop :=
  ∀ condition ∈ conditions, ∀ rate next : UInt32, condition.Excludes next →
    next.toNat = rate.toNat + 1 → next ≤ input → Satisfies conditions rate →
      (∀ other, rate < other → other ≤ input → ¬ Satisfies conditions other) →
        Tried conditions rate

theorem TriesBelowExcluded.tried (h : TriesBelowExcluded conditions input)
    (hinput : ¬ Satisfies conditions input) {rate : UInt32}
    (hrate : IsGreatest {rate | rate < input ∧ Satisfies conditions rate} rate) :
    Tried conditions rate := by
  obtain ⟨⟨hlt, hsat⟩, hgreatest⟩ := hrate
  have hlt' := UInt32.lt_iff_toNat_lt.mp hlt
  have hbound : input.toNat < UInt32.size := input.toNat_lt
  obtain ⟨next, hnext⟩ : ∃ next : UInt32, next.toNat = rate.toNat + 1 :=
    ⟨UInt32.ofNat (rate.toNat + 1), UInt32.toNat_ofNat_of_lt' (by omega)⟩
  have habove : ∀ other, rate < other → other ≤ input → ¬ Satisfies conditions other := by
    intro other hother hle hsat'
    have hne : other ≠ input := fun heq => hinput (heq ▸ hsat')
    have hback := hgreatest ⟨UInt32.lt_of_le_of_ne hle hne, hsat'⟩
    rw [UInt32.le_iff_toNat_le] at hback
    rw [UInt32.lt_iff_toNat_lt] at hother
    omega
  have hle : next ≤ input := by
    rw [UInt32.le_iff_toNat_le]
    omega
  have hrefused : ¬ Satisfies conditions next := by
    apply habove next _ hle
    rw [UInt32.lt_iff_toNat_lt]
    omega
  rw [satisfies_iff] at hrefused
  obtain ⟨condition, hcondition, hnot⟩ : ∃ condition ∈ conditions,
      ¬ codecConditionMatches condition (some (.numeric next)) = true := by
    by_contra hall
    exact hrefused fun condition hmem => by_contra fun hnot => hall ⟨condition, hmem, hnot⟩
  have hmatch := satisfies_iff.mp hsat condition hcondition
  cases CodecCondition.tries_or_excludes hnext hmatch hnot with
  | inl htries => exact ⟨condition, hcondition, htries⟩
  | inr hexcludes => exact h condition hcondition rate next hexcludes hnext hle hsat habove

theorem isFrameRateLimit_iff :
    IsFrameRateLimit conditions input (frameRateLimit conditions (some input)) ↔
      TriesBelowExcluded conditions input := by
  constructor
  · intro hlimit condition _ rate next _ hnext hle hsat habove
    have hlt : rate < input := by
      rw [UInt32.lt_iff_toNat_lt]
      rw [UInt32.le_iff_toNat_le] at hle
      omega
    have hinput := habove input hlt (UInt32.le_refl input)
    have hgreatest : IsGreatest {rate | rate < input ∧ Satisfies conditions rate} rate := by
      refine ⟨⟨hlt, hsat⟩, fun other hother => ?_⟩
      by_contra hnot
      exact habove other (UInt32.not_le.mp hnot) (UInt32.le_of_lt hother.1) hother.2
    exact (frameRateLimit_eq_limit hinput
      ((hlimit.limited rate).mpr ⟨hinput, hgreatest⟩)).2.2.1
  · intro h
    by_cases hinput : Satisfies conditions input
    · have hkept := frameRateLimit_of_satisfies hinput
      constructor
      · exact ⟨fun _ => hinput, fun _ => hkept⟩
      · intro rate
        simp [hkept, hinput]
      · have hnot : ¬ ∀ rate ≤ input, ¬ Satisfies conditions rate :=
          fun hall => hall input (UInt32.le_refl _) hinput
        simp only [hkept, reduceCtorEq, hnot]
    · have hnone : frameRateLimit conditions (some input) = none →
          ∀ rate ≤ input, ¬ Satisfies conditions rate := by
        intro hnone rate hle hsat
        have hne : rate ≠ input := fun heq => hinput (heq ▸ hsat)
        obtain ⟨greatest, hgreatest⟩ :=
          exists_isGreatest ⟨rate, UInt32.lt_of_le_of_ne hle hne, hsat⟩
        exact (frameRateLimit_eq_none hinput).mp hnone greatest
          (UInt32.le_of_lt hgreatest.1.1) (h.tried hinput hgreatest) hgreatest.1.2
      have hsome : ∀ {rate greatest}, frameRateLimit conditions (some input) = some (some rate) →
          IsGreatest {rate | rate < input ∧ Satisfies conditions rate} greatest →
            rate = greatest := by
        intro rate greatest hlimit hgreatest
        obtain ⟨hlt, hsat, -, hmax⟩ := frameRateLimit_eq_limit hinput hlimit
        apply UInt32.le_antisymm
        · exact hgreatest.2 ⟨hlt, hsat⟩
        · exact hmax greatest (UInt32.le_of_lt hgreatest.1.1) (h.tried hinput hgreatest)
            hgreatest.1.2
      constructor
      · exact ⟨fun heq => absurd heq (frameRateLimit_ne_kept hinput), fun hsat => absurd hsat hinput⟩
      · intro rate
        constructor
        · intro hlimit
          obtain ⟨hlt, hsat, -, -⟩ := frameRateLimit_eq_limit hinput hlimit
          obtain ⟨greatest, hgreatest⟩ := exists_isGreatest ⟨rate, hlt, hsat⟩
          rw [hsome hlimit hgreatest]
          exact ⟨hinput, hgreatest⟩
        · rintro ⟨-, hgreatest⟩
          cases hlimit : frameRateLimit conditions (some input) with
          | none =>
            exact absurd hgreatest.1.2 (hnone hlimit rate (UInt32.le_of_lt hgreatest.1.1))
          | some limit =>
            cases limit with
            | none => exact absurd hlimit (frameRateLimit_ne_kept hinput)
            | some found => rw [hsome hlimit hgreatest]
      · exact ⟨hnone, fun hall => (frameRateLimit_eq_none hinput).mpr
          fun rate hle _ => hall rate hle⟩

variable {fmt : PlaybackFormats} {item : Items.MediaItem} {options : PlaybackInfoOptions}

theorem selectedVideoFrameRateLimit_eq
    (h : codecOutputConditions item options "Video" "h264" .videoFrameRate ≠ []) :
    selectedVideoFrameRateLimit item options fmt =
      frameRateLimit (codecOutputConditions item options "Video" "h264" .videoFrameRate)
        (fmt.sourceNumeric item options .videoFrameRate) := by
  have hempty :
      (codecOutputConditions item options "Video" "h264" .videoFrameRate).isEmpty = false :=
    List.isEmpty_eq_false_iff.mpr h
  simp only [selectedVideoFrameRateLimit, hempty, Bool.false_eq_true, if_false]

/-- The limit of a known source is the greatest admissible rate exactly where this rate does not
hide below one that a condition refuses alone. -/
theorem isFrameRateLimit_selectedVideoFrameRateLimit
    (hconditions : codecOutputConditions item options "Video" "h264" .videoFrameRate ≠ [])
    (hinput : fmt.sourceNumeric item options .videoFrameRate = some input) :
    IsFrameRateLimit (codecOutputConditions item options "Video" "h264" .videoFrameRate) input
        (selectedVideoFrameRateLimit item options fmt) ↔
      TriesBelowExcluded (codecOutputConditions item options "Video" "h264" .videoFrameRate)
        input := by
  rw [selectedVideoFrameRateLimit_eq hconditions, hinput]
  exact isFrameRateLimit_iff

def thirtyFrames : Items.MediaItem :=
  { Items.itemNamed 1 "film.mkv" with mediaStreams := [videoStream "h264" 0 30] }

def frameRateOptions (comparison : CodecConditionComparison) (rate : UInt32) :
    PlaybackInfoOptions :=
  { plainOptions with
    codecProfiles :=
      [⟨some "Video", ["h264"], [⟨.videoFrameRate, comparison, [.numeric rate], false⟩], []⟩] }

theorem thirtyFrames_below_twentyFive :
    selectedVideoFrameRateLimit thirtyFrames (frameRateOptions .lessThan 25000)
        plainPlaybackFormats = some (some 24999) ∧
      IsFrameRateLimit
        (codecOutputConditions thirtyFrames (frameRateOptions .lessThan 25000) "Video" "h264"
          .videoFrameRate) 30000 (some (some 24999)) := by
  have hlimit : selectedVideoFrameRateLimit thirtyFrames (frameRateOptions .lessThan 25000)
      plainPlaybackFormats = some (some 24999) := by decide
  have hless : ∀ condition ∈ codecOutputConditions thirtyFrames (frameRateOptions .lessThan 25000)
      "Video" "h264" .videoFrameRate, condition.comparison = .lessThan := by decide
  refine ⟨hlimit, hlimit ▸ (isFrameRateLimit_selectedVideoFrameRateLimit (by decide)
    (by decide)).mpr ?_⟩
  rintro condition hcondition rate next (⟨hcomparison, -⟩ | ⟨hcomparison, -⟩)
  · exact absurd ((hless condition hcondition).symm.trans hcomparison) (by decide)
  · exact absurd ((hless condition hcondition).symm.trans hcomparison) (by decide)

theorem thirtyFrames_refused :
    codecOutputConditions thirtyFrames (frameRateOptions .notEqual 30000) "Video" "h264"
        .videoFrameRate ≠ [] ∧
      plainPlaybackFormats.sourceNumeric thirtyFrames (frameRateOptions .notEqual 30000)
        .videoFrameRate = some 30000 ∧
      ¬ IsFrameRateLimit
        (codecOutputConditions thirtyFrames (frameRateOptions .notEqual 30000) "Video" "h264"
          .videoFrameRate) 30000
        (selectedVideoFrameRateLimit thirtyFrames (frameRateOptions .notEqual 30000)
          plainPlaybackFormats) := by
  have hrun : (codecOutputConditions thirtyFrames (frameRateOptions .notEqual 30000) "Video" "h264"
        .videoFrameRate ≠ [] ∧
      plainPlaybackFormats.sourceNumeric thirtyFrames (frameRateOptions .notEqual 30000)
        .videoFrameRate = some 30000) ∧
      selectedVideoFrameRateLimit thirtyFrames (frameRateOptions .notEqual 30000)
        plainPlaybackFormats = none ∧
      Satisfies (codecOutputConditions thirtyFrames (frameRateOptions .notEqual 30000) "Video"
        "h264" .videoFrameRate) 29999 := by
    decide
  refine ⟨hrun.1.1, hrun.1.2, fun hlimit => ?_⟩
  exact hlimit.refused.mp hrun.2.1 29999 (by decide) hrun.2.2

end Jellyrin.Playback
