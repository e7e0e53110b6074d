import Jellyrin.Defs.Transcode.CommandClass

/-! What the scan of the arguments makes of values, maps, codecs and paths. -/

namespace Jellyrin.Transcode

open Ascii Text

/-! Arguments that the scan passes over. -/

def IsPlainArg (arg : String) : Prop :=
  filterJobKind arg = none ∧ codecTarget arg = none ∧ eqIgnoreAsciiCase arg "-map" = false

instance (arg : String) : Decidable (IsPlainArg arg) :=
  inferInstanceAs (Decidable (_ ∧ _ ∧ _))

def IsValue (s : String) : Prop :=
  (s.toList.head?.any fun c => !Json.isWhitespace c && c != '-') = true

instance (s : String) : Decidable (IsValue s) := inferInstanceAs (Decidable (_ = _))

theorem isValue_cons {s : String} {c : Char} {cs : List Char} (hs : s.toList = c :: cs)
    (hblank : Json.isWhitespace c = false) (hdash : c ≠ '-') : IsValue s := by
  simp [IsValue, hs, hblank, hdash]

theorem IsValue.exists_cons {s : String} (h : IsValue s) :
    ∃ c cs, s.toList = c :: cs ∧ Json.isWhitespace c = false ∧ c ≠ '-' := by
  cases hs : s.toList with
  | nil => simp [IsValue, hs] at h
  | cons c cs =>
    simp only [IsValue, hs, List.head?_cons, Option.any_some, Bool.and_eq_true, Bool.not_eq_true',
      bne_iff_ne] at h
    exact ⟨c, cs, rfl, h.1, h.2⟩

theorem IsValue.append {s : String} (h : IsValue s) (t : String) : IsValue (s ++ t) := by
  obtain ⟨c, cs, hs, hblank, hdash⟩ := h.exists_cons
  exact isValue_cons (by rw [String.toList_append, hs, List.cons_append]) hblank hdash

theorem isWhitespace_of_isDigit {c : Char} (h : c.isDigit = true) :
    Json.isWhitespace c = false := by
  simp only [Char.isDigit, Bool.and_eq_true, decide_eq_true_eq] at h
  have hlow : 48 ≤ c.toNat := h.1
  have hhigh : c.toNat ≤ 57 := h.2
  simp only [Json.isWhitespace, Bool.or_eq_false_iff, Bool.and_eq_false_iff, decide_eq_false_iff_not,
    beq_eq_false_iff_ne]
  omega

theorem isValue_toString (n : Nat) : IsValue (toString n) := by
  cases hs : (toString n).toList with
  | nil =>
    rw [toList_toString] at hs
    exact absurd hs Nat.toDigits_ne_nil
  | cons c cs =>
    have hdigit : c.isDigit = true :=
      isDigit_of_mem_toString (n := n) (by rw [hs]; exact List.mem_cons_self)
    refine isValue_cons hs (isWhitespace_of_isDigit hdigit) ?_
    rintro rfl
    exact absurd hdigit (by decide)

theorem isValue_toFixed (places : Nat) (q : ℚ) : IsValue (F64.toFixed places q) :=
  ((isValue_toString _).append _).append _

theorem toList_trim_cons {s : String} {c : Char} {cs : List Char} (hs : s.toList = c :: cs)
    (hblank : Json.isWhitespace c = false) :
    ∃ rest, (Json.trim s).toList = c :: rest := by
  have hdrop : (c :: cs).dropWhile Json.isWhitespace = c :: cs := by
    rw [List.dropWhile_cons_of_neg (by simp [hblank])]
  have htrim : (Json.trim s).toList = (c :: cs).rdropWhile Json.isWhitespace := by
    rw [Json.trim, String.toList_ofList, hs, hdrop, List.rdropWhile]
  obtain ⟨dropped, happend⟩ := List.rdropWhile_prefix Json.isWhitespace (c :: cs)
  rw [← htrim] at happend
  cases htrimmed : (Json.trim s).toList with
  | nil =>
    rw [htrim, List.rdropWhile_eq_nil_iff] at htrimmed
    have := htrimmed c List.mem_cons_self
    rw [hblank] at this
    cases this
  | cons d rest =>
    rw [htrimmed] at happend
    cases happend
    exact ⟨rest, rfl⟩

theorem toLower_ne_dash {c : Char} (hdash : c ≠ '-') : c.toLower ≠ '-' := by
  intro h
  by_cases hupper : 'A'.val ≤ c.val ∧ c.val ≤ 'Z'.val
  · have hlower := val_toLower hupper
    rw [h] at hlower
    have hge := UInt32.le_iff_toNat_le.mp hupper.1
    have hle := UInt32.le_iff_toNat_le.mp hupper.2
    have heq := congrArg UInt32.toNat hlower
    rw [UInt32.toNat_add] at heq
    simp at hge hle heq
    omega
  · exact hdash (toLower_eq_self hupper ▸ h)

theorem IsValue.toList_folded {s : String} (h : IsValue s) :
    ∃ c cs, (toAsciiLowercase (Json.trim s)).toList = c :: cs ∧ c ≠ '-' := by
  obtain ⟨c, cs, hs, hblank, hdash⟩ := h.exists_cons
  obtain ⟨rest, htrim⟩ := toList_trim_cons hs hblank
  refine ⟨c.toLower, rest.map Char.toLower, ?_, toLower_ne_dash hdash⟩
  rw [toAsciiLowercase, String.toList_ofList, htrim, List.map_cons]

theorem startsWith_eq_false {s start : String} {c d : Char} {cs ds : List Char}
    (hs : s.toList = c :: cs) (hstart : start.toList = d :: ds) (hne : c ≠ d) :
    startsWith s start = false := by
  rw [startsWith, hs, hstart, List.isPrefixOf_cons_cons]
  simp [hne.symm]

theorem contains_eq_false {s : String} {options : List String} {c : Char} {cs : List Char}
    (hs : s.toList = c :: cs) (hdash : c ≠ '-')
    (hoptions : ∀ option ∈ options, option.toList.head? = some '-') :
    options.contains s = false := by
  rw [Bool.eq_false_iff, ne_eq, List.contains_iff_mem]
  intro hmem
  have hhead := hoptions s hmem
  rw [hs, List.head?_cons, Option.some.injEq] at hhead
  exact hdash hhead

theorem IsValue.filterJobKind {arg : String} (h : IsValue arg) : filterJobKind arg = none := by
  obtain ⟨c, cs, hfolded, hdash⟩ := h.toList_folded
  have hstart : ∀ start : String, start.toList.head? = some '-' →
      startsWith (toAsciiLowercase (Json.trim arg)) start = false := by
    intro start hhead
    obtain ⟨ds, hds⟩ := List.head?_eq_some_iff.mp hhead
    exact startsWith_eq_false hfolded hds hdash
  have hcontains : ∀ options : List String, (∀ option ∈ options, option.toList.head? = some '-') →
      options.contains (toAsciiLowercase (Json.trim arg)) = false :=
    fun options => contains_eq_false hfolded hdash
  simp only [Transcode.filterJobKind, hcontains ["-af", "-filter:a"] (by decide),
    hstart "-filter:a:" (by decide), hstart "-filter_script:a" (by decide),
    hcontains ["-vf", "-filter:v"] (by decide), hstart "-filter:v:" (by decide),
    hcontains ["-filter", "-filter_complex", "-filter_script", "-filter_complex_script", "-lavfi",
      "-target"] (by decide),
    hstart "-filter:" (by decide), hstart "-filter_script:" (by decide),
    hstart "-filter_complex:" (by decide), hstart "-filter_complex_script:" (by decide),
    Bool.or_false, Bool.false_eq_true, if_false]

theorem IsValue.codecTarget {arg : String} (h : IsValue arg) : codecTarget arg = none := by
  obtain ⟨c, cs, hfolded, hdash⟩ := h.toList_folded
  simp only [Transcode.codecTarget]
  split
  · rfl
  · rename_i base parts hsplit
    have hbase : ∀ option : String, option.toList.head? = some '-' → base ≠ option := by
      rintro option hhead rfl
      obtain ⟨ds, hds⟩ := List.head?_eq_some_iff.mp hhead
      obtain ⟨rest, hrest⟩ := split_prefix hsplit
      rw [hds, hfolded, List.cons_append] at hrest
      cases hrest
      exact hdash rfl
    simp only [hbase "-vcodec" (by decide), hbase "-acodec" (by decide),
      hbase "-scodec" (by decide), hbase "-c" (by decide), hbase "-codec" (by decide), if_false,
      or_self]

theorem IsValue.ne_map {arg : String} (h : IsValue arg) :
    eqIgnoreAsciiCase arg "-map" = false := by
  obtain ⟨c, cs, hs, -, hdash⟩ := h.exists_cons
  rw [eqIgnoreAsciiCase, decide_eq_false_iff_not, hs]
  intro heq
  have hhead := congrArg List.head? heq
  rw [List.map_cons, List.head?_cons] at hhead
  exact toLower_ne_dash hdash (Option.some.inj hhead)

theorem IsValue.isPlainArg {arg : String} (h : IsValue arg) : IsPlainArg arg :=
  ⟨h.filterJobKind, h.codecTarget, h.ne_map⟩

/-! How the scan proceeds. -/

namespace Scan

variable {bounded : Bool} {scan : Scan} {rest : List String}

@[simp] theorem observed_map (target : Option CodecTarget) :
    (scan.map target).observed = scan.observed := by
  cases target with
  | none => rfl
  | some target => cases target <;> rfl

theorem args_plain {arg : String} (h : IsPlainArg arg) :
    scan.args bounded (arg :: rest) = scan.args bounded rest := by
  obtain ⟨hfilter, hcodec, hmap⟩ := h
  simp only [args, Scan.arg, hfilter, hcodec, hmap, Option.elim_none, Bool.false_eq_true, if_false,
    Option.bind_some]

theorem args_append_plain {group : List String} (h : ∀ arg ∈ group, IsPlainArg arg) :
    scan.args bounded (group ++ rest) = scan.args bounded rest := by
  induction group with
  | nil => rfl
  | cons arg group ih =>
    rw [List.cons_append, args_plain (h arg List.mem_cons_self)]
    exact ih fun other hother => h other (List.mem_cons_of_mem _ hother)

theorem args_map {value : String} (h : IsPlainArg value) :
    scan.args bounded ("-map" :: value :: rest) =
      (scan.map (mappedStreamTarget value)).args bounded rest := by
  have hfilter : filterJobKind "-map" = none := by decide
  have hcodec : codecTarget "-map" = none := by decide
  have hmap : eqIgnoreAsciiCase "-map" "-map" = true := eqIgnoreAsciiCase_self _
  rw [args]
  simp only [Scan.arg, hfilter, hcodec, hmap, if_true, Option.elim_none, List.head?_cons,
    Option.bind_some]
  exact args_plain h

theorem args_copy {option value : String} {target : CodecTarget}
    (hfilter : filterJobKind option = none) (hcodec : codecTarget option = some target)
    (hcopy : codecIsCopyOrDisabled value = true) (hvalue : IsPlainArg value) :
    scan.args bounded (option :: value :: rest) =
      ({ scan with sawCodecDirective := true }.copy option target).args bounded rest := by
  rw [args]
  simp only [Scan.arg, hfilter, hcodec, hcopy, Option.elim_none, List.head?_cons, Option.map_some,
    Option.bind_some, Bool.true_or, if_true]
  exact args_plain hvalue

theorem args_videoCopy :
    scan.args bounded ("-c:v" :: "copy" :: rest) =
      { scan with sawCodecDirective := true, videoCopy := true }.args bounded rest :=
  @args_copy _ _ _ _ _ .video (by decide) (by decide) (by decide) (by decide)

theorem args_audioCopy :
    scan.args bounded ("-c:a" :: "copy" :: rest) =
      { scan with sawCodecDirective := true, audioCopy := true }.args bounded rest :=
  @args_copy _ _ _ _ _ .audio (by decide) (by decide) (by decide) (by decide)

theorem args_audioEncode :
    scan.args bounded ("-c:a" :: "aac" :: rest) =
      ({ scan with sawCodecDirective := true }.observe .audioEncode).args bounded rest := by
  have hfilter : filterJobKind "-c:a" = none := by decide
  have hcodec : codecTarget "-c:a" = some .audio := by decide
  have hcopy : codecIsCopyOrDisabled "aac" = false := by decide
  rw [args]
  simp only [Scan.arg, hfilter, hcodec, hcopy, Option.elim_none, List.head?_cons, Option.map_some,
    Option.bind_some, Bool.false_or, Scan.encode, reduceCtorEq, decide_false, Bool.false_and,
    Bool.false_eq_true, if_false]
  exact args_plain (by decide)

def webvtt (bounded : Bool) (scan : Scan) : Scan :=
  if bounded then { scan with sawCodecDirective := true, subtitleCopy := true }
  else { scan with sawCodecDirective := true }.observe .audioEncode

theorem args_webvtt :
    scan.args bounded ("-c:s" :: "webvtt" :: rest) = (scan.webvtt bounded).args bounded rest := by
  have hfilter : filterJobKind "-c:s" = none := by decide
  have hcodec : codecTarget "-c:s" = some .subtitle := by decide
  have hcopy : codecIsCopyOrDisabled "webvtt" = false := by decide
  have hwebvtt : eqIgnoreAsciiCase "webvtt" "webvtt" = true := eqIgnoreAsciiCase_self _
  rw [args]
  simp only [Scan.arg, hfilter, hcodec, hcopy, hwebvtt, Option.elim_none, List.head?_cons,
    Option.map_some, Option.bind_some, Bool.false_or, Scan.encode, Scan.copy, decide_true,
    Bool.true_and]
  exact args_plain (by decide)

end Scan

/-! What a path adds to the scan. -/

def pathJobKind (path : String) : TranscodeJobKind :=
  let filter := (filterJobKind path).getD .remux
  match codecTarget path with
  | none => maxJobKind .remux filter
  | some .audio | some .subtitle => maxJobKind filter .audioEncode
  | some .video | some .unknown => maxJobKind filter .videoEncode

def lastPathJobKind (path : String) : TranscodeJobKind :=
  if (codecTarget path).isSome then .videoEncode else pathJobKind path

theorem maxJobKind_assoc (a b c : TranscodeJobKind) :
    maxJobKind (maxJobKind a b) c = maxJobKind a (maxJobKind b c) := by
  cases a <;> cases b <;> cases c <;> rfl

theorem maxJobKind_remux_max (a b : TranscodeJobKind) :
    maxJobKind (maxJobKind a b) .remux = maxJobKind a b := by
  cases a <;> cases b <;> rfl

theorem maxJobKind_eq_self_iff {kind a b : TranscodeJobKind} :
    maxJobKind kind (maxJobKind a b) = kind ↔
      maxJobKind kind a = kind ∧ maxJobKind kind b = kind := by
  cases kind <;> cases a <;> cases b <;> decide

theorem codecTarget_eq_none_of_pathJobKind {path : String}
    (h : maxJobKind .remux (pathJobKind path) = .remux) : codecTarget path = none := by
  cases hcodec : codecTarget path with
  | none => rfl
  | some target =>
    cases target <;> simp only [pathJobKind, hcodec, maxJobKind_eq_self_iff] at h <;>
      cases h.2

def IsEncoder (arg : String) : Prop :=
  codecIsCopyOrDisabled arg = false ∧ eqIgnoreAsciiCase arg "webvtt" = false

instance (arg : String) : Decidable (IsEncoder arg) := inferInstanceAs (Decidable (_ ∧ _))

namespace Scan

def path (scan : Scan) (path : String) : Scan :=
  { scan with
    sawCodecDirective := scan.sawCodecDirective || (codecTarget path).isSome
    observed := maxJobKind scan.observed (pathJobKind path) }

def IsSettled (scan : Scan) : Prop := maxJobKind scan.observed .remux = scan.observed

variable {bounded : Bool} {scan : Scan} {rest : List String}

theorem observed_path (scan : Scan) (path : String) :
    (scan.path path).observed = maxJobKind scan.observed (pathJobKind path) := rfl

theorem sawCodecDirective_path (scan : Scan) (path : String) :
    (scan.path path).sawCodecDirective =
      (scan.sawCodecDirective || (codecTarget path).isSome) := rfl

theorem observed_start : start.observed = .remux := rfl

theorem isSettled_start : start.IsSettled := rfl

theorem isSettled_path (scan : Scan) (path : String) : (scan.path path).IsSettled :=
  maxJobKind_remux_max _ _

theorem jobKind_of_observed (hsaw : scan.sawCodecDirective = true)
    (hobserved : scan.observed ≠ .remux) : scan.jobKind bounded = scan.observed := by
  simp [jobKind, hsaw, hobserved]

variable (bounded) in
theorem jobKind_ne_remux (hobserved : scan.observed ≠ .remux) :
    scan.jobKind bounded = .videoEncode ∨ scan.jobKind bounded = scan.observed := by
  cases hsaw : scan.sawCodecDirective with
  | false => exact .inl (by simp [jobKind, hsaw])
  | true => exact .inr (jobKind_of_observed hsaw hobserved)

theorem path_eq_self {path : String} (hscan : scan.IsSettled)
    (hpath : maxJobKind .remux (pathJobKind path) = .remux) : scan.path path = scan := by
  have hcodec : (codecTarget path).isSome = false := by
    rw [codecTarget_eq_none_of_pathJobKind hpath]
    rfl
  have hobserved : maxJobKind scan.observed (pathJobKind path) = scan.observed := by
    rw [← hscan, maxJobKind_assoc, hpath]
  rw [Scan.path, hcodec, hobserved, Bool.or_false]

theorem arg_path {path : String} {next : Option String}
    (hmap : eqIgnoreAsciiCase path "-map" = false) (hscan : scan.IsSettled)
    (hnext : ∀ other ∈ next, IsEncoder other) (hsome : (codecTarget path).isSome → next.isSome) :
    scan.arg bounded path next = some (scan.path path) := by
  have hremux : maxJobKind scan.observed .remux = scan.observed := hscan
  simp only [Scan.arg, Scan.path, pathJobKind]
  cases hcodec : codecTarget path with
  | none =>
    cases hfilter : filterJobKind path with
    | none =>
      have hnone : maxJobKind .remux .remux = .remux := rfl
      simp [hmap, hnone, hremux]
    | some kind =>
      have hkind : maxJobKind scan.observed (maxJobKind .remux kind) =
          maxJobKind scan.observed kind := by
        rw [← maxJobKind_assoc, hremux]
      simp [hmap, observe, hkind]
  | some target =>
    cases next with
    | none => simp [hcodec] at hsome
    | some next =>
      obtain ⟨hcopy, hwebvtt⟩ := hnext next rfl
      cases hfilter : filterJobKind path <;> cases target <;>
        simp [hcopy, hwebvtt, encode, observe, hremux, ← maxJobKind_assoc]

theorem args_path {path : String} (hmap : eqIgnoreAsciiCase path "-map" = false)
    (hscan : scan.IsSettled) (hrest : ∃ next tail, rest = next :: tail ∧ IsEncoder next) :
    scan.args bounded (path :: rest) = (scan.path path).args bounded rest := by
  obtain ⟨next, tail, rfl, hnext⟩ := hrest
  rw [args, List.head?_cons, arg_path hmap hscan (by simpa using hnext) (by simp),
    Option.bind_some]

theorem args_lastPath {path : String} (hmap : eqIgnoreAsciiCase path "-map" = false)
    (hscan : scan.IsSettled) :
    scan.args bounded [path] =
      if (codecTarget path).isSome then none else some (scan.path path) := by
  rw [args, List.head?_nil]
  cases hcodec : codecTarget path with
  | none =>
    rw [arg_path hmap hscan (by simp) (by simp [hcodec])]
    rfl
  | some target => simp [Scan.arg, hcodec]

end Scan

/-! The streams that a map selects. -/

def selectedTarget (target : CodecTarget) (streamIndex : Option Int64) : CodecTarget :=
  if streamIndex.any fun index => 0 ≤ index then .unknown else target

theorem mem_indexTarget {n : Nat} {c : Char} (h : c ∈ ("0:" ++ toString n).toList) :
    c = '0' ∨ c = ':' ∨ c.isDigit = true := by
  rw [String.toList_append, List.mem_append] at h
  obtain hstart | hdigit := h
  · obtain rfl | rfl : c = '0' ∨ c = ':' := by simpa using hstart
    · exact .inl rfl
    · exact .inr (.inl rfl)
  · exact .inr (.inr (isDigit_of_mem_toString hdigit))

theorem trim_indexTarget {n : Nat} {suffix : String} (hsuffix : suffix = "?" ∨ suffix = "") :
    trimEndMatches '?' (Json.trim ("0:" ++ toString n ++ suffix)) = "0:" ++ toString n := by
  have hblank : ∀ c ∈ ("0:" ++ toString n).toList, Json.isWhitespace c = false := by
    intro c hc
    obtain rfl | rfl | hdigit := mem_indexTarget hc
    · decide
    · decide
    · exact isWhitespace_of_isDigit hdigit
  have hmark : '?' ∉ ("0:" ++ toString n).toList := by
    intro hc
    have hindex := mem_indexTarget hc
    revert hindex
    decide
  obtain rfl | rfl := hsuffix
  · rw [Json.trim_of_forall, trimEndMatches_append (by decide), trimEndMatches_of_notMem hmark]
    intro c hc
    rw [String.toList_append, List.mem_append] at hc
    obtain hinit | hlast := hc
    · exact hblank c hinit
    · rw [List.mem_singleton.mp hlast]
      decide
  · rw [String.append_empty, Json.trim_of_forall hblank, trimEndMatches_of_notMem hmark]

theorem split_indexTarget (n : Nat) : split ':' ("0:" ++ toString n) = ["0", toString n] := by
  have hjoin : "0:" ++ toString n = ":".intercalate ["0", toString n] := by
    have htag : "0:" = "0" ++ ":" := by simp
    rw [String.intercalate_cons_cons, String.intercalate_singleton, htag]
  rw [hjoin]
  refine split_intercalate ':' ?_ (by simp)
  intro part hpart hmem
  obtain rfl | hpart := List.mem_cons.mp hpart
  · revert hmem
    decide
  · rw [List.mem_singleton.mp hpart] at hmem
    exact absurd (isDigit_of_mem_toString hmem) (by decide)

theorem toString_ne_streamType {n : Nat} {streamType : String}
    (h : streamType.toList.all Char.isDigit = false) : toString n ≠ streamType := by
  intro heq
  have hdigits : streamType.toList.all Char.isDigit = true := by
    rw [← heq, List.all_eq_true]
    exact fun c hc => isDigit_of_mem_toString hc
  rw [h] at hdigits
  cases hdigits

theorem mappedStreamTarget_index (n : Nat) {suffix : String} (hsuffix : suffix = "?" ∨ suffix = "") :
    mappedStreamTarget ("0:" ++ toString n ++ suffix) = some .unknown := by
  have hbracket : startsWith ("0:" ++ toString n) "[" = false := by
    simp [startsWith, String.toList_append, List.isPrefixOf]
  have hzero : startsWith ("0:" ++ toString n) "0:" = true := by
    simp [startsWith, String.toList_append]
  simp only [mappedStreamTarget, trim_indexTarget hsuffix, hbracket, hzero, split_indexTarget,
    List.getElem?_cons_succ, List.getElem?_cons_zero, Bool.false_or, Bool.not_true,
    Bool.false_eq_true, if_false]
  split
  · rename_i htag
    exact absurd (Option.some.inj htag) (toString_ne_streamType (by decide))
  · rename_i htag
    exact absurd (Option.some.inj htag) (toString_ne_streamType (by decide))
  · rename_i htag
    exact absurd (Option.some.inj htag) (toString_ne_streamType (by decide))
  · rfl
  · rename_i htag
    cases htag

namespace Scan

variable {bounded : Bool} {scan : Scan} {rest : List String}

theorem args_selectedStreamMap {streamType suffix : String} {streamIndex : Option Int64}
    {optional : Bool} {target : CodecTarget} (hsuffix : suffix = if optional then "?" else "")
    (htarget : mappedStreamTarget ("0:" ++ streamType ++ ":0" ++ suffix) = some target) :
    scan.args bounded (pushSelectedStreamMap streamType streamIndex optional ++ rest) =
      (scan.map (some (selectedTarget target streamIndex))).args bounded rest := by
  have hvalue : ∀ middle, IsPlainArg ("0:" ++ middle ++ suffix) := fun middle =>
    (((show IsValue "0:" by decide).append middle).append suffix).isPlainArg
  simp only [pushSelectedStreamMap, ← hsuffix]
  cases hindex : streamIndex.filter fun index => 0 ≤ index with
  | none =>
    have hany : (streamIndex.any fun index => 0 ≤ index) = false := by
      cases streamIndex with
      | none => rfl
      | some index => simpa using hindex
    have hfirst : "0:" ++ streamType ++ ":0" ++ suffix = "0:" ++ (streamType ++ ":0") ++ suffix := by
      simp only [String.append_assoc]
    have hplain : IsPlainArg ("0:" ++ streamType ++ ":0" ++ suffix) := by
      rw [hfirst]
      exact hvalue _
    rw [List.cons_append, List.cons_append, List.nil_append, args_map hplain, htarget,
      selectedTarget, hany]
    rfl
  | some index =>
    obtain ⟨rfl, hnonneg⟩ := Option.filter_eq_some_iff.mp hindex
    have hint : 0 ≤ index.toInt := Int64.le_iff_toInt_le.mp (of_decide_eq_true hnonneg)
    obtain ⟨n, hn⟩ := Int.eq_ofNat_of_zero_le hint
    have hunknown : mappedStreamTarget ("0:" ++ toString index.toInt ++ suffix) = some .unknown := by
      rw [hn]
      refine mappedStreamTarget_index n ?_
      cases optional with
      | true => exact .inl hsuffix
      | false => exact .inr hsuffix
    rw [List.cons_append, List.cons_append, List.nil_append, args_map (hvalue _), hunknown,
      selectedTarget, Option.any_some, hnonneg]
    rfl

end Scan

end Jellyrin.Transcode
