import Jellyrin.Defs.Api.ApiError
import Jellyrin.Defs.Data.EntityId
import Jellyrin.Defs.Data.Fallible
import Jellyrin.Defs.Data.Text
import Jellyrin.Defs.Data.Utf8
import Mathlib.Data.List.Count

/-! Identifiers that clients send: where reading one panics, and where the comparison of two is no
equivalence. -/

/-! Elements that are compared by a key where both have one, and else as they are. -/

namespace Jellyrin

universe u v

structure KeyedComparison (α : Type u) (κ : Type v) where
  key : α → Option κ
  same : α → α → Prop
  equivalence : Equivalence same
  key_of_same : ∀ {a b x y}, same a b → key a = some x → key b = some y → x = y

namespace KeyedComparison

variable {α : Type u} {κ : Type v} (comparison : KeyedComparison α κ) {a b c : α}

def Matches (a b : α) : Prop :=
  match comparison.key a, comparison.key b with
  | some x, some y => x = y
  | _, _ => comparison.same a b

/-- The first has no key and is the second one, which has the key of a third one. -/
structure Bridges (a b c : α) (x : κ) : Prop where
  noKey : comparison.key a = none
  same : comparison.same a b
  left : comparison.key b = some x
  right : comparison.key c = some x
  other : ¬comparison.same a c

theorem matches_self (a : α) : comparison.Matches a a := by
  rw [Matches]
  cases comparison.key a with
  | none => exact comparison.equivalence.refl a
  | some x => rfl

theorem matches_comm : comparison.Matches a b ↔ comparison.Matches b a := by
  rw [Matches, Matches]
  cases comparison.key a with
  | none =>
    cases comparison.key b with
    | none => exact ⟨comparison.equivalence.symm, comparison.equivalence.symm⟩
    | some y => exact ⟨comparison.equivalence.symm, comparison.equivalence.symm⟩
  | some x =>
    cases comparison.key b with
    | none => exact ⟨comparison.equivalence.symm, comparison.equivalence.symm⟩
    | some y => exact eq_comm

theorem matches_of_none (h : comparison.key a = none) :
    comparison.Matches a b ↔ comparison.same a b := by
  rw [Matches, h]

theorem matches_of_some {x y : κ} (ha : comparison.key a = some x) (hb : comparison.key b = some y) :
    comparison.Matches a b ↔ x = y := by
  rw [Matches, ha, hb]

theorem trans_iff : (comparison.Matches a b → comparison.Matches b c → comparison.Matches a c) ↔
    ∀ x, ¬comparison.Bridges a b c x ∧ ¬comparison.Bridges c b a x := by
  constructor
  · refine fun htrans x => ⟨fun hbridge => ?_, fun hbridge => ?_⟩
    · refine hbridge.other ((comparison.matches_of_none hbridge.noKey).mp (htrans ?_ ?_))
      · exact (comparison.matches_of_none hbridge.noKey).mpr hbridge.same
      · exact (comparison.matches_of_some hbridge.left hbridge.right).mpr rfl
    · refine hbridge.other ((comparison.matches_of_none hbridge.noKey).mp
        (comparison.matches_comm.mp (htrans ?_ ?_)))
      · exact (comparison.matches_of_some hbridge.right hbridge.left).mpr rfl
      · exact comparison.matches_comm.mp
          ((comparison.matches_of_none hbridge.noKey).mpr hbridge.same)
  · intro hbridge hab hbc
    have hsymm {a b : α} (h : comparison.same a b) := comparison.equivalence.symm h
    cases ha : comparison.key a with
    | none =>
      have hsame := (comparison.matches_of_none ha).mp hab
      rw [comparison.matches_of_none ha]
      cases hb : comparison.key b with
      | none =>
        exact comparison.equivalence.trans hsame ((comparison.matches_of_none hb).mp hbc)
      | some y =>
        cases hc : comparison.key c with
        | none =>
          rw [comparison.matches_comm, comparison.matches_of_none hc] at hbc
          exact comparison.equivalence.trans hsame (hsymm hbc)
        | some z =>
          obtain rfl := (comparison.matches_of_some hb hc).mp hbc
          by_contra hother
          exact (hbridge y).1 ⟨ha, hsame, hb, hc, hother⟩
    | some x =>
      cases hc : comparison.key c with
      | none =>
        rw [comparison.matches_comm, comparison.matches_of_none hc] at hbc ⊢
        cases hb : comparison.key b with
        | none =>
          rw [comparison.matches_comm, comparison.matches_of_none hb] at hab
          exact comparison.equivalence.trans hbc hab
        | some y =>
          obtain rfl := (comparison.matches_of_some ha hb).mp hab
          by_contra hother
          exact (hbridge x).2 ⟨hc, hbc, hb, ha, hother⟩
      | some z =>
        rw [comparison.matches_of_some ha hc]
        cases hb : comparison.key b with
        | none =>
          rw [comparison.matches_comm, comparison.matches_of_none hb] at hab
          rw [comparison.matches_of_none hb] at hbc
          exact comparison.key_of_same (comparison.equivalence.trans (hsymm hab) hbc) ha hc
        | some y =>
          exact ((comparison.matches_of_some ha hb).mp hab).trans
            ((comparison.matches_of_some hb hc).mp hbc)

end KeyedComparison

end Jellyrin

/-! Identifiers in letters of any case. -/

namespace Jellyrin.Uuid

open Ascii

def urnPrefix : List Char := "urn:uuid:".toList

theorem parseStr_eq (s : String) : parseStr s =
    if urnPrefix <+: s.toList then parseHyphenated (s.toList.drop 9)
    else if s.toList.head? = some '\x7b' then
      if s.toList.tail.getLast? = some '\x7d' then parseHyphenated s.toList.tail.dropLast else none
    else (parseSimple s.toList).or (parseHyphenated s.toList) := by
  rw [parseStr]
  split
  · rename_i rest heq
    have hurn : urnPrefix <+: s.toList := ⟨rest, heq.symm⟩
    rw [if_pos hurn, heq]
    rfl
  · rename_i rest hother heq
    have hurn : ¬urnPrefix <+: s.toList := by
      rintro ⟨tail, htail⟩
      rw [heq] at htail
      cases htail
    rw [if_neg hurn, heq]
    rfl
  · rename_i hurn hbrace
    have hnotUrn : ¬urnPrefix <+: s.toList := by
      rintro ⟨tail, htail⟩
      exact hurn tail htail.symm
    have hnotBrace : s.toList.head? ≠ some '\x7b' := by
      intro hhead
      obtain ⟨tail, htail⟩ := List.head?_eq_some_iff.mp hhead
      exact hbrace tail htail
    rw [if_neg hnotUrn, if_neg hnotBrace]

theorem hexValue_toLower_eq (c : Char) : hexValue c.toLower = hexValue c := by
  by_cases h : 'A'.val ≤ c.val ∧ c.val ≤ 'Z'.val
  · have hc : 65 ≤ c.toNat ∧ c.toNat ≤ 90 := h
    have hall : ∀ n < 91, 65 ≤ n → hexValue (Char.ofNat n).toLower = hexValue (Char.ofNat n) := by
      decide
    have hown := hall c.toNat (by omega) hc.1
    rwa [Char.ofNat_toNat] at hown
  · rw [toLower_eq_self h]

theorem parseSimple_map_toLower (cs : List Char) :
    parseSimple (cs.map Char.toLower) = parseSimple cs := by
  have hdigits : (cs.map Char.toLower).mapM hexValue = cs.mapM hexValue := by
    induction cs with
    | nil => rfl
    | cons c cs ih => rw [List.map_cons, List.mapM_cons, List.mapM_cons, hexValue_toLower_eq, ih]
  rw [parseSimple, parseSimple, List.length_map, hdigits]

theorem toLower_eq_iff {c d : Char} (hsmall : ¬(97 ≤ d.toNat ∧ d.toNat ≤ 122))
    (hcapital : ¬(65 ≤ d.toNat ∧ d.toNat ≤ 90)) : c.toLower = d ↔ c = d := by
  constructor
  · intro h
    by_cases hupper : 'A'.val ≤ c.val ∧ c.val ≤ 'Z'.val
    · have hc : 65 ≤ c.toNat ∧ c.toNat ≤ 90 := hupper
      have hlower := toNat_toLower hupper
      rw [h] at hlower
      omega
    · rwa [toLower_eq_self hupper] at h
  · rintro rfl
    exact toLower_eq_self hcapital

theorem toLower_eq_dash_iff {c : Char} : c.toLower = '-' ↔ c = '-' :=
  toLower_eq_iff (by decide) (by decide)

theorem splitOn_map_toLower (cs : List Char) :
    (cs.map Char.toLower).splitOn '-' = (cs.splitOn '-').map (List.map Char.toLower) := by
  induction cs with
  | nil => rfl
  | cons c cs ih =>
    rw [List.map_cons, List.splitOn_cons_eq_if_modifyHead, List.splitOn_cons_eq_if_modifyHead, ih]
    by_cases hdash : c = '-'
    · have hlower : c.toLower = '-' := toLower_eq_dash_iff.mpr hdash
      rw [if_pos (beq_iff_eq.mpr hlower), if_pos (beq_iff_eq.mpr hdash)]
      rfl
    · have hlower : c.toLower ≠ '-' := fun h => hdash (toLower_eq_dash_iff.mp h)
      rw [if_neg (by simpa using hlower), if_neg (by simpa using hdash)]
      cases cs.splitOn '-' with
      | nil => rfl
      | cons word words => rfl

theorem parseHyphenated_map_toLower (cs : List Char) :
    parseHyphenated (cs.map Char.toLower) = parseHyphenated cs := by
  have hlengths : ((cs.splitOn '-').map (List.map Char.toLower)).map List.length =
      (cs.splitOn '-').map List.length := by
    rw [List.map_map]
    exact List.map_congr_left fun word _ => List.length_map _
  rw [parseHyphenated, parseHyphenated, splitOn_map_toLower, hlengths, ← List.map_flatten,
    parseSimple_map_toLower]

theorem mem_of_parseSimple {cs : List Char} {id : Uuid} (h : parseSimple cs = some id) :
    cs.length = 32 ∧ ∀ c ∈ cs, (hexValue c).isSome = true := by
  rw [parseSimple] at h
  split at h
  · rename_i hlength
    refine ⟨hlength, ?_⟩
    obtain ⟨digits, hdigits, -⟩ := Option.map_eq_some_iff.mp h
    clear h hlength
    induction cs generalizing digits with
    | nil => exact fun c hc => absurd hc List.not_mem_nil
    | cons c cs ih =>
      rw [List.mapM_cons] at hdigits
      cases hc : hexValue c with
      | none =>
        rw [hc] at hdigits
        cases hdigits
      | some digit =>
        cases hcs : cs.mapM hexValue with
        | none =>
          rw [hc, hcs] at hdigits
          cases hdigits
        | some rest =>
          exact List.forall_mem_cons.mpr ⟨by rw [hc]; rfl, ih rest hcs⟩
  · cases h

theorem groups_of_parseHyphenated {cs : List Char} {id : Uuid} (h : parseHyphenated cs = some id) :
    ∃ first second third fourth fifth, cs = first ++ '-' :: (second ++ '-' :: (third ++ '-' ::
        (fourth ++ '-' :: fifth))) ∧ first.length = 8 ∧ second.length = 4 ∧ third.length = 4 ∧
      fourth.length = 4 ∧ fifth.length = 12 ∧
      parseSimple (first ++ (second ++ (third ++ (fourth ++ fifth)))) = some id := by
  rw [parseHyphenated] at h
  split at h
  · rename_i hlengths
    have hjoin : List.intercalate ['-'] (cs.splitOn '-') = cs := List.intercalate_splitOn '-'
    obtain ⟨first, l, hl, hfirst, hlengths⟩ := List.map_eq_cons_iff.mp hlengths
    obtain ⟨second, l, rfl, hsecond, hlengths⟩ := List.map_eq_cons_iff.mp hlengths
    obtain ⟨third, l, rfl, hthird, hlengths⟩ := List.map_eq_cons_iff.mp hlengths
    obtain ⟨fourth, l, rfl, hfourth, hlengths⟩ := List.map_eq_cons_iff.mp hlengths
    obtain ⟨fifth, l, rfl, hfifth, hlengths⟩ := List.map_eq_cons_iff.mp hlengths
    obtain rfl := List.map_eq_nil_iff.mp hlengths
    rw [hl] at hjoin h
    refine ⟨first, second, third, fourth, fifth, ?_, hfirst, hsecond, hthird, hfourth, hfifth, ?_⟩
    · rw [← hjoin]
      simp [List.intercalate]
    · simpa using h
  · cases h

theorem length_of_parseHyphenated {cs : List Char} {id : Uuid} (h : parseHyphenated cs = some id) :
    cs.length = 36 := by
  obtain ⟨first, second, third, fourth, fifth, rfl, hfirst, hsecond, hthird, hfourth, hfifth, -⟩ :=
    groups_of_parseHyphenated h
  simp only [List.length_append, List.length_cons, hfirst, hsecond, hthird, hfourth, hfifth]

theorem mem_of_parseHyphenated {cs : List Char} {id : Uuid} (h : parseHyphenated cs = some id) :
    ∀ c ∈ cs, c = '-' ∨ (hexValue c).isSome = true := by
  obtain ⟨first, second, third, fourth, fifth, rfl, -, -, -, -, -, hsimple⟩ :=
    groups_of_parseHyphenated h
  have hdigits := (mem_of_parseSimple hsimple).2
  intro c hc
  simp only [List.mem_append, List.mem_cons] at hc hdigits
  have hall := hdigits c
  tauto

theorem toNat_lt_of_hexValue {c : Char} (h : (hexValue c).isSome = true) : c.toNat < 128 := by
  have hcode := hexValue_isSome_iff.mp h
  omega

theorem toNat_lt_of_parseHyphenated {cs : List Char} {id : Uuid}
    (h : parseHyphenated cs = some id) : ∀ c ∈ cs, c.toNat < 128 := by
  intro c hc
  obtain rfl | hhex := mem_of_parseHyphenated h c hc
  · decide
  · exact toNat_lt_of_hexValue hhex

theorem toNat_lt_of_parseStr {s : String} {id : Uuid} (h : parseStr s = some id) :
    ∀ c ∈ s.toList, c.toNat < 128 := by
  rw [parseStr_eq] at h
  split at h
  · rename_i hurn
    obtain ⟨rest, hrest⟩ := hurn
    have hdrop : s.toList.drop 9 = rest := by
      rw [← hrest]
      exact List.drop_left' rfl
    rw [hdrop] at h
    have hall : (urnPrefix.all fun c => c.toNat < 128) = true := by decide
    have hurn : ∀ c ∈ urnPrefix, c.toNat < 128 := fun c hc =>
      of_decide_eq_true (List.all_eq_true.mp hall c hc)
    rw [← hrest]
    exact List.forall_mem_append.mpr ⟨hurn, toNat_lt_of_parseHyphenated h⟩
  · split at h
    · rename_i hbrace
      obtain ⟨tail, htail⟩ := List.head?_eq_some_iff.mp hbrace
      rw [htail, List.tail_cons] at h
      split at h
      · rename_i hclose
        rw [htail, ← List.dropLast_append_getLast? _ hclose]
        refine List.forall_mem_cons.mpr ⟨by decide, List.forall_mem_append.mpr
          ⟨toNat_lt_of_parseHyphenated h, List.forall_mem_singleton.mpr (by decide)⟩⟩
      · cases h
    · obtain hsimple | ⟨-, hhyphenated⟩ := Option.or_eq_some_iff.mp h
      · exact fun c hc => toNat_lt_of_hexValue ((mem_of_parseSimple hsimple).2 c hc)
      · exact toNat_lt_of_parseHyphenated hhyphenated

theorem parseStr_intercalate_hyphenGroups {s : String} (hlength : s.toList.length = 32)
    (h : parseStr s = none) :
    parseStr (String.ofList (['-'].intercalate (hyphenGroups s.toList))) = none := by
  have htotal : (['-'].intercalate (hyphenGroups s.toList)).length = 36 := by
    simp [hyphenGroups, List.intercalate, hlength]
  rw [Option.eq_none_iff_forall_ne_some]
  intro id hsome
  rw [parseStr_eq, String.toList_ofList] at hsome
  split at hsome
  · have hshort := length_of_parseHyphenated hsome
    rw [List.length_drop, htotal] at hshort
    omega
  · split at hsome
    · split at hsome
      · have hshort := length_of_parseHyphenated hsome
        rw [List.length_dropLast, List.length_tail, htotal] at hshort
        omega
      · cases hsome
    · obtain hsimple | ⟨-, hhyphenated⟩ := Option.or_eq_some_iff.mp hsome
      · rw [parseSimple, if_neg (by omega)] at hsimple
        cases hsimple
      · have hdash : '-' ∉ s.toList := by
          obtain ⟨first, second, third, fourth, fifth, hgroups, -, -, -, -, -, hsimple⟩ :=
            groups_of_parseHyphenated hhyphenated
          have hnone : (first ++ (second ++ (third ++ (fourth ++ fifth)))).count '-' = 0 :=
            List.count_eq_zero.mpr fun hmem =>
              absurd ((mem_of_parseSimple hsimple).2 _ hmem) (by decide)
          have hcount := congrArg (List.count '-') hgroups
          have hown : ((hyphenGroups s.toList).flatten).count '-' = s.toList.count '-' := by
            rw [flatten_hyphenGroups]
          simp only [hyphenGroups, List.intercalate, List.intersperse, List.flatten_cons,
            List.flatten_nil, List.count_append, List.count_cons_self, List.count_nil,
            List.append_nil] at hcount hown hnone
          refine List.count_eq_zero.mp ?_
          omega
        rw [parseHyphenated_intercalate hlength hdash] at hhyphenated
        obtain ⟨-, hhex⟩ := mem_of_parseSimple hhyphenated
        rw [parseStr_of_isHex ⟨hlength, hhex⟩, hhyphenated] at h
        cases h

def IsMiscasedUrn (s : String) (id : Uuid) : Prop :=
  ∃ start rest, s.toList = start ++ rest ∧ start.map Char.toLower = urnPrefix ∧
    start ≠ urnPrefix ∧ parseHyphenated rest = some id

theorem parseStr_eq_none_of_miscased {s : String} {start rest : List Char}
    (hs : s.toList = start ++ rest) (hstart : start.map Char.toLower = urnPrefix)
    (hne : start ≠ urnPrefix) : parseStr s = none := by
  have hlength : start.length = urnPrefix.length := by rw [← hstart, List.length_map]
  obtain ⟨c, tail, rfl⟩ : ∃ c tail, start = c :: tail :=
    List.exists_cons_of_length_pos (by rw [hlength]; decide)
  have hu : c.toLower = 'u' := (List.cons.inj hstart).1
  have hhex : (hexValue c).isSome = false := by
    rw [← hexValue_toLower, hu]
    decide
  have hurn : ¬urnPrefix <+: s.toList := by
    rintro ⟨tail', htail'⟩
    rw [hs] at htail'
    exact hne (List.append_inj htail' hlength.symm).1.symm
  have hbrace : s.toList.head? ≠ some '\x7b' := by
    rw [hs]
    rintro ⟨⟩
    exact absurd hu (by decide)
  have hmem : c ∈ s.toList := by
    rw [hs]
    exact List.mem_cons_self
  rw [parseStr_eq, if_neg hurn, if_neg hbrace, Option.or_eq_none_iff]
  constructor
  · refine Option.eq_none_iff_forall_ne_some.mpr fun id hid => ?_
    rw [(mem_of_parseSimple hid).2 c hmem] at hhex
    cases hhex
  · refine Option.eq_none_iff_forall_ne_some.mpr fun id hid => ?_
    obtain rfl | hdigit := mem_of_parseHyphenated hid c hmem
    · exact absurd hu (by decide)
    · rw [hdigit] at hhex
      cases hhex

theorem toList_toAsciiLowercase (s : String) :
    (toAsciiLowercase s).toList = s.toList.map Char.toLower := String.toList_ofList

theorem parseStr_toAsciiLowercase_of_urn {s : String} {start rest : List Char}
    (hs : s.toList = start ++ rest) (hstart : start.map Char.toLower = urnPrefix) :
    parseStr (toAsciiLowercase s) = parseHyphenated rest := by
  have hlower : (toAsciiLowercase s).toList = urnPrefix ++ rest.map Char.toLower := by
    rw [toList_toAsciiLowercase, hs, List.map_append, hstart]
  have hdrop : (toAsciiLowercase s).toList.drop 9 = rest.map Char.toLower := by
    rw [hlower]
    exact List.drop_left' rfl
  rw [parseStr_eq, if_pos ⟨_, hlower.symm⟩, hdrop, parseHyphenated_map_toLower]

theorem parseStr_toAsciiLowercase (s : String) :
    parseStr (toAsciiLowercase s) = parseStr s ∨
      parseStr s = none ∧ ∀ id, parseStr (toAsciiLowercase s) = some id → IsMiscasedUrn s id := by
  by_cases hurn : urnPrefix <+: (toAsciiLowercase s).toList
  case pos =>
    obtain ⟨lower, hlower⟩ := hurn
    rw [toList_toAsciiLowercase] at hlower
    obtain ⟨start, rest, hs, hstart, -⟩ := List.map_eq_append_iff.mp hlower.symm
    by_cases hne : start = urnPrefix
    · have hown : urnPrefix <+: s.toList := ⟨rest, by rw [hs, hne]⟩
      have hdrop : s.toList.drop 9 = rest := by
        rw [hs, hne]
        exact List.drop_left' rfl
      left
      rw [parseStr_toAsciiLowercase_of_urn hs hstart, parseStr_eq, if_pos hown, hdrop]
    · right
      refine ⟨parseStr_eq_none_of_miscased hs hstart hne, fun id hid => ?_⟩
      rw [parseStr_toAsciiLowercase_of_urn hs hstart] at hid
      exact ⟨start, rest, hs, hstart, hne, hid⟩
  case neg =>
    left
    have hown : ¬urnPrefix <+: s.toList := by
      rintro ⟨rest, hrest⟩
      rw [toList_toAsciiLowercase, ← hrest, List.map_append] at hurn
      exact hurn ⟨_, rfl⟩
    have hopen : (s.toList.map Char.toLower).head? = some '\x7b' ↔
        s.toList.head? = some '\x7b' := by
      rw [List.head?_map, Option.map_eq_some_iff]
      simp only [toLower_eq_iff (d := '\x7b') (by decide) (by decide), exists_eq_right]
    have hclose : (s.toList.tail.map Char.toLower).getLast? = some '\x7d' ↔
        s.toList.tail.getLast? = some '\x7d' := by
      rw [List.getLast?_map, Option.map_eq_some_iff]
      simp only [toLower_eq_iff (d := '\x7d') (by decide) (by decide), exists_eq_right]
    rw [parseStr_eq, if_neg hurn, parseStr_eq s, if_neg hown]
    simp only [toList_toAsciiLowercase, hopen, hclose, ← List.map_tail, ← List.map_dropLast,
      parseSimple_map_toLower, parseHyphenated_map_toLower]

theorem parseStr_of_eqIgnoreAsciiCase {s t : String} {id : Uuid}
    (h : eqIgnoreAsciiCase s t = true) (ht : parseStr t = some id) :
    parseStr s = some id ∨ IsMiscasedUrn s id := by
  have hlower := eqIgnoreAsciiCase_iff.mp h
  have hid : parseStr (toAsciiLowercase s) = some id := by
    rw [hlower]
    obtain heq | ⟨hnone, -⟩ := parseStr_toAsciiLowercase t
    · rw [heq, ht]
    · rw [ht] at hnone
      cases hnone
  obtain heq | ⟨-, hmiscased⟩ := parseStr_toAsciiLowercase s
  · exact .inl (heq.symm.trans hid)
  · exact .inr (hmiscased id hid)

theorem IsMiscasedUrn.parseStr_eq_none {s : String} {id : Uuid} (h : IsMiscasedUrn s id) :
    parseStr s = none := by
  obtain ⟨start, rest, hs, hstart, hne, -⟩ := h
  exact parseStr_eq_none_of_miscased hs hstart hne

end Jellyrin.Uuid

/-! The functions that slice. -/

namespace Jellyrin.ClientIds

open Api Ascii Slices String Text

def hyphenateUuid (value : String) : Except Panic String :=
  let cs := value.toList
  if value.utf8ByteSize = 32 then do
    let first ← sliceRange cs 0 8
    let second ← sliceRange cs 8 12
    let third ← sliceRange cs 12 16
    let fourth ← sliceRange cs 16 20
    let fifth ← sliceRange cs 20 32
    return String.ofList (first ++ '-' :: second ++ '-' :: third ++ '-' :: fourth ++ '-' :: fifth)
  else return value

def parseJellyfinUuid (value : String) : Except Panic (Except ApiError Uuid) :=
  match Uuid.parseStr value with
  | some id => .ok (.ok id)
  | none => do
    match Uuid.parseStr (← hyphenateUuid value) with
    | some id => return .ok id
    | none => return .error (.badRequest "Invalid item id")

def collectUuids : List String → Except Panic (Except ApiError (List Uuid))
  | [] => .ok (.ok [])
  | value :: values => do
    match ← parseJellyfinUuid value with
    | .error error => return .error error
    | .ok id => return (← collectUuids values).map (id :: ·)

def uuidListValues (value : String) : List String :=
  ((split ',' value).map Json.trim).filter (· ≠ "")

def parseUuidList (value : String) : Except Panic (Except ApiError (List Uuid)) :=
  collectUuids (uuidListValues value)

def jellyfinIdMatches (left right : String) : Except Panic Bool := do
  match ← parseJellyfinUuid left, ← parseJellyfinUuid right with
  | .ok left, .ok right => return left == right
  | _, _ => return eqIgnoreAsciiCase left right

/-- In a text of 32 bytes no character lies across the places where hyphens go. -/
def IsSliceable (value : String) : Prop :=
  value.utf8ByteSize = 32 → ∀ offset ∈ [8, 12, 16, 20], IsCharBoundary value.toList offset

instance (value : String) : Decidable (IsSliceable value) :=
  inferInstanceAs (Decidable (_ → _))

/-! Which texts are read. -/

variable {value : String}

theorem exists_parts (h : IsSliceable value) (hsize : value.utf8ByteSize = 32) :
    ∃ first second third fourth fifth, value.toList = first ++ second ++ third ++ fourth ++ fifth ∧
      utf8Len first = 8 ∧ utf8Len second = 4 ∧ utf8Len third = 4 ∧ utf8Len fourth = 4 := by
  have hboundary := h hsize
  simp only [List.forall_mem_cons, isCharBoundary_iff] at hboundary
  obtain ⟨⟨first, rest, hfirst, hlen⟩, ⟨to12, rest12, h12, hlen12⟩, ⟨to16, rest16, h16, hlen16⟩,
    ⟨to20, fifth, h20, hlen20⟩, -⟩ := hboundary
  obtain ⟨second, rfl⟩ := prefix_of_utf8Len_le (hfirst.symm.trans h12) (by omega)
  obtain ⟨third, rfl⟩ := prefix_of_utf8Len_le (h12.symm.trans h16) (by omega)
  obtain ⟨fourth, rfl⟩ := prefix_of_utf8Len_le (h16.symm.trans h20) (by omega)
  simp only [utf8Len_append] at hlen12 hlen16 hlen20
  exact ⟨first, second, third, fourth, fifth, h20, hlen, by omega, by omega, by omega⟩

theorem hyphenateUuid_of_parts (hsize : value.utf8ByteSize = 32)
    {first second third fourth fifth : List Char}
    (hparts : value.toList = first ++ second ++ third ++ fourth ++ fifth)
    (hfirst : utf8Len first = 8) (hsecond : utf8Len second = 4) (hthird : utf8Len third = 4)
    (hfourth : utf8Len fourth = 4) :
    hyphenateUuid value = .ok (String.ofList
      (first ++ '-' :: second ++ '-' :: third ++ '-' :: fourth ++ '-' :: fifth)) := by
  have hfifth : utf8Len (first ++ second ++ third ++ fourth ++ fifth) = 32 := by
    rw [← hparts, ← utf8ByteSize_eq_utf8Len, hsize]
  have h8 : sliceRange value.toList 0 8 = .ok first := by
    have hslice := sliceRange_append [] first (second ++ (third ++ (fourth ++ fifth)))
    rw [List.nil_append, hfirst, utf8Len_nil] at hslice
    rw [hparts, List.append_assoc, List.append_assoc, List.append_assoc]
    exact hslice
  have h12 : sliceRange value.toList 8 12 = .ok second := by
    have hslice := sliceRange_append first second (third ++ (fourth ++ fifth))
    simp only [utf8Len_append, hfirst, hsecond] at hslice
    rw [hparts, List.append_assoc, List.append_assoc]
    exact hslice
  have h16 : sliceRange value.toList 12 16 = .ok third := by
    have hslice := sliceRange_append (first ++ second) third (fourth ++ fifth)
    simp only [utf8Len_append, hfirst, hsecond, hthird] at hslice
    rw [hparts, List.append_assoc]
    exact hslice
  have h20 : sliceRange value.toList 16 20 = .ok fourth := by
    have hslice := sliceRange_append (first ++ second ++ third) fourth fifth
    simp only [utf8Len_append, hfirst, hsecond, hthird, hfourth] at hslice
    rw [hparts]
    exact hslice
  have h32 : sliceRange value.toList 20 32 = .ok fifth := by
    have hslice := sliceRange_append (first ++ second ++ third ++ fourth) fifth []
    rw [List.append_nil, hfifth] at hslice
    simp only [utf8Len_append, hfirst, hsecond, hthird, hfourth] at hslice
    rw [hparts]
    exact hslice
  rw [hyphenateUuid, if_pos hsize, h8, h12, h16, h20, h32]
  rfl

theorem exists_hyphenateUuid_iff :
    (∃ text, hyphenateUuid value = .ok text) ↔ IsSliceable value := by
  constructor
  · rintro ⟨text, htext⟩ hsize
    rw [hyphenateUuid, if_pos hsize] at htext
    obtain ⟨first, -, htext⟩ := exists_of_bind_eq_ok htext
    obtain ⟨second, hsecond, htext⟩ := exists_of_bind_eq_ok htext
    obtain ⟨third, -, htext⟩ := exists_of_bind_eq_ok htext
    obtain ⟨fourth, hfourth, -⟩ := exists_of_bind_eq_ok htext
    obtain ⟨h8, h12⟩ := (exists_sliceRange_iff (by decide)).mp ⟨second, hsecond⟩
    obtain ⟨h16, h20⟩ := (exists_sliceRange_iff (by decide)).mp ⟨fourth, hfourth⟩
    simp only [List.forall_mem_cons]
    exact ⟨h8, h12, h16, h20, fun offset hoffset => absurd hoffset List.not_mem_nil⟩
  · intro h
    by_cases hsize : value.utf8ByteSize = 32
    · obtain ⟨first, second, third, fourth, fifth, hparts, hfirst, hsecond, hthird, hfourth⟩ :=
        exists_parts h hsize
      exact ⟨_, hyphenateUuid_of_parts hsize hparts hfirst hsecond hthird hfourth⟩
    · exact ⟨value, by rw [hyphenateUuid, if_neg hsize]; rfl⟩

theorem parseStr_of_hyphenateUuid {text : String} (h : hyphenateUuid value = .ok text)
    (hnone : Uuid.parseStr value = none) : Uuid.parseStr text = none := by
  have hsliceable := exists_hyphenateUuid_iff.mp ⟨text, h⟩
  by_cases hsize : value.utf8ByteSize = 32
  case neg =>
    rw [hyphenateUuid, if_neg hsize] at h
    cases h
    exact hnone
  case pos =>
    obtain ⟨first, second, third, fourth, fifth, hparts, hfirst, hsecond, hthird, hfourth⟩ :=
      exists_parts hsliceable hsize
    rw [hyphenateUuid_of_parts hsize hparts hfirst hsecond hthird hfourth] at h
    cases h
    by_cases hascii : ∀ c ∈ value.toList, c.toNat < 128
    case pos =>
      have hlength : value.toList.length = 32 := by
        rw [← utf8Len_of_ascii hascii, ← utf8ByteSize_eq_utf8Len, hsize]
      have hall := hascii
      simp only [hparts, List.forall_mem_append] at hall
      obtain ⟨⟨⟨⟨hall1, hall2⟩, hall3⟩, hall4⟩, -⟩ := hall
      rw [utf8Len_of_ascii hall1] at hfirst
      rw [utf8Len_of_ascii hall2] at hsecond
      rw [utf8Len_of_ascii hall3] at hthird
      rw [utf8Len_of_ascii hall4] at hfourth
      have hown := Uuid.parseStr_intercalate_hyphenGroups hlength hnone
      rw [hparts, Uuid.hyphenGroups] at hown
      have h8 : (first ++ second ++ third ++ fourth ++ fifth).take 8 = first := by
        simp only [List.append_assoc]
        exact List.take_left' hfirst
      have h12 : (first ++ second ++ third ++ fourth ++ fifth).drop 8 =
          second ++ (third ++ (fourth ++ fifth)) := by
        simp only [List.append_assoc]
        exact List.drop_left' hfirst
      have h16 : (first ++ second ++ third ++ fourth ++ fifth).drop 12 =
          third ++ (fourth ++ fifth) := by
        rw [List.append_assoc, List.append_assoc (first ++ second)]
        exact List.drop_left' (by rw [List.length_append, hfirst, hsecond])
      have h20 : (first ++ second ++ third ++ fourth ++ fifth).drop 16 = fourth ++ fifth := by
        rw [List.append_assoc]
        exact List.drop_left' (by simp only [List.length_append, hfirst, hsecond, hthird])
      have h32 : (first ++ second ++ third ++ fourth ++ fifth).drop 20 = fifth :=
        List.drop_left' (by simp only [List.length_append, hfirst, hsecond, hthird, hfourth])
      have hjoin : ['-'].intercalate [first, second, third, fourth, fifth] =
          first ++ '-' :: second ++ '-' :: third ++ '-' :: fourth ++ '-' :: fifth := by
        simp [List.intercalate]
      rwa [h8, h12, h16, h20, h32, List.take_left' hsecond, List.take_left' hthird,
        List.take_left' hfourth, hjoin] at hown
    case neg =>
      obtain ⟨c, hc, hbig⟩ : ∃ c ∈ value.toList, ¬c.toNat < 128 := by
        simpa using hascii
      refine Option.eq_none_iff_forall_ne_some.mpr fun id hid => hbig ?_
      refine Uuid.toNat_lt_of_parseStr hid c ?_
      rw [hparts] at hc
      rw [String.toList_ofList]
      simp only [List.mem_append, List.mem_cons] at hc ⊢
      tauto

theorem hyphenateUuid_of_not (h : ¬IsSliceable value) :
    hyphenateUuid value = .error .charBoundary := by
  cases htext : hyphenateUuid value with
  | error panic => rfl
  | ok text => exact absurd (exists_hyphenateUuid_iff.mp ⟨text, htext⟩) h

theorem isSliceable_of_parseStr {id : Uuid} (h : Uuid.parseStr value = some id) :
    IsSliceable value := by
  intro hsize offset hoffset
  have hascii := Uuid.toNat_lt_of_parseStr h
  have hle : offset ≤ value.toList.length := by
    rw [← utf8Len_of_ascii hascii, ← utf8ByteSize_eq_utf8Len, hsize]
    simp only [List.mem_cons, List.not_mem_nil, or_false] at hoffset
    omega
  refine isCharBoundary_iff.mpr ⟨value.toList.take offset, value.toList.drop offset,
    (List.take_append_drop _ _).symm, ?_⟩
  rw [utf8Len_of_ascii fun c hc => hascii c (List.mem_of_mem_take hc), List.length_take,
    Nat.min_eq_left hle]

def answerOf (id : Option Uuid) : Except ApiError Uuid :=
  id.elim (.error (.badRequest "Invalid item id")) .ok

theorem parseJellyfinUuid_eq_ok (h : IsSliceable value) :
    parseJellyfinUuid value = .ok (answerOf (Uuid.parseStr value)) := by
  rw [parseJellyfinUuid]
  cases hparse : Uuid.parseStr value with
  | some id => rfl
  | none =>
    obtain ⟨text, htext⟩ := exists_hyphenateUuid_iff.mpr h
    have hnone := parseStr_of_hyphenateUuid htext hparse
    simp only [htext, ok_bind, hnone]
    rfl

theorem parseJellyfinUuid_of_not (h : ¬IsSliceable value) :
    parseJellyfinUuid value = .error .charBoundary := by
  rw [parseJellyfinUuid]
  cases hparse : Uuid.parseStr value with
  | some id => exact absurd (isSliceable_of_parseStr hparse) h
  | none =>
    simp only [hyphenateUuid_of_not h]
    rfl

theorem parseJellyfinUuid_eq (value : String) :
    parseJellyfinUuid value =
      onlyIf .charBoundary (decide (IsSliceable value)) (answerOf (Uuid.parseStr value)) := by
  by_cases h : IsSliceable value
  · rw [parseJellyfinUuid_eq_ok h, decide_eq_true h, onlyIf_true]
  · rw [parseJellyfinUuid_of_not h, decide_eq_false h, onlyIf_false]

theorem exists_parseJellyfinUuid_iff (value : String) :
    (∃ answer, parseJellyfinUuid value = .ok answer) ↔ IsSliceable value := by
  rw [parseJellyfinUuid_eq, exists_onlyIf_eq_ok, decide_eq_true_iff]

def readUuid (value : String) : Except Panic (Option Uuid) :=
  (parseJellyfinUuid value).map Except.toOption

theorem readUuid_eq (value : String) :
    readUuid value = onlyIf .charBoundary (decide (IsSliceable value)) (Uuid.parseStr value) := by
  rw [readUuid, parseJellyfinUuid_eq, map_onlyIf]
  cases Uuid.parseStr value <;> rfl

theorem isSliceable_of_isHex (h : Uuid.IsHex value) : IsSliceable value := by
  obtain ⟨id, hid⟩ := Option.isSome_iff_exists.mp h.isSome_parseStr
  exact isSliceable_of_parseStr hid

@[simp] theorem isSliceable_simple (id : Uuid) : IsSliceable id.simple :=
  isSliceable_of_isHex (Uuid.isHex_simple id)

def unreadableId : String := "aaaaaaaé00000000000000000000000"

theorem not_isSliceable_unreadableId : ¬IsSliceable unreadableId := by decide

theorem readUuid_of_not (h : ¬IsSliceable value) : readUuid value = .error .charBoundary := by
  rw [readUuid_eq, decide_eq_false h, onlyIf_false]

theorem readUuid_of_isSliceable (h : IsSliceable value) :
    readUuid value = .ok (Uuid.parseStr value) := by
  rw [readUuid_eq, decide_eq_true h, onlyIf_true]

def IsReadable (values : List String) : Prop :=
  ∀ before value after, values = before ++ value :: after →
    (∀ id ∈ before, (Uuid.parseStr id).isSome = true) → IsSliceable value

theorem isReadable_cons {values : List String} : IsReadable (value :: values) ↔
    IsSliceable value ∧ ((Uuid.parseStr value).isSome = true → IsReadable values) := by
  constructor
  · intro h
    refine ⟨h [] value values rfl fun id hid => absurd hid List.not_mem_nil, ?_⟩
    rintro hvalue before other after rfl hbefore
    exact h (value :: before) other after rfl (List.forall_mem_cons.mpr ⟨hvalue, hbefore⟩)
  · rintro ⟨hvalue, hvalues⟩ before other after heq hbefore
    obtain ⟨rfl, hcons⟩ | ⟨before, rfl, hrest⟩ := List.cons_eq_append_iff.mp heq
    · obtain ⟨rfl, -⟩ := List.cons.inj hcons
      exact hvalue
    · obtain ⟨hfirst, hbefore⟩ := List.forall_mem_cons.mp hbefore
      exact hvalues hfirst before other after hrest hbefore

theorem exists_collectUuids_iff (values : List String) :
    (∃ answer, collectUuids values = .ok answer) ↔ IsReadable values := by
  induction values with
  | nil =>
    refine iff_of_true ⟨_, rfl⟩ fun before value after heq => ?_
    exact absurd heq.symm (by simp)
  | cons value values ih =>
    rw [isReadable_cons, collectUuids]
    by_cases h : IsSliceable value
    case neg =>
      rw [parseJellyfinUuid_of_not h]
      refine iff_of_false ?_ fun hboth => h hboth.1
      rintro ⟨answer, ⟨⟩⟩
    case pos =>
      rw [parseJellyfinUuid_eq_ok h, ok_bind]
      cases hparse : Uuid.parseStr value with
      | none => exact iff_of_true ⟨_, rfl⟩ ⟨h, nofun⟩
      | some id =>
        simp only [h, true_and, Option.isSome_some, true_imp_iff, ← ih, answerOf, Option.elim_some]
        cases collectUuids values with
        | ok answer => exact iff_of_true ⟨_, rfl⟩ ⟨_, rfl⟩
        | error panic => exact iff_of_false (by rintro ⟨answer, ⟨⟩⟩) (by rintro ⟨answer, ⟨⟩⟩)

/-! The comparison of two identifiers. -/

def comparison : KeyedComparison String Uuid where
  key := Uuid.parseStr
  same a b := eqIgnoreAsciiCase a b = true
  equivalence := {
    refl := eqIgnoreAsciiCase_self
    symm := fun {a b} h => by rwa [eqIgnoreAsciiCase_comm]
    trans := fun {a b c} hab hbc => by
      rw [eqIgnoreAsciiCase_iff] at hab hbc ⊢
      exact hab.trans hbc }
  key_of_same := fun {a b x y} h hx hy => by
    obtain hsame | hmiscased := Uuid.parseStr_of_eqIgnoreAsciiCase h hy
    · exact Option.some.inj (hx.symm.trans hsame)
    · rw [hmiscased.parseStr_eq_none] at hx
      cases hx

theorem jellyfinIdMatches_eq_ok {left right : String} (hleft : IsSliceable left)
    (hright : IsSliceable right) :
    ∃ answer, jellyfinIdMatches left right = .ok answer ∧
      (answer = true ↔ comparison.Matches left right) := by
  have hkey : ∀ value, comparison.key value = Uuid.parseStr value := fun _ => rfl
  rw [jellyfinIdMatches, parseJellyfinUuid_eq_ok hleft, parseJellyfinUuid_eq_ok hright, ok_bind,
    ok_bind, KeyedComparison.Matches, hkey, hkey]
  cases Uuid.parseStr left with
  | none => exact ⟨_, rfl, Iff.rfl⟩
  | some x =>
    cases Uuid.parseStr right with
    | none => exact ⟨_, rfl, Iff.rfl⟩
    | some y => exact ⟨_, rfl, beq_iff_eq⟩

theorem jellyfinIdMatches_of_not {left right : String} (h : ¬(IsSliceable left ∧ IsSliceable right)) :
    jellyfinIdMatches left right = .error .charBoundary := by
  rw [jellyfinIdMatches]
  by_cases hleft : IsSliceable left
  · rw [parseJellyfinUuid_eq_ok hleft, parseJellyfinUuid_of_not fun hright => h ⟨hleft, hright⟩]
    rfl
  · rw [parseJellyfinUuid_of_not hleft]
    rfl

theorem agree_iff {left right : String} :
    Uuid.agree left right = true ↔ comparison.Matches left right := by
  have hkey : ∀ value, comparison.key value = Uuid.parseStr value := fun _ => rfl
  rw [Uuid.agree, KeyedComparison.Matches, hkey, hkey]
  cases Uuid.parseStr left with
  | none => exact Iff.rfl
  | some x =>
    cases Uuid.parseStr right with
    | none => exact Iff.rfl
    | some y => exact beq_iff_eq

theorem jellyfinIdMatches_eq (left right : String) :
    jellyfinIdMatches left right = onlyIf .charBoundary
      (decide (IsSliceable left) && decide (IsSliceable right)) (Uuid.agree left right) := by
  by_cases h : IsSliceable left ∧ IsSliceable right
  · obtain ⟨answer, hanswer, hiff⟩ := jellyfinIdMatches_eq_ok h.1 h.2
    rw [hanswer, decide_eq_true h.1, decide_eq_true h.2, Bool.and_true, onlyIf_true,
      Bool.eq_iff_iff.mpr (hiff.trans agree_iff.symm)]
  · rw [jellyfinIdMatches_of_not h, ← Bool.decide_and, decide_eq_false h, onlyIf_false]

theorem jellyfinIdMatches_eq_true_iff {left right : String} (hleft : IsSliceable left)
    (hright : IsSliceable right) :
    jellyfinIdMatches left right = .ok true ↔ comparison.Matches left right := by
  obtain ⟨answer, hanswer, hiff⟩ := jellyfinIdMatches_eq_ok hleft hright
  rw [hanswer, Except.ok.injEq, hiff]

/-- `a` is `b` in other letters and a URN that is not read; `b` and `c` are one identifier in
different texts. -/
def IsBridge (a b c : String) : Prop :=
  ∃ id, Uuid.IsMiscasedUrn a id ∧ eqIgnoreAsciiCase a b = true ∧ Uuid.parseStr b = some id ∧
    Uuid.parseStr c = some id ∧ eqIgnoreAsciiCase a c = false

theorem isBridge_iff {a b c : String} : IsBridge a b c ↔ ∃ id, comparison.Bridges a b c id := by
  refine exists_congr fun id => ⟨?_, fun hbridge => ?_⟩
  · rintro ⟨hmiscased, hsame, hleft, hright, hother⟩
    exact ⟨hmiscased.parseStr_eq_none, hsame, hleft, hright, Bool.eq_false_iff.mp hother⟩
  · refine ⟨?_, hbridge.same, hbridge.left, hbridge.right, Bool.eq_false_iff.mpr hbridge.other⟩
    obtain hid | hmiscased := Uuid.parseStr_of_eqIgnoreAsciiCase hbridge.same hbridge.left
    · have hnone : Uuid.parseStr a = none := hbridge.noKey
      rw [hid] at hnone
      cases hnone
    · exact hmiscased

theorem isSliceable_of_isMiscasedUrn {id : Uuid} (h : Uuid.IsMiscasedUrn value id) :
    IsSliceable value := by
  obtain ⟨start, rest, hparts, hstart, -, hrest⟩ := h
  have hlength : start.length = 9 := by
    rw [← List.length_map Char.toLower, hstart]
    rfl
  have hsize := length_le_utf8Len value.toList
  rw [← utf8ByteSize_eq_utf8Len, hparts, List.length_append, hlength,
    Uuid.length_of_parseHyphenated hrest] at hsize
  intro hshort
  omega

theorem IsBridge.isSliceable {a b c : String} (h : IsBridge a b c) :
    IsSliceable a ∧ IsSliceable b ∧ IsSliceable c := by
  obtain ⟨id, hmiscased, -, hleft, hright, -⟩ := h
  exact ⟨isSliceable_of_isMiscasedUrn hmiscased, isSliceable_of_parseStr hleft,
    isSliceable_of_parseStr hright⟩

/-- Reading panics at a character of several bytes where a hyphen would go, and only there; the
comparison is reflexive and symmetric, and fails to be transitive only over a URN of another case. -/
theorem reading_ids_is_safe_iff (value left right a b c : String) :
    ((∃ answer, parseJellyfinUuid value = .ok answer) ↔ IsSliceable value) ∧
    ((∃ answer, parseUuidList value = .ok answer) ↔ IsReadable (uuidListValues value)) ∧
    ((∃ answer, jellyfinIdMatches left right = .ok answer) ↔
      IsSliceable left ∧ IsSliceable right) ∧
    (jellyfinIdMatches a a = .ok true ↔ IsSliceable a) ∧
    (jellyfinIdMatches a b = jellyfinIdMatches b a) ∧
    ((jellyfinIdMatches a b = .ok true → jellyfinIdMatches b c = .ok true →
      jellyfinIdMatches a c = .ok true) ↔ ¬IsBridge a b c ∧ ¬IsBridge c b a) := by
  have herror {left right : String} (h : ¬(IsSliceable left ∧ IsSliceable right)) (answer : Bool) :
      jellyfinIdMatches left right ≠ .ok answer := by
    rw [jellyfinIdMatches_of_not h]
    nofun
  refine ⟨exists_parseJellyfinUuid_iff value, exists_collectUuids_iff _, ?_, ?_, ?_, ?_⟩
  · by_cases h : IsSliceable left ∧ IsSliceable right
    · obtain ⟨answer, hanswer, -⟩ := jellyfinIdMatches_eq_ok h.1 h.2
      exact iff_of_true ⟨answer, hanswer⟩ h
    · exact iff_of_false (fun ⟨answer, hanswer⟩ => herror h answer hanswer) h
  · by_cases ha : IsSliceable a
    · exact iff_of_true ((jellyfinIdMatches_eq_true_iff ha ha).mpr (comparison.matches_self a)) ha
    · exact iff_of_false (herror (fun h => ha h.1) true) ha
  · by_cases h : IsSliceable a ∧ IsSliceable b
    · obtain ⟨answer, hanswer, hiff⟩ := jellyfinIdMatches_eq_ok h.1 h.2
      obtain ⟨answer', hanswer', hiff'⟩ := jellyfinIdMatches_eq_ok h.2 h.1
      have hsame : answer = answer' :=
        Bool.eq_iff_iff.mpr (hiff.trans (comparison.matches_comm.trans hiff'.symm))
      rw [hanswer, hanswer', hsame]
    · rw [jellyfinIdMatches_of_not h, jellyfinIdMatches_of_not fun hba => h ⟨hba.2, hba.1⟩]
  · by_cases h : IsSliceable a ∧ IsSliceable b ∧ IsSliceable c
    · obtain ⟨ha, hb, hc⟩ := h
      rw [jellyfinIdMatches_eq_true_iff ha hb, jellyfinIdMatches_eq_true_iff hb hc,
        jellyfinIdMatches_eq_true_iff ha hc, comparison.trans_iff, isBridge_iff, isBridge_iff,
        forall_and, not_exists, not_exists]
    · refine iff_of_true (fun hab hbc => ?_) ⟨fun hbridge => h hbridge.isSliceable, fun hbridge => ?_⟩
      · by_cases hboth : IsSliceable a ∧ IsSliceable b
        · exact absurd hbc (herror (fun hrest => h ⟨hboth.1, hrest⟩) true)
        · exact absurd hab (herror hboth true)
      · exact h ⟨hbridge.isSliceable.2.2, hbridge.isSliceable.2.1, hbridge.isSliceable.1⟩

/-- A text with a character across the eighth byte panics, and three texts of one identifier are
matched one after the other but not the first with the last. -/
theorem ids_crash_and_do_not_chain :
    parseJellyfinUuid "aaaaaaaé00000000000000000000000" = .error .charBoundary ∧
      jellyfinIdMatches "URN:uuid:00000000-0000-0000-0000-00000000000a"
        "urn:uuid:00000000-0000-0000-0000-00000000000a" = .ok true ∧
      jellyfinIdMatches "urn:uuid:00000000-0000-0000-0000-00000000000a"
        "0000000000000000000000000000000a" = .ok true ∧
      jellyfinIdMatches "URN:uuid:00000000-0000-0000-0000-00000000000a"
        "0000000000000000000000000000000a" = .ok false := by
  refine ⟨by decide, by decide, by decide, by decide⟩

end Jellyrin.ClientIds
