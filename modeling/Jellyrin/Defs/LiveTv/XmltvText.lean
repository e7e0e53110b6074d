import Jellyrin.Defs.Data.Rows
import Jellyrin.Defs.LiveTv.Xmltv

/-! Which texts are decoded to what was escaped. -/

namespace Jellyrin.LiveTv.Xmltv

/-! Escaping. -/

def entityName (c : Char) : Option (List Char) :=
  if c = '&' then some "amp;".toList
  else if c = '<' then some "lt;".toList
  else if c = '>' then some "gt;".toList
  else if c = '"' then some "quot;".toList
  else if c = '\x27' then some "apos;".toList
  else none

def escapeOnly (chars : List Char) (c : Char) : List Char :=
  if c ∈ chars then
    match entityName c with
    | some name => '&' :: name
    | none => [c]
  else [c]

def escape (s : List Char) : List Char := s.flatMap (escapeOnly ['&', '<', '>', '"', '\x27'])

theorem entityName_cases {c : Char} {name : List Char} (h : entityName c = some name) :
    c = '&' ∧ name = "amp;".toList ∨ c = '<' ∧ name = "lt;".toList ∨
      c = '>' ∧ name = "gt;".toList ∨ c = '"' ∧ name = "quot;".toList ∨
      c = '\x27' ∧ name = "apos;".toList := by
  unfold entityName at h
  repeat' split at h
  all_goals simp_all

theorem plain_of_mem_name {c d : Char} {name : List Char} (h : entityName c = some name)
    (hd : d ∈ name) : entityName d = none := by
  have hall : ∀ name ∈ ["amp;".toList, "lt;".toList, "gt;".toList, "quot;".toList, "apos;".toList],
      name.all (fun d => decide (entityName d = none)) = true := by decide
  refine forall_mem_of_all (hall name ?_) d hd
  obtain ⟨-, rfl⟩ | ⟨-, rfl⟩ | ⟨-, rfl⟩ | ⟨-, rfl⟩ | ⟨-, rfl⟩ := entityName_cases h <;> simp

theorem amp_notMem_name {c : Char} {name : List Char} (h : entityName c = some name) :
    '&' ∉ name := by
  intro hmem
  have hnone := plain_of_mem_name h hmem
  cases hnone

theorem not_name_prefix {c d : Char} {name other : List Char} (h : entityName c = some name)
    (hother : entityName d = some other) (hne : c ≠ d) (rest : List Char) :
    ¬ name <+: other ++ rest := by
  obtain ⟨rfl, rfl⟩ | ⟨rfl, rfl⟩ | ⟨rfl, rfl⟩ | ⟨rfl, rfl⟩ | ⟨rfl, rfl⟩ := entityName_cases h <;>
    obtain ⟨rfl, rfl⟩ | ⟨rfl, rfl⟩ | ⟨rfl, rfl⟩ | ⟨rfl, rfl⟩ | ⟨rfl, rfl⟩ :=
      entityName_cases hother <;>
    first
    | exact absurd rfl hne
    | simp

section Only

variable {chars : List Char}

theorem escapeOnly_plain {c : Char} (h : entityName c = none) : escapeOnly chars c = [c] := by
  rw [escapeOnly, h]
  simp

theorem escapeOnly_of_notMem {c : Char} (h : c ∉ chars) : escapeOnly chars c = [c] := if_neg h

theorem escapeOnly_of_mem {c : Char} {name : List Char} (h : c ∈ chars)
    (hname : entityName c = some name) : escapeOnly chars c = '&' :: name := by
  rw [escapeOnly, if_pos h, hname]

theorem escapeOnly_cons_of_ne {c x : Char} (h : c ≠ x) :
    escapeOnly (x :: chars) c = escapeOnly chars c := by
  simp [escapeOnly, h]

theorem escapeOnly_cases (chars : List Char) (c : Char) :
    escapeOnly chars c = [c] ∨
      ∃ name, entityName c = some name ∧ c ∈ chars ∧ escapeOnly chars c = '&' :: name := by
  by_cases h : c ∈ chars
  · cases hname : entityName c with
    | none => exact .inl (escapeOnly_plain hname)
    | some name => exact .inr ⟨name, rfl, h, escapeOnly_of_mem h hname⟩
  · exact .inl (escapeOnly_of_notMem h)

theorem flatMap_escapeOnly_plain {s : List Char} (h : ∀ c ∈ s, entityName c = none) :
    s.flatMap (escapeOnly chars) = s := by
  induction s with
  | nil => rfl
  | cons c s ih =>
    obtain ⟨hc, hs⟩ := List.forall_mem_cons.mp h
    rw [List.flatMap_cons, escapeOnly_plain hc, ih hs]
    rfl

theorem prefix_flatMap_iff {name : List Char} (h : ∀ c ∈ name, entityName c = none)
    (s : List Char) : name <+: s.flatMap (escapeOnly chars) ↔ name <+: s := by
  induction name generalizing s with
  | nil => simp
  | cons a name ih =>
    obtain ⟨ha, hname⟩ := List.forall_mem_cons.mp h
    cases s with
    | nil => simp
    | cons c s =>
      cases escapeOnly_cases chars c with
      | inl hplain =>
        rw [List.flatMap_cons, hplain, List.singleton_append, List.cons_prefix_cons,
          List.cons_prefix_cons, ih hname]
      | inr hentity =>
        obtain ⟨other, hother, -, hesc⟩ := hentity
        rw [List.flatMap_cons, hesc, List.cons_append, List.cons_prefix_cons,
          List.cons_prefix_cons]
        constructor
        · rintro ⟨rfl, -⟩
          cases ha
        · rintro ⟨rfl, -⟩
          rw [ha] at hother
          cases hother

end Only

/-! Replacing of an entity. -/

section Stage

variable {chars : List Char} {x : Char} {name : List Char} (hx : entityName x = some name)
include hx

theorem replace_escapeOnly (hne : x ≠ '&') (hamp : '&' ∉ chars) (hchars : x ∉ chars)
    (s : List Char) :
    replace ('&' :: name) [x] (s.flatMap (escapeOnly (x :: chars))) =
      (replace ('&' :: name) [x] s).flatMap (escapeOnly chars) := by
  have hplain : ∀ c ∈ name, entityName c = none := fun c hc => plain_of_mem_name hx hc
  induction hlength : s.length using Nat.strongRecOn generalizing s with
  | ind n ih =>
    cases s with
    | nil => rfl
    | cons c s =>
      have hrest := ih s.length (by simp [← hlength]) s rfl
      by_cases hc : c = x
      case pos =>
        subst hc
        have hhere : ¬ ('&' :: name) <+: c :: s := fun h => hne (List.cons_prefix_cons.mp h).1.symm
        rw [List.flatMap_cons, escapeOnly_of_mem List.mem_cons_self hx,
          replace_append (List.cons_ne_nil _ _), hrest, replace_cons hhere, List.flatMap_cons,
          escapeOnly_of_notMem hchars]
      case neg =>
        have hkept : escapeOnly (x :: chars) c = escapeOnly chars c := escapeOnly_cons_of_ne hc
        cases escapeOnly_cases chars c with
        | inr hentity =>
          obtain ⟨other, hother, hmem, hesc⟩ := hentity
          have hhere : ¬ ('&' :: name) <+: c :: s := by
            intro h
            rw [← (List.cons_prefix_cons.mp h).1] at hmem
            exact hamp hmem
          have hthere : ¬ ('&' :: name) <+: '&' :: (other ++ s.flatMap (escapeOnly (x :: chars))) :=
            fun h => not_name_prefix hx hother (Ne.symm hc) _ (List.cons_prefix_cons.mp h).2
          rw [List.flatMap_cons, hkept, hesc, List.cons_append, replace_cons hthere,
            replace_passes (amp_notMem_name hother), hrest, replace_cons hhere, List.flatMap_cons,
            hesc, List.cons_append]
        | inl hself =>
          by_cases hhere : ('&' :: name) <+: c :: s
          case neg =>
            have hthere : ¬ ('&' :: name) <+: c :: s.flatMap (escapeOnly (x :: chars)) := by
              rwa [List.cons_prefix_cons, prefix_flatMap_iff hplain, ← List.cons_prefix_cons]
            rw [List.flatMap_cons, hkept, hself, List.singleton_append, replace_cons hthere, hrest,
              replace_cons hhere, List.flatMap_cons, hself, List.singleton_append]
          case pos =>
            obtain ⟨rfl, more, rfl⟩ := List.cons_prefix_cons.mp hhere
            have hmore := ih more.length
              (by rw [← hlength, List.length_cons, List.length_append]; omega) more rfl
            rw [List.flatMap_cons, hkept, hself, List.flatMap_append, flatMap_escapeOnly_plain hplain,
              List.singleton_append, ← List.cons_append, replace_append (List.cons_ne_nil _ _),
              hmore, ← List.cons_append, replace_append (List.cons_ne_nil _ _),
              List.flatMap_append, List.flatMap_singleton, escapeOnly_of_notMem hchars]

end Stage

theorem replace_amp {chars : List Char} (hamp : '&' ∉ chars) (s : List Char) :
    replace "&amp;".toList ['&'] (s.flatMap (escapeOnly ('&' :: chars))) =
      s.flatMap (escapeOnly chars) := by
  have hname : entityName '&' = some "amp;".toList := rfl
  change replace ('&' :: "amp;".toList) ['&'] _ = _
  induction s with
  | nil => rfl
  | cons c s ih =>
    rw [List.flatMap_cons, List.flatMap_cons]
    by_cases hc : c = '&'
    case pos =>
      subst hc
      rw [escapeOnly_of_mem List.mem_cons_self hname, replace_append (List.cons_ne_nil _ _), ih,
        escapeOnly_of_notMem hamp]
    case neg =>
      rw [escapeOnly_cons_of_ne hc]
      cases escapeOnly_cases chars c with
      | inl hself =>
        rw [hself, replace_passes (by simpa using Ne.symm hc), ih]
      | inr hentity =>
        obtain ⟨other, hother, -, hesc⟩ := hentity
        have hthere : ∀ rest, ¬ ('&' :: "amp;".toList) <+: '&' :: (other ++ rest) := fun rest h =>
          not_name_prefix hname hother (Ne.symm hc) rest (List.cons_prefix_cons.mp h).2
        rw [hesc, List.cons_append, replace_cons (hthere _),
          replace_passes (amp_notMem_name hother), ih, List.cons_append]

def collapse (s : List Char) : List Char :=
  replace "&apos;".toList ['\x27'] (replace "&quot;".toList ['"']
    (replace "&gt;".toList ['>'] (replace "&lt;".toList ['<'] s)))

theorem liveTvXmlDecode_escape (s : List Char) :
    liveTvXmlDecode (escape s) = Json.trim (String.ofList (collapse s)) := by
  have hlt := @replace_escapeOnly ['>', '"', '\x27'] '<' _ rfl (by decide) (by decide) (by decide)
  have hgt := @replace_escapeOnly ['"', '\x27'] '>' _ rfl (by decide) (by decide) (by decide)
  have hquot := @replace_escapeOnly ['\x27'] '"' _ rfl (by decide) (by decide) (by decide)
  have hapos := @replace_escapeOnly [] '\x27' _ rfl (by decide) (by decide) (by decide)
  have hnone : ∀ s : List Char, s.flatMap (escapeOnly []) = s := by
    intro s
    induction s with
    | nil => rfl
    | cons c s ih => rw [List.flatMap_cons, escapeOnly_of_notMem List.not_mem_nil, ih]; rfl
  rw [liveTvXmlDecode, escape, replace_amp (by decide), collapse]
  change Json.trim (String.ofList (replace ('&' :: "apos;".toList) _
    (replace ('&' :: "quot;".toList) _ (replace ('&' :: "gt;".toList) _
      (replace ('&' :: "lt;".toList) _ _))))) = _
  rw [hlt, hgt, hquot, hapos, hnone]
  rfl

/-! Texts that read like an entity. -/

def lateEntities : List (List Char) :=
  ["&lt;".toList, "&gt;".toList, "&quot;".toList, "&apos;".toList]

def NoLateEntity (s : List Char) : Prop := ∀ entity ∈ lateEntities, ¬ entity <:+: s

instance (s : List Char) : Decidable (NoLateEntity s) :=
  inferInstanceAs (Decidable (∀ entity ∈ lateEntities, _))

def visible (c : Char) : Bool := !Json.isWhitespace c

theorem noLateEntity_iff {s : List Char} : NoLateEntity s ↔
    ¬ "&lt;".toList <:+: s ∧ ¬ "&gt;".toList <:+: s ∧ ¬ "&quot;".toList <:+: s ∧
      ¬ "&apos;".toList <:+: s := by
  simp [NoLateEntity, lateEntities]

theorem collapse_of_noLateEntity {s : List Char} (h : NoLateEntity s) : collapse s = s := by
  obtain ⟨hlt, hgt, hquot, hapos⟩ := noLateEntity_iff.mp h
  rw [collapse, replace_of_absent hlt, replace_of_absent hgt, replace_of_absent hquot,
    replace_of_absent hapos]

theorem countP_collapse_lt {s : List Char} (h : ¬ NoLateEntity s) :
    (collapse s).countP visible < s.countP visible := by
  have hlt := @countP_replace _ _ "&lt;".toList ['<'] _ visible (by decide)
  have hgt := @countP_replace _ _ "&gt;".toList ['>'] _ visible (by decide)
  have hquot := @countP_replace _ _ "&quot;".toList ['"'] _ visible (by decide)
  have hapos := @countP_replace _ _ "&apos;".toList ['\x27'] _ visible (by decide)
  rw [noLateEntity_iff] at h
  rw [collapse]
  by_cases hltHere : "&lt;".toList <:+: s
  · exact (((hapos _).1.trans (hquot _).1).trans (hgt _).1).trans_lt ((hlt s).2 hltHere)
  rw [replace_of_absent hltHere]
  by_cases hgtHere : "&gt;".toList <:+: s
  · exact ((hapos _).1.trans (hquot _).1).trans_lt ((hgt s).2 hgtHere)
  rw [replace_of_absent hgtHere]
  by_cases hquotHere : "&quot;".toList <:+: s
  · exact (hapos _).1.trans_lt ((hquot s).2 hquotHere)
  rw [replace_of_absent hquotHere]
  apply (hapos s).2
  tauto

theorem countP_dropWhile (s : List Char) :
    (s.dropWhile Json.isWhitespace).countP visible = s.countP visible := by
  induction s with
  | nil => rfl
  | cons c s ih =>
    rw [List.dropWhile_cons]
    split
    · rename_i hspace
      rw [ih, List.countP_cons_of_neg (by simp [visible, hspace])]
    · rfl

theorem countP_trim (s : String) :
    (Json.trim s).toList.countP visible = s.toList.countP visible := by
  rw [Json.trim, String.toList_ofList, List.countP_reverse, countP_dropWhile, List.countP_reverse,
    countP_dropWhile]

theorem liveTvXmlDecode_escape_iff (s : String) :
    liveTvXmlDecode (escape s.toList) = Json.trim s ↔ NoLateEntity s.toList := by
  rw [liveTvXmlDecode_escape]
  constructor
  · intro h
    by_contra hlate
    have hcount := congrArg (fun t => t.toList.countP visible) h
    simp only [countP_trim, String.toList_ofList] at hcount
    have hlt := countP_collapse_lt hlate
    omega
  · intro h
    rw [collapse_of_noLateEntity h, String.ofList_toList]

end Jellyrin.LiveTv.Xmltv
