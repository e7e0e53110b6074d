import Jellyrin.Defs.Data.Separated
import Jellyrin.Defs.LiveTv.XmltvReading

/-! The identifiers and the dates of the programmes of a guide. -/

namespace Jellyrin.LiveTv.Xmltv

open Ascii Guide Instant Json Separated Text

/-! Identifiers. -/

def dashed (value : String) : List Char :=
  (toAsciiLowercase value).toList.map fun ch => if ch.isAlphanum then ch else '-'

def headPart (channelId : String) : List Char := (dashed channelId ++ ['-']).dropWhile (· == '-')

def tailPart (name : String) : List Char := ('-' :: dashed name).rdropWhile (· == '-')

theorem endsAt_headPart (channelId : String) : EndsAt '-' (headPart channelId) :=
  endsAt_dropWhile _ _ _

theorem beginsAt_tailPart (name : String) : BeginsAt '-' (tailPart name) :=
  beginsAt_rdropWhile _ _ _

def digits (index : Nat) : List Char := (toString index).toList

theorem dashed_append (value other : String) :
    dashed (value ++ other) = dashed value ++ dashed other := by
  simp [dashed, toAsciiLowercase]

theorem isDigit_of_mem_digits {index : Nat} {c : Char} (h : c ∈ digits index) :
    c.isDigit = true := isDigit_of_mem_toString h

theorem digits_ne_nil (index : Nat) : digits index ≠ [] := by
  rw [digits, toList_toString]
  exact Nat.toDigits_ne_nil

theorem digits_injective : Function.Injective digits := by
  intro index other h
  exact toString_injective (String.toList_injective h)

theorem digit_ne_dash {index : Nat} {c : Char} (h : c ∈ digits index) : (c == '-') = false := by
  have hdigit := isDigit_of_mem_digits h
  simp only [beq_eq_false_iff_ne]
  rintro rfl
  revert hdigit
  decide

theorem dash_notMem_digits (index : Nat) : '-' ∉ digits index := by
  intro h
  have hdash := digit_ne_dash h
  simp at hdash

theorem dashed_toString (index : Nat) : dashed (toString index) = digits index := by
  rw [dashed, toAsciiLowercase, String.toList_ofList, List.map_map]
  apply (List.map_congr_left _).trans (List.map_id _)
  intro c hc
  have hdigit := isDigit_of_mem_toString hc
  have hrange : 48 ≤ c.toNat ∧ c.toNat ≤ 57 := by
    simpa [Char.isDigit, UInt32.le_iff_toNat_le] using hdigit
  have hlower : c.toLower = c := by
    apply toLower_eq_self
    intro hletter
    have hge : 65 ≤ c.toNat := hletter.1
    omega
  simp [hlower, Char.isAlphanum, hdigit]

theorem liveTvStableId_eq (channelId name : String) (index : Nat) :
    liveTvStableId "program" (channelId ++ "-" ++ toString index ++ "-" ++ name) =
      "program" ++ "-" ++ String.ofList (headPart channelId ++ digits index ++ tailPart name) := by
  have hdashed : dashed (channelId ++ "-" ++ toString index ++ "-" ++ name) =
      (dashed channelId ++ ['-']) ++ digits index ++ ('-' :: dashed name) := by
    simp only [dashed_append, dashed_toString]
    simp [dashed, toAsciiLowercase]
  have hkept := rdropWhile_dropWhile_append (digits_ne_nil index) (fun c hc => digit_ne_dash hc)
    (dashed channelId ++ ['-']) ('-' :: dashed name)
  rw [← hdashed] at hkept
  have hne : String.ofList (headPart channelId ++ digits index ++ tailPart name) ≠ "" := by
    simp [digits_ne_nil]
  rw [headPart, tailPart, ← hkept] at hne ⊢
  rw [liveTvStableId]
  exact if_neg hne

/-! Programmes that collide. -/

def channelOf (element : List Char) : String := (attributeOf element "channel").getD ""

def nameOf (entry : List Char × Nat) : String :=
  (firstText entry.1 "title").getD ("Program " ++ toString (entry.2 + 1))

def idText (entry : List Char × Nat) : String :=
  "program" ++ "-" ++ String.ofList
    (headPart (channelOf entry.1) ++ digits entry.2 ++ tailPart (nameOf entry))

/-- The channel of the other programme goes on with the number of this one, and the name of this
one begins with what follows there and the number of the other. -/
def Collides (entry other : List Char × Nat) : Prop :=
  Overlaps '-' (headPart (channelOf entry.1)) (digits entry.2) (tailPart (nameOf entry))
    (headPart (channelOf other.1)) (digits other.2) (tailPart (nameOf other))

theorem idText_eq_iff (entry other : List Char × Nat) :
    idText entry = idText other ↔
      (headPart (channelOf entry.1) = headPart (channelOf other.1) ∧
        digits entry.2 = digits other.2 ∧ tailPart (nameOf entry) = tailPart (nameOf other)) ∨
        Collides entry other ∨ Collides other entry := by
  rw [Collides, Collides, ← framed_eq_iff (endsAt_headPart _) (endsAt_headPart _)
    (dash_notMem_digits _) (dash_notMem_digits _) (beginsAt_tailPart _) (beginsAt_tailPart _),
    idText, idText, String.append_right_inj, String.ofList_inj]

theorem not_collides_self (entry : List Char × Nat) : ¬ Collides entry entry := by
  rintro ⟨middle, hhead, -⟩
  have hlength := congrArg List.length hhead
  simp only [List.length_append, List.length_cons] at hlength
  omega

theorem nodup_idText_iff (found : List (List Char)) :
    (found.zipIdx.map idText).Nodup ↔
      ∀ entry ∈ found.zipIdx, ∀ other ∈ found.zipIdx, ¬ Collides entry other := by
  have hnodup : found.zipIdx.Nodup := List.Nodup.of_map Prod.snd (List.nodup_zipIdx_map_snd found)
  rw [List.nodup_map_iff_inj_on hnodup]
  constructor
  · intro h entry hentry other hother hcollides
    have hsame := h entry hentry other hother ((idText_eq_iff _ _).mpr (.inr (.inl hcollides)))
    rw [hsame] at hcollides
    exact not_collides_self other hcollides
  · intro h entry hentry other hother heq
    rcases (idText_eq_iff _ _).mp heq with ⟨-, hdigits, -⟩ | hcollides | hcollides
    · have hindex := digits_injective hdigits
      have hentryAt := List.mem_zipIdx_iff_getElem?.mp hentry
      have hotherAt := List.mem_zipIdx_iff_getElem?.mp hother
      rw [hindex, hotherAt] at hentryAt
      exact Prod.ext (Option.some_inj.mp hentryAt).symm hindex
    · exact absurd hcollides (h entry hentry other hother)
    · exact absurd hcollides (h other hother entry hentry)

/-! Dates. -/

def timeFields : List (String × String) := [("start", "StartDate"), ("stop", "EndDate")]

def KeepsInstants (element : List Char) (program : Json) : Prop :=
  ∀ pair ∈ timeFields, ∀ time : XmltvTime, attributeOf element pair.1 = some time.text →
    ∃ shown, program.get pair.2 = some (.string shown) ∧ Instant.ofText shown = some time.instant

def TimesInUtc (element : List Char) : Prop :=
  ∀ pair ∈ timeFields, ∀ time : XmltvTime, attributeOf element pair.1 = some time.text →
    time.offset = 0

section Program

variable {entry : List Char × Nat} {program : Json}
  (h : parseLiveTvXmltvProgram entry = .ok program)
include h

theorem exists_programOf : ∃ start finish, xmltvDate entry.1 "start" = .ok start ∧
    xmltvDate entry.1 "stop" = .ok finish ∧ program = programOf entry.1 entry.2 start finish := by
  rw [parseLiveTvXmltvProgram_eq] at h
  obtain ⟨start, hstart, h⟩ := exists_of_bind_eq_ok h
  obtain ⟨finish, hfinish, h⟩ := exists_of_bind_eq_ok h
  exact ⟨start, finish, hstart, hfinish, (Except.ok.inj h).symm⟩

theorem get_id : program.get "Id" = some (.string (idText entry)) := by
  obtain ⟨start, finish, -, -, rfl⟩ := exists_programOf h
  rw [idText, ← liveTvStableId_eq]
  exact get_ofFields (by simp) (by simp [channelOf, nameOf])

theorem get_date {pair : String × String} (hpair : pair ∈ timeFields) {time : XmltvTime}
    (htime : attributeOf entry.1 pair.1 = some time.text) :
    program.get pair.2 = some (.string time.shown) := by
  obtain ⟨start, finish, hstart, hfinish, rfl⟩ := exists_programOf h
  have hdate : xmltvDate entry.1 pair.1 = .ok (.string time.shown) := by
    rw [xmltvDate, liveTvXmlAttribute_eq, htime, ok_bind]
    simp only [time.liveTvXmltvDatetime_text, ok_bind]
    rfl
  simp only [timeFields, List.mem_cons, List.not_mem_nil, or_false] at hpair
  rcases hpair with rfl | rfl
  · cases hstart.symm.trans hdate
    exact get_ofFields (by simp) (by simp)
  · cases hfinish.symm.trans hdate
    exact get_ofFields (by simp) (by simp)

theorem keepsInstants_iff : KeepsInstants entry.1 program ↔ TimesInUtc entry.1 := by
  constructor
  · intro hkeeps pair hpair time htime
    obtain ⟨shown, hget, hinstant⟩ := hkeeps pair hpair time htime
    rw [get_date h hpair htime, Option.some_inj, Json.string.injEq] at hget
    subst hget
    exact time.ofText_shown_iff.mp hinstant
  · intro hutc pair hpair time htime
    exact ⟨time.shown, get_date h hpair htime,
      time.ofText_shown_iff.mpr (hutc pair hpair time htime)⟩

end Program

/-! Guides. -/

/-- A guide is listed with distinct identifiers, and with the instants of its times. -/
def SoundGuide (contents : String) : Prop :=
  ∃ programs, parseLiveTvXmltvPrograms contents = .ok programs ∧
    (programs.map fun program => program.get "Id").Nodup ∧
      List.Forall₂ KeepsInstants (elements "programme".toList contents.toList) programs

section Listed

variable {contents : String} {programs : List Json}
  (h : parseLiveTvXmltvPrograms contents = .ok programs)
include h

theorem forall₂_parse : List.Forall₂ (fun entry program => parseLiveTvXmltvProgram entry = .ok program)
    (elements "programme".toList contents.toList).zipIdx programs := by
  rw [parseLiveTvXmltvPrograms, liveTvXmlElements_eq, ok_bind] at h
  exact forall₂_of_mapM h

theorem nodup_ids_iff : (programs.map fun program => program.get "Id").Nodup ↔
    ∀ entry ∈ (elements "programme".toList contents.toList).zipIdx,
      ∀ other ∈ (elements "programme".toList contents.toList).zipIdx, ¬ Collides entry other := by
  have hids : (programs.map fun program => program.get "Id") =
      ((elements "programme".toList contents.toList).zipIdx.map idText).map
        fun text => some (.string text) := by
    rw [List.map_map]
    exact map_eq_map_of_forall₂ (forall₂_parse h) fun entry program hprogram => get_id hprogram
  have hinj : Function.Injective fun text : String => some (Json.string text) := by
    intro text other heq
    simpa using heq
  rw [hids, List.nodup_map_iff hinj, nodup_idText_iff]

theorem forall₂_keepsInstants_iff :
    List.Forall₂ KeepsInstants (elements "programme".toList contents.toList) programs ↔
      ∀ element ∈ elements "programme".toList contents.toList, TimesInUtc element := by
  have hiff := @forall₂_iff_forall _ _ _ (fun entry program => KeepsInstants entry.1 program) _ _ _
    (forall₂_parse h) fun entry program hprogram => keepsInstants_iff hprogram
  rw [← List.forall₂_map_left_iff, ← List.forall_mem_map, List.zipIdx_map_fst] at hiff
  exact hiff

end Listed

/-- A guide is sound exactly if its dates can be cut, no two of its programmes collide, and its
times are in UTC. -/
theorem soundGuide_iff (contents : String) : SoundGuide contents ↔
    (∀ element ∈ elements "programme".toList contents.toList, CutsDates element) ∧
      (∀ entry ∈ (elements "programme".toList contents.toList).zipIdx,
        ∀ other ∈ (elements "programme".toList contents.toList).zipIdx, ¬ Collides entry other) ∧
      ∀ element ∈ elements "programme".toList contents.toList, TimesInUtc element := by
  constructor
  · rintro ⟨programs, hparse, hids, hdates⟩
    exact ⟨cutsDates_of_parse hparse, (nodup_ids_iff hparse).mp hids,
      (forall₂_keepsInstants_iff hparse).mp hdates⟩
  · rintro ⟨hcuts, hcollides, hutc⟩
    obtain ⟨programs, hparse⟩ := exists_parse_of_cutsDates hcuts
    exact ⟨programs, hparse, (nodup_ids_iff hparse).mpr hcollides,
      (forall₂_keepsInstants_iff hparse).mpr hutc⟩

/-! Guides that are not sound. -/

theorem hasDigits_zone : HasDigits 4 "0200" := ⟨rfl, forall_mem_of_all (by decide)⟩

def noon : XmltvTime := ⟨"20240101120000", hasDigits_noon, none⟩

def berlinNoon : XmltvTime :=
  ⟨"20240101120000", hasDigits_noon, some ⟨false, "0200", hasDigits_zone⟩⟩

def collidingGuide : String :=
  String.ofList (guide ['\n'] [⟨"a-1", "x", "", noon, noon⟩, ⟨"a", "0-x", "", noon, noon⟩])

def zonedGuide : String := String.ofList (guide ['\n'] [⟨"a", "x", "", berlinNoon, noon⟩])

theorem channelOf_render (gap : List Char) (p : Programme) (h : NoLateEntity p.channel.toList) :
    channelOf (p.render gap) = trim p.channel := by
  rw [channelOf, attributeOf_render_channel, (liveTvXmlDecode_escape_iff _).mpr h]
  rfl

theorem nameOf_render {gap : List Char} (hgap : '<' ∉ gap) (p : Programme) (index : Nat)
    (h : NoLateEntity p.title.toList) :
    nameOf (p.render gap, index) = named (trim p.title) index := by
  rw [nameOf, firstText_of_elements (elements_title_render hgap p) (by decide) (by decide),
    (liveTvXmlDecode_escape_iff _).mpr h, named]
  split <;> rfl

theorem elements_guideText {gap : List Char} (hgap : '<' ∉ gap) (programmes : List Programme) :
    elements "programme".toList (String.ofList (guide gap programmes)).toList =
      programmes.map (Programme.render gap) :=
  (congrArg _ String.toList_ofList).trans (elements_guide hgap programmes)

/-- Two programmes have the identifier `program-a-1-0-x`, and a programme is listed two hours
late. -/
theorem unsound_guides : ¬ SoundGuide collidingGuide ∧ ¬ SoundGuide zonedGuide := by
  constructor
  · rintro ⟨programs, hparse, hids, -⟩
    have hcollides := (nodup_ids_iff hparse).mp hids
    rw [collidingGuide, elements_guideText (by decide)] at hcollides
    apply hcollides (_, 1) (by simp; rfl) (_, 0) (by simp; rfl)
    rw [Collides, channelOf_render _ _ (by decide), channelOf_render _ _ (by decide),
      nameOf_render (by decide) _ _ (by decide), nameOf_render (by decide) _ _ (by decide)]
    exact ⟨[], by decide, by decide⟩
  · rintro ⟨programs, hparse, -, hdates⟩
    have hutc := (forall₂_keepsInstants_iff hparse).mp hdates
    rw [zonedGuide, elements_guideText (by decide)] at hutc
    have hzone := hutc _ (List.mem_singleton.mpr rfl) ("start", "StartDate") (by decide) berlinNoon
      (attributeOf_render_start _ _)
    revert hzone
    decide

end Jellyrin.LiveTv.Xmltv
