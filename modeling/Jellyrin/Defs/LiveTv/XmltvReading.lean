import Jellyrin.Defs.LiveTv.XmltvGuide

/-! What is read of a guide that was written with escaped texts. -/

namespace Jellyrin.LiveTv.Xmltv

open Ascii Instant Json Text

/-! Attributes. -/

section FoldedCut

variable {f : Char → Char} {pattern before cs found : List Char} {b c : Char}

theorem exists_foldedCut_append (h : ∀ b ∈ before, f b ≠ c)
    (hcut : ∃ first, foldedCut f (c :: pattern) cs = some (first, found)) :
    ∃ first, foldedCut f (c :: pattern) (before ++ cs) = some (first, found) := by
  obtain ⟨first, hcut⟩ := hcut
  rw [foldedCut_append h, hcut]
  exact ⟨before ++ first, rfl⟩

theorem exists_foldedCut_cons (h : ¬ pattern <+: (b :: cs).map f)
    (hcut : ∃ first, foldedCut f pattern cs = some (first, found)) :
    ∃ first, foldedCut f pattern (b :: cs) = some (first, found) := by
  obtain ⟨first, hcut⟩ := hcut
  rw [foldedCut_cons_of_absent h, hcut]
  exact ⟨b :: first, rfl⟩

end FoldedCut

theorem attributeOf_of_foldedCut {element before value behind : List Char} {name : String}
    (hcut : foldedCut Char.toLower ((toAsciiLowercase name).toList ++ ['=']) element =
      some (before, ((toAsciiLowercase name).toList ++ ['=']) ++ '"' :: (value ++ '"' :: behind)))
    (hvalue : '"' ∉ value) : attributeOf element name = some (liveTvXmlDecode value) := by
  have hpassed : ∀ c ∈ value, id c ≠ '"' := fun c hc hquote => hvalue (hquote ▸ hc)
  have hquote : foldedCut id ['"'] (value ++ '"' :: behind) = some (value, '"' :: behind) := by
    rw [foldedCut_append hpassed, foldedCut_of_prefix (by simp)]
    simp
  simp only [attributeOf, hcut, List.drop_left]
  rw [if_neg (by simp), hquote]
  rfl

theorem XmltvTime.toLower_of_mem_text {time : XmltvTime} {c : Char} (h : c ∈ time.text.toList) :
    c.toLower = c := by
  apply toLower_eq_self
  cases mem_text h with
  | inl hdigit =>
    have hrange : 48 ≤ c.toNat ∧ c.toNat ≤ 57 := by
      simpa [Char.isDigit, UInt32.le_iff_toNat_le] using hdigit
    intro hletter
    have hge : 65 ≤ c.toNat := hletter.1
    omega
  | inr hmem =>
    have hmarks : ∀ c ∈ [' ', '+', '-'], ¬ ('A'.val ≤ c.val ∧ c.val ≤ 'Z'.val) :=
      forall_mem_of_all (by decide)
    exact hmarks c hmem

theorem XmltvTime.toLower_ne {c : Char} (hdigit : c.isDigit = false) (hc : c ∉ [' ', '+', '-'])
    (time : XmltvTime) : ∀ b ∈ time.text.toList, b.toLower ≠ c := by
  intro b hb hlower
  rw [toLower_of_mem_text hb] at hlower
  exact time.notMem_text hdigit hc (hlower ▸ hb)

theorem XmltvTime.escape_text (time : XmltvTime) : escape time.text.toList = time.text.toList := by
  apply flatMap_escapeOnly_plain
  intro c hc
  have hmarks : ∀ d ∈ ['&', '<', '>', '"', '\x27'], d.isDigit = false ∧ d ∉ [' ', '+', '-'] :=
    forall_mem_of_all (by decide)
  have hplain : ∀ d ∈ ['&', '<', '>', '"', '\x27'], c ≠ d := by
    rintro d hd rfl
    exact time.notMem_text (hmarks c hd).1 (hmarks c hd).2 hc
  simp only [List.forall_mem_cons] at hplain
  simp [entityName, hplain]

theorem XmltvTime.noLateEntity_text (time : XmltvTime) : NoLateEntity time.text.toList := by
  intro entity hentity hentityHere
  have hamp : ∀ entity ∈ lateEntities, '&' ∈ entity := by decide
  exact time.notMem_text (by decide) (by decide) (hentityHere.subset (hamp entity hentity))

theorem filled_of_hasDigits {width : Nat} {s : String} (h : HasDigits width s)
    (hwidth : 0 < width) : Filled s := by
  have hsolid : ∀ c ∈ s.toList, isWhitespace c = false := fun c hc =>
    isWhitespace_of_isDigit (h.isDigit c hc)
  exact ⟨trim_of_forall hsolid, by simpa using ne_nil_of_hasDigits h hwidth⟩

theorem XmltvTime.filled_text (time : XmltvTime) : Filled time.text := by
  have hdigits := filled_of_hasDigits time.hasDigits (by decide)
  rw [text]
  cases time.zone with
  | none => exact hdigits
  | some zone =>
    have hzone := filled_of_hasDigits zone.hasDigits (by decide)
    have hends : EndsFilled zone.digits := ⟨hzone.2, (trimmed_iff.mp hzone.1).2⟩
    have htext := (hends.append (if zone.negative then "-" else "+")).append " "
    have hfilled := hdigits.append htext
    rwa [← String.append_assoc] at hfilled

theorem XmltvTime.liveTvXmlDecode_text (time : XmltvTime) :
    liveTvXmlDecode time.text.toList = time.text := by
  have hdecode := (liveTvXmlDecode_escape_iff time.text).mpr time.noLateEntity_text
  rwa [time.escape_text, time.filled_text.1] at hdecode

section Render

variable (gap : List Char) (p : Programme)

theorem exists_render_attributes : ∃ behind, p.render gap =
    "<programme ".toList ++ ("start=".toList ++ '"' :: (p.start.text.toList ++ '"' ::
      (" ".toList ++ ("stop=".toList ++ '"' :: (p.stop.text.toList ++ '"' ::
        (" ".toList ++ ("channel=".toList ++ '"' :: (escape p.channel.toList ++ '"' ::
          behind)))))))) := by
  refine ⟨'>' :: (gap ++ textElement "title" p.title ++ gap ++ textElement "desc" p.desc ++ gap ++
    closeTag "programme".toList), ?_⟩
  unfold Programme.render Programme.attributes
  simp [openTag]

theorem attributeOf_render_start : attributeOf (p.render gap) "start" = some p.start.text := by
  obtain ⟨behind, hrender⟩ := exists_render_attributes gap p
  have hname : (toAsciiLowercase "start").toList ++ ['='] = 's' :: "tart=".toList := rfl
  have hstart : "start=".toList = 's' :: "tart=".toList := rfl
  have hcut : ∃ after before, foldedCut Char.toLower ('s' :: "tart=".toList) (p.render gap) =
      some (before, 's' :: "tart=".toList ++ '"' :: (p.start.text.toList ++ '"' :: after)) := by
    apply Exists.intro
    rw [hrender, hstart]
    apply exists_foldedCut_append (forall_mem_of_all (by decide))
    exact ⟨[], foldedCut_of_prefix (by simp)⟩
  obtain ⟨after, before, hcut⟩ := hcut
  rw [← hname] at hcut
  rw [attributeOf_of_foldedCut hcut (p.start.notMem_text (by decide) (by decide)),
    p.start.liveTvXmlDecode_text]

theorem attributeOf_render_stop : attributeOf (p.render gap) "stop" = some p.stop.text := by
  obtain ⟨behind, hrender⟩ := exists_render_attributes gap p
  have hname : (toAsciiLowercase "stop").toList ++ ['='] = 's' :: "top=".toList := rfl
  have hstart : "start=".toList = 's' :: "tart=".toList := rfl
  have hstop : "stop=".toList = 's' :: "top=".toList := rfl
  have hcut : ∃ after before, foldedCut Char.toLower ('s' :: "top=".toList) (p.render gap) =
      some (before, 's' :: "top=".toList ++ '"' :: (p.stop.text.toList ++ '"' :: after)) := by
    apply Exists.intro
    rw [hrender, hstart, hstop]
    apply exists_foldedCut_append (forall_mem_of_all (by decide))
    apply exists_foldedCut_cons (by simp)
    apply exists_foldedCut_append (forall_mem_of_all (by decide))
    apply exists_foldedCut_cons (by simp)
    apply exists_foldedCut_append (p.start.toLower_ne (by decide) (by decide))
    apply exists_foldedCut_cons (by simp)
    apply exists_foldedCut_append (forall_mem_of_all (by decide))
    exact ⟨[], foldedCut_of_prefix (by simp)⟩
  obtain ⟨after, before, hcut⟩ := hcut
  rw [← hname] at hcut
  rw [attributeOf_of_foldedCut hcut (p.stop.notMem_text (by decide) (by decide)),
    p.stop.liveTvXmlDecode_text]

theorem attributeOf_render_channel :
    attributeOf (p.render gap) "channel" = some (liveTvXmlDecode (escape p.channel.toList)) := by
  obtain ⟨behind, hrender⟩ := exists_render_attributes gap p
  have hname : (toAsciiLowercase "channel").toList ++ ['='] = 'c' :: "hannel=".toList := rfl
  have hchannel : "channel=".toList = 'c' :: "hannel=".toList := rfl
  have hcut : ∃ after before, foldedCut Char.toLower ('c' :: "hannel=".toList) (p.render gap) =
      some (before, 'c' :: "hannel=".toList ++ '"' :: (escape p.channel.toList ++ '"' :: after)) := by
    apply Exists.intro
    rw [hrender, hchannel]
    apply exists_foldedCut_append (forall_mem_of_all (by decide))
    apply exists_foldedCut_append (forall_mem_of_all (by decide))
    apply exists_foldedCut_cons (by simp)
    apply exists_foldedCut_append (p.start.toLower_ne (by decide) (by decide))
    apply exists_foldedCut_cons (by simp)
    apply exists_foldedCut_append (forall_mem_of_all (by decide))
    apply exists_foldedCut_append (forall_mem_of_all (by decide))
    apply exists_foldedCut_cons (by simp)
    apply exists_foldedCut_append (p.stop.toLower_ne (by decide) (by decide))
    apply exists_foldedCut_cons (by simp)
    apply exists_foldedCut_append (forall_mem_of_all (by decide))
    exact ⟨[], foldedCut_of_prefix (by simp)⟩
  obtain ⟨after, before, hcut⟩ := hcut
  rw [← hname] at hcut
  exact attributeOf_of_foldedCut hcut (notMem_escape (by simp) _)

end Render

/-! Programmes. -/

theorem firstText_of_elements {contents : List Char} {tag value : String}
    (h : elements tag.toList contents = [textElement tag value])
    (hlt : '<' ∉ tag.toList) (hgt : '>' ∉ tag.toList) :
    firstText contents tag =
      if liveTvXmlDecode (escape value.toList) = "" then none
      else some (liveTvXmlDecode (escape value.toList)) := by
  rw [firstText, h, List.map_singleton, liveTvStripXmlTags_textElement hlt hgt]
  split
  · rename_i hempty
    simp [hempty]
  · rename_i hne
    simp [hne]

def listedTexts (program : Json) : List (Option Json) :=
  ["Name", "Overview", "ChannelId"].map program.get

def named (text : String) (index : Nat) : String :=
  if text = "" then "Program " ++ toString (index + 1) else text

def decodedTexts (entry : Programme × Nat) : List String :=
  [named (liveTvXmlDecode (escape entry.1.title.toList)) entry.2,
    liveTvXmlDecode (escape entry.1.desc.toList), liveTvXmlDecode (escape entry.1.channel.toList)]

section Guide

variable {gap : List Char} (hgap : '<' ∉ gap) (p : Programme) (index : Nat)

theorem parseLiveTvXmltvProgram_render :
    parseLiveTvXmltvProgram (p.render gap, index) =
      .ok (programOf (p.render gap) index (.string p.start.shown) (.string p.stop.shown)) := by
  have hstart : xmltvDate (p.render gap) "start" = .ok (.string p.start.shown) := by
    rw [xmltvDate, liveTvXmlAttribute_eq, attributeOf_render_start, ok_bind]
    simp only [p.start.liveTvXmltvDatetime_text, ok_bind]
    rfl
  have hstop : xmltvDate (p.render gap) "stop" = .ok (.string p.stop.shown) := by
    rw [xmltvDate, liveTvXmlAttribute_eq, attributeOf_render_stop, ok_bind]
    simp only [p.stop.liveTvXmltvDatetime_text, ok_bind]
    rfl
  rw [parseLiveTvXmltvProgram_eq, hstart, hstop]
  rfl

include hgap

theorem listedTexts_programOf (start finish : Json) :
    listedTexts (programOf (p.render gap) index start finish) =
      (decodedTexts (p, index)).map fun text => some (.string text) := by
  have htitle : (firstText (p.render gap) "title").getD ("Program " ++ toString (index + 1)) =
      named (liveTvXmlDecode (escape p.title.toList)) index := by
    rw [firstText_of_elements (elements_title_render hgap p) (by decide) (by decide), named]
    split <;> rfl
  have hdesc : (firstText (p.render gap) "desc").getD "" =
      liveTvXmlDecode (escape p.desc.toList) := by
    rw [firstText_of_elements (elements_desc_render hgap p) (by decide) (by decide)]
    split
    · rename_i hempty
      rw [hempty]
      rfl
    · rfl
  have hchannel : (attributeOf (p.render gap) "channel").getD "" =
      liveTvXmlDecode (escape p.channel.toList) := by
    rw [attributeOf_render_channel]
    rfl
  have hname : (programOf (p.render gap) index start finish).get "Name" =
      some (.string (named (liveTvXmlDecode (escape p.title.toList)) index)) := by
    rw [← htitle]
    exact get_ofFields (by simp) (by simp)
  have hoverview : (programOf (p.render gap) index start finish).get "Overview" =
      some (.string (liveTvXmlDecode (escape p.desc.toList))) := by
    rw [← hdesc]
    exact get_ofFields (by simp) (by simp)
  have hchannelId : (programOf (p.render gap) index start finish).get "ChannelId" =
      some (.string (liveTvXmlDecode (escape p.channel.toList))) := by
    rw [← hchannel]
    exact get_ofFields (by simp) (by simp)
  simp only [listedTexts, List.map_cons, List.map_nil, hname, hoverview, hchannelId, decodedTexts]

end Guide

/-! Guides. -/

/-- A guide is listed without a panic, with the texts that a function gives for its programmes. -/
def Lists (gap : List Char) (programmes : List Programme)
    (texts : Programme × Nat → List String) : Prop :=
  ∃ programs, parseLiveTvXmltvPrograms (String.ofList (guide gap programmes)) = .ok programs ∧
    programs.map listedTexts = programmes.zipIdx.map fun entry =>
      (texts entry).map fun text => some (.string text)

def originalTexts (entry : Programme × Nat) : List String :=
  [trim entry.1.title, trim entry.1.desc, trim entry.1.channel]

def namedTexts (entry : Programme × Nat) : List String :=
  [named (trim entry.1.title) entry.2, trim entry.1.desc, trim entry.1.channel]

theorem lists_decodedTexts {gap : List Char} (hgap : '<' ∉ gap) (programmes : List Programme) :
    Lists gap programmes decodedTexts := by
  refine ⟨programmes.zipIdx.map fun entry => programOf (entry.1.render gap) entry.2
    (.string entry.1.start.shown) (.string entry.1.stop.shown), ?_, ?_⟩
  · rw [parseLiveTvXmltvPrograms, String.toList_ofList, liveTvXmlElements_eq,
      elements_guide hgap, ok_bind, List.zipIdx_map, List.mapM_map]
    apply mapM_eq_ok_map
    rintro ⟨p, index⟩ -
    exact parseLiveTvXmltvProgram_render p index
  · rw [List.map_map]
    apply List.map_congr_left
    rintro ⟨p, index⟩ -
    exact listedTexts_programOf hgap p index _ _

theorem Lists.eq {gap : List Char} {programmes : List Programme}
    {texts others : Programme × Nat → List String} (h : Lists gap programmes texts)
    (hother : Lists gap programmes others) : ∀ entry ∈ programmes.zipIdx,
      texts entry = others entry := by
  obtain ⟨programs, hparse, htexts⟩ := h
  obtain ⟨same, hsame, hothers⟩ := hother
  cases hparse.symm.trans hsame
  have hmap := List.map_inj_left.mp (htexts.symm.trans hothers)
  intro entry hentry
  have hinj : Function.Injective fun text : String => some (Json.string text) := by
    intro text other heq
    simpa using heq
  exact hinj.list_map (hmap entry hentry)

/-- Texts without a late entity are decoded to themselves, trimmed, and so they are in a guide. -/
theorem texts_without_lateEntity :
    (∀ s : String, NoLateEntity s.toList → liveTvXmlDecode (escape s.toList) = trim s) ∧
      ∀ gap programmes, '<' ∉ gap →
        (∀ p ∈ programmes, ∀ text ∈ [p.title, p.desc, p.channel], NoLateEntity text.toList) →
        Lists gap programmes namedTexts := by
  refine ⟨fun s => (liveTvXmlDecode_escape_iff s).mpr, fun gap programmes hgap htexts => ?_⟩
  obtain ⟨programs, hparse, hlisted⟩ := lists_decodedTexts hgap programmes
  refine ⟨programs, hparse, hlisted.trans ?_⟩
  apply List.map_congr_left
  rintro ⟨p, index⟩ hentry
  have hp := htexts p (List.mem_of_getElem? (List.mem_zipIdx_iff_getElem?.mp hentry))
  simp only [List.forall_mem_cons, ← liveTvXmlDecode_escape_iff] at hp
  simp only [decodedTexts, namedTexts, hp]

theorem hasDigits_noon : HasDigits 14 "20240101120000" := ⟨rfl, forall_mem_of_all (by decide)⟩

def untitled : Programme where
  channel := "one & two"
  title := " "
  desc := "<new>"
  start := ⟨"20240101120000", hasDigits_noon, none⟩
  stop := ⟨"20240101120000", hasDigits_noon, none⟩

theorem untitled_listed : Lists ['\n'] [untitled] namedTexts :=
  texts_without_lateEntity.2 ['\n'] [untitled] (by decide) (by decide)

theorem texts_changed :
    liveTvXmlDecode (escape "&lt;".toList) ≠ trim "&lt;" ∧ ¬ Lists ['\n'] [untitled] originalTexts := by
  constructor
  · decide
  · intro h
    have heq := h.eq (lists_decodedTexts (by decide) [untitled]) (untitled, 0) (by simp)
    have htitle := (liveTvXmlDecode_escape_iff untitled.title).mpr (by decide)
    have hblank : trim untitled.title = "" := by decide
    rw [originalTexts, decodedTexts, htitle, hblank] at heq
    revert heq
    decide

end Jellyrin.LiveTv.Xmltv
