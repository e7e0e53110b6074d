import Jellyrin.Defs.LiveTv.XmltvScan
import Jellyrin.Defs.LiveTv.XmltvText

/-! The elements of markup: text without tags and other tags are passed over. -/

namespace Jellyrin.LiveTv.Xmltv

open Ascii

theorem toLower_eq_iff {c d : Char} (hd : d.toNat < 65) : c.toLower = d ↔ c = d := by
  by_cases h : 'A'.val ≤ c.val ∧ c.val ≤ 'Z'.val
  · have hge : 65 ≤ c.toNat := h.1
    have hlower := toNat_toLower h
    constructor
    · rintro rfl
      omega
    · rintro rfl
      omega
  · rw [toLower_eq_self h]

section Elements

variable {tag text rest : List Char}

theorem toLower_ne_lt (h : '<' ∉ text) : ∀ c ∈ text, c.toLower ≠ '<' := by
  intro c hc hlt
  rw [toLower_eq_iff (by decide)] at hlt
  exact h (hlt ▸ hc)

theorem foldedCut_closeTag (htag : tag.map Char.toLower = tag) (h : '<' ∉ text)
    (rest : List Char) :
    foldedCut Char.toLower (closeTag tag) (text ++ closeTag tag ++ rest) =
      some (text, closeTag tag ++ rest) := by
  have hself : (closeTag tag).map Char.toLower = closeTag tag := by simp [closeTag, htag]
  have hclose : foldedCut Char.toLower (closeTag tag) (closeTag tag ++ rest) =
      some ([], closeTag tag ++ rest) := by
    apply foldedCut_of_prefix
    rw [List.map_append, hself]
    exact List.prefix_append _ _
  rw [closeTag, List.cons_append, List.cons_append] at hclose ⊢
  rw [List.append_assoc, foldedCut_append (toLower_ne_lt h)]
  rw [List.cons_append, List.cons_append] at hclose
  rw [List.cons_append, List.cons_append, hclose]
  simp

theorem foldedCut_other {pattern : List Char} (h : ¬ pattern <+: (text ++ rest).map Char.toLower)
    (htext : '<' ∉ text) :
    foldedCut Char.toLower ('<' :: pattern) ('<' :: (text ++ rest)) =
      (foldedCut Char.toLower ('<' :: pattern) rest).map
        fun (before, found) => ('<' :: (text ++ before), found) := by
  have hopen : ¬ ('<' :: pattern) <+: ('<' :: (text ++ rest)).map Char.toLower := fun hopen =>
    h (List.cons_prefix_cons.mp hopen).2
  rw [foldedCut_cons_of_absent hopen, foldedCut_append (toLower_ne_lt htext), Option.map_map]
  rfl

theorem nextElement_text (h : '<' ∉ text) (rest : List Char) :
    nextElement tag (text ++ rest) = nextElement tag rest := by
  rw [nextElement, nextElement, openTag, foldedCut_append (toLower_ne_lt h)]
  cases foldedCut Char.toLower ('<' :: tag) rest with
  | none => rfl
  | some split => rfl

theorem nextElement_other (h : ¬ tag <+: rest.map Char.toLower) :
    nextElement tag ('<' :: rest) = nextElement tag rest := by
  have hopen : ¬ openTag tag <+: ('<' :: rest).map Char.toLower := fun hopen =>
    h (List.cons_prefix_cons.mp hopen).2
  rw [nextElement, nextElement, foldedCut_cons_of_absent hopen]
  cases foldedCut Char.toLower (openTag tag) rest with
  | none => rfl
  | some split => rfl

theorem elements_congr {other : List Char} (h : nextElement tag rest = nextElement tag other) :
    elements tag rest = elements tag other := by
  cases hnext : nextElement tag other with
  | none => rw [elements_of_none hnext, elements_of_none (h.trans hnext)]
  | some next =>
    obtain ⟨element, behind⟩ := next
    rw [elements_of_some hnext, elements_of_some (h.trans hnext)]

theorem elements_text (h : '<' ∉ text) (rest : List Char) :
    elements tag (text ++ rest) = elements tag rest :=
  elements_congr (nextElement_text h rest)

theorem elements_other (h : ¬ tag <+: (text ++ rest).map Char.toLower) (htext : '<' ∉ text) :
    elements tag ('<' :: text ++ rest) = elements tag rest := by
  rw [List.cons_append, elements_congr (nextElement_other h), elements_text htext]

theorem elements_nil (tag : List Char) : elements tag [] = [] :=
  elements_of_none rfl

theorem elements_element {attributes body behind : List Char} (htag : tag.map Char.toLower = tag)
    (hmark : '>' ∉ tag ++ attributes)
    (hhead : ∀ c ∈ attributes.head?, isAsciiWhitespace c.toLower = true)
    (hclose : foldedCut Char.toLower (closeTag tag) (body ++ closeTag tag ++ behind) =
      some (body, closeTag tag ++ behind)) :
    elements tag (openTag tag ++ attributes ++ '>' :: (body ++ closeTag tag ++ behind)) =
      (openTag tag ++ attributes ++ '>' :: (body ++ closeTag tag)) :: elements tag behind := by
  have hopen : foldedCut Char.toLower (openTag tag)
      (openTag tag ++ (attributes ++ '>' :: (body ++ closeTag tag ++ behind))) =
        some ([], openTag tag ++ (attributes ++ '>' :: (body ++ closeTag tag ++ behind))) := by
    have hself : (openTag tag).map Char.toLower = openTag tag := by simp [openTag, htag]
    apply foldedCut_of_prefix
    rw [List.map_append, hself]
    exact List.prefix_append _ _
  have hnext : ((attributes ++ '>' :: (body ++ closeTag tag ++ behind)).map
      Char.toLower).head?.any (fun ch => ch = '>' || isAsciiWhitespace ch) = true := by
    cases attributes with
    | nil => simp
    | cons c attributes =>
      have hspace := hhead c rfl
      simp [hspace]
  have hgreater : foldedCut Char.toLower ['>']
      (openTag tag ++ (attributes ++ '>' :: (body ++ closeTag tag ++ behind))) =
        some (openTag tag ++ attributes, '>' :: (body ++ closeTag tag ++ behind)) := by
    have hbefore : ∀ c ∈ openTag tag ++ attributes, c.toLower ≠ '>' := by
      intro c hc hgt
      rw [toLower_eq_iff (by decide)] at hgt
      subst hgt
      rw [openTag, List.cons_append, List.mem_cons] at hc
      cases hc with
      | inl hlt => cases hlt
      | inr hmem => exact hmark hmem
    rw [← List.append_assoc, foldedCut_append hbefore, foldedCut_of_prefix (by simp)]
    simp
  have hat : elementAt tag (openTag tag ++ (attributes ++ '>' :: (body ++ closeTag tag ++ behind))) =
      some (openTag tag ++ attributes ++ '>' :: (body ++ closeTag tag), behind) := by
    simp only [elementAt, hgreater, List.drop_succ_cons, List.drop_zero, hclose, List.take_left,
      List.drop_left]
    simp
  have hfound : nextElement tag
      (openTag tag ++ (attributes ++ '>' :: (body ++ closeTag tag ++ behind))) =
        some (some (openTag tag ++ attributes ++ '>' :: (body ++ closeTag tag)), behind) := by
    rw [nextElement, hopen]
    simp only [List.drop_left, hnext, hat]
    simp
  rw [List.append_assoc, elements_of_some hfound]
  rfl

end Elements

/-! Guides with escaped texts, and what is read of them. -/

/-! Writing. -/

structure Programme where
  channel : String
  title : String
  desc : String
  start : XmltvTime
  stop : XmltvTime

def textElement (tag value : String) : List Char :=
  openTag tag.toList ++ '>' :: (escape value.toList ++ closeTag tag.toList)

def Programme.attributes (p : Programme) : List Char :=
  " start=\"".toList ++ p.start.text.toList ++ "\" stop=\"".toList ++ p.stop.text.toList ++
    "\" channel=\"".toList ++ escape p.channel.toList ++ ['"']

/-- The element, with the same text, such as a line break, around each of its children. -/
def Programme.render (gap : List Char) (p : Programme) : List Char :=
  openTag "programme".toList ++ p.attributes ++
    '>' :: (gap ++ textElement "title" p.title ++ gap ++ textElement "desc" p.desc ++ gap ++
      closeTag "programme".toList)

def guide (gap : List Char) (programmes : List Programme) : List Char :=
  "<tv>".toList ++ gap ++ programmes.flatMap (fun p => p.render gap ++ gap) ++ "</tv>".toList

/-! Characters. -/

theorem mem_escape {c : Char} {s : List Char} (h : c ∈ escape s) :
    entityName c = none ∨ c = '&' := by
  obtain ⟨d, -, hd⟩ := List.mem_flatMap.mp h
  cases escapeOnly_cases ['&', '<', '>', '"', '\x27'] d with
  | inl hself =>
    rw [hself, List.mem_singleton] at hd
    subst hd
    by_cases hmem : c ∈ ['&', '<', '>', '"', '\x27']
    · simp only [List.mem_cons, List.not_mem_nil, or_false] at hmem
      rcases hmem with rfl | rfl | rfl | rfl | rfl <;> revert hself <;> decide
    · left
      simp only [List.mem_cons, List.not_mem_nil, or_false, not_or] at hmem
      simp [entityName, hmem]
  | inr hentity =>
    obtain ⟨name, hname, -, hesc⟩ := hentity
    rw [hesc, List.mem_cons] at hd
    exact hd.symm.imp_left fun hmem => plain_of_mem_name hname hmem

theorem notMem_escape {c : Char} (hc : c ∈ ['<', '>', '"', '\x27']) (s : List Char) :
    c ∉ escape s := by
  intro h
  have hplain := mem_escape h
  simp only [List.mem_cons, List.not_mem_nil, or_false] at hc
  rcases hc with rfl | rfl | rfl | rfl <;> revert hplain <;> decide

theorem XmltvTime.mem_text {time : XmltvTime} {c : Char} (h : c ∈ time.text.toList) :
    c.isDigit = true ∨ c ∈ [' ', '+', '-'] := by
  rw [text] at h
  cases hzone : time.zone with
  | none =>
    rw [hzone] at h
    exact .inl (time.hasDigits.isDigit c h)
  | some zone =>
    rw [hzone] at h
    simp only [String.toList_append, Zone.text, List.mem_append] at h
    rcases h with (h | h) | h | h
    · exact .inl (time.hasDigits.isDigit c h)
    · right
      have hspace : c ∈ [' '] := h
      simp [List.mem_singleton.mp hspace]
    · right
      split at h
      · have hminus : c ∈ ['-'] := h
        simp [List.mem_singleton.mp hminus]
      · have hplus : c ∈ ['+'] := h
        simp [List.mem_singleton.mp hplus]
    · exact .inl (zone.hasDigits.isDigit c h)

theorem XmltvTime.notMem_text {c : Char} (hdigit : c.isDigit = false) (hc : c ∉ [' ', '+', '-'])
    (time : XmltvTime) : c ∉ time.text.toList := by
  intro h
  cases mem_text h with
  | inl hmem =>
    rw [hdigit] at hmem
    cases hmem
  | inr hmem => exact hc hmem

/-! Texts of elements. -/

section TextElement

variable {tag value : String}

theorem liveTvStripXmlTagsFrom_text {text : List Char} (hlt : '<' ∉ text) (hgt : '>' ∉ text)
    (inTag : Bool) (rest : List Char) :
    liveTvStripXmlTagsFrom inTag (text ++ rest) =
      (if inTag then [] else text) ++ liveTvStripXmlTagsFrom inTag rest := by
  induction text with
  | nil => simp
  | cons c text ih =>
    rw [List.mem_cons, not_or] at hlt hgt
    rw [List.cons_append, liveTvStripXmlTagsFrom, if_neg (Ne.symm hlt.1), if_neg (Ne.symm hgt.1),
      ih hlt.2 hgt.2]
    cases inTag <;> simp

theorem liveTvStripXmlTagsFrom_lt (inTag : Bool) (rest : List Char) :
    liveTvStripXmlTagsFrom inTag ('<' :: rest) = liveTvStripXmlTagsFrom true rest := by
  rw [liveTvStripXmlTagsFrom, if_pos rfl]

theorem liveTvStripXmlTagsFrom_gt (inTag : Bool) (rest : List Char) :
    liveTvStripXmlTagsFrom inTag ('>' :: rest) = liveTvStripXmlTagsFrom false rest := by
  rw [liveTvStripXmlTagsFrom, if_neg (by decide), if_pos rfl]

theorem liveTvStripXmlTags_textElement (hlt : '<' ∉ tag.toList) (hgt : '>' ∉ tag.toList) :
    liveTvStripXmlTags (textElement tag value) = escape value.toList := by
  have hslash : '<' ∉ '/' :: tag.toList ∧ '>' ∉ '/' :: tag.toList := by simp [hlt, hgt]
  rw [liveTvStripXmlTags, textElement, openTag, closeTag, List.cons_append,
    liveTvStripXmlTagsFrom_lt, liveTvStripXmlTagsFrom_text hlt hgt, liveTvStripXmlTagsFrom_gt,
    liveTvStripXmlTagsFrom_text (notMem_escape (by simp) _) (notMem_escape (by simp) _),
    List.cons_append, liveTvStripXmlTagsFrom_lt, liveTvStripXmlTagsFrom_text hslash.1 hslash.2,
    liveTvStripXmlTagsFrom_gt]
  simp [liveTvStripXmlTagsFrom]

theorem elements_textElement (htag : tag.toList.map Char.toLower = tag.toList)
    (hgt : '>' ∉ tag.toList) (rest : List Char) :
    elements tag.toList (textElement tag value ++ rest) =
      textElement tag value :: elements tag.toList rest := by
  have hfound := @elements_element tag.toList [] (escape value.toList) rest htag
    (by simpa using hgt) (by simp) (foldedCut_closeTag htag (notMem_escape (by simp) _) rest)
  simpa [textElement] using hfound

theorem textElement_append (rest : List Char) : textElement tag value ++ rest =
    '<' :: ((tag.toList ++ '>' :: escape value.toList) ++
      ('<' :: (('/' :: tag.toList ++ ['>']) ++ rest))) := by
  simp [textElement, openTag, closeTag]

variable (value) in
theorem notMem_parts (hlt : '<' ∉ tag.toList) :
    '<' ∉ tag.toList ++ '>' :: escape value.toList ∧ '<' ∉ '/' :: tag.toList ++ ['>'] := by
  simp [hlt, notMem_escape]

theorem elements_textElement_other {other : List Char} (rest : List Char)
    (hopen : ∀ more, ¬ other <+: (tag.toList ++ '>' :: more).map Char.toLower)
    (hclose : ∀ more, ¬ other <+: ('/' :: tag.toList ++ '>' :: more).map Char.toLower)
    (hlt : '<' ∉ tag.toList) :
    elements other (textElement tag value ++ rest) = elements other rest := by
  obtain ⟨hfirst, hlast⟩ := notMem_parts value hlt
  rw [textElement_append, ← List.cons_append, elements_other _ hfirst, ← List.cons_append,
    elements_other _ hlast]
  · have := hclose rest
    simpa using this
  · have := hopen (escape value.toList ++ ('<' :: ('/' :: tag.toList ++ ['>']) ++ rest))
    simpa using this

theorem foldedCut_textElement_other {pattern : List Char} (rest : List Char)
    (hopen : ∀ more, ¬ pattern <+: (tag.toList ++ '>' :: more).map Char.toLower)
    (hclose : ∀ more, ¬ pattern <+: ('/' :: tag.toList ++ '>' :: more).map Char.toLower)
    (hlt : '<' ∉ tag.toList) :
    foldedCut Char.toLower ('<' :: pattern) (textElement tag value ++ rest) =
      (foldedCut Char.toLower ('<' :: pattern) rest).map
        fun (before, found) => (textElement tag value ++ before, found) := by
  obtain ⟨hfirst, hlast⟩ := notMem_parts value hlt
  rw [textElement_append, foldedCut_other _ hfirst, foldedCut_other _ hlast, Option.map_map]
  · congr 1
    funext split
    simp [textElement_append]
  · have := hclose rest
    simpa using this
  · have := hopen (escape value.toList ++ ('<' :: ('/' :: tag.toList ++ ['>']) ++ rest))
    simpa using this

end TextElement

/-! Elements of a guide. -/

theorem Programme.notMem_attributes {c : Char} (hc : c ∈ ['<', '>']) (p : Programme) :
    c ∉ p.attributes := by
  have hmark : (c.isDigit = false ∧ c ∉ [' ', '+', '-']) ∧ c ∈ ['<', '>', '"', '\x27'] :=
    @forall_mem_of_all _ (fun c => (c.isDigit = false ∧ c ∉ [' ', '+', '-']) ∧
      c ∈ ['<', '>', '"', '\x27']) _ ['<', '>'] (by decide) c hc
  have hliterals : ∀ literal ∈ [" start=\"".toList, "\" stop=\"".toList, "\" channel=\"".toList,
      ['"']], c ∉ literal :=
    @forall_mem_of_all _ (fun c => ∀ literal ∈ [" start=\"".toList, "\" stop=\"".toList,
      "\" channel=\"".toList, ['"']], c ∉ literal) _ ['<', '>'] (by decide) c hc
  have hstart := p.start.notMem_text hmark.1.1 hmark.1.2
  have hstop := p.stop.notMem_text hmark.1.1 hmark.1.2
  have hchannel := notMem_escape hmark.2 p.channel.toList
  simp only [List.forall_mem_cons] at hliterals
  unfold attributes
  simp only [List.mem_append, hliterals, hstart, hstop, hchannel, or_false, not_false_eq_true]

section Guide

variable {gap : List Char} (hgap : '<' ∉ gap) (p : Programme)
include hgap

theorem lt_notMem_opening : '<' ∉ "programme".toList ++ (p.attributes ++ '>' :: gap) := by
  have hattributes := p.notMem_attributes (c := '<') (by decide)
  simp [hattributes, hgap]

omit hgap in
theorem render_eq : p.render gap =
    '<' :: ("programme".toList ++ (p.attributes ++ '>' :: gap)) ++
      (textElement "title" p.title ++ (gap ++ (textElement "desc" p.desc ++ (gap ++
        ('<' :: "/programme>".toList ++ []))))) := by
  simp [Programme.render, openTag, closeTag]

theorem elements_title_render :
    elements "title".toList (p.render gap) = [textElement "title" p.title] := by
  rw [render_eq, elements_other (by simp) (lt_notMem_opening hgap p),
    elements_textElement (by decide) (by decide), elements_text hgap,
    elements_textElement_other _ (by simp) (by simp) (by decide), elements_text hgap,
    elements_other (by decide) (by decide), elements_nil]

theorem elements_desc_render :
    elements "desc".toList (p.render gap) = [textElement "desc" p.desc] := by
  rw [render_eq, elements_other (by simp) (lt_notMem_opening hgap p),
    elements_textElement_other _ (by simp) (by simp) (by decide), elements_text hgap,
    elements_textElement (by decide) (by decide), elements_text hgap,
    elements_other (by decide) (by decide), elements_nil]

theorem foldedCut_children (rest : List Char) :
    foldedCut Char.toLower (closeTag "programme".toList)
      (gap ++ textElement "title" p.title ++ gap ++ textElement "desc" p.desc ++ gap ++
        closeTag "programme".toList ++ rest) =
      some (gap ++ textElement "title" p.title ++ gap ++ textElement "desc" p.desc ++ gap,
        closeTag "programme".toList ++ rest) := by
  have hlast := @foldedCut_closeTag "programme".toList gap (by decide) hgap rest
  have hpattern : closeTag "programme".toList = '<' :: "/programme>".toList := rfl
  rw [List.append_assoc] at hlast
  rw [hpattern] at hlast ⊢
  simp only [List.append_assoc]
  rw [foldedCut_append (toLower_ne_lt hgap),
    foldedCut_textElement_other _ (by simp) (by simp) (by decide),
    foldedCut_append (toLower_ne_lt hgap),
    foldedCut_textElement_other _ (by simp) (by simp) (by decide), hlast]
  rfl

theorem elements_render (rest : List Char) :
    elements "programme".toList (p.render gap ++ rest) =
      p.render gap :: elements "programme".toList rest := by
  have hmark : '>' ∉ "programme".toList ++ p.attributes := by
    rw [List.mem_append, not_or]
    exact ⟨by decide, p.notMem_attributes (by decide)⟩
  have hhead : ∀ c ∈ p.attributes.head?, isAsciiWhitespace c.toLower = true := by
    intro c hc
    cases hc
    rfl
  have hfound := elements_element (by decide) hmark hhead (foldedCut_children hgap p rest)
  simpa only [Programme.render, List.append_assoc, List.cons_append] using hfound

theorem elements_guide (programmes : List Programme) :
    elements "programme".toList (guide gap programmes) = programmes.map (Programme.render gap) := by
  have hall : ∀ rest, elements "programme".toList
      (programmes.flatMap (fun p => p.render gap ++ gap) ++ rest) =
        programmes.map (Programme.render gap) ++ elements "programme".toList rest := by
    intro rest
    induction programmes with
    | nil => rfl
    | cons p programmes ih =>
      rw [List.flatMap_cons, List.append_assoc, List.append_assoc, elements_render hgap,
        elements_text hgap, ih]
      rfl
  have hopen : '<' ∉ "tv>".toList ++ gap := by simp [hgap]
  have hlast : elements "programme".toList "</tv>".toList = [] := by
    have hother := @elements_other "programme".toList "/tv>".toList [] (by decide) (by decide)
    rw [elements_nil] at hother
    exact hother
  have hparts : guide gap programmes = '<' :: ("tv>".toList ++ gap) ++
      (programmes.flatMap (fun p => p.render gap ++ gap) ++ "</tv>".toList) := by
    simp [guide]
  rw [hparts, elements_other (by simp) hopen, hall, hlast, List.append_nil]

end Guide

end Jellyrin.LiveTv.Xmltv
