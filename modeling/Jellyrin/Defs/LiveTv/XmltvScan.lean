import Jellyrin.Defs.Data.Calendar
import Jellyrin.Defs.Data.FoldedCut
import Jellyrin.Defs.Data.JsonObject
import Jellyrin.Defs.LiveTv.Xmltv

/-! The elements and the attributes of a guide as parts of its text, without offsets. -/

namespace Jellyrin.LiveTv.Xmltv

open Ascii Slices
open String (utf8Len utf8Len_cons utf8Len_append utf8Len_nil)

def elementAt (tag found : List Char) : Option (List Char × List Char) :=
  match foldedCut Char.toLower ['>'] found with
  | none => none
  | some (opening, content) =>
    match foldedCut Char.toLower (closeTag tag) (content.drop 1) with
    | none => none
    | some (body, closing) =>
      some (opening ++ content.take 1 ++ body ++ closing.take (closeTag tag).length,
        closing.drop (closeTag tag).length)

/-- The first place with an opening tag: the element there, if it is one with this tag, and the text
behind it. -/
def nextElement (tag rest : List Char) : Option (Option (List Char) × List Char) :=
  match foldedCut Char.toLower (openTag tag) rest with
  | none => none
  | some (_, found) =>
    let after := found.drop (openTag tag).length
    if (after.map Char.toLower).head?.any (fun ch => ch = '>' || isAsciiWhitespace ch) = false then
      some (none, after)
    else (elementAt tag found).map fun (element, behind) => (some element, behind)

theorem sliceFrom_lower {contents before rest : List Char} {offset : Nat}
    (h : contents = before ++ rest) (hoffset : offset = utf8Len before) :
    sliceFrom (contents.map Char.toLower) offset = .ok (rest.map Char.toLower) := by
  rw [h, hoffset, List.map_append, ← utf8Len_map_toLower before]
  exact sliceFrom_append _ _

theorem drop_left_of_map {f : Char → Char} {first pattern : List Char}
    (h : first.map f = pattern) (after : List Char) :
    (first ++ after).take pattern.length = first ∧
      (first ++ after).drop pattern.length = after := by
  rw [← h, List.length_map]
  exact ⟨List.take_left, List.drop_left⟩

theorem scanElement_cases (before tag found : List Char) :
    (elementAt tag found = none ∧
        scanElement (before ++ found) tag (utf8Len before) = .ok .done) ∨
      ∃ element behind, found = element ++ behind ∧ element ≠ [] ∧
        elementAt tag found = some (element, behind) ∧
        scanElement (before ++ found) tag (utf8Len before) =
          .ok (.next (utf8Len (before ++ element)) (some element)) := by
  rw [scanElement, elementAt, sliceFrom_lower rfl rfl, ok_bind, find_map utf8Size_toLower]
  cases hopening : foldedCut Char.toLower ['>'] found with
  | none => exact .inl ⟨rfl, rfl⟩
  | some split =>
    obtain ⟨opening, content⟩ := split
    obtain ⟨rfl, hcontent⟩ := foldedCut_eq_some hopening
    obtain ⟨mark, content, rfl, hmark⟩ := exists_of_prefix_map hcontent
    obtain ⟨htake, hdrop⟩ := drop_left_of_map hmark content
    have hmarkLen : utf8Len mark = 1 := by
      rw [← utf8Len_map_toLower, hmark]
      rfl
    have hafter : sliceFrom ((before ++ (opening ++ (mark ++ content))).map Char.toLower)
        (utf8Len before + utf8Len opening + 1) = .ok (content.map Char.toLower) :=
      @sliceFrom_lower _ (before ++ opening ++ mark) _ _ (by simp) (by simp [hmarkLen, Nat.add_assoc])
    simp only [List.length_singleton] at htake hdrop
    simp only [Option.map_some, hafter, ok_bind, hdrop, htake, find_map utf8Size_toLower]
    cases hclosing : foldedCut Char.toLower (closeTag tag) content with
    | none => exact .inl ⟨rfl, rfl⟩
    | some split =>
      obtain ⟨body, closing⟩ := split
      obtain ⟨rfl, hclose⟩ := foldedCut_eq_some hclosing
      obtain ⟨close, behind, rfl, hmap⟩ := exists_of_prefix_map hclose
      obtain ⟨htakeClose, hdropClose⟩ := drop_left_of_map hmap behind
      have hcloseLen : utf8Len (closeTag tag) = utf8Len close := by
        rw [← hmap, utf8Len_map_toLower]
      have hfinish : utf8Len before + utf8Len opening + 1 + utf8Len body + utf8Len (closeTag tag) =
          utf8Len (before ++ (opening ++ mark ++ body ++ close)) := by
        simp [hcloseLen, hmarkLen, Nat.add_assoc]
      have hslice : sliceRange (before ++ (opening ++ (mark ++ (body ++ (close ++ behind)))))
          (utf8Len before) (utf8Len (before ++ (opening ++ mark ++ body ++ close))) =
            .ok (opening ++ mark ++ body ++ close) := by
        have happend := sliceRange_append before (opening ++ mark ++ body ++ close) behind
        simpa only [List.append_assoc] using happend
      refine .inr ⟨opening ++ mark ++ body ++ close, behind, by simp, ?_, ?_, ?_⟩
      · rintro hnil
        simp only [List.append_eq_nil_iff] at hnil
        rw [hnil.1.1.2] at hmark
        cases hmark
      · simp only [htakeClose, hdropClose]
      · simp only [Option.map_some, hfinish, hslice]
        rfl

theorem scanStep_cases (before tag rest : List Char) :
    (nextElement tag rest = none ∧
        scanStep (before ++ rest) tag (utf8Len before) = .ok .done) ∨
      ∃ part behind element, rest = part ++ behind ∧ part ≠ [] ∧
        nextElement tag rest = some (element, behind) ∧
        scanStep (before ++ rest) tag (utf8Len before) =
          .ok (.next (utf8Len (before ++ part)) element) := by
  rw [scanStep, nextElement, sliceFrom_lower rfl rfl, ok_bind, find_map utf8Size_toLower]
  cases hfound : foldedCut Char.toLower (openTag tag) rest with
  | none => exact .inl ⟨rfl, rfl⟩
  | some split =>
    obtain ⟨skipped, found⟩ := split
    obtain ⟨rfl, hopen⟩ := foldedCut_eq_some hfound
    obtain ⟨first, after, rfl, hfirst⟩ := exists_of_prefix_map hopen
    have hdrop := (drop_left_of_map hfirst after).2
    have hlen : utf8Len before + utf8Len skipped + utf8Len (openTag tag) =
        utf8Len (before ++ (skipped ++ first)) := by
      rw [← hfirst, utf8Len_map_toLower]
      simp [Nat.add_assoc]
    have hafter : sliceFrom ((before ++ (skipped ++ (first ++ after))).map Char.toLower)
        (utf8Len (before ++ (skipped ++ first))) = .ok (after.map Char.toLower) :=
      sliceFrom_lower (by simp) rfl
    simp only [Option.map_some, hlen, hafter, ok_bind, hdrop]
    split
    case isTrue =>
      refine .inr ⟨skipped ++ first, after, none, by simp, ?_, rfl, rfl⟩
      rintro hnil
      rw [(List.append_eq_nil_iff.mp hnil).2] at hfirst
      cases hfirst
    case isFalse =>
      have helement := scanElement_cases (before ++ skipped) tag (first ++ after)
      rw [utf8Len_append, List.append_assoc] at helement
      cases helement with
      | inl hnone => exact .inl ⟨by rw [hnone.1]; rfl, hnone.2⟩
      | inr hsome =>
        obtain ⟨element, behind, heq, hne, hat, hscan⟩ := hsome
        refine .inr ⟨skipped ++ element, behind, some element, ?_, ?_, ?_, ?_⟩
        · rw [heq, List.append_assoc]
        · exact fun hnil => hne (List.append_eq_nil_iff.mp hnil).2
        · rw [hat]
          rfl
        · rw [hscan, List.append_assoc]

theorem length_lt_of_nextElement {tag rest behind : List Char} {element : Option (List Char)}
    (h : nextElement tag rest = some (element, behind)) : behind.length < rest.length := by
  cases scanStep_cases [] tag rest with
  | inl hnone =>
    rw [hnone.1] at h
    cases h
  | inr hsome =>
    obtain ⟨part, behind', element', rfl, hne, hnext, -⟩ := hsome
    cases hnext.symm.trans h
    rw [List.length_append]
    have hpos := List.length_pos_iff.mpr hne
    omega

def elements (tag rest : List Char) : List (List Char) :=
  match _hnext : nextElement tag rest with
  | none => []
  | some (element, behind) => element.toList ++ elements tag behind
termination_by rest.length
decreasing_by exact length_lt_of_nextElement _hnext

theorem elements_of_none {tag rest : List Char} (h : nextElement tag rest = none) :
    elements tag rest = [] := by
  rw [elements]
  split
  · rfl
  · rename_i hnext
    rw [h] at hnext
    cases hnext

theorem elements_of_some {tag rest behind : List Char} {element : Option (List Char)}
    (h : nextElement tag rest = some (element, behind)) :
    elements tag rest = element.toList ++ elements tag behind := by
  rw [elements]
  split
  · rename_i hnext
    rw [h] at hnext
    cases hnext
  · rename_i hnext
    cases h.symm.trans hnext
    rfl

theorem scanFrom_eq (before tag rest : List Char) :
    scanFrom (before ++ rest) tag (utf8Len before) = .ok (elements tag rest) := by
  induction hlength : rest.length using Nat.strong_induction_on generalizing before rest with
  | _ n ih =>
    rw [scanFrom]
    cases scanStep_cases before tag rest with
    | inl hnone =>
      obtain ⟨hnext, hscan⟩ := hnone
      rw [elements_of_none hnext]
      split <;> simp_all
    | inr hsome =>
      obtain ⟨part, behind, element, rfl, hne, hnext, hscan⟩ := hsome
      have hlt := length_lt_of_nextElement hnext
      have hbehind := ih behind.length (by omega) (before ++ part) behind rfl
      rw [List.append_assoc] at hbehind
      rw [elements_of_some hnext]
      split
      · simp_all
      · simp_all
      · rename_i offset element' hstep
        cases hscan.symm.trans hstep
        rw [hbehind]
        rfl

theorem liveTvXmlElements_eq (contents : List Char) (tag : String) :
    liveTvXmlElements contents tag = .ok (elements tag.toList contents) :=
  scanFrom_eq [] tag.toList contents

/-! Attributes and texts. -/

def attributeOf (element : List Char) (name : String) : Option String :=
  let attr := (toAsciiLowercase name).toList ++ ['=']
  match foldedCut Char.toLower attr element with
  | none => none
  | some (_, found) =>
    match found.drop attr.length with
    | [] => none
    | quote :: rest =>
      if quote ≠ '"' ∧ quote ≠ '\x27' then none
      else (foldedCut id [quote] rest).map fun (value, _) => liveTvXmlDecode value

def firstText (contents : List Char) (tag : String) : Option String :=
  ((elements tag.toList contents).map fun element =>
    liveTvXmlDecode (liveTvStripXmlTags element)).find? (· ≠ "")

theorem liveTvXmlAttribute_eq (element : List Char) (name : String) :
    liveTvXmlAttribute element name = .ok (attributeOf element name) := by
  simp only [liveTvXmlAttribute, attributeOf, find_map utf8Size_toLower]
  generalize (toAsciiLowercase name).toList ++ ['='] = attr
  cases hfound : foldedCut Char.toLower attr element with
  | none => rfl
  | some split =>
    obtain ⟨before, found⟩ := split
    obtain ⟨rfl, hattr⟩ := foldedCut_eq_some hfound
    obtain ⟨first, after, rfl, hfirst⟩ := exists_of_prefix_map hattr
    have hdrop := (drop_left_of_map hfirst after).2
    have hlen : utf8Len before + utf8Len attr = utf8Len (before ++ first) := by
      rw [← hfirst, utf8Len_map_toLower, utf8Len_append]
    have hafter : sliceFrom (before ++ (first ++ after)) (utf8Len (before ++ first)) =
        .ok after := by
      rw [← List.append_assoc]
      exact sliceFrom_append _ _
    simp only [Option.map_some, hlen, hafter, ok_bind, hdrop]
    cases after with
    | nil => rfl
    | cons quote rest =>
      simp only [List.head?_cons]
      split
      case isTrue => rfl
      case isFalse =>
        have hquote : utf8Len (before ++ first) + quote.utf8Size =
            utf8Len (before ++ first ++ [quote]) := by
          simp [Nat.add_assoc]
        have hrest : sliceFrom (before ++ (first ++ quote :: rest))
            (utf8Len (before ++ first ++ [quote])) = .ok rest := by
          have happend := sliceFrom_append (before ++ first ++ [quote]) rest
          simpa only [List.append_assoc, List.singleton_append] using happend
        have hfind : find [quote] rest =
            (foldedCut id [quote] rest).map fun split => utf8Len split.1 := by
          rw [← @find_map id fun c => rfl, List.map_id]
        simp only [hquote, hrest, ok_bind, hfind]
        cases hvalue : foldedCut id [quote] rest with
        | none => rfl
        | some split =>
          obtain ⟨value, closing⟩ := split
          obtain ⟨rfl, -⟩ := foldedCut_eq_some hvalue
          have hslice : sliceRange (before ++ (first ++ quote :: (value ++ closing)))
              (utf8Len (before ++ first ++ [quote]))
              (utf8Len (before ++ first ++ [quote]) + utf8Len value) = .ok value := by
            have happend := sliceRange_append (before ++ first ++ [quote]) value closing
            rw [utf8Len_append (before ++ first ++ [quote]) value] at happend
            simpa only [List.append_assoc, List.cons_append, List.nil_append] using happend
          simp only [Option.map_some, hslice]
          rfl

theorem liveTvXmlFirstText_eq (contents : List Char) (tag : String) :
    liveTvXmlFirstText contents tag = .ok (firstText contents tag) := by
  rw [liveTvXmlFirstText, liveTvXmlElements_eq]
  rfl

/-! Dates. -/

def firstWord (value : String) : List Char :=
  (Xtream.splitWhitespace value.toList).headD value.toList

def CutsNoCharacter (value : String) : Prop :=
  14 ≤ utf8Len (firstWord value) → IsCharBoundary (firstWord value) 14

instance (value : String) : Decidable (CutsNoCharacter value) :=
  inferInstanceAs (Decidable (_ → _))

theorem liveTvXmltvDatetime_of_digits {value : String} {digits after : List Char}
    (hword : firstWord value = digits ++ after) (hdigits : ∀ c ∈ digits, c.isDigit = true)
    (hlength : digits.length = 14) :
    liveTvXmltvDatetime value = .ok (Instant.joinParts (.ofList (digits.take 4))
      (.ofList ((digits.take 6).drop 4)) (.ofList ((digits.take 8).drop 6))
      (.ofList ((digits.take 10).drop 8)) (.ofList ((digits.take 12).drop 10))
      (.ofList ((digits.take 14).drop 12))) := by
  have hlen : utf8Len digits = 14 := by rw [utf8Len_of_isDigit hdigits, hlength]
  have hfirst : sliceTo (digits ++ after) 14 = .ok digits := by
    rw [← hlen]
    exact sliceTo_append _ _
  have hall : digits.all Char.isDigit = true := List.all_eq_true.mpr hdigits
  have hbytes : 14 ≤ utf8Len (digits ++ after) := by
    rw [utf8Len_append]
    omega
  have hslice : ∀ {start finish : Nat}, start ≤ finish → finish ≤ 14 →
      sliceRange (digits ++ after) start finish = .ok ((digits.take finish).drop start) :=
    fun hle hfinish => sliceRange_digits hdigits after hle (hlength ▸ hfinish)
  rw [firstWord] at hword
  simp only [liveTvXmltvDatetime, hword, hbytes, if_true, hfirst, ok_bind, hall,
    hslice (show 0 ≤ 4 by decide) (by decide), hslice (show 4 ≤ 6 by decide) (by decide),
    hslice (show 6 ≤ 8 by decide) (by decide), hslice (show 8 ≤ 10 by decide) (by decide),
    hslice (show 10 ≤ 12 by decide) (by decide), hslice (show 12 ≤ 14 by decide) (by decide)]
  rfl

theorem exists_liveTvXmltvDatetime_iff (value : String) :
    (∃ date, liveTvXmltvDatetime value = .ok date) ↔ CutsNoCharacter value := by
  unfold CutsNoCharacter
  by_cases hbytes : 14 ≤ utf8Len (firstWord value)
  case neg =>
    simp only [hbytes, false_implies, iff_true]
    rw [firstWord] at hbytes
    simp only [liveTvXmltvDatetime, hbytes, if_false]
    exact ⟨value, rfl⟩
  case pos =>
    simp only [hbytes, true_implies]
    constructor
    · rintro ⟨date, hdate⟩
      rw [firstWord] at hbytes ⊢
      simp only [liveTvXmltvDatetime, hbytes, if_true] at hdate
      obtain ⟨first, hfirst, -⟩ := exists_of_bind_eq_ok hdate
      obtain ⟨after, hword, hlen⟩ := sliceTo_eq_ok.mp hfirst
      exact isCharBoundary_iff.mpr ⟨first, after, hword, hlen⟩
    · intro hboundary
      obtain ⟨first, after, hword, hlen⟩ := isCharBoundary_iff.mp hboundary
      by_cases hdigits : ∀ c ∈ first, c.isDigit = true
      · have hlength : first.length = 14 := by rw [← utf8Len_of_isDigit hdigits, hlen]
        exact ⟨_, liveTvXmltvDatetime_of_digits hword hdigits hlength⟩
      · have hall : first.all Char.isDigit = false := by
          rwa [← Bool.not_eq_true, List.all_eq_true]
        have hfirst : sliceTo (firstWord value) 14 = .ok first :=
          sliceTo_eq_ok.mpr ⟨after, hword, hlen⟩
        rw [firstWord] at hbytes hfirst
        simp only [liveTvXmltvDatetime, hbytes, if_true, hfirst, ok_bind, hall]
        exact ⟨value, rfl⟩

/-! Programmes. -/

def CutsDates (element : List Char) : Prop :=
  ∀ name ∈ ["start", "stop"], ∀ value, attributeOf element name = some value →
    CutsNoCharacter value

theorem exists_xmltvDate_iff (element : List Char) (name : String) :
    (∃ date, xmltvDate element name = .ok date) ↔
      ∀ value, attributeOf element name = some value → CutsNoCharacter value := by
  rw [xmltvDate, liveTvXmlAttribute_eq, ok_bind]
  cases attributeOf element name with
  | none =>
    simp only [reduceCtorEq, false_implies, implies_true, iff_true]
    exact ⟨.null, rfl⟩
  | some value =>
    simp only [Option.some_inj, forall_eq']
    rw [← exists_liveTvXmltvDatetime_iff]
    cases liveTvXmltvDatetime value with
    | error panic =>
      constructor
      · rintro ⟨date, ⟨⟩⟩
      · rintro ⟨date, ⟨⟩⟩
    | ok date => exact ⟨fun _ => ⟨date, rfl⟩, fun _ => ⟨.string date, rfl⟩⟩

def programOf (element : List Char) (index : Nat) (start finish : Json) : Json :=
  let channelId := (attributeOf element "channel").getD ""
  let name := (firstText element "title").getD ("Program " ++ toString (index + 1))
  Json.ofFields
    [("Id", .string (Guide.liveTvStableId "program"
      (channelId ++ "-" ++ toString index ++ "-" ++ name))),
      ("Name", .string name), ("ChannelId", .string channelId), ("StartDate", start),
      ("EndDate", finish), ("Overview", .string ((firstText element "desc").getD ""))]

theorem parseLiveTvXmltvProgram_eq (element : List Char) (index : Nat) :
    parseLiveTvXmltvProgram (element, index) =
      xmltvDate element "start" >>= fun start => xmltvDate element "stop" >>= fun finish =>
        .ok (programOf element index start finish) := by
  simp only [parseLiveTvXmltvProgram, liveTvXmlAttribute_eq, liveTvXmlFirstText_eq, ok_bind]
  rfl

theorem exists_parseLiveTvXmltvProgram_iff (entry : List Char × Nat) :
    (∃ program, parseLiveTvXmltvProgram entry = .ok program) ↔ CutsDates entry.1 := by
  obtain ⟨element, index⟩ := entry
  rw [parseLiveTvXmltvProgram_eq, CutsDates, List.forall_mem_cons, List.forall_mem_singleton,
    ← exists_xmltvDate_iff, ← exists_xmltvDate_iff]
  constructor
  · rintro ⟨program, h⟩
    obtain ⟨start, hstart, h⟩ := exists_of_bind_eq_ok h
    obtain ⟨finish, hfinish, -⟩ := exists_of_bind_eq_ok h
    exact ⟨⟨start, hstart⟩, ⟨finish, hfinish⟩⟩
  · rintro ⟨⟨start, hstart⟩, ⟨finish, hfinish⟩⟩
    rw [hstart, hfinish]
    exact ⟨programOf element index start finish, rfl⟩

theorem cutsDates_of_parse {contents : String} {programs : List Json}
    (h : parseLiveTvXmltvPrograms contents = .ok programs) :
    ∀ element ∈ elements "programme".toList contents.toList, CutsDates element := by
  rw [parseLiveTvXmltvPrograms, liveTvXmlElements_eq, ok_bind] at h
  intro element helement
  obtain ⟨index, hindex⟩ := List.mem_iff_getElem?.mp helement
  have hentry : (element, index) ∈ (elements "programme".toList contents.toList).zipIdx :=
    List.mem_zipIdx_iff_getElem?.mpr hindex
  obtain ⟨program, -, hprogram⟩ := exists_mem_of_forall₂ (forall₂_of_mapM h) hentry
  exact (exists_parseLiveTvXmltvProgram_iff (element, index)).mp ⟨program, hprogram⟩

theorem exists_parse_of_cutsDates {contents : String}
    (h : ∀ element ∈ elements "programme".toList contents.toList, CutsDates element) :
    ∃ programs, parseLiveTvXmltvPrograms contents = .ok programs := by
  rw [parseLiveTvXmltvPrograms, liveTvXmlElements_eq, ok_bind]
  apply exists_mapM_eq_ok
  intro entry hentry
  apply (exists_parseLiveTvXmltvProgram_iff entry).mpr
  exact h entry.1 (List.mem_of_getElem? (List.mem_zipIdx_iff_getElem?.mp hentry))

/-- A guide is read without a panic exactly if the dates of its programmes can be cut. -/
theorem exists_parseLiveTvXmltvPrograms_iff (contents : String) :
    (∃ programs, parseLiveTvXmltvPrograms contents = .ok programs) ↔
      ∀ element ∈ elements "programme".toList contents.toList, CutsDates element := by
  constructor
  · rintro ⟨programs, hprograms⟩
    exact cutsDates_of_parse hprograms
  · exact exists_parse_of_cutsDates

def cutProgramme : String := "<programme start=\"2024010112345é\"></programme>"

theorem cutProgramme_panics : parseLiveTvXmltvPrograms cutProgramme = .error .charBoundary := by
  have hnext : nextElement "programme".toList cutProgramme.toList =
      some (some cutProgramme.toList, []) := by decide
  have hlast : nextElement "programme".toList [] = none := by decide
  have hstart : xmltvDate cutProgramme.toList "start" = .error .charBoundary := rfl
  rw [parseLiveTvXmltvPrograms, liveTvXmlElements_eq, ok_bind, elements_of_some hnext,
    elements_of_none hlast, List.append_nil, Option.toList_some, List.zipIdx_singleton,
    List.mapM_cons, parseLiveTvXmltvProgram_eq, hstart]
  rfl

end Jellyrin.LiveTv.Xmltv

/-! Times of the XMLTV format, and the instants they denote. -/

namespace Jellyrin.LiveTv.Xmltv

open Instant Text

structure Zone where
  negative : Bool
  digits : String
  hasDigits : HasDigits 4 digits

structure XmltvTime where
  digits : String
  hasDigits : HasDigits 14 digits
  zone : Option Zone

def part (digits : String) (start finish : Nat) : String :=
  String.ofList ((digits.toList.take finish).drop start)

def Zone.text (zone : Zone) : String := (if zone.negative then "-" else "+") ++ zone.digits

def Zone.seconds (zone : Zone) : Int :=
  let seconds : Int := numeralValue (part zone.digits 0 2) * 3600 +
    numeralValue (part zone.digits 2 4) * 60
  if zone.negative then -seconds else seconds

namespace XmltvTime

variable (time : XmltvTime)

def text : String :=
  match time.zone with
  | some zone => time.digits ++ " " ++ zone.text
  | none => time.digits

def offset : Int := time.zone.elim 0 Zone.seconds

def instant : Int :=
  ofParts ⟨numeralValue (part time.digits 0 4), numeralValue (part time.digits 4 6),
    numeralValue (part time.digits 6 8)⟩ (numeralValue (part time.digits 8 10))
    (numeralValue (part time.digits 10 12)) (numeralValue (part time.digits 12 14)) - time.offset

def shown : String :=
  joinParts (part time.digits 0 4) (part time.digits 4 6) (part time.digits 6 8)
    (part time.digits 8 10) (part time.digits 10 12) (part time.digits 12 14)

end XmltvTime

theorem hasDigits_part {digits : String} {start finish width : Nat}
    (h : ∀ c ∈ digits.toList, c.isDigit = true) (hlength : finish ≤ digits.toList.length)
    (hwidth : finish - start = width) : HasDigits width (part digits start finish) where
  length := by
    rw [part, String.toList_ofList, List.length_drop, List.length_take, Nat.min_eq_left hlength,
      hwidth]
  isDigit := by
    intro c hc
    rw [part, String.toList_ofList] at hc
    exact h c (List.mem_of_mem_take (List.mem_of_mem_drop hc))

theorem ne_nil_of_hasDigits {width : Nat} {s : String} (h : HasDigits width s) (hwidth : 0 < width) :
    s.toList ≠ [] := by
  rw [← List.length_pos_iff, h.length]
  exact hwidth

theorem XmltvTime.firstWord_text (time : XmltvTime) :
    firstWord time.text = time.digits.toList ++ [] := by
  have hword : ∀ c ∈ time.digits.toList, Json.isWhitespace c = false := fun c hc =>
    isWhitespace_of_isDigit (time.hasDigits.isDigit c hc)
  have hne := ne_nil_of_hasDigits time.hasDigits (by decide)
  rw [List.append_nil, firstWord, Xtream.splitWhitespace, text]
  cases time.zone with
  | none =>
    simp only
    rw [List.splitOnP_eq_singleton hword, List.filter_cons_of_pos (by simpa using hne)]
    rfl
  | some zone =>
    have hspace : (time.digits ++ " " ++ zone.text).toList =
        time.digits.toList ++ ' ' :: zone.text.toList := by simp
    simp only
    rw [hspace, List.splitOnP_append_cons_of_forall_mem hword ' ' rfl,
      List.filter_cons_of_pos (by simpa using hne)]
    rfl

theorem XmltvTime.liveTvXmltvDatetime_text (time : XmltvTime) :
    liveTvXmltvDatetime time.text = .ok time.shown :=
  liveTvXmltvDatetime_of_digits time.firstWord_text time.hasDigits.isDigit time.hasDigits.length

theorem XmltvTime.ofText_shown_iff (time : XmltvTime) :
    ofText time.shown = some time.instant ↔ time.offset = 0 := by
  have hpart : ∀ {start finish width : Nat}, finish ≤ 14 → finish - start = width →
      HasDigits width (part time.digits start finish) := fun hle hwidth =>
    hasDigits_part time.hasDigits.isDigit (time.hasDigits.length ▸ hle) hwidth
  rw [shown, ofText_joinParts (hpart (by decide) rfl) (hpart (by decide) rfl)
    (hpart (by decide) rfl) (hpart (by decide) rfl) (hpart (by decide) rfl)
    (hpart (by decide) rfl), Option.some_inj, instant]
  omega

end Jellyrin.LiveTv.Xmltv
