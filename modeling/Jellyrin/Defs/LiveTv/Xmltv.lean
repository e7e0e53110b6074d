import Jellyrin.Defs.Data.Replace
import Jellyrin.Defs.LiveTv.GuideQuery
import Jellyrin.Defs.Xtream.Catalogue

/-! A guide in the XMLTV format. -/

namespace Jellyrin.LiveTv.Xmltv

open Ascii LiveTv.Guide Slices
open String (utf8Len utf8Len_cons ofList)
open Xtream (splitWhitespace)

/-! Texts. -/

def liveTvStripXmlTagsFrom : Bool → List Char → List Char
  | _, [] => []
  | inTag, ch :: value =>
    if ch = '<' then liveTvStripXmlTagsFrom true value
    else if ch = '>' then liveTvStripXmlTagsFrom false value
    else if inTag then liveTvStripXmlTagsFrom inTag value
    else ch :: liveTvStripXmlTagsFrom inTag value

def liveTvStripXmlTags (value : List Char) : List Char := liveTvStripXmlTagsFrom false value

def liveTvXmlDecode (value : List Char) : String :=
  let value := replace "&amp;".toList ['&'] value
  let value := replace "&lt;".toList ['<'] value
  let value := replace "&gt;".toList ['>'] value
  let value := replace "&quot;".toList ['"'] value
  let value := replace "&apos;".toList ['\x27'] value
  Json.trim (String.ofList value)

def liveTvXmlAttribute (element : List Char) (name : String) : Except Panic (Option String) :=
  let attr := (toAsciiLowercase name).toList ++ ['=']
  match find attr (element.map Char.toLower) with
  | none => return none
  | some index => do
    let start := index + utf8Len attr
    match (← sliceFrom element start).head? with
    | none => return none
    | some quote =>
      if quote ≠ '"' ∧ quote ≠ '\x27' then return none
      else
        let valueStart := start + quote.utf8Size
        match find [quote] (← sliceFrom element valueStart) with
        | none => return none
        | some index =>
          return some (liveTvXmlDecode (← sliceRange element valueStart (valueStart + index)))

/-! Elements. -/

def isAsciiWhitespace (c : Char) : Bool :=
  c = ' ' || c = '\t' || c = '\n' || c = '\x0C' || c = '\r'

inductive Scan where
  | done
  | next (offset : Nat) (element : Option (List Char))

def openTag (tag : List Char) : List Char := '<' :: tag

def closeTag (tag : List Char) : List Char := '<' :: '/' :: tag ++ ['>']

def scanElement (contents tag : List Char) (start : Nat) : Except Panic Scan := do
  let lower := contents.map Char.toLower
  match find ['>'] (← sliceFrom lower start) with
  | none => return .done
  | some index =>
    let openEnd := start + index + 1
    match find (closeTag tag) (← sliceFrom lower openEnd) with
    | none => return .done
    | some index =>
      let finish := openEnd + index + utf8Len (closeTag tag)
      return .next finish (some (← sliceRange contents start finish))

def scanStep (contents tag : List Char) (offset : Nat) : Except Panic Scan := do
  let lower := contents.map Char.toLower
  match find (openTag tag) (← sliceFrom lower offset) with
  | none => return .done
  | some start =>
    let start := offset + start
    let afterTag := start + utf8Len (openTag tag)
    let next := (← sliceFrom lower afterTag).head?
    if next.any (fun ch => ch = '>' || isAsciiWhitespace ch) = false then
      return .next afterTag none
    else scanElement contents tag start

theorem lt_of_scanElement {contents tag : List Char} {start behind : Nat}
    {element : Option (List Char)} (h : scanElement contents tag start = .ok (.next behind element)) :
    start < behind ∧ behind ≤ utf8Len contents := by
  rw [scanElement] at h
  obtain ⟨fromStart, -, h⟩ := exists_of_bind_eq_ok h
  cases hindex : find ['>'] fromStart with
  | none =>
    rw [hindex] at h
    cases h
  | some index =>
    simp only [hindex] at h
    obtain ⟨content, -, h⟩ := exists_of_bind_eq_ok h
    cases hclose : find (closeTag tag) content with
    | none =>
      rw [hclose] at h
      cases h
    | some close =>
      simp only [hclose] at h
      obtain ⟨found, hfound, h⟩ := exists_of_bind_eq_ok h
      cases h
      have hle := le_of_sliceRange hfound
      omega

theorem lt_of_scanStep {contents tag : List Char} {offset behind : Nat}
    {element : Option (List Char)} (h : scanStep contents tag offset = .ok (.next behind element)) :
    offset < behind ∧ behind ≤ utf8Len contents := by
  rw [scanStep] at h
  obtain ⟨rest, hrest, h⟩ := exists_of_bind_eq_ok h
  have hlen := utf8Len_of_sliceFrom hrest
  rw [utf8Len_map_toLower] at hlen
  cases hstart : find (openTag tag) rest with
  | none =>
    rw [hstart] at h
    cases h
  | some start =>
    have hopen := le_of_find hstart
    have hpos : 0 < utf8Len (openTag tag) := by
      rw [openTag, utf8Len_cons]
      have := Char.utf8Size_pos '<'
      omega
    simp only [hstart] at h
    obtain ⟨after, hafter, h⟩ := exists_of_bind_eq_ok h
    split at h
    case isTrue =>
      cases h
      omega
    case isFalse =>
      have hbehind := lt_of_scanElement h
      omega

def scanFrom (contents tag : List Char) (offset : Nat) : Except Panic (List (List Char)) :=
  match _hstep : scanStep contents tag offset with
  | .error panic => .error panic
  | .ok .done => .ok []
  | .ok (.next behind element) => do return element.toList ++ (← scanFrom contents tag behind)
termination_by utf8Len contents - offset
decreasing_by
  have hlt := lt_of_scanStep _hstep
  omega

def liveTvXmlElements (contents : List Char) (tag : String) : Except Panic (List (List Char)) :=
  scanFrom contents tag.toList 0

def liveTvXmlFirstText (contents : List Char) (tag : String) : Except Panic (Option String) := do
  let elements ← liveTvXmlElements contents tag
  return (elements.map fun element => liveTvXmlDecode (liveTvStripXmlTags element)).find? (· ≠ "")

/-! Programmes. -/

def liveTvXmltvDatetime (value : String) : Except Panic String := do
  let compact := (splitWhitespace value.toList).headD value.toList
  if 14 ≤ utf8Len compact then
    if (← sliceTo compact 14).all Char.isDigit then
      let year ← sliceRange compact 0 4
      let month ← sliceRange compact 4 6
      let day ← sliceRange compact 6 8
      let hour ← sliceRange compact 8 10
      let minute ← sliceRange compact 10 12
      let second ← sliceRange compact 12 14
      return ofList year ++ "-" ++ ofList month ++ "-" ++ ofList day ++ "T" ++ ofList hour ++
        ":" ++ ofList minute ++ ":" ++ ofList second ++ "Z"
    else return value
  else return value

def xmltvDate (element : List Char) (name : String) : Except Panic Json := do
  match ← liveTvXmlAttribute element name with
  | some value => return .string (← liveTvXmltvDatetime value)
  | none => return .null

def parseLiveTvXmltvProgram (entry : List Char × Nat) : Except Panic Json := do
  let (element, index) := entry
  let channelId := (← liveTvXmlAttribute element "channel").getD ""
  let start ← xmltvDate element "start"
  let finish ← xmltvDate element "stop"
  let name := (← liveTvXmlFirstText element "title").getD ("Program " ++ toString (index + 1))
  let overview := (← liveTvXmlFirstText element "desc").getD ""
  return Json.ofFields
    [("Id", .string (liveTvStableId "program" (channelId ++ "-" ++ toString index ++ "-" ++ name))),
      ("Name", .string name), ("ChannelId", .string channelId), ("StartDate", start),
      ("EndDate", finish), ("Overview", .string overview)]

def parseLiveTvXmltvPrograms (contents : String) : Except Panic (List Json) := do
  (← liveTvXmlElements contents.toList "programme").zipIdx.mapM parseLiveTvXmltvProgram

end Jellyrin.LiveTv.Xmltv
