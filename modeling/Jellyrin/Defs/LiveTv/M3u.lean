import Jellyrin.Defs.Data.JsonObject
import Jellyrin.Defs.Data.Paragraphs
import Jellyrin.Defs.Data.Separated
import Jellyrin.Defs.LiveTv.GuideQuery

/-! Channels of an M3U playlist. -/

namespace Jellyrin.LiveTv.M3u

open Ascii Guide Text
open Json (trim Trimmed isWhitespace)

def liveTvM3uAttribute (line : List Char) (name : String) : Option String := do
  let attr := (toAsciiLowercase name ++ "=").toList
  let (before, _) ← cutAt attr (line.map Char.toLower)
  match line.drop (before.length + attr.length) with
  | [] => none
  | quote :: rest =>
    if quote ≠ '"' ∧ quote ≠ '\x27' then none
    else (cutAt [quote] rest).map fun (value, _) => trim (String.ofList value)

def extinfName (line : List Char) : String :=
  let name := if ',' ∈ line then trim (String.ofList (line.rtakeWhile (· ≠ ','))) else ""
  if name = "" then "Channel" else name

structure M3uChannel where
  id : String
  name : String
  number : Option String

def m3uChannel (line : List Char) : M3uChannel where
  id := ((liveTvM3uAttribute line "tvg-id").or (liveTvM3uAttribute line "channel-id")).getD
    (liveTvStableId "channel" (extinfName line))
  name := ((liveTvM3uAttribute line "tvg-name").filter fun value => trim value ≠ "").getD
    (extinfName line)
  number := (liveTvM3uAttribute line "tvg-chno").or (liveTvM3uAttribute line "channel-number")

def M3uChannel.toJson (channel : M3uChannel) (path : String) : Json :=
  .object [("ChannelType", .string "TV"), ("Id", .string channel.id),
    ("Name", .string channel.name), ("Number", channel.number.elim .null .string),
    ("Path", .string path)]

structure M3uState where
  channels : List Json
  pending : Option M3uChannel

def M3uState.step (state : M3uState) (line : String) : M3uState :=
  if startsWith line "#EXTINF" then { state with pending := some (m3uChannel line.toList) }
  else if startsWith line "#" then state
  else
    match state.pending with
    | none => state
    | some channel => ⟨state.channels ++ [channel.toJson line], none⟩

def parseLiveTvM3uChannels (contents : String) : List Json :=
  ((((lines contents).map trim).filter (· ≠ "")).foldl M3uState.step ⟨[], none⟩).channels

/-! Writing. -/

structure M3uEntry where
  tvgId : Option String
  tvgName : Option String
  tvgChno : Option String
  name : String
  url : String
  noQuote : ∀ value ∈ tvgId.toList ++ tvgName.toList ++ tvgChno.toList, '"' ∉ value.toList
  oneLine : ∀ text ∈ tvgId.toList ++ tvgName.toList ++ tvgChno.toList ++ [name, url], OneLine text

def header : List Char := "#EXTINF:-1".toList

def renderAttributes (attributes : List (String × Option String)) : List Char :=
  attributes.flatMap fun (key, value) => value.elim [] fun value =>
    ' ' :: ((key ++ "=").toList ++ '"' :: (value.toList ++ ['"']))

namespace M3uEntry

variable (entry : M3uEntry)

def attributes : List (String × Option String) :=
  [("tvg-id", entry.tvgId), ("tvg-name", entry.tvgName), ("tvg-chno", entry.tvgChno)]

def extinf : String :=
  String.ofList (header ++ renderAttributes entry.attributes ++ ',' :: entry.name.toList)

end M3uEntry

def m3uDocument (entries : List M3uEntry) : String :=
  terminated (entries.flatMap fun entry => [entry.extinf, entry.url])

/-! Attributes. -/

def pattern (key : String) : List Char := (key ++ "=").toList

def Mentions (key text : String) : Prop := pattern key <:+: text.toList.map Char.toLower

structure IsKey (key : String) : Prop where
  lower : toAsciiLowercase key = key
  noSpace : ' ' ∉ pattern key
  noQuote : '"' ∉ pattern key
  noComma : ',' ∉ pattern key
  notHeader : ¬pattern key <:+: header.map Char.toLower

variable {key : String}

theorem liveTvM3uAttribute_found {value : String} {before after : List Char} (hkey : IsKey key)
    (hfirst : ¬pattern key <:+: before.map Char.toLower ++ key.toList)
    (hvalue : '"' ∉ value.toList) :
    liveTvM3uAttribute (before ++ pattern key ++ '"' :: (value.toList ++ '"' :: after)) key =
      some (trim value) := by
  have hlower : (pattern key).map Char.toLower = pattern key := by
    have hkeys := congrArg String.toList hkey.lower
    rw [toAsciiLowercase, String.toList_ofList] at hkeys
    rw [pattern, String.toList_append, List.map_append, hkeys]
    rfl
  have hne : pattern key ≠ [] := by simp [pattern]
  have hdropLast : (pattern key).dropLast = key.toList := by
    rw [pattern, String.toList_append]
    exact List.dropLast_concat
  have hcut := cutAt_append_of_first hne (hdropLast ▸ hfirst)
    (('"' :: (value.toList ++ '"' :: after)).map Char.toLower)
  have hline : (before ++ pattern key ++ '"' :: (value.toList ++ '"' :: after)).map Char.toLower =
      before.map Char.toLower ++ pattern key ++
        ('"' :: (value.toList ++ '"' :: after)).map Char.toLower := by
    rw [List.map_append, List.map_append, hlower]
  have hdrop : (before ++ pattern key ++ '"' :: (value.toList ++ '"' :: after)).drop
      ((before.map Char.toLower).length + (pattern key).length) =
        '"' :: (value.toList ++ '"' :: after) := by
    rw [List.length_map, ← List.length_append, List.drop_left]
  have hclose : cutAt ['"'] (value.toList ++ ['"'] ++ after) = some (value.toList, after) :=
    cutAt_append hvalue after
  rw [List.append_assoc, List.singleton_append] at hclose
  rw [liveTvM3uAttribute, hkey.lower, ← pattern, hline, hcut]
  simp only [Option.bind_eq_bind, Option.bind_some, hdrop]
  rw [if_neg (by simp), hclose, Option.map_some, String.ofList_toList]

theorem liveTvM3uAttribute_absent {line : List Char} (hkey : IsKey key)
    (h : ¬pattern key <:+: line.map Char.toLower) : liveTvM3uAttribute line key = none := by
  rw [liveTvM3uAttribute, hkey.lower, ← pattern, cutAt_eq_none h]
  rfl

variable {attributes : List (String × Option String)}

theorem infix_renderAttributes (hkey : IsKey key) {front : List Char}
    (h : pattern key <:+: front ++ (renderAttributes attributes).map Char.toLower) :
    pattern key <:+: front ∨ ∃ field ∈ attributes, ∃ value ∈ field.2,
      pattern key <:+: (pattern field.1).map Char.toLower ∨ Mentions key value := by
  induction attributes generalizing front with
  | nil => exact .inl (by simpa [renderAttributes] using h)
  | cons field attributes ih =>
    obtain ⟨name, value⟩ := field
    have hlater : ∀ {front : List Char},
        pattern key <:+: front ++ (renderAttributes attributes).map Char.toLower →
        pattern key <:+: front ∨ ∃ field ∈ (name, value) :: attributes, ∃ value ∈ field.2,
          pattern key <:+: (pattern field.1).map Char.toLower ∨ Mentions key value := by
      intro front hfront
      refine (ih hfront).imp_right ?_
      rintro ⟨field, hmem, hvalue⟩
      exact ⟨field, List.mem_cons_of_mem _ hmem, hvalue⟩
    cases value with
    | none => exact hlater (by simpa [renderAttributes] using h)
    | some value =>
      have hrender : front ++ (renderAttributes ((name, some value) :: attributes)).map
          Char.toLower = front ++ ' ' :: ((pattern name).map Char.toLower ++ '"' ::
            (value.toList.map Char.toLower ++ '"' ::
              (renderAttributes attributes).map Char.toLower)) := by
        simp [renderAttributes, pattern]
      have hfound : pattern key <:+: (pattern name).map Char.toLower ∨ Mentions key value →
          ∃ field ∈ (name, some value) :: attributes, ∃ value ∈ field.2,
            pattern key <:+: (pattern field.1).map Char.toLower ∨ Mentions key value :=
        fun hfound => ⟨_, List.mem_cons_self, value, rfl, hfound⟩
      rw [hrender, infix_append_cons_iff hkey.noSpace, infix_append_cons_iff hkey.noQuote,
        infix_append_cons_iff hkey.noQuote] at h
      obtain h | h | h | h := h
      · exact .inl h
      · exact .inr (hfound (.inl h))
      · exact .inr (hfound (.inr h))
      · obtain hnil | hexists := @hlater [] h
        · exact absurd (List.infix_nil.mp hnil) (by simp [pattern])
        · exact .inr hexists

/-- A key that other attributes do not have, and their values do not mention. -/
def Apart (key : String) (attributes : List (String × Option String)) : Prop :=
  ∀ field ∈ attributes, ∀ value ∈ field.2,
    ¬pattern key <:+: (pattern field.1).map Char.toLower ∧ ¬Mentions key value

theorem not_infix_renderAttributes (hkey : IsKey key) (h : Apart key attributes) :
    ¬pattern key <:+: (header ++ renderAttributes attributes).map Char.toLower := by
  rw [List.map_append]
  intro hwithin
  obtain hheader | ⟨field, hfield, value, hvalue, hfound⟩ := infix_renderAttributes hkey hwithin
  · exact hkey.notHeader hheader
  · obtain ⟨hkeys, hmentions⟩ := h field hfield value hvalue
    exact hfound.elim hkeys hmentions

theorem liveTvM3uAttribute_given {key value : String} {front : List (String × Option String)}
    (hkey : IsKey key) (hfront : Apart key front) (hvalue : '"' ∉ value.toList)
    (back : List (String × Option String)) (name : List Char) :
    liveTvM3uAttribute (header ++ renderAttributes (front ++ (key, some value) :: back) ++
      ',' :: name) key = some (trim value) := by
  have hline : header ++ renderAttributes (front ++ (key, some value) :: back) ++ ',' :: name =
      (header ++ renderAttributes front ++ [' ']) ++ pattern key ++ '"' ::
        (value.toList ++ '"' :: (renderAttributes back ++ ',' :: name)) := by
    simp [renderAttributes, pattern]
  have hfirst : ¬pattern key <:+:
      (header ++ renderAttributes front ++ [' ']).map Char.toLower ++ key.toList := by
    have hspace : (header ++ renderAttributes front ++ [' ']).map Char.toLower ++ key.toList =
        (header ++ renderAttributes front).map Char.toLower ++ ' ' :: key.toList := by
      simp
    rw [hspace, infix_append_cons_iff hkey.noSpace]
    rintro (hwithin | hshort)
    · exact not_infix_renderAttributes hkey hfront hwithin
    · have hlength := hshort.length_le
      simp [pattern] at hlength
  rw [hline]
  exact liveTvM3uAttribute_found hkey hfirst hvalue

theorem liveTvM3uAttribute_missing {name : List Char} (hkey : IsKey key)
    (h : Apart key attributes) (hname : ¬pattern key <:+: name.map Char.toLower) :
    liveTvM3uAttribute (header ++ renderAttributes attributes ++ ',' :: name) key = none := by
  refine liveTvM3uAttribute_absent hkey ?_
  rw [List.map_append, List.map_cons, show Char.toLower ',' = ',' from rfl,
    infix_append_cons_iff hkey.noComma]
  exact fun hwithin => hwithin.elim (not_infix_renderAttributes hkey h) hname

/-! Entries. -/

def displayName (name : String) : String :=
  let name := trim (String.ofList (name.toList.rtakeWhile (· ≠ ',')))
  if name = "" then "Channel" else name

theorem rtakeWhile_append_cons {α : Type} {p : α → Bool} {a : α} (h : p a = false)
    (as bs : List α) : (as ++ a :: bs).rtakeWhile p = bs.rtakeWhile p := by
  rw [List.rtakeWhile, List.rtakeWhile, List.reverse_append, List.reverse_cons, List.append_assoc,
    List.singleton_append, List.takeWhile_append]
  split
  · rename_i hall
    have htake := (List.takeWhile_prefix p (l := bs.reverse)).eq_of_length hall
    rw [htake, List.takeWhile_cons_of_neg (by simp [h]), List.append_nil]
  · rfl

theorem rtakeWhile_eq_self {α : Type} {p : α → Bool} {as : List α} (h : ∀ a ∈ as, p a = true) :
    as.rtakeWhile p = as := List.rtakeWhile_eq_self_iff.mpr h

theorem extinfName_append (front : List Char) (name : String) :
    extinfName (front ++ ',' :: name.toList.rdropWhile isWhitespace) = displayName name := by
  have hlast : trim (String.ofList
      ((name.toList.rdropWhile isWhitespace).rtakeWhile (· ≠ ','))) =
        trim (String.ofList (name.toList.rtakeWhile (· ≠ ','))) := by
    have hplain : ∀ {cs : List Char}, ',' ∉ cs → cs.rtakeWhile (· ≠ ',') = cs := fun hcs =>
      rtakeWhile_eq_self fun c hc => decide_eq_true fun heq => hcs (heq ▸ hc)
    by_cases hcomma : ',' ∈ name.toList
    · obtain ⟨before, after, hname, hafter⟩ : ∃ before after,
          name.toList = before ++ ',' :: after ∧ ',' ∉ after := by
        obtain ⟨after, before, hreverse, hafter⟩ :=
          List.eq_append_cons_of_mem (List.mem_reverse.mpr hcomma)
        refine ⟨before.reverse, after.reverse, ?_, by simpa using hafter⟩
        rw [← List.reverse_reverse name.toList, hreverse]
        simp
      have hkept : ',' ∉ after.rdropWhile isWhitespace := fun hmem =>
        hafter ((List.rdropWhile_prefix _ _).mem hmem)
      rw [hname, Separated.rdropWhile_append_cons (by decide), rtakeWhile_append_cons (by decide),
        rtakeWhile_append_cons (by decide), hplain hkept, hplain hafter, Json.trim_rdropWhile]
    · have hkept : ',' ∉ name.toList.rdropWhile isWhitespace := fun hmem =>
        hcomma ((List.rdropWhile_prefix _ _).mem hmem)
      rw [hplain hkept, hplain hcomma, Json.trim_rdropWhile]
  have hcomma : ',' ∈ front ++ ',' :: name.toList.rdropWhile isWhitespace := by simp
  rw [extinfName, displayName, if_pos hcomma, rtakeWhile_append_cons (by decide), hlast]

theorem isKey_of_mem (h : key ∈ ["tvg-id", "tvg-name", "tvg-chno", "channel-number"]) :
    IsKey key where
  lower := by
    revert key
    decide
  noSpace := by
    revert key
    decide
  noQuote := by
    revert key
    decide
  noComma := by
    revert key
    decide
  notHeader := by
    revert key
    decide +kernel

theorem keys_apart : ∀ key ∈ ["tvg-id", "tvg-name", "tvg-chno", "channel-number"],
    ∀ other ∈ ["tvg-id", "tvg-name", "tvg-chno"], key ≠ other →
      ¬pattern key <:+: (pattern other).map Char.toLower := by
  decide +kernel

namespace M3uEntry

variable (entry : M3uEntry)

/-- No attribute that is looked for is mentioned before it is found, or anywhere if it is
absent. -/
structure Unambiguous : Prop where
  name_given : entry.tvgName.isSome → ∀ value ∈ entry.tvgId, ¬Mentions "tvg-name" value
  name_absent : entry.tvgName = none →
    ∀ text ∈ entry.tvgId.toList ++ entry.tvgChno.toList ++ [entry.name], ¬Mentions "tvg-name" text
  number_given : entry.tvgChno.isSome →
    ∀ value ∈ entry.tvgId.toList ++ entry.tvgName.toList, ¬Mentions "tvg-chno" value
  number_absent : entry.tvgChno = none → ∀ key ∈ ["tvg-chno", "channel-number"],
    ∀ text ∈ entry.tvgId.toList ++ entry.tvgName.toList ++ [entry.name], ¬Mentions key text

structure Shows (channel : Json) : Prop where
  path : channel.get "Path" = some (.string (trim entry.url))
  name : channel.get "Name" = some (.string
    (((entry.tvgName.map trim).filter (· ≠ "")).getD (displayName entry.name)))
  id : ∀ id ∈ entry.tvgId, channel.get "Id" = some (.string (trim id))
  number : channel.get "Number" = some ((entry.tvgChno.map trim).elim .null .string)

def line : List Char :=
  header ++ renderAttributes entry.attributes ++ ',' :: entry.name.toList.rdropWhile isWhitespace

theorem toList_trim_extinf : (trim entry.extinf).toList = entry.line := by
  have hfirst : entry.extinf.toList.dropWhile isWhitespace = entry.extinf.toList := by
    have hheader : header = '#' :: "EXTINF:-1".toList := by decide
    rw [extinf, String.toList_ofList, hheader, List.cons_append, List.cons_append,
      List.dropWhile_cons_of_neg (by decide)]
  rw [Json.toList_trim, hfirst, extinf, String.toList_ofList,
    Separated.rdropWhile_append_cons (by decide), line]

variable {entry}

theorem not_mentions_name (h : ¬Mentions key entry.name) :
    ¬pattern key <:+: (entry.name.toList.rdropWhile isWhitespace).map Char.toLower :=
  fun hwithin => h (hwithin.trans ((List.rdropWhile_prefix _ _).map _).isInfix)

theorem attribute_tvgId {id : String} (h : entry.tvgId = some id) :
    liveTvM3uAttribute entry.line "tvg-id" = some (trim id) := by
  have hquote := entry.noQuote id (by simp [h])
  rw [line, attributes, h]
  exact @liveTvM3uAttribute_given _ _ [] (isKey_of_mem (by simp)) (by simp [Apart]) hquote _ _

theorem apart_of_values (attributes : List (String × Option String))
    (hkey : key ∈ ["tvg-id", "tvg-name", "tvg-chno", "channel-number"])
    (hnames : ∀ field ∈ attributes, field.1 ∈ ["tvg-id", "tvg-name", "tvg-chno"])
    (hvalues : ∀ field ∈ attributes, ∀ value ∈ field.2, key ≠ field.1 ∧ ¬Mentions key value) :
    Apart key attributes := by
  intro field hfield value hvalue
  obtain ⟨hne, hmentions⟩ := hvalues field hfield value hvalue
  exact ⟨keys_apart key hkey field.1 (hnames field hfield) hne, hmentions⟩

theorem attribute_tvgName (h : entry.Unambiguous) :
    liveTvM3uAttribute entry.line "tvg-name" = entry.tvgName.map trim := by
  rw [line]
  cases hname : entry.tvgName with
  | some name =>
    have hquote := entry.noQuote name (by simp [hname])
    have hfront : Apart "tvg-name" [("tvg-id", entry.tvgId)] := by
      refine apart_of_values _ (by simp) (by simp) (List.forall_mem_singleton.mpr ?_)
      exact fun value hvalue =>
        ⟨(by decide : "tvg-name" ≠ "tvg-id"), h.name_given (by rw [hname]; rfl) value hvalue⟩
    rw [attributes, hname]
    exact liveTvM3uAttribute_given (isKey_of_mem (by simp)) hfront hquote _ _
  | none =>
    have habsent := h.name_absent hname
    refine liveTvM3uAttribute_missing (isKey_of_mem (by simp)) ?_
      (not_mentions_name (habsent entry.name (by simp)))
    refine apart_of_values _ (by simp) (by simp [attributes]) ?_
    simp only [attributes, List.forall_mem_cons, List.not_mem_nil, false_implies, implies_true,
      and_true, hname]
    refine ⟨fun value hvalue => ⟨by decide, habsent value ?_⟩, fun value hvalue => ?_,
      fun value hvalue => ⟨by decide, habsent value ?_⟩⟩
    · simp [Option.mem_def.mp hvalue]
    · cases hvalue
    · simp [Option.mem_def.mp hvalue]

theorem attribute_tvgChno (h : entry.Unambiguous) :
    (liveTvM3uAttribute entry.line "tvg-chno").or (liveTvM3uAttribute entry.line "channel-number") =
      entry.tvgChno.map trim := by
  rw [line]
  cases hnumber : entry.tvgChno with
  | some number =>
    have hquote := entry.noQuote number (by simp [hnumber])
    have hgiven := h.number_given (by rw [hnumber]; rfl)
    have hfront : Apart "tvg-chno" [("tvg-id", entry.tvgId), ("tvg-name", entry.tvgName)] := by
      refine apart_of_values _ (by simp) (by simp) ?_
      simp only [List.forall_mem_cons, List.not_mem_nil, false_implies, implies_true, and_true]
      refine ⟨fun value hvalue => ⟨by decide, hgiven value ?_⟩,
        fun value hvalue => ⟨by decide, hgiven value ?_⟩⟩
      · simp [Option.mem_def.mp hvalue]
      · simp [Option.mem_def.mp hvalue]
    have hread := liveTvM3uAttribute_given (isKey_of_mem (by simp)) hfront hquote []
      (entry.name.toList.rdropWhile isWhitespace)
    rw [attributes, hnumber]
    exact congrArg (Option.or · _) hread
  | none =>
    have hmissing : ∀ key ∈ ["tvg-chno", "channel-number"],
        liveTvM3uAttribute (header ++ renderAttributes entry.attributes ++
          ',' :: entry.name.toList.rdropWhile isWhitespace) key = none := by
      intro key hmem
      have habsent := h.number_absent hnumber key hmem
      have hkey : key ∈ ["tvg-id", "tvg-name", "tvg-chno", "channel-number"] :=
        List.mem_cons_of_mem _ (List.mem_cons_of_mem _ hmem)
      have hother : key ≠ "tvg-id" ∧ key ≠ "tvg-name" := by
        obtain rfl | hmem := List.mem_cons.mp hmem
        · decide
        · cases List.mem_singleton.mp hmem
          decide
      refine liveTvM3uAttribute_missing (isKey_of_mem hkey) ?_
        (not_mentions_name (habsent entry.name (by simp)))
      refine apart_of_values _ hkey (by simp [attributes]) ?_
      simp only [attributes, List.forall_mem_cons, List.not_mem_nil, false_implies, implies_true,
        and_true, hnumber]
      refine ⟨fun value hvalue => ⟨hother.1, habsent value ?_⟩,
        fun value hvalue => ⟨hother.2, habsent value ?_⟩, fun value hvalue => ?_⟩
      · simp [Option.mem_def.mp hvalue]
      · simp [Option.mem_def.mp hvalue]
      · cases hvalue
    rw [hmissing "tvg-chno" (by simp), hmissing "channel-number" (by simp)]
    rfl

theorem shows_m3uChannel (h : entry.Unambiguous) :
    entry.Shows ((m3uChannel entry.line).toJson (trim entry.url)) where
  path := rfl
  name := by
    have hblank : ∀ value : Option String, ((value.map trim).filter fun value => trim value ≠ "") =
        (value.map trim).filter (· ≠ "") := by
      intro value
      cases value with
      | none => rfl
      | some value => simp only [Option.map_some, Option.filter_some, Json.trim_trim]
    rw [← extinfName_append (header ++ renderAttributes entry.attributes), ← line, ← hblank,
      ← attribute_tvgName h]
    rfl
  id id hid := by
    have hread := attribute_tvgId (Option.mem_def.mp hid)
    refine congrArg some (congrArg Json.string ?_)
    change ((liveTvM3uAttribute entry.line "tvg-id").or _).getD _ = trim id
    rw [hread]
    rfl
  number := by
    rw [← attribute_tvgChno h]
    rfl

end M3uEntry

theorem foldl_step (entries : List M3uEntry)
    (hurl : ∀ entry ∈ entries, trim entry.url ≠ "" ∧ ¬startsWith (trim entry.url) "#")
    (channels : List Json) :
    (((entries.flatMap fun entry => [entry.extinf, entry.url]).map trim).filter (· ≠ "")).foldl
        M3uState.step ⟨channels, none⟩ =
      ⟨channels ++ entries.map fun entry => (m3uChannel entry.line).toJson (trim entry.url),
        none⟩ := by
  induction entries generalizing channels with
  | nil => simp
  | cons entry entries ih =>
    obtain ⟨⟨hne, haddress⟩, hrest⟩ := List.forall_mem_cons.mp hurl
    have hline : (trim entry.extinf).toList = header ++ (renderAttributes entry.attributes ++
        ',' :: entry.name.toList.rdropWhile isWhitespace) := by
      rw [entry.toList_trim_extinf, M3uEntry.line, List.append_assoc]
    have hextinf : startsWith (trim entry.extinf) "#EXTINF" = true := by
      rw [startsWith, hline, List.isPrefixOf_iff_prefix]
      exact ⟨":-1".toList ++ (renderAttributes entry.attributes ++
        ',' :: entry.name.toList.rdropWhile isWhitespace), rfl⟩
    have hkept : trim entry.extinf ≠ "" := by
      intro hempty
      rw [hempty] at hline
      cases hline
    have hother : startsWith (trim entry.url) "#EXTINF" ≠ true := by
      intro hstart
      refine haddress ?_
      rw [startsWith, List.isPrefixOf_iff_prefix] at hstart ⊢
      exact List.IsPrefix.trans ⟨"EXTINF".toList, rfl⟩ hstart
    have hpending : M3uState.step ⟨channels, none⟩ (trim entry.extinf) =
        ⟨channels, some (m3uChannel entry.line)⟩ := by
      rw [M3uState.step, if_pos hextinf, entry.toList_trim_extinf]
    have hadded : M3uState.step ⟨channels, some (m3uChannel entry.line)⟩ (trim entry.url) =
        ⟨channels ++ [(m3uChannel entry.line).toJson (trim entry.url)], none⟩ := by
      rw [M3uState.step, if_neg hother, if_neg haddress]
    rw [List.flatMap_cons, List.map_append, List.filter_append, List.map_cons, List.map_singleton,
      List.filter_cons_of_pos (by simpa using hkept), List.filter_cons_of_pos (by simpa using hne),
      List.filter_nil, List.foldl_append, List.foldl_cons, List.foldl_cons, List.foldl_nil, hpending,
      hadded, ih hrest, List.map_cons, List.append_assoc, List.singleton_append]

theorem oneLine_extinf (entry : M3uEntry) : OneLine entry.extinf := by
  have hrender : ∀ {c : Char}, c ∉ header → c ∉ " tvg-id=\"tvg-name=tvg-chno=,".toList →
      (∀ text ∈ entry.tvgId.toList ++ entry.tvgName.toList ++ entry.tvgChno.toList ++
        [entry.name, entry.url], c ∉ text.toList) → c ∉ entry.extinf.toList := by
    intro c hheader hliteral htext hmem
    rw [M3uEntry.extinf, String.toList_ofList, List.mem_append, List.mem_append] at hmem
    obtain (hmem | hmem) | hmem := hmem
    · exact hheader hmem
    · obtain ⟨⟨key, value⟩, hfield, hmem⟩ := List.mem_flatMap.mp hmem
      cases value with
      | none => cases hmem
      | some value =>
        simp only [Option.elim_some, List.mem_cons, List.mem_append, List.not_mem_nil,
          or_false] at hmem
        have hvalue : c ∉ value.toList := by
          refine htext value ?_
          simp only [M3uEntry.attributes, List.mem_cons, Prod.mk.injEq, List.not_mem_nil,
            or_false] at hfield
          obtain ⟨-, h⟩ | ⟨-, h⟩ | ⟨-, h⟩ := hfield
          · simp [← h]
          · simp [← h]
          · simp [← h]
        have hkey : c ∉ (key ++ "=").toList := by
          simp only [M3uEntry.attributes, List.mem_cons, Prod.mk.injEq, List.not_mem_nil,
            or_false] at hfield
          obtain ⟨rfl, -⟩ | ⟨rfl, -⟩ | ⟨rfl, -⟩ := hfield
          · exact fun h => hliteral ((by decide : "tvg-id=".toList ⊆ _) h)
          · exact fun h => hliteral ((by decide : "tvg-name=".toList ⊆ _) h)
          · exact fun h => hliteral ((by decide : "tvg-chno=".toList ⊆ _) h)
        obtain rfl | hmem | rfl | hmem | rfl := hmem
        · exact hliteral (by decide)
        · exact hkey hmem
        · exact hliteral (by decide)
        · exact hvalue hmem
        · exact hliteral (by decide)
    · obtain rfl | hmem := List.mem_cons.mp hmem
      · exact hliteral (by decide)
      · exact htext entry.name (by simp) hmem
  exact ⟨hrender (by decide) (by decide) fun text htext => (entry.oneLine text htext).1,
    hrender (by decide) (by decide) fun text htext => (entry.oneLine text htext).2⟩

/-- A playlist gives its entries back, if no attribute is mentioned where another is looked
for. -/
theorem parseLiveTvM3uChannels_document {entries : List M3uEntry}
    (hurl : ∀ entry ∈ entries, trim entry.url ≠ "" ∧ ¬startsWith (trim entry.url) "#")
    (h : ∀ entry ∈ entries, entry.Unambiguous) :
    List.Forall₂ M3uEntry.Shows entries (parseLiveTvM3uChannels (m3uDocument entries)) := by
  have hlines : lines (m3uDocument entries) =
      entries.flatMap fun entry => [entry.extinf, entry.url] := by
    refine lines_terminated fun line hline => ?_
    obtain ⟨entry, -, hline⟩ := List.mem_flatMap.mp hline
    simp only [List.mem_cons, List.not_mem_nil, or_false] at hline
    obtain rfl | rfl := hline
    · exact oneLine_extinf entry
    · exact entry.oneLine entry.url (by simp)
  rw [parseLiveTvM3uChannels, hlines, foldl_step entries hurl, List.nil_append,
    List.forall₂_map_right_iff]
  exact List.forall₂_same.mpr fun entry hentry => M3uEntry.shows_m3uChannel (h entry hentry)

def newsEntry : M3uEntry where
  tvgId := some "news, hd"
  tvgName := some " News "
  tvgChno := none
  name := "News, HD"
  url := "http://tv/1"
  noQuote := by decide
  oneLine := by
    unfold OneLine
    decide

theorem newsEntry_shown :
    List.Forall₂ M3uEntry.Shows [newsEntry] (parseLiveTvM3uChannels (m3uDocument [newsEntry])) := by
  refine parseLiveTvM3uChannels_document (List.forall_mem_singleton.mpr (by decide))
    (List.forall_mem_singleton.mpr ⟨?_, ?_, ?_, ?_⟩)
  · intro _
    unfold Mentions
    decide +kernel
  · rintro ⟨⟩
  · rintro ⟨⟩
  · intro _
    unfold Mentions
    decide +kernel

def blankEntry : M3uEntry where
  tvgId := none
  tvgName := some " "
  tvgChno := none
  name := "News"
  url := "http://tv/1"
  noQuote := by decide
  oneLine := by
    unfold OneLine
    decide

theorem unambiguous_blankEntry : blankEntry.Unambiguous := by
  refine ⟨?_, ?_, ?_, ?_⟩
  · rintro - value ⟨⟩
  · rintro ⟨⟩
  · rintro ⟨⟩
  · intro _
    unfold Mentions
    decide

theorem blank_name_not_shown : ¬∃ channel,
    parseLiveTvM3uChannels (m3uDocument [blankEntry]) = [channel] ∧
      channel.get "Name" = some (.string (trim ((blankEntry.tvgName).getD blankEntry.name))) := by
  rintro ⟨channel, hparse, hname⟩
  have hlines : lines (m3uDocument [blankEntry]) =
      [blankEntry].flatMap fun entry => [entry.extinf, entry.url] := by decide
  rw [parseLiveTvM3uChannels, hlines,
    foldl_step [blankEntry] (List.forall_mem_singleton.mpr (by decide)) []] at hparse
  have hshown := (M3uEntry.shows_m3uChannel unambiguous_blankEntry).name
  have hchannel : (m3uChannel blankEntry.line).toJson (trim blankEntry.url) = channel :=
    (List.cons.inj hparse).1
  rw [hchannel, hname] at hshown
  have htext := Json.string.inj (Option.some.inj hshown)
  exact absurd htext (by decide)

end Jellyrin.LiveTv.M3u
