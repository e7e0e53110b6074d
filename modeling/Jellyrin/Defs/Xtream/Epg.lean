import Jellyrin.Defs.LiveTv.GuideQuery
import Jellyrin.Defs.Xtream.Catalogue

/-! The programmes in the guide that a provider sends for a channel. -/

namespace Jellyrin.Xtream

open Json LiveTv.Guide Slices Text

structure EpgCrates (DateTime : Type) where
  /-- `OffsetDateTime::parse(_, &Rfc3339).is_ok()` -/
  parsesRfc3339 : String → Bool
  /-- `OffsetDateTime::from_unix_timestamp` -/
  fromUnixTimestamp : Int → Option DateTime
  /-- `OffsetDateTime::format(&Rfc3339)` -/
  formatRfc3339 : DateTime → Option String
  /-- `general_purpose::STANDARD.decode` -/
  decodeStandard : String → Option (List UInt8)

def asI64 (n : Nat) : Int := if n < 2 ^ 63 then n else (n : Int) - 2 ^ 64

def epgListings (epg : Json) : List Json :=
  match epg.asArray with
  | some values => values
  | none =>
    (["epg_listings", "listings", "programs", "data"].findSome? fun key =>
      (epg.get key).bind asArray).getD []

def dateTimeWords (trimmed : String) : List Char :=
  let compact := trimmed.toList.map fun c => if c = 'T' then ' ' else c
  [' '].intercalate ((splitWhitespace compact).take 2)

def hasDateShape (dateTime : List Char) : Bool :=
  let bytes := asBytes (String.ofList dateTime)
  19 ≤ bytes.length && bytes[4]? = some 0x2D && bytes[7]? = some 0x2D && bytes[13]? = some 0x3A &&
    bytes[16]? = some 0x3A

section Crates

variable {DateTime : Type} (crates : EpgCrates DateTime)

def epgText (value : String) : String :=
  let trimmed := trim value
  if trimmed = "" then ""
  else
    match (crates.decodeStandard trimmed).bind fun bytes =>
        String.fromUTF8? ⟨bytes.toArray⟩ with
    | some decoded => if trim decoded ≠ "" then trim decoded else trimmed
    | none => trimmed

def formatDatetime (value : String) : Except Panic (Option String) :=
  let trimmed := trim value
  if trimmed = "" then return none
  else if crates.parsesRfc3339 trimmed then return some trimmed
  else
    let dateTime := dateTimeWords trimmed
    if hasDateShape dateTime then do
      let date ← sliceRange dateTime 0 10
      let time ← sliceRange dateTime 11 19
      return some (String.ofList date ++ "T" ++ String.ofList time ++ "Z")
    else return none

def epgDatetime (listing : Json) : List String → Except Panic (Option String)
  | [] => return none
  | key :: keys => do
    match listing.stringField key with
    | some value =>
      match ← formatDatetime crates value with
      | some formatted => return some formatted
      | none => epgDatetime listing keys
    | none => epgDatetime listing keys

def formatTimeForJson (value : DateTime) : String :=
  (crates.formatRfc3339 value).getD "1970-01-01T00:00:00Z"

def timestampField (listing : Json) (key : String) : Option Nat :=
  (liveTvU64Field listing key).or ((listing.stringField key).bind (parseUnsigned (2 ^ 64 - 1)))

def epgTimestamp (listing : Json) (keys : List String) : Option String :=
  keys.findSome? fun key =>
    (timestampField listing key).bind fun timestamp =>
      (crates.fromUnixTimestamp (asI64 timestamp)).map (formatTimeForJson crates)

/-- A date under one of the keys, or else the time after 1970 under the key of a number. -/
def epgDate (listing : Json) (keys : List String) (stampKey : String) :
    Except Panic (Option String) := do
  match ← epgDatetime crates listing keys with
  | some date => return some date
  | none => return epgTimestamp crates listing [stampKey]

def epgStart (listing : Json) : Except Panic (Option String) :=
  epgDate crates listing ["start", "start_time"] "start_timestamp"

def epgEnd (listing : Json) : Except Panic (Option String) :=
  epgDate crates listing ["end", "stop", "end_time"] "stop_timestamp"

def epgProgram (channelId : String) (index : Nat) (listing : Json) (start finish : String) :
    Json :=
  let name := match (listing.stringField "title").map (epgText crates) with
    | some name => if name ≠ "" then name else "Program " ++ toString (index + 1)
    | none => "Program " ++ toString (index + 1)
  let remoteId := (listing.stringField "id").getD (toString index)
  Json.ofFields
    [("Id", .string (liveTvStableId "xtream-program"
      (channelId ++ "-" ++ remoteId ++ "-" ++ start))),
      ("Name", .string name), ("ChannelId", .string channelId), ("StartDate", .string start),
      ("EndDate", .string finish),
      ("Overview", .string (((listing.stringField "description").map (epgText crates)).getD "")),
      ("IsLive", .bool true)]

def parseEpgProgram (channelId : String) (entry : Json × Nat) : Except Panic (Option Json) := do
  let start ← epgStart crates entry.1
  let finish ← epgEnd crates entry.1
  return start.bind fun start => finish.map (epgProgram crates channelId entry.2 entry.1 start)

def parseEpgPrograms (channelId : String) (epg : Json) : Except Panic (List Json) := do
  return (← (epgListings epg).zipIdx.mapM (parseEpgProgram crates channelId)).reduceOption

end Crates

end Jellyrin.Xtream
