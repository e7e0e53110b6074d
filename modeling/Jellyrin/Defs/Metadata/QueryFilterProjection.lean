import Jellyrin.Defs.Data.Collation
import Jellyrin.Defs.Data.Text
import Jellyrin.Defs.Metadata.Values

/-! What one item contributes to the filters of a listing. -/

namespace Jellyrin.Metadata

open Ascii Json

variable (floatText : UInt64 → String)

def mediaItemQueryFilterProjectionVersion : Nat := 1

structure MediaItemQueryFilterProjectionSource where
  path : String
  mediaType : String
  mediaStreams : List Json
  metadata : Json

structure MediaItemQueryFilterProjectionFeatures where
  containerPresent : Bool
  container : Option String
  mediaType : String
  isVideo : Bool
  hasSubtitles : Bool
  hasTrailer : Bool
  deriving DecidableEq

inductive MediaItemQueryFilterValueKind where
  | albums
  | artists
  | audioLanguages
  | genres
  | officialRatings
  | seriesStatuses
  | staffNames
  | studios
  | subtitleLanguages
  | tags
  | years
  deriving DecidableEq

structure MediaItemQueryFilterProjectedValue where
  kind : MediaItemQueryFilterValueKind
  displayValue : String
  sourceKey : String
  sourcePriority : Nat
  position : List Nat
  deriving DecidableEq

structure MediaItemQueryFilterProjection where
  extractorVersion : Nat
  features : MediaItemQueryFilterProjectionFeatures
  values : List MediaItemQueryFilterProjectedValue
  deriving DecidableEq

def encodeMediaItemQueryFilterPosition (position : List Nat) : String :=
  ".".intercalate (position.map (Text.zeroPadded 20))

def metadataSources : List (MediaItemQueryFilterValueKind × String × Nat) :=
  [(.albums, "Album", 0),
    (.albums, "AlbumName", 1),
    (.artists, "Artists", 0),
    (.artists, "AlbumArtists", 1),
    (.genres, "Genres", 0),
    (.officialRatings, "OfficialRating", 0),
    (.officialRatings, "OfficialRatings", 1),
    (.seriesStatuses, "SeriesStatus", 0),
    (.staffNames, "People", 0),
    (.staffNames, "SeriesPeople", 1),
    (.studios, "Studios", 0),
    (.tags, "Tags", 0),
    (.years, "ProductionYear", 0),
    (.years, "Years", 1)]

/-- The text of a value that is not an array; only spaces are taken off a string. -/
def candidateText : Json → Option String
  | .number value => some (toString value)
  | .float bits => some (floatText bits)
  | value => (nameText floatText value).map btrim

mutual

def collectMetadataCandidates (kind : MediaItemQueryFilterValueKind) (sourceKey : String)
    (sourcePriority : Nat) : Json → List Nat → List MediaItemQueryFilterProjectedValue
  | .array items, position => collectCandidatesFrom kind sourceKey sourcePriority items 0 position
  | value, position =>
    (((candidateText floatText value).filter (· ≠ "")).map fun displayValue =>
      { kind, displayValue, sourceKey, sourcePriority, position }).toList

def collectCandidatesFrom (kind : MediaItemQueryFilterValueKind) (sourceKey : String)
    (sourcePriority : Nat) :
    List Json → Nat → List Nat → List MediaItemQueryFilterProjectedValue
  | [], _, _ => []
  | value :: rest, index, position =>
    collectMetadataCandidates kind sourceKey sourcePriority value (position ++ [index]) ++
      collectCandidatesFrom kind sourceKey sourcePriority rest (index + 1) position

end

def metadataCandidates (metadata : Json) : List MediaItemQueryFilterProjectedValue :=
  metadataSources.flatMap fun (kind, key, priority) =>
    match metadata.get key with
    | some value => collectMetadataCandidates floatText kind key priority value []
    | none => []

/-- `to_lowercase` of the type of a stream, compared to a word without a `k`: no letter beyond
ASCII has one of its letters as small letter. -/
def streamTypeIs (stream : Json) (word : String) : Bool :=
  ((stream.get "Type").bind asStr).any (eqIgnoreAsciiCase · word)

def streamLanguageKind (stream : Json) : Option MediaItemQueryFilterValueKind :=
  if streamTypeIs stream "audio" then some .audioLanguages
  else if streamTypeIs stream "subtitle" then some .subtitleLanguages
  else none

def languageDisplayValue (language : String) : String :=
  match toAsciiLowercase language with
  | "fre" => "fra"
  | "ger" => "deu"
  | _ => language

def streamLanguage (stream : Json) : Option String :=
  (((stream.get "Language").bind asStr).map btrim).filter fun language =>
    language ≠ "" && !eqIgnoreAsciiCase language "und"

def streamCandidate (entry : Json × Nat) : Option MediaItemQueryFilterProjectedValue :=
  (streamLanguageKind entry.1).bind fun kind =>
    (streamLanguage entry.1).map fun language =>
      { kind
        displayValue := languageDisplayValue language
        sourceKey := "MediaStreams.Language"
        sourcePriority := 0
        position := [entry.2] }

def mediaItemContainer (path : String) : Option String :=
  let filename := (Text.split '/' path).getLastD ""
  let cs := filename.toList
  let dot := (cs.rdropWhile (· != '.')).length - 1
  if filename = "" ∨ filename = "." ∨ filename = ".." then none
  else if '.' ∉ cs then none
  else if dot = 0 ∧ '.' ∉ cs.drop 1 then none
  else some (String.ofList (cs.drop (dot + 1)))

def trailerText (value : Json) : Bool := value.asStr.any fun text => btrim text ≠ ""

mutual

def trailerValueIsPresent : Json → Bool
  | .array values => anyTrailerIsPresent values
  | .object fields =>
    (["Url", "url", "Path", "path"].findSome? (Json.object fields).get).any trailerText
  | value => trailerText value

def anyTrailerIsPresent : List Json → Bool
  | [] => false
  | value :: rest => trailerValueIsPresent value || anyTrailerIsPresent rest

end

def metadataHasTrailer (metadata : Json) : Bool :=
  metadata.asObject.any fun fields => fields.any fun (key, value) =>
    (toAsciiLowercase key ∈ ["remotetrailers", "trailers"]) && trailerValueIsPresent value

def extractMediaItemQueryFilterProjection (source : MediaItemQueryFilterProjectionSource) :
    MediaItemQueryFilterProjection :=
  let container := mediaItemContainer source.path
  { extractorVersion := mediaItemQueryFilterProjectionVersion
    features :=
      { containerPresent := container.isSome
        container
        mediaType := source.mediaType
        isVideo := eqIgnoreAsciiCase source.mediaType "video"
        hasSubtitles := source.mediaStreams.any (streamTypeIs · "subtitle")
        hasTrailer := metadataHasTrailer source.metadata }
    values := metadataCandidates floatText source.metadata ++
      source.mediaStreams.zipIdx.filterMap streamCandidate }

end Jellyrin.Metadata
