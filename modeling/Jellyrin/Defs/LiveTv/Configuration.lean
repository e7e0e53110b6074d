import Jellyrin.Defs.Data.Json
import Jellyrin.Defs.Transition.ReadModifyWrite

/-! The operations that read the `livetv` configuration, change its timers or
recordings and write it back.  A database read and a database write are one step each. -/

namespace Jellyrin.LiveTv.Configuration

open Ascii Transition

inductive Kind where | timers | seriesTimers | recordings
  deriving DecidableEq

/-- The values of these keys; `live_tv_configuration_json` copies them as they are. -/
structure LiveTvConfiguration where
  timers : Json
  seriesTimers : Json
  recordings : Json
  deriving DecidableEq

abbrev Payload := Option LiveTvConfiguration

def defaultLiveTvConfiguration : LiveTvConfiguration := ⟨.array [], .array [], .array []⟩

namespace LiveTvConfiguration

def get (config : LiveTvConfiguration) : Kind → Json
  | .timers => config.timers
  | .seriesTimers => config.seriesTimers
  | .recordings => config.recordings

def items (config : LiveTvConfiguration) (kind : Kind) : Option (List Json) :=
  (config.get kind).asArray

def setItems (config : LiveTvConfiguration) (kind : Kind) (items : List Json) :
    LiveTvConfiguration :=
  match kind with
  | .timers => { config with timers := .array items }
  | .seriesTimers => { config with seriesTimers := .array items }
  | .recordings => { config with recordings := .array items }

def updateItems (config : LiveTvConfiguration) (kind : Kind) (f : List Json → List Json) :
    LiveTvConfiguration :=
  match config.items kind with
  | some items => config.setItems kind (f items)
  | none => config

end LiveTvConfiguration

def Payload.config (payload : Payload) : LiveTvConfiguration :=
  payload.getD defaultLiveTvConfiguration

def Payload.items (payload : Payload) (kind : Kind) : List Json :=
  (payload.config.items kind).getD []

def updateFirst (p : Json → Bool) (f : Json → Json) : List Json → List Json
  | [] => []
  | item :: rest => if p item then f item :: rest else item :: updateFirst p f rest

def rawId (item : Json) : Option String := (item.get "Id").bind Json.asStr

def hasRawId (timerId : String) (item : Json) : Bool :=
  (rawId item).any fun id => eqIgnoreAsciiCase id timerId

def hasId (id : String) (item : Json) : Bool :=
  (item.stringField "Id").any fun other => eqIgnoreAsciiCase other id

def normalizeLiveTvTimer (freshId : String) (payload : Json) (pathTimerId : Option String)
    (isSeries : Bool) : Json :=
  let timer := Json.ofFields [
    ("Id", .string freshId),
    ("ProgramId", .null),
    ("ChannelId", .null),
    ("Name", .string ""),
    ("Overview", .string ""),
    ("StartDate", .null),
    ("EndDate", .null),
    ("PrePaddingSeconds", .number 0),
    ("PostPaddingSeconds", .number 0),
    ("Priority", .number 0),
    ("IsPrePaddingRequired", .bool false),
    ("IsPostPaddingRequired", .bool false),
    ("KeepUntil", .string "UntilDeleted"),
    ("RecordAnyTime", .bool false),
    ("SkipEpisodesInLibrary", .bool false),
    ("RecordAnyChannel", .bool false),
    ("NewOnly", .bool false),
    ("Days", .array []),
    ("IsSeries", .bool isSeries)]
  let timer := (payload.asObject.getD []).foldl (fun timer entry => timer.set entry.1 entry.2) timer
  let timer :=
    match (pathTimerId.map Json.trim).filter (· ≠ "") with
    | some id => timer.set "Id" (.string id)
    | none =>
      match ((rawId timer).map Json.trim).filter (· ≠ "") with
      | some _ => timer
      | none => timer.set "Id" (.string freshId)
  timer.set "IsSeries" (.bool isSeries)

def upsertLiveTvTimer (kind : Kind) (freshId : String) (pathTimerId : Option String) (body : Json)
    (payload : Payload) : Option LiveTvConfiguration :=
  if body.isObject then
    let timer := normalizeLiveTvTimer freshId body pathTimerId (kind == .seriesTimers)
    let timerId := (rawId timer).getD ""
    let timers := payload.items kind
    let timers :=
      if timers.any (hasRawId timerId) then updateFirst (hasRawId timerId) (fun _ => timer) timers
      else timers ++ [timer]
    some (payload.config.setItems kind timers)
  else none

def deletePersistedLiveTvTimer (kind : Kind) (timerId : String) (payload : Payload) :
    Option LiveTvConfiguration :=
  let timers := payload.items kind
  let kept := timers.filter fun timer => !hasRawId timerId timer
  if kept.length = timers.length then none else some (payload.config.setItems kind kept)

/-- What a recording is started with; `programId` and `seriesTimerId` come from the timer. -/
structure RecordingStart where
  recordingId : String
  timerId : String
  programId : Json
  seriesTimerId : Json
  name : String
  channelId : String
  path : String
  startDate : String
  endDate : String
  dateCreated : String
  deriving DecidableEq

def RecordingStart.json (start : RecordingStart) : Json := Json.ofFields [
  ("Id", .string start.recordingId),
  ("TimerId", .string start.timerId),
  ("ProgramId", start.programId),
  ("SeriesTimerId", start.seriesTimerId),
  ("Name", .string start.name),
  ("ChannelId", .string start.channelId),
  ("Path", .string start.path),
  ("Status", .string "InProgress"),
  ("StartDate", .string start.startDate),
  ("EndDate", .string start.endDate),
  ("DateCreated", .string start.dateCreated)]

def startRecording (start : RecordingStart) (payload : Payload) : LiveTvConfiguration :=
  payload.config.setItems .recordings (payload.items .recordings ++ [start.json])

def completeRecordingItem (recording : Json) : Json := recording.set "Status" (.string "Completed")

def completeTimerItem (path : String) (timer : Json) : Json :=
  (timer.set "Status" (.string "Completed")).set "RecordingPath" (.string path)

def completeRecording (recordingId timerId path : String) (payload : Payload) :
    LiveTvConfiguration :=
  (payload.config.updateItems .recordings
    (updateFirst (hasId recordingId) completeRecordingItem)).updateItems .timers
    (updateFirst (hasId timerId) (completeTimerItem path))

def discardRecording (recordingId timerId : String) (payload : Payload) : LiveTvConfiguration :=
  (payload.config.updateItems .recordings
    (List.filter fun recording => !hasId recordingId recording)).updateItems .timers
    (List.filter fun timer => !hasId timerId timer)

def cleanupFailedRecording (recordingId : String) (payload : Payload) : LiveTvConfiguration :=
  payload.config.updateItems .recordings
    (List.filter fun recording => !hasId recordingId recording)

def pushChild (timers : List Json) (child : Json) : List Json :=
  if timers.any (hasId ((child.stringField "Id").getD "")) then timers else timers ++ [child]

def materializeSeriesTimerTimers (newTimers : List Json) (payload : Payload) :
    Option LiveTvConfiguration :=
  if newTimers.isEmpty then none
  else
    some (payload.config.setItems .timers (newTimers.foldl pushChild (payload.items .timers)))

def isPendingChild (seriesTimerId : String) (activeTimerIds : List String) (timer : Json) : Bool :=
  ((timer.stringField "SeriesTimerId").any fun id => eqIgnoreAsciiCase id seriesTimerId) &&
    !activeTimerIds.any fun active =>
      eqIgnoreAsciiCase active ((timer.stringField "Id").getD "")

def cascadeDeleteSeriesTimerTimers (seriesTimerId : String) (activeTimerIds : List String)
    (payload : Payload) : Option LiveTvConfiguration :=
  match payload with
  | some config =>
    (config.items .timers).map fun timers =>
      config.setItems .timers
        (timers.filter fun timer => !isPendingChild seriesTimerId activeTimerIds timer)
  | none => none

def hasRecordingId (recordingId : String) (recording : Json) : Bool :=
  ((recording.stringField "Id").or (recording.stringField "RecordingId")).any fun id =>
    eqIgnoreAsciiCase id recordingId

def deletePersistedLiveTvRecording (recordingId : String) (payload : Payload) :
    Option LiveTvConfiguration :=
  let recordings := payload.items .recordings
  let kept := recordings.filter fun recording => !hasRecordingId recordingId recording
  if kept.length = recordings.length then none
  else some (payload.config.setItems .recordings kept)

inductive Operation where
  | upsertTimer (kind : Kind) (freshId : String) (pathTimerId : Option String) (body : Json)
  | deleteTimer (kind : Kind) (timerId : String)
  | startRecording (start : RecordingStart)
  | completeRecording (recordingId timerId path : String)
  | discardRecording (recordingId timerId : String)
  | cleanupRecording (recordingId : String)
  | materialize (newTimers : List Json)
  | cascadeDelete (seriesTimerId : String) (activeTimerIds : List String)
  | deleteRecording (recordingId : String)
  deriving DecidableEq

/-- The configuration that the operation writes, given the payload that it has read. -/
def Operation.apply : Operation → Payload → Option LiveTvConfiguration
  | .upsertTimer kind freshId pathTimerId body, payload =>
    upsertLiveTvTimer kind freshId pathTimerId body payload
  | .deleteTimer kind timerId, payload => deletePersistedLiveTvTimer kind timerId payload
  | .startRecording start, payload => some (Configuration.startRecording start payload)
  | .completeRecording recordingId timerId path, payload =>
    some (Configuration.completeRecording recordingId timerId path payload)
  | .discardRecording recordingId timerId, payload =>
    some (Configuration.discardRecording recordingId timerId payload)
  | .cleanupRecording recordingId, payload => some (cleanupFailedRecording recordingId payload)
  | .materialize newTimers, payload => materializeSeriesTimerTimers newTimers payload
  | .cascadeDelete seriesTimerId activeTimerIds, payload =>
    cascadeDeleteSeriesTimerTimers seriesTimerId activeTimerIds payload
  | .deleteRecording recordingId, payload => deletePersistedLiveTvRecording recordingId payload

def Operation.Effect : Operation → LiveTvConfiguration → Prop
  | .upsertTimer kind freshId pathTimerId body, config =>
    normalizeLiveTvTimer freshId body pathTimerId (kind == .seriesTimers) ∈
      Payload.items (some config) kind
  | .deleteTimer kind timerId, config =>
    ∀ timer ∈ Payload.items (some config) kind, hasRawId timerId timer = false
  | .startRecording start, config => start.json ∈ Payload.items (some config) .recordings
  | .completeRecording recordingId timerId path, config =>
    (∀ recording, (Payload.items (some config) .recordings).find? (hasId recordingId) =
        some recording → recording.get "Status" = some (.string "Completed")) ∧
      ∀ timer, (Payload.items (some config) .timers).find? (hasId timerId) = some timer →
        timer.get "Status" = some (.string "Completed") ∧
          timer.get "RecordingPath" = some (.string path)
  | .discardRecording recordingId timerId, config =>
    (∀ recording ∈ Payload.items (some config) .recordings, hasId recordingId recording = false) ∧
      ∀ timer ∈ Payload.items (some config) .timers, hasId timerId timer = false
  | .cleanupRecording recordingId, config =>
    ∀ recording ∈ Payload.items (some config) .recordings, hasId recordingId recording = false
  | .materialize newTimers, config => ∀ child ∈ newTimers, ∀ id,
    child.stringField "Id" = some id → ∃ timer ∈ Payload.items (some config) .timers,
      hasId id timer = true
  | .cascadeDelete seriesTimerId activeTimerIds, config =>
    ∀ timer ∈ Payload.items (some config) .timers,
      isPendingChild seriesTimerId activeTimerIds timer = false
  | .deleteRecording recordingId, config =>
    ∀ recording ∈ Payload.items (some config) .recordings,
      hasRecordingId recordingId recording = false

structure Key where
  kind : Kind
  id : String
  deriving DecidableEq

def keyOf (kind : Kind) (item : Json) : Option Key :=
  let id :=
    match kind with
    | .recordings => (item.stringField "Id").or (item.stringField "RecordingId")
    | _ => item.stringField "Id"
  id.map fun id => ⟨kind, toAsciiLowercase id⟩

def view (payload : Payload) (key : Key) : List Json :=
  (payload.items key.kind).filter fun item => keyOf key.kind item == some key

def Picks (payload : Payload) (kind : Kind) (p : Json → Bool) (key : Key) : Prop :=
  ∃ item ∈ payload.items kind, p item = true ∧ keyOf kind item = some key

def Operation.touches : Operation → Payload → Key → Prop
  | .upsertTimer kind freshId pathTimerId body, payload, key =>
    let timer := normalizeLiveTvTimer freshId body pathTimerId (kind == .seriesTimers)
    keyOf kind timer = some key ∨ Picks payload kind (hasRawId ((rawId timer).getD "")) key
  | .deleteTimer kind timerId, payload, key => Picks payload kind (hasRawId timerId) key
  | .startRecording start, _, key => keyOf .recordings start.json = some key
  | .completeRecording recordingId timerId _, payload, key =>
    Picks payload .recordings (hasId recordingId) key ∨ Picks payload .timers (hasId timerId) key
  | .discardRecording recordingId timerId, payload, key =>
    Picks payload .recordings (hasId recordingId) key ∨ Picks payload .timers (hasId timerId) key
  | .cleanupRecording recordingId, payload, key =>
    Picks payload .recordings (hasId recordingId) key
  | .materialize newTimers, payload, key =>
    ∃ child ∈ newTimers, keyOf .timers child = some key ∧
      (payload.items .timers).any (hasId ((child.stringField "Id").getD "")) = false
  | .cascadeDelete seriesTimerId activeTimerIds, payload, key =>
    Picks payload .timers (isPendingChild seriesTimerId activeTimerIds) key
  | .deleteRecording recordingId, payload, key =>
    Picks payload .recordings (hasRecordingId recordingId) key

end Jellyrin.LiveTv.Configuration
