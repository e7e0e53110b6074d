import Jellyrin.Defs.Data.FixedWidth
import Jellyrin.Defs.Data.JsonFields
import Mathlib.Data.List.Perm.Basic

/-! What a command does to the state of a SyncPlay group.  Arithmetic that may leave its range
panics where overflow is checked. -/

namespace Jellyrin

namespace I64

def clamp (i : Int) : Int := max (-2 ^ 63) (min (2 ^ 63 - 1) i)

def saturatingAdd (a b : Int) : Int := clamp (a + b)

def saturatingSub (a b : Int) : Int := clamp (a - b)

def abs (a : Int) : Except Overflow Int := checked |a|

end I64

namespace Json

def i64AnyField (value : Json) (fields : List String) : Option Int :=
  fields.findSome? fun field => (value.get field).bind asI64

def setAll (value : Json) (fields : List (String × Json)) : Json :=
  fields.foldl (fun value entry => value.set entry.1 entry.2) value

theorem setAll_append (value : Json) (fields others : List (String × Json)) :
    value.setAll (fields ++ others) = (value.setAll fields).setAll others :=
  List.foldl_append

theorem isObject_setAll (value : Json) (fields : List (String × Json)) :
    (value.setAll fields).isObject = value.isObject := by
  induction fields generalizing value with
  | nil => rfl
  | cons entry rest ih => exact (ih _).trans (isObject_set _ _ _)

theorem get_setAll_of_notMem (value : Json) {fields : List (String × Json)} {field : String}
    (h : field ∉ fields.map Prod.fst) : (value.setAll fields).get field = value.get field := by
  induction fields generalizing value with
  | nil => rfl
  | cons entry rest ih =>
    rw [List.map_cons, List.mem_cons, not_or] at h
    exact (ih _ h.2).trans (get_set_of_ne _ _ (Ne.symm h.1))

end Json

namespace SyncPlay

open Ascii Json I64

def syncplayTicksPerSecond : Int := 10000000

def syncplayDriftThresholdTicks : Int := 5000000

structure OffsetDateTime where
  nanos : Int
  inRange : -2 ^ 70 < nanos ∧ nanos < 2 ^ 70

structure TimeCrate where
  parseRfc3339 : String → Option OffsetDateTime
  formatTimeForJson : OffsetDateTime → String

structure Command where
  name : String
  payload : Json
  now : OffsetDateTime
  sequence : UInt64

def syncplayDurationToTicks (nanos : Int) : Except Overflow Int :=
  let ticks := nanos * syncplayTicksPerSecond
  if -2 ^ 127 ≤ ticks ∧ ticks < 2 ^ 127 then .ok (clamp (ticks.tdiv 1000000000))
  else .error .overflow

def syncplayPositionTicksFromPayload (payload : Json) : Option Int :=
  payload.i64AnyField
    ["PositionTicks", "SeekPositionTicks", "NewPositionTicks", "StartPositionTicks"]

def syncplayQueueItemMatches (itemId : String) (item : Json) : Bool :=
  item.asStr == some itemId || ((item.get "Id").or (item.get "ItemId")).bind asStr == some itemId

variable (time : TimeCrate)

/-- The fields that a command with a position and a time of its client writes. -/
def syncplayTimelineDriftJson (state payload : Json) (now : OffsetDateTime) :
    Except Overflow (List (String × Json)) :=
  match syncplayPositionTicksFromPayload payload, payload.stringAnyField ["When", "when"] with
  | some clientPositionTicks, some clientWhen =>
    match time.parseRfc3339 clientWhen with
    | none => .ok []
    | some parsedClientWhen => do
      let elapsedTicks ← syncplayDurationToTicks (now.nanos - parsedClientWhen.nanos)
      let estimatedServerPositionTicks := I64.saturatingAdd clientPositionTicks elapsedTicks
      let serverPositionTicks :=
        ((state.get "PositionTicks").bind asI64).getD clientPositionTicks
      let driftTicks := I64.saturatingSub estimatedServerPositionTicks serverPositionTicks
      let distance ← I64.abs driftTicks
      let isCorrectionRequired := decide (syncplayDriftThresholdTicks ≤ distance)
      let correctionPositionTicks :=
        if isCorrectionRequired then .number estimatedServerPositionTicks else .null
      let timeline := ofFields
        [("ClientWhen", .string clientWhen),
          ("ServerReceivedAt", .string (time.formatTimeForJson now)),
          ("ClientPositionTicks", .number clientPositionTicks),
          ("ClientElapsedTicks", .number elapsedTicks),
          ("ServerPositionTicks", .number serverPositionTicks),
          ("EstimatedServerPositionTicks", .number estimatedServerPositionTicks),
          ("DriftTicks", .number driftTicks),
          ("DriftThresholdTicks", .number syncplayDriftThresholdTicks),
          ("IsCorrectionRequired", .bool isCorrectionRequired),
          ("CorrectionPositionTicks", correctionPositionTicks)]
      .ok [("Timeline", timeline), ("DriftTicks", .number driftTicks),
        ("CorrectionPositionTicks", correctionPositionTicks),
        ("IsDriftCorrectionRequired", .bool isCorrectionRequired)]
  | _, _ => .ok []

def recordedFields (command : Command) : List (String × Json) :=
  [("LastCommand", command.payload), ("LastCommandName", .string command.name),
    ("LastCommandDate", .string (time.formatTimeForJson command.now)),
    ("CommandSequence", .number command.sequence.toNat),
    ("LastCommandSequence", .number command.sequence.toNat)] ++
  ((syncplayPositionTicksFromPayload command.payload).map
    fun ticks => ("PositionTicks", Json.number ticks)).toList ++
  ((command.payload.stringAnyField ["When", "when"]).map
    fun clientWhen => ("LastClientWhen", Json.string clientWhen)).toList ++
  ((command.payload.stringAnyField ["PlaylistItemId", "ItemId"]).map
    fun itemId => ("PlaylistItemId", Json.string itemId)).toList

def queueFields (payload : Json) (now : OffsetDateTime) : List (String × Json) :=
  match ((payload.get "Queue").or (payload.get "Items")).or (payload.get "ItemIds") with
  | some (.array queue) =>
    [("Queue", .array queue), ("QueueVersion", .string (toString now.nanos))]
  | _ => []

def playlistItemIndex (state : Json) : Int :=
  ((state.get "PlaylistItemIndex").bind asI64).getD 0

def removeFromPlaylist (payload : Json) (queue : List Json) : List Json :=
  match payload.i64AnyField ["PlaylistItemIndex", "Index"] with
  | some index =>
    if 0 ≤ index ∧ index.toNat < queue.length then queue.eraseIdx index.toNat else queue
  | none =>
    match payload.stringAnyField ["PlaylistItemId", "ItemId"] with
    | some itemId => queue.filter fun item => !syncplayQueueItemMatches itemId item
    | none => queue

def movePlaylistItem (payload : Json) (queue : List Json) : List Json :=
  match payload.i64AnyField ["PlaylistItemIndex", "OldIndex", "FromIndex"],
    payload.i64AnyField ["NewIndex", "ToIndex"] with
  | some source, some target =>
    if h : 0 ≤ source ∧ 0 ≤ target ∧ source.toNat < queue.length ∧ target.toNat < queue.length then
      (queue.eraseIdx source.toNat).insertIdx target.toNat (queue.get ⟨source.toNat, h.2.2.1⟩)
    else queue
  | _, _ => queue

def updateQueue (f : List Json → List Json) (state : Json) : Json :=
  match state.get "Queue" with
  | some (.array queue) => state.set "Queue" (.array (f queue))
  | _ => state

def boolFields (payload : Json) (field : String) (names : List String) : List (String × Json) :=
  ((names.findSome? payload.get).bind asBool).toList.map fun enabled => (field, .bool enabled)

def stringFieldsOf (payload : Json) (field : String) (names : List String) :
    List (String × Json) :=
  (payload.stringAnyField names).toList.map fun value => (field, .string value)

def applyNamed (command : Command) (state : Json) : Except Overflow Json :=
  let payload := command.payload
  match toAsciiLowercase command.name with
  | "play" =>
    .ok (state.setAll ([("IsPaused", .bool false), ("PlayState", .string "Playing")] ++
      queueFields payload command.now))
  | "pause" => .ok (state.setAll [("IsPaused", .bool true), ("PlayState", .string "Paused")])
  | "unpause" => .ok (state.setAll [("IsPaused", .bool false), ("PlayState", .string "Playing")])
  | "seek" => .ok (state.set "PlayState" (.string "Seeking"))
  | "buffering" => .ok (state.set "PlayState" (.string "Buffering"))
  | "stop" => .ok (state.setAll [("IsPaused", .bool false), ("PlayState", .string "Stopped")])
  | "queue" | "setnewqueue" =>
    .ok (state.setAll (queueFields payload command.now ++ [("PlayState", .string "Queued")]))
  | "removefromplaylist" => .ok (updateQueue (removeFromPlaylist payload) state)
  | "moveplaylistitem" => .ok (updateQueue (movePlaylistItem payload) state)
  | "nextitem" => do
    let index ← I64.add (playlistItemIndex state) 1
    .ok (state.set "PlaylistItemIndex" (.number index))
  | "previousitem" =>
    .ok (state.set "PlaylistItemIndex" (.number (I64.saturatingSub (playlistItemIndex state) 1)))
  | "setplaylistitem" =>
    .ok (state.setAll (stringFieldsOf payload "PlaylistItemId" ["PlaylistItemId", "ItemId"] ++
      (payload.i64AnyField ["PlaylistItemIndex", "Index"]).toList.map
        fun index => ("PlaylistItemIndex", .number index)))
  | "setrepeatmode" =>
    .ok (state.setAll (stringFieldsOf payload "RepeatMode" ["RepeatMode", "Mode"]))
  | "setshufflemode" =>
    .ok (state.setAll (boolFields payload "ShuffleMode" ["ShuffleMode", "Shuffle"]))
  | "setignorewait" =>
    .ok (state.setAll (boolFields payload "IgnoreWait" ["IgnoreWait", "IgnoreWaitEnabled"]))
  | "ready" => .ok (state.set "IsReady" (.bool true))
  | _ => .ok state

def syncplayApplyCommandToState (state : Json) (command : Command) : Except Overflow Json := do
  let state := if state.isObject then state else .object []
  let timeline ← syncplayTimelineDriftJson time state command.payload command.now
  applyNamed command (state.setAll (recordedFields time command ++ timeline))

/-! Runs. -/

def Estimates (state : Json) (command : Command) (estimated stored : Int) : Prop :=
  ∃ client clientWhen parsed ticks,
    syncplayPositionTicksFromPayload command.payload = some client ∧
    command.payload.stringAnyField ["When", "when"] = some clientWhen ∧
    time.parseRfc3339 clientWhen = some parsed ∧
    syncplayDurationToTicks (command.now.nanos - parsed.nanos) = .ok ticks ∧
    estimated = I64.saturatingAdd client ticks ∧
    stored = ((state.get "PositionTicks").bind asI64).getD client

def QueueChanges (R : List Json → List Json → Prop) (before after : Json) : Prop :=
  (∀ queue, before.get "Queue" = some (.array queue) →
      ∃ later, after.get "Queue" = some (.array later) ∧ R later queue) ∧
    ((∀ queue, before.get "Queue" ≠ some (.array queue)) → after.get "Queue" = before.get "Queue")

structure IsSane (state : Json) (command : Command) (after : Json) : Prop where
  applies : syncplayApplyCommandToState time state command = .ok after
  moves : toAsciiLowercase command.name = "moveplaylistitem" →
    QueueChanges List.Perm state after
  removes : toAsciiLowercase command.name = "removefromplaylist" →
    QueueChanges List.Sublist state after
  previous : toAsciiLowercase command.name = "previousitem" →
    ∀ index, after.get "PlaylistItemIndex" = some (.number index) → 0 ≤ index
  drift : ∀ estimated stored, Estimates time state command estimated stored →
    after.get "IsDriftCorrectionRequired" =
      some (.bool (decide (syncplayDriftThresholdTicks ≤ |estimated - stored|)))

def RunsSanely (state : Json) : List Command → Prop
  | [] => True
  | command :: rest => ∃ after, IsSane time state command after ∧ RunsSanely after rest

/-- There is a next and a previous index, and the positions are less than `2 ^ 63` apart. -/
structure IsBounded (state : Json) (command : Command) : Prop where
  next : toAsciiLowercase command.name = "nextitem" → playlistItemIndex state < 2 ^ 63 - 1
  previous : toAsciiLowercase command.name = "previousitem" → 0 < playlistItemIndex state
  drift : ∀ estimated stored, Estimates time state command estimated stored →
    -2 ^ 63 < estimated - stored

def RunsBounded (state : Json) : List Command → Prop
  | [] => True
  | command :: rest => IsBounded time state command ∧
      ∀ after, syncplayApplyCommandToState time state command = .ok after → RunsBounded after rest

/-! Numbers. -/

theorem inRange_asI64 {value : Json} {i : Int} (h : value.asI64 = some i) : InRange i := by
  cases value with
  | number n =>
    rw [asI64] at h
    split at h
    · rename_i hrange
      cases h
      exact hrange
    · cases h
  | _ => cases h

theorem inRange_playlistItemIndex (state : Json) : InRange (playlistItemIndex state) := by
  rw [playlistItemIndex]
  cases h : (state.get "PlaylistItemIndex").bind asI64 with
  | none => exact ⟨by decide, by decide⟩
  | some i =>
    obtain ⟨found, -, hfound⟩ := Option.bind_eq_some_iff.mp h
    exact inRange_asI64 hfound

theorem exists_syncplayDurationToTicks (first second : OffsetDateTime) :
    ∃ ticks, syncplayDurationToTicks (first.nanos - second.nanos) = .ok ticks := by
  have hfirst := first.inRange
  have hsecond := second.inRange
  refine ⟨_, if_pos ?_⟩
  simp only [syncplayTicksPerSecond]
  omega

theorem abs_clamp {i : Int} (h : -2 ^ 63 < i) : |clamp i| = min (2 ^ 63 - 1) |i| := by
  rw [clamp]
  rcases le_total 0 i with hpos | hneg
  · rw [abs_of_nonneg hpos, abs_of_nonneg (by omega)]
    omega
  · rw [abs_of_nonpos hneg, abs_of_nonpos (by omega)]
    omega

theorem abs_saturatingSub {estimated stored : Int} (h : -2 ^ 63 < estimated - stored) :
    ∃ distance, I64.abs (I64.saturatingSub estimated stored) = .ok distance ∧
      (syncplayDriftThresholdTicks ≤ distance ↔
        syncplayDriftThresholdTicks ≤ |estimated - stored|) := by
  have hnonneg := abs_nonneg (estimated - stored)
  have habs := abs_clamp h
  refine ⟨|I64.saturatingSub estimated stored|, if_pos ?_, ?_⟩
  · rw [I64.saturatingSub, habs, InRange]
    omega
  · rw [I64.saturatingSub, habs, syncplayDriftThresholdTicks]
    omega

theorem abs_saturatingSub_of_le {estimated stored : Int} (h : estimated - stored ≤ -2 ^ 63) :
    I64.abs (I64.saturatingSub estimated stored) = .error .overflow := by
  have hclamp : I64.saturatingSub estimated stored = -2 ^ 63 := by
    rw [I64.saturatingSub, clamp]
    omega
  rw [hclamp]
  decide

/-! The fields that every command writes. -/

theorem get_ite_isObject (state : Json) (field : String) :
    (if state.isObject = true then state else .object []).get field = state.get field := by
  split
  · rfl
  · rename_i h
    cases state with
    | object fields => exact absurd rfl h
    | _ => rfl

theorem isObject_ite_isObject (state : Json) :
    (if state.isObject = true then state else .object []).isObject = true := by
  split
  · assumption
  · rfl

theorem notMem_recordedFields {field : String} (command : Command)
    (h : field ∉ ["LastCommand", "LastCommandName", "LastCommandDate", "CommandSequence",
      "LastCommandSequence", "PositionTicks", "LastClientWhen", "PlaylistItemId"]) :
    field ∉ (recordedFields time command).map Prod.fst := by
  simp only [List.mem_cons, List.not_mem_nil, or_false, not_or] at h
  obtain ⟨hpayload, hname, hdate, hsequence, hlast, hticks, hwhen, hitem⟩ := h
  simp only [recordedFields, List.map_append, List.mem_append, not_or]
  refine ⟨⟨⟨?_, ?_⟩, ?_⟩, ?_⟩
  · simp [hpayload, hname, hdate, hsequence, hlast]
  · cases syncplayPositionTicksFromPayload command.payload <;> simp [hticks]
  · cases command.payload.stringAnyField ["When", "when"] <;> simp [hwhen]
  · cases command.payload.stringAnyField ["PlaylistItemId", "ItemId"] <;> simp [hitem]

variable {time} {state : Json} {command : Command} {estimated stored : Int}

theorem timeline_of_estimates (h : Estimates time state command estimated stored)
    (hbound : -2 ^ 63 < estimated - stored) :
    ∃ timeline drift correction,
      syncplayTimelineDriftJson time state command.payload command.now =
        .ok ([("Timeline", timeline), ("DriftTicks", drift),
          ("CorrectionPositionTicks", correction)] ++
          [("IsDriftCorrectionRequired",
            .bool (decide (syncplayDriftThresholdTicks ≤ |estimated - stored|)))]) := by
  obtain ⟨client, clientWhen, parsed, ticks, hclient, hwhen, hparsed, hticks, rfl, rfl⟩ := h
  obtain ⟨distance, hdistance, hiff⟩ := abs_saturatingSub hbound
  rw [syncplayTimelineDriftJson, hclient, hwhen, ← decide_eq_decide.mpr hiff]
  simp only [hparsed, hticks, hdistance, bind, Except.bind]
  exact ⟨_, _, _, rfl⟩

theorem timeline_of_far (h : Estimates time state command estimated stored)
    (hbound : estimated - stored ≤ -2 ^ 63) :
    syncplayTimelineDriftJson time state command.payload command.now = .error .overflow := by
  obtain ⟨client, clientWhen, parsed, ticks, hclient, hwhen, hparsed, hticks, rfl, rfl⟩ := h
  rw [syncplayTimelineDriftJson, hclient, hwhen]
  simp only [hparsed, hticks, abs_saturatingSub_of_le hbound, bind, Except.bind]

theorem timeline_of_none (h : ∀ estimated stored, ¬ Estimates time state command estimated stored) :
    syncplayTimelineDriftJson time state command.payload command.now = .ok [] := by
  rw [syncplayTimelineDriftJson]
  split
  · rename_i client clientWhen hclient hwhen
    cases hparsed : time.parseRfc3339 clientWhen with
    | none => rfl
    | some parsed =>
      obtain ⟨ticks, hticks⟩ := exists_syncplayDurationToTicks command.now parsed
      exact absurd ⟨client, clientWhen, parsed, ticks, hclient, hwhen, hparsed, hticks, rfl, rfl⟩
        (h _ _)
  · rfl

theorem Estimates.unique {other kept : Int} (h : Estimates time state command estimated stored)
    (hother : Estimates time state command other kept) : other = estimated ∧ kept = stored := by
  obtain ⟨client, clientWhen, parsed, ticks, hclient, hwhen, hparsed, hticks, rfl, rfl⟩ := h
  obtain ⟨client', clientWhen', parsed', ticks', hclient', hwhen', hparsed', hticks', rfl, rfl⟩ :=
    hother
  cases hclient.symm.trans hclient'
  cases hwhen.symm.trans hwhen'
  cases hparsed.symm.trans hparsed'
  cases hticks.symm.trans hticks'
  exact ⟨rfl, rfl⟩

theorem estimates_ite_isObject :
    Estimates time (if state.isObject = true then state else .object []) command estimated stored ↔
      Estimates time state command estimated stored := by
  simp only [Estimates, get_ite_isObject]

theorem apply_of_far (h : Estimates time state command estimated stored)
    (hbound : estimated - stored ≤ -2 ^ 63) :
    syncplayApplyCommandToState time state command = .error .overflow :=
  congrArg (· >>= _) (timeline_of_far (estimates_ite_isObject.mpr h) hbound)

theorem exists_noted
    (hbound : ∀ estimated stored, Estimates time state command estimated stored →
      -2 ^ 63 < estimated - stored) :
    ∃ noted, syncplayApplyCommandToState time state command = applyNamed command noted ∧
      noted.isObject = true ∧ noted.get "Queue" = state.get "Queue" ∧
      noted.get "PlaylistItemIndex" = state.get "PlaylistItemIndex" ∧
      ∀ estimated stored, Estimates time state command estimated stored →
        noted.get "IsDriftCorrectionRequired" =
          some (.bool (decide (syncplayDriftThresholdTicks ≤ |estimated - stored|))) := by
  obtain ⟨object, hobject⟩ : ∃ object : Json,
    (if state.isObject = true then state else .object []) = object := ⟨_, rfl⟩
  have hisObject : object.isObject = true := hobject ▸ isObject_ite_isObject state
  have hget : ∀ field, object.get field = state.get field :=
    fun field => hobject ▸ get_ite_isObject state field
  have hkept : ∀ {timeline : List (String × Json)} {field : String},
      field ∉ ["LastCommand", "LastCommandName", "LastCommandDate", "CommandSequence",
        "LastCommandSequence", "PositionTicks", "LastClientWhen", "PlaylistItemId"] →
      field ∉ timeline.map Prod.fst →
      (object.setAll (recordedFields time command ++ timeline)).get field = state.get field := by
    intro timeline field hrecorded htimeline
    rw [setAll_append, get_setAll_of_notMem _ htimeline,
      get_setAll_of_notMem _ (notMem_recordedFields time command hrecorded), hget]
  have happly : ∀ {timeline : List (String × Json)},
      syncplayTimelineDriftJson time object command.payload command.now = .ok timeline →
      syncplayApplyCommandToState time state command =
        applyNamed command (object.setAll (recordedFields time command ++ timeline)) := by
    intro timeline h
    simp only [syncplayApplyCommandToState, hobject, h, bind, Except.bind]
  have hestimates : ∀ estimated stored, Estimates time object command estimated stored ↔
      Estimates time state command estimated stored :=
    fun estimated stored => hobject ▸ estimates_ite_isObject
  have hobjects : ∀ timeline : List (String × Json),
      (object.setAll (recordedFields time command ++ timeline)).isObject = true :=
    fun timeline => (isObject_setAll _ _).trans hisObject
  by_cases hsome : ∃ estimated stored, Estimates time state command estimated stored
  · obtain ⟨estimated, stored, h⟩ := hsome
    obtain ⟨timeline, drift, correction, htimeline⟩ := timeline_of_estimates
      ((hestimates estimated stored).mpr h) (hbound estimated stored h)
    refine ⟨_, happly htimeline, hobjects _, hkept (by decide) (by simp),
      hkept (by decide) (by simp), fun other kept hother => ?_⟩
    obtain ⟨rfl, rfl⟩ := h.unique hother
    rw [setAll_append, setAll_append]
    exact get_set (by rw [isObject_setAll, isObject_setAll, hisObject]) _ _
  · refine ⟨_, happly (timeline_of_none fun estimated stored h =>
        hsome ⟨estimated, stored, (hestimates estimated stored).mp h⟩), hobjects _,
      hkept (by decide) (by simp), hkept (by decide) (by simp),
      fun estimated stored h => absurd ⟨estimated, stored, h⟩ hsome⟩

/-! Each command's own work. -/

theorem removeFromPlaylist_sublist (payload : Json) (queue : List Json) :
    (removeFromPlaylist payload queue).Sublist queue := by
  rw [removeFromPlaylist]
  split
  · split
    · exact List.eraseIdx_sublist _ _
    · exact List.Sublist.refl _
  · split
    · exact List.filter_sublist
    · exact List.Sublist.refl _

theorem movePlaylistItem_perm (payload : Json) (queue : List Json) :
    (movePlaylistItem payload queue).Perm queue := by
  rw [movePlaylistItem]
  split
  · split
    · rename_i source target _ _ h
      have htarget : target.toNat ≤ (queue.eraseIdx source.toNat).length := by
        rw [List.length_eraseIdx_of_lt h.2.2.1]
        omega
      exact (List.perm_insertIdx _ _ htarget).trans (List.getElem_cons_eraseIdx_perm h.2.2.1)
    · exact List.Perm.refl _
  · exact List.Perm.refl _

theorem queueChanges_updateQueue {R : List Json → List Json → Prop} {f : List Json → List Json}
    (h : ∀ queue, R (f queue) queue) {noted : Json} (hobject : noted.isObject = true)
    (hqueue : noted.get "Queue" = state.get "Queue") :
    QueueChanges R state (updateQueue f noted) := by
  rw [QueueChanges, ← hqueue]
  constructor
  · intro queue hfound
    rw [updateQueue, hfound]
    exact ⟨f queue, get_set hobject _ _, h queue⟩
  · intro hnone
    rw [updateQueue]
    split
    · rename_i queue hfound
      exact absurd hfound (hnone queue)
    · rfl

theorem playlistItemIndex_congr {other : Json}
    (h : other.get "PlaylistItemIndex" = state.get "PlaylistItemIndex") :
    playlistItemIndex other = playlistItemIndex state := by
  rw [playlistItemIndex, h, playlistItemIndex]

theorem applyNamed_ok {noted : Json}
    (h : toAsciiLowercase command.name = "nextitem" → playlistItemIndex noted < 2 ^ 63 - 1) :
    ∃ after, applyNamed command noted = .ok after ∧
      after.get "IsDriftCorrectionRequired" = noted.get "IsDriftCorrectionRequired" := by
  have hset : ∀ {fields : List (String × Json)},
      "IsDriftCorrectionRequired" ∉ fields.map Prod.fst → ∃ after,
        (Except.ok (noted.setAll fields) : Except Overflow Json) = .ok after ∧
        after.get "IsDriftCorrectionRequired" = noted.get "IsDriftCorrectionRequired" :=
    fun hfields => ⟨_, rfl, get_setAll_of_notMem noted hfields⟩
  have hupdate : ∀ f : List Json → List Json, ∃ after,
      (Except.ok (updateQueue f noted) : Except Overflow Json) = .ok after ∧
      after.get "IsDriftCorrectionRequired" = noted.get "IsDriftCorrectionRequired" := by
    intro f
    refine ⟨_, rfl, ?_⟩
    rw [updateQueue]
    split
    · exact get_set_of_ne _ _ (by decide)
    · rfl
  have hqueue : "IsDriftCorrectionRequired" ∉
      (queueFields command.payload command.now).map Prod.fst := by
    rw [queueFields]
    split <;> simp
  simp only [applyNamed]
  split
  · exact hset (by simp [hqueue])
  · exact hset (by simp)
  · exact hset (by simp)
  · exact ⟨_, rfl, get_set_of_ne _ _ (by decide)⟩
  · exact ⟨_, rfl, get_set_of_ne _ _ (by decide)⟩
  · exact hset (by simp)
  · exact hset (by simp [hqueue])
  · exact hset (by simp [hqueue])
  · exact hupdate _
  · exact hupdate _
  · rename_i hname
    have hrange := inRange_playlistItemIndex noted
    have hindex : InRange (playlistItemIndex noted + 1) :=
      ⟨by have := hrange.1; omega, by have := h hname; omega⟩
    rw [I64.add, checked_bind_of_inRange hindex]
    exact ⟨_, rfl, get_set_of_ne _ _ (by decide)⟩
  · exact ⟨_, rfl, get_set_of_ne _ _ (by decide)⟩
  · exact hset (by simp [stringFieldsOf])
  · exact hset (by simp [stringFieldsOf])
  · exact hset (by simp [boolFields])
  · exact hset (by simp [boolFields])
  · exact ⟨_, rfl, get_set_of_ne _ _ (by decide)⟩
  · exact ⟨_, rfl, rfl⟩

theorem applyNamed_next {noted : Json} (h : toAsciiLowercase command.name = "nextitem")
    (hindex : ¬ playlistItemIndex noted < 2 ^ 63 - 1) :
    applyNamed command noted = .error .overflow := by
  have hrange : ¬ InRange (playlistItemIndex noted + 1) := by
    rw [InRange]
    omega
  simp only [applyNamed, h]
  rw [I64.add, checked_bind_of_not_inRange hrange]

theorem applyNamed_previous {noted : Json} (h : toAsciiLowercase command.name = "previousitem") :
    applyNamed command noted = .ok (noted.set "PlaylistItemIndex"
      (.number (I64.saturatingSub (playlistItemIndex noted) 1))) := by
  simp only [applyNamed, h]

theorem applyNamed_remove {noted : Json}
    (h : toAsciiLowercase command.name = "removefromplaylist") :
    applyNamed command noted =
      .ok (updateQueue (removeFromPlaylist command.payload) noted) := by
  simp only [applyNamed, h]

theorem applyNamed_move {noted : Json} (h : toAsciiLowercase command.name = "moveplaylistitem") :
    applyNamed command noted =
      .ok (updateQueue (movePlaylistItem command.payload) noted) := by
  simp only [applyNamed, h]

/-! Steps, and runs. -/

theorem saturatingSub_one_nonneg_iff {index : Int} (h : InRange index) :
    0 ≤ I64.saturatingSub index 1 ↔ 0 < index := by
  rw [InRange] at h
  rw [I64.saturatingSub, clamp]
  omega

theorem exists_isSane_of_isBounded (h : IsBounded time state command) :
    ∃ after, IsSane time state command after := by
  obtain ⟨noted, happly, hobject, hqueue, hitem, hdrift⟩ := exists_noted h.drift
  have hindex := playlistItemIndex_congr hitem
  obtain ⟨after, hafter, hverdict⟩ := applyNamed_ok fun hname => hindex ▸ h.next hname
  refine ⟨after, happly.trans hafter, fun hname => ?_, fun hname => ?_, fun hname index hfound => ?_,
    fun estimated stored hestimates => hverdict.trans (hdrift estimated stored hestimates)⟩
  · cases hafter.symm.trans (applyNamed_move hname)
    exact queueChanges_updateQueue (movePlaylistItem_perm _) hobject hqueue
  · cases hafter.symm.trans (applyNamed_remove hname)
    exact queueChanges_updateQueue (removeFromPlaylist_sublist _) hobject hqueue
  · cases hafter.symm.trans (applyNamed_previous hname)
    rw [get_set hobject] at hfound
    cases hfound
    rw [saturatingSub_one_nonneg_iff (inRange_playlistItemIndex _), hindex]
    exact h.previous hname

theorem IsSane.isBounded {after : Json} (h : IsSane time state command after) :
    IsBounded time state command := by
  have hbound : ∀ estimated stored, Estimates time state command estimated stored →
      -2 ^ 63 < estimated - stored := by
    intro estimated stored hestimates
    by_contra hfar
    cases h.applies.symm.trans (apply_of_far hestimates (not_lt.mp hfar))
  obtain ⟨noted, happly, hobject, -, hitem, -⟩ := exists_noted hbound
  have hindex := playlistItemIndex_congr hitem
  have hafter := happly.symm.trans h.applies
  refine ⟨fun hname => ?_, fun hname => ?_, hbound⟩
  · by_contra hlast
    cases hafter.symm.trans (applyNamed_next hname (hindex ▸ hlast))
  · cases hafter.symm.trans (applyNamed_previous hname)
    have hnonneg := h.previous hname _ (get_set hobject _ _)
    rwa [saturatingSub_one_nonneg_iff (inRange_playlistItemIndex _), hindex] at hnonneg

/-- A run goes as expected exactly where no command leaves the indices and positions there are. -/
theorem runsSanely_iff_runsBounded (time : TimeCrate) (state : Json) (commands : List Command) :
    RunsSanely time state commands ↔ RunsBounded time state commands := by
  induction commands generalizing state with
  | nil => exact Iff.rfl
  | cons command rest ih =>
    constructor
    · rintro ⟨after, hsane, hrest⟩
      refine ⟨hsane.isBounded, fun other hother => ?_⟩
      cases hsane.applies.symm.trans hother
      exact (ih after).mp hrest
    · rintro ⟨hbounded, hrest⟩
      obtain ⟨after, hsane⟩ := exists_isSane_of_isBounded hbounded
      exact ⟨after, hsane, (ih after).mpr (hrest after hsane.applies)⟩

def epoch : OffsetDateTime := ⟨0, by decide, by decide⟩

def epochOnly : TimeCrate where
  parseRfc3339 text := if text = "1970-01-01T00:00:00Z" then some epoch else none
  formatTimeForJson _ := "1970-01-01T00:00:00Z"

/-- In a new group the item before the first has the index `-1`; after the last index there is no
next one; and from a stored position `0` the least position is too far. -/
theorem not_runsSanely :
    ¬ RunsSanely epochOnly (.object []) [⟨"PreviousItem", .object [], epoch, 1⟩] ∧
    ¬ RunsSanely epochOnly (.object [("PlaylistItemIndex", .number (2 ^ 63 - 1))])
      [⟨"NextItem", .object [], epoch, 1⟩] ∧
    ¬ RunsSanely epochOnly (.object [("PositionTicks", .number 0)])
      [⟨"Seek", .object [("PositionTicks", .number (-2 ^ 63)),
        ("When", .string "1970-01-01T00:00:00Z")], epoch, 1⟩] := by
  refine ⟨fun ⟨_, hsane, _⟩ => ?_, fun ⟨_, hsane, _⟩ => ?_, fun ⟨_, hsane, _⟩ => ?_⟩
  · exact absurd (hsane.isBounded.previous (by decide)) (by decide)
  · exact absurd (hsane.isBounded.next (by decide)) (by decide)
  · have hestimates : Estimates epochOnly (.object [("PositionTicks", .number 0)])
        ⟨"Seek", .object [("PositionTicks", .number (-2 ^ 63)),
          ("When", .string "1970-01-01T00:00:00Z")], epoch, 1⟩ (-2 ^ 63) 0 :=
      ⟨-2 ^ 63, "1970-01-01T00:00:00Z", epoch, 0, by decide, by decide, rfl, by decide, by decide,
        by decide⟩
    exact absurd (hsane.isBounded.drift _ _ hestimates) (by decide)

end SyncPlay

end Jellyrin
