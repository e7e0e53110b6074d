import Jellyrin.Defs.Data.EntityId
import Jellyrin.Defs.Data.JsonObject
import Jellyrin.Defs.LiveTv.ConfigurationLaws
import Jellyrin.Defs.LiveTv.RecordingStart
import Jellyrin.Defs.LiveTv.RecordingWindow

/-! The timers that a series timer makes for the programmes of the guide, and the recordings that
begin at once. -/

namespace Jellyrin.LiveTv.Timers

open Ascii Json Text Jellyrin.LiveTv.Configuration Recording

/-- What a timer is matched with besides the guide: the reading of dates and the address from which
a channel is recorded, if it is known and not local. -/
structure Surroundings where
  parseRfc3339 : String → Option OffsetDateTime
  channelUrl : String → Option String
  runtimeShutdownStarted : Bool

structure Recorder where
  active : Active
  starting : Starting
  generation : UInt64

variable (env : Surroundings)

def liveTvTimerIsTerminal (timer : Json) : Bool :=
  (timer.stringField "Status").any fun status =>
    eqIgnoreAsciiCase status "Completed" || eqIgnoreAsciiCase status "Cancelled"

def seriesTimerChildId (seriesTimerId programId : String) : String :=
  stableEntityId "SeriesTimerChild" (seriesTimerId ++ "+" ++ programId)

def guideNumber (channelId : String) : String := (stripPrefix channelId "hdhr_").getD channelId

def channelMatches (seriesChannelId programChannelId : String) : Bool :=
  eqIgnoreAsciiCase seriesChannelId programChannelId ||
    eqIgnoreAsciiCase (guideNumber seriesChannelId) (guideNumber programChannelId)

def programmeMatches (seriesTimer program : Json) : Bool :=
  let seriesName := toAsciiLowercase ((seriesTimer.stringField "Name").getD "")
  let seriesSeriesId := seriesTimer.stringField "SeriesId"
  let programName := toAsciiLowercase ((program.stringField "Name").getD "")
  let nameMatch := seriesName != "" && programName == seriesName
  let seriesIdMatch := seriesSeriesId.isSome && seriesSeriesId == program.stringField "SeriesId"
  nameMatch || seriesIdMatch

def programChannelId (program : Json) : String :=
  ((program.stringField "JellyrinChannelId").or (program.stringField "ChannelId")).getD ""

def effectiveChannelId (seriesTimer program : Json) : String :=
  match seriesTimer.stringField "ChannelId" with
  | some seriesChannelId =>
    if channelMatches seriesChannelId (programChannelId program) then seriesChannelId
    else programChannelId program
  | none => programChannelId program

def isInScope (seriesTimer program : Json) : Bool :=
  ((seriesTimer.get "RecordAnyChannel").bind asBool).getD false ||
    (seriesTimer.stringField "ChannelId").all fun seriesChannelId =>
      channelMatches seriesChannelId (programChannelId program)

def childFields (seriesTimerId programId rawProgramId : String) (seriesTimer program : Json) :
    List (String × Json) :=
  [("Id", .string (seriesTimerChildId seriesTimerId rawProgramId)),
    ("SeriesTimerId", .string seriesTimerId),
    ("ProgramId", .string programId),
    ("JellyrinProgramId", .string rawProgramId),
    ("ChannelId", .string (effectiveChannelId seriesTimer program)),
    ("Name", (program.get "Name").getD (.string "")),
    ("StartDate", (program.get "StartDate").getD .null),
    ("EndDate", (program.get "EndDate").getD .null),
    ("PrePaddingSeconds", .number 0),
    ("PostPaddingSeconds", .number 0),
    ("Priority", .number 0),
    ("IsPrePaddingRequired", .bool false),
    ("IsPostPaddingRequired", .bool false),
    ("KeepUntil", .string "UntilDeleted"),
    ("RecordAnyTime", .bool false),
    ("SkipEpisodesInLibrary", .bool false),
    ("RecordAnyChannel", .bool false),
    ("NewOnly", .bool false),
    ("Days", .array []),
    ("IsSeries", .bool false)]

def childTimer (now : OffsetDateTime) (seriesTimerId : String) (seriesTimer program : Json) :
    Option Json :=
  match program.stringField "Id", dateField env.parseRfc3339 program "EndDate" with
  | some programId, some endDate =>
    let rawProgramId := (program.stringField "JellyrinProgramId").getD programId
    if endDate.instant < now.instant then none
    else if !programmeMatches seriesTimer program then none
    else if !isInScope seriesTimer program then none
    else some (ofFields (childFields seriesTimerId programId rawProgramId seriesTimer program))
  | _, _ => none

def maybeSpawnLiveTvRecording (now : OffsetDateTime) (timer : Json) (recorder : Recorder) :
    Except DatePanic (Option Recorder) :=
  if ((timer.get "IsSeries").bind asBool).getD false then .ok none
  else if liveTvTimerIsTerminal timer then .ok none
  else
    match timer.stringField "Id" with
    | none => .ok none
    | some timerId =>
      if liveTvRecordingIsActive recorder.active timerId then .ok none
      else
        match liveTvTimerStartDate env.parseRfc3339 timer with
        | none => .ok none
        | some startDate =>
          if now.instant < startDate.instant then .ok none
          else do
            match ← spawnRecordingEnd env.parseRfc3339 timer with
            | none => .ok none
            | some recordingEnd =>
              if recordingEnd.instant ≤ now.instant then .ok none
              else
                match (timer.stringField "ChannelId").bind env.channelUrl with
                | none => .ok none
                | some _ =>
                  if liveTvRecordingIsActive recorder.active timerId then .ok none
                  else if env.runtimeShutdownStarted then .ok none
                  else
                    .ok ((reserveLiveTvRecordingStart timerId recorder.generation
                      recorder.starting).map fun starting =>
                        { recorder with starting, generation := recorder.generation + 1 })

def fireRecordings : List (Json × OffsetDateTime) → Recorder →
    Except DatePanic (List Json × Recorder)
  | [], recorder => .ok ([], recorder)
  | (child, now) :: rest, recorder => do
    match ← maybeSpawnLiveTvRecording env now child recorder with
    | some recorder =>
      let (started, recorder) ← fireRecordings rest recorder
      .ok (child :: started, recorder)
    | none => fireRecordings rest recorder

def atTimes (clock : Nat → OffsetDateTime) (children : List Json) : List (Json × OffsetDateTime) :=
  children.zipIdx.map fun (child, turn) => (child, clock turn)

/-- What is stored after a run, the timers of which recordings have begun, and the registries. -/
structure Outcome where
  payload : Payload
  started : List Json
  recorder : Recorder

def newTimers (now : OffsetDateTime) (seriesTimerId : String) (seriesTimer : Json)
    (programs : List Json) : List Json :=
  programs.filterMap (childTimer env now seriesTimerId seriesTimer)

def materializeSeriesTimerTimers (now : OffsetDateTime) (clock : Nat → OffsetDateTime)
    (programs : List Json) (seriesTimer : Json) (payload : Payload) (recorder : Recorder) :
    Except DatePanic Outcome :=
  match seriesTimer.stringField "Id" with
  | none => .ok ⟨payload, [], recorder⟩
  | some seriesTimerId =>
    let children := newTimers env now seriesTimerId seriesTimer programs
    match Configuration.materializeSeriesTimerTimers children payload with
    | none => .ok ⟨payload, [], recorder⟩
    | some config => do
      let (started, recorder) ← fireRecordings env (atTimes clock children) recorder
      .ok ⟨some config, started, recorder⟩

/-! Children, and when one of them begins. -/

structure IsChild (child : Json) (id : String) : Prop where
  named : child.stringField "Id" = some id
  single : ((child.get "IsSeries").bind asBool).getD false = false
  pending : liveTvTimerIsTerminal child = false
  plain : (numericPadding child).getD 0 = 0

theorem nodup_childFields (seriesTimerId programId rawProgramId : String)
    (seriesTimer program : Json) :
    ((childFields seriesTimerId programId rawProgramId seriesTimer program).map
      fun entry => toAsciiLowercase entry.1).Nodup := by
  simp only [childFields, List.map_cons, List.map_nil]
  decide

theorem isChild_ofFields (seriesTimerId programId rawProgramId : String)
    (seriesTimer program : Json) :
    IsChild (ofFields (childFields seriesTimerId programId rawProgramId seriesTimer program))
      (seriesTimerChildId seriesTimerId rawProgramId) := by
  have hlower := nodup_childFields seriesTimerId programId rawProgramId seriesTimer program
  have hnames : ((childFields seriesTimerId programId rawProgramId seriesTimer program).map
      Prod.fst).Nodup := by
    simp only [childFields, List.map_cons, List.map_nil]
    decide
  have hhex := isHex_stableEntityId "SeriesTimerChild" (seriesTimerId ++ "+" ++ rawProgramId)
  have hsingle : (ofFields (childFields seriesTimerId programId rawProgramId seriesTimer
      program)).get "IsSeries" = some (.bool false) := get_ofFields hnames (by simp [childFields])
  have hplain : (ofFields (childFields seriesTimerId programId rawProgramId seriesTimer
      program)).get "PostPaddingSeconds" = some (.number 0) :=
    get_ofFields hnames (by simp [childFields])
  refine ⟨?_, ?_, ?_, ?_⟩
  · exact stringField_ofFields hlower (by simp [childFields, seriesTimerChildId])
      ⟨hhex.trim_eq, hhex.ne_empty⟩
  · rw [hsingle]
    rfl
  · rw [liveTvTimerIsTerminal, stringField_ofFields_of_notMem hlower]
    · rfl
    · simp only [childFields, List.map_cons, List.map_nil]
      decide
  · rw [numericPadding, hplain]
    rfl

/-- The window of a timer is open, its channel can be recorded, and nothing records it yet. -/
structure Startable (now : OffsetDateTime) (recorder : Recorder) (child : Json) : Prop where
  window : ∃ startDate endDate, dateField env.parseRfc3339 child "StartDate" = some startDate ∧
    dateField env.parseRfc3339 child "EndDate" = some endDate ∧
    startDate.instant ≤ now.instant ∧ now.instant < endDate.instant
  channel : ∃ url, (child.stringField "ChannelId").bind env.channelUrl = some url
  idle : ∀ id, child.stringField "Id" = some id →
    liveTvRecordingIsActive recorder.active id = false ∧
      toAsciiLowercase id ∉ recorder.starting
  runs : env.runtimeShutdownStarted = false

def Recorder.reserve (recorder : Recorder) (id : String) : Recorder :=
  { recorder with
    starting := recorder.starting.insert (toAsciiLowercase id) ⟨recorder.generation, none⟩
    generation := recorder.generation + 1 }

variable {env} {now : OffsetDateTime} {recorder : Recorder} {child : Json} {id : String}

theorem addSeconds_zero (time : OffsetDateTime) : time.addSeconds 0 = .ok time := by
  rw [addSeconds_eq_ok]
  simp

theorem spawnRecordingEnd_of_isChild (h : IsChild child id) :
    spawnRecordingEnd env.parseRfc3339 child =
      .ok (dateField env.parseRfc3339 child "EndDate") := by
  rw [spawnRecordingEnd, h.plain]
  cases dateField env.parseRfc3339 child "EndDate" with
  | none => rfl
  | some endDate =>
    simp only [addSeconds_zero]
    rfl

theorem reserve_of_window (hchild : IsChild child id)
    (hwindow : ∃ startDate endDate,
      dateField env.parseRfc3339 child "StartDate" = some startDate ∧
      dateField env.parseRfc3339 child "EndDate" = some endDate ∧
      startDate.instant ≤ now.instant ∧ now.instant < endDate.instant)
    (hactive : liveTvRecordingIsActive recorder.active id = false) :
    let result : Except DatePanic (Option Recorder) :=
      match (child.stringField "ChannelId").bind env.channelUrl with
      | none => .ok none
      | some _ =>
        if env.runtimeShutdownStarted then .ok none
        else
          .ok ((reserveLiveTvRecordingStart id recorder.generation
            recorder.starting).map fun starting =>
              { recorder with starting, generation := recorder.generation + 1 })
    Startable env now recorder child ∧ result = .ok (some (recorder.reserve id)) ∨
      ¬ Startable env now recorder child ∧ result = .ok none := by
  intro result
  cases hchannel : (child.stringField "ChannelId").bind env.channelUrl with
  | none =>
    refine Or.inr ⟨fun h => ?_, by simp only [result, hchannel]⟩
    obtain ⟨url, hurl⟩ := h.channel
    cases hchannel.symm.trans hurl
  | some url =>
    cases hshutdown : env.runtimeShutdownStarted with
    | true =>
      refine Or.inr ⟨fun h => ?_, by simp only [result, hchannel, hshutdown, if_true]⟩
      cases hshutdown.symm.trans h.runs
    | false =>
      by_cases hmem : toAsciiLowercase id ∈ recorder.starting
      · refine Or.inr ⟨fun h => (h.idle id hchild.named).2 hmem, ?_⟩
        simp only [result, hchannel, hshutdown, reserveLiveTvRecordingStart, if_pos hmem]
        rfl
      · refine Or.inl ⟨⟨hwindow, ⟨url, hchannel⟩, fun other hother => ?_, hshutdown⟩, ?_⟩
        · cases hchild.named.symm.trans hother
          exact ⟨hactive, hmem⟩
        · simp only [result, hchannel, hshutdown, reserveLiveTvRecordingStart, if_neg hmem]
          rfl

theorem maybeSpawnLiveTvRecording_of_isChild (env : Surroundings) (now : OffsetDateTime)
    (recorder : Recorder) (hchild : IsChild child id) :
    (Startable env now recorder child ∧
      maybeSpawnLiveTvRecording env now child recorder = .ok (some (recorder.reserve id))) ∨
    ¬ Startable env now recorder child ∧
      maybeSpawnLiveTvRecording env now child recorder = .ok none := by
  simp only [maybeSpawnLiveTvRecording, hchild.single, hchild.pending, hchild.named,
    spawnRecordingEnd_of_isChild hchild, liveTvTimerStartDate, Bool.false_eq_true, if_false]
  cases hactive : liveTvRecordingIsActive recorder.active id with
  | true =>
    refine Or.inr ⟨fun h => ?_, rfl⟩
    rw [(h.idle id hchild.named).1] at hactive
    cases hactive
  | false =>
    cases hstart : dateField env.parseRfc3339 child "StartDate" with
    | none =>
      refine Or.inr ⟨fun h => ?_, rfl⟩
      obtain ⟨startDate, -, hfound, -⟩ := h.window
      cases hstart.symm.trans hfound
    | some startDate =>
      simp only [Bool.false_eq_true, if_false]
      by_cases hlater : now.instant < startDate.instant
      · refine Or.inr ⟨fun h => ?_, if_pos hlater⟩
        obtain ⟨startDate', -, hfound, -, hle, -⟩ := h.window
        cases hstart.symm.trans hfound
        exact absurd hle (not_le.mpr hlater)
      · rw [if_neg hlater]
        cases hend : dateField env.parseRfc3339 child "EndDate" with
        | none =>
          refine Or.inr ⟨fun h => ?_, rfl⟩
          obtain ⟨-, endDate, -, hfound, -⟩ := h.window
          cases hend.symm.trans hfound
        | some endDate =>
          simp only [bind, Except.bind]
          by_cases hclosed : endDate.instant ≤ now.instant
          · refine Or.inr ⟨fun h => ?_, if_pos hclosed⟩
            obtain ⟨-, endDate', -, hfound, -, hlt⟩ := h.window
            cases hend.symm.trans hfound
            exact absurd hlt (not_lt.mpr hclosed)
          · rw [if_neg hclosed]
            have hwindow : ∃ startDate endDate,
                dateField env.parseRfc3339 child "StartDate" = some startDate ∧
                dateField env.parseRfc3339 child "EndDate" = some endDate ∧
                startDate.instant ≤ now.instant ∧ now.instant < endDate.instant :=
              ⟨startDate, endDate, hstart, hend, not_lt.mp hlater, not_le.mp hclosed⟩
            exact reserve_of_window hchild hwindow hactive

theorem Startable.of_reserve (h : Startable env now (recorder.reserve id) child) :
    Startable env now recorder child :=
  ⟨h.window, h.channel, fun other hother => ⟨(h.idle other hother).1, fun hmem =>
    (h.idle other hother).2 (AList.mem_insert _ |>.mpr (Or.inr hmem))⟩, h.runs⟩

theorem Startable.reserve (h : Startable env now recorder child)
    (hother : ∀ other, child.stringField "Id" = some other →
      toAsciiLowercase other ≠ toAsciiLowercase id) :
    Startable env now (recorder.reserve id) child := by
  refine ⟨h.window, h.channel, fun other hid => ⟨(h.idle other hid).1, fun hmem => ?_⟩, h.runs⟩
  rcases (AList.mem_insert _).mp hmem with heq | hmem
  · exact hother other hid heq
  · exact (h.idle other hid).2 hmem

theorem fireRecordings_of_isChild (bad : Json → Prop)
    (hbad : ∀ {child other : Json} {id otherId : String}, IsChild child id →
      IsChild other otherId → toAsciiLowercase id = toAsciiLowercase otherId → bad child →
      bad other)
    {calls : List (Json × OffsetDateTime)} (hcalls : ∀ call ∈ calls, ∃ id, IsChild call.1 id)
    (recorder : Recorder) : ∃ started after,
      fireRecordings env calls recorder = .ok (started, after) ∧
      ((∃ child ∈ started, bad child) ↔
        ∃ call ∈ calls, bad call.1 ∧ Startable env call.2 recorder call.1) := by
  induction calls generalizing recorder with
  | nil => exact ⟨[], recorder, rfl, by simp⟩
  | cons call rest ih =>
    obtain ⟨child, now⟩ := call
    obtain ⟨⟨id, hchild⟩, hrest⟩ := List.forall_mem_cons.mp hcalls
    rcases maybeSpawnLiveTvRecording_of_isChild env now recorder hchild with
      ⟨hstartable, hspawn⟩ | ⟨hstartable, hspawn⟩
    · obtain ⟨started, after, hfire, hiff⟩ := ih hrest (recorder.reserve id)
      refine ⟨child :: started, after, ?_, ?_⟩
      · simp only [fireRecordings, hspawn, hfire, bind, Except.bind]
      · rw [List.exists_mem_cons_iff, List.exists_mem_cons_iff, hiff]
        constructor
        · rintro (hfirst | ⟨call, hcall, hlater, hstart⟩)
          · exact Or.inl ⟨hfirst, hstartable⟩
          · exact Or.inr ⟨call, hcall, hlater, hstart.of_reserve⟩
        · rintro (⟨hfirst, -⟩ | ⟨call, hcall, hlater, hstart⟩)
          · exact Or.inl hfirst
          · obtain ⟨other, hother⟩ := hrest call hcall
            by_cases hsame : toAsciiLowercase other = toAsciiLowercase id
            · exact Or.inl (hbad hother hchild hsame hlater)
            · refine Or.inr ⟨call, hcall, hlater, hstart.reserve fun found hfound => ?_⟩
              cases hother.named.symm.trans hfound
              exact hsame
    · obtain ⟨started, after, hfire, hiff⟩ := ih hrest recorder
      refine ⟨started, after, ?_, ?_⟩
      · simp only [fireRecordings, hspawn, hfire, bind, Except.bind]
      · rw [List.exists_mem_cons_iff, hiff]
        exact (or_iff_right fun h => hstartable h.2).symm

/-! Runs. -/

def HasFinished (payload : Payload) (child : Json) : Prop :=
  ∃ timer ∈ payload.items .timers, hasId ((child.stringField "Id").getD "") timer = true ∧
    liveTvTimerIsTerminal timer = true

def childTimers (env : Surroundings) (now : OffsetDateTime) (seriesTimer : Json)
    (programs : List Json) : List Json :=
  match seriesTimer.stringField "Id" with
  | none => []
  | some seriesTimerId => newTimers env now seriesTimerId seriesTimer programs

theorem exists_isChild {seriesTimer : Json} {programs : List Json}
    (h : child ∈ childTimers env now seriesTimer programs) : ∃ id, IsChild child id := by
  rw [childTimers] at h
  split at h
  · cases h
  · obtain ⟨program, -, hchild⟩ := List.mem_filterMap.mp h
    rw [childTimer] at hchild
    split at hchild
    · simp only [Option.ite_none_left_eq_some, Option.some.injEq] at hchild
      obtain ⟨-, -, -, rfl⟩ := hchild
      exact ⟨_, isChild_ofFields _ _ _ _ _⟩
    · cases hchild

theorem childTimers_subset {later : OffsetDateTime} (hle : now.instant ≤ later.instant)
    (seriesTimer : Json) (programs : List Json) :
    childTimers env later seriesTimer programs ⊆ childTimers env now seriesTimer programs := by
  intro child h
  rw [childTimers] at h ⊢
  split at h
  · cases h
  · obtain ⟨program, hprogram, hchild⟩ := List.mem_filterMap.mp h
    refine List.mem_filterMap.mpr ⟨program, hprogram, ?_⟩
    rw [childTimer] at hchild ⊢
    split at hchild
    · simp only [Option.ite_none_left_eq_some] at hchild ⊢
      obtain ⟨hopen, hrest⟩ := hchild
      exact ⟨fun hover => hopen (hover.trans_le hle), hrest⟩
    · cases hchild

theorem foldl_pushChild_eq_self {children timers : List Json}
    (h : ∀ child ∈ children, timers.any (hasId ((child.stringField "Id").getD "")) = true) :
    children.foldl pushChild timers = timers := by
  induction children with
  | nil => rfl
  | cons child rest ih =>
    obtain ⟨hchild, hrest⟩ := List.forall_mem_cons.mp h
    rw [List.foldl_cons, pushChild, if_pos hchild, ih hrest]

theorem mem_foldl_pushChild {children timers : List Json} {timer : Json}
    (h : timer ∈ children.foldl pushChild timers) : timer ∈ timers ∨ timer ∈ children := by
  induction children generalizing timers with
  | nil => exact Or.inl h
  | cons child rest ih =>
    rcases ih h with hmem | hmem
    · rw [pushChild] at hmem
      split at hmem
      · exact Or.inl hmem
      · rcases List.mem_append.mp hmem with hmem | hmem
        · exact Or.inl hmem
        · exact Or.inr (List.mem_cons.mpr (Or.inl (List.mem_singleton.mp hmem)))
    · exact Or.inr (List.mem_cons_of_mem _ hmem)

theorem subset_foldl_pushChild (children timers : List Json) :
    timers ⊆ children.foldl pushChild timers := by
  induction children generalizing timers with
  | nil => exact List.Subset.refl _
  | cons child rest ih =>
    refine List.Subset.trans ?_ (ih _)
    rw [pushChild]
    split
    · exact List.Subset.refl _
    · exact List.subset_append_left _ _

def Payload.upsert (payload : Payload) (children : List Json) : Payload :=
  (Configuration.materializeSeriesTimerTimers children payload).or payload

theorem upsert_of_ne_nil {children : List Json} (h : children ≠ []) (payload : Payload) :
    Payload.upsert payload children = some (payload.config.setItems .timers
      (children.foldl pushChild (payload.items .timers))) := by
  rw [Payload.upsert, Configuration.materializeSeriesTimerTimers, if_neg]
  · rfl
  · simpa using h

theorem upsert_upsert {children others : List Json} (hothers : others ⊆ children)
    (hchildren : ∀ child ∈ children, ∃ id, IsChild child id) (payload : Payload) :
    Payload.upsert (Payload.upsert payload children) others = Payload.upsert payload children := by
  rcases eq_or_ne others [] with rfl | hne
  · rfl
  · have hfirst : children ≠ [] := by
      rintro rfl
      exact hne (List.subset_nil.mp hothers)
    rw [upsert_of_ne_nil hne, upsert_of_ne_nil hfirst]
    have hkept : others.foldl pushChild (children.foldl pushChild (payload.items .timers)) =
        children.foldl pushChild (payload.items .timers) := by
      refine foldl_pushChild_eq_self fun child hchild => ?_
      obtain ⟨id, hid⟩ := hchildren child (hothers hchild)
      rw [hid.named, Option.getD_some]
      exact hasId_foldl_pushChild (hothers hchild) hid.named
    exact congrArg some (congrArg _ hkept)

theorem hasFinished_upsert_iff {children : List Json}
    (hchildren : ∀ child ∈ children, ∃ id, IsChild child id) (payload : Payload) (child : Json) :
    HasFinished (Payload.upsert payload children) child ↔ HasFinished payload child := by
  rcases eq_or_ne children [] with rfl | hne
  · exact Iff.rfl
  · rw [upsert_of_ne_nil hne]
    constructor
    · rintro ⟨timer, htimer, hid, hterminal⟩
      rcases mem_foldl_pushChild htimer with hmem | hmem
      · exact ⟨timer, hmem, hid, hterminal⟩
      · obtain ⟨id, hchild⟩ := hchildren timer hmem
        rw [hchild.pending] at hterminal
        cases hterminal
    · rintro ⟨timer, htimer, hid, hterminal⟩
      exact ⟨timer, subset_foldl_pushChild _ _ htimer, hid, hterminal⟩

theorem HasFinished.of_isChild {payload : Payload} {other : Json} {otherId : String}
    (hchild : IsChild child id) (hother : IsChild other otherId)
    (hid : toAsciiLowercase id = toAsciiLowercase otherId) (h : HasFinished payload child) :
    HasFinished payload other := by
  obtain ⟨timer, htimer, hsame, hterminal⟩ := h
  refine ⟨timer, htimer, ?_, hterminal⟩
  rw [hchild.named, Option.getD_some] at hsame
  rw [hother.named, Option.getD_some]
  rw [hasId, Option.any_eq_true] at hsame ⊢
  obtain ⟨text, htext, heq⟩ := hsame
  exact ⟨text, htext, eqIgnoreAsciiCase_iff.mpr ((eqIgnoreAsciiCase_iff.mp heq).trans hid)⟩

variable (env) in
theorem exists_materializeSeriesTimerTimers (now : OffsetDateTime)
    (clock : Nat → OffsetDateTime) (programs : List Json) (seriesTimer : Json) (payload : Payload)
    (recorder : Recorder) : ∃ started after,
      materializeSeriesTimerTimers env now clock programs seriesTimer payload recorder =
        .ok ⟨Payload.upsert payload (childTimers env now seriesTimer programs), started, after⟩ ∧
      ((∃ child ∈ started, HasFinished payload child) ↔
        ∃ call ∈ atTimes clock (childTimers env now seriesTimer programs),
          HasFinished payload call.1 ∧ Startable env call.2 recorder call.1) := by
  have hcalls : ∀ call ∈ atTimes clock (childTimers env now seriesTimer programs),
      ∃ id, IsChild call.1 id := by
    intro call hcall
    obtain ⟨⟨child, turn⟩, hchild, rfl⟩ := List.mem_map.mp hcall
    exact exists_isChild (List.fst_mem_of_mem_zipIdx hchild)
  rcases eq_or_ne (childTimers env now seriesTimer programs) [] with hnone | hsome
  · refine ⟨[], recorder, ?_, by simp [hnone, atTimes]⟩
    rw [materializeSeriesTimerTimers, hnone]
    rw [childTimers] at hnone
    split
    · rfl
    · rename_i seriesTimerId hid
      rw [hid] at hnone
      simp only [hnone]
      rfl
  · obtain ⟨started, after, hfire, hiff⟩ := fireRecordings_of_isChild
      (HasFinished payload) HasFinished.of_isChild hcalls recorder
    refine ⟨started, after, ?_, hiff⟩
    rw [upsert_of_ne_nil hsome]
    rw [childTimers] at hsome hfire ⊢
    rw [materializeSeriesTimerTimers]
    split at hsome
    · exact absurd rfl hsome
    · rename_i seriesTimerId hid
      rw [hid] at hfire
      have hempty : (newTimers env now seriesTimerId seriesTimer programs).isEmpty = false := by
        simpa using hsome
      simp only [Configuration.materializeSeriesTimerTimers, hempty, hfire, bind, Except.bind]
      rfl

/-- A later run with the same programmes stores what is stored, and no recording begins for which
the stored timers have a finished one. -/
structure RunsWell (env : Surroundings) (now : OffsetDateTime) (clock : Nat → OffsetDateTime)
    (programs : List Json) (seriesTimer : Json) (payload : Payload) (recorder : Recorder)
    (outcome : Outcome) : Prop where
  runs : materializeSeriesTimerTimers env now clock programs seriesTimer payload recorder =
    .ok outcome
  again : ∀ later clock' recorder', now.instant ≤ later.instant → ∃ second,
    materializeSeriesTimerTimers env later clock' programs seriesTimer outcome.payload recorder' =
      .ok second ∧ second.payload = outcome.payload
  respects : ∀ child ∈ outcome.started, ¬ HasFinished outcome.payload child

theorem RunsWell.not_startable {clock : Nat → OffsetDateTime} {programs : List Json}
    {seriesTimer : Json} {payload : Payload} {outcome : Outcome}
    (h : RunsWell env now clock programs seriesTimer payload recorder outcome)
    {call : Json × OffsetDateTime}
    (hcall : call ∈ atTimes clock (childTimers env now seriesTimer programs))
    (hfinished : HasFinished payload call.1) : ¬ Startable env call.2 recorder call.1 := by
  intro hstartable
  obtain ⟨started, after, hruns, hiff⟩ :=
    exists_materializeSeriesTimerTimers env now clock programs seriesTimer payload recorder
  cases hruns.symm.trans h.runs
  obtain ⟨child, hchild, hbad⟩ := hiff.mpr ⟨call, hcall, hfinished, hstartable⟩
  exact h.respects child hchild
    ((hasFinished_upsert_iff (fun child hchild => exists_isChild hchild) payload child).mpr hbad)

/-- Series timers begin a finished recording again exactly where its window is still open, its
channel can be recorded and nothing records it. -/
theorem runsWell_iff (env : Surroundings) (now : OffsetDateTime) (clock : Nat → OffsetDateTime)
    (programs : List Json) (seriesTimer : Json) (payload : Payload) (recorder : Recorder) :
    (∃ outcome, RunsWell env now clock programs seriesTimer payload recorder outcome) ↔
      ∀ call ∈ atTimes clock (childTimers env now seriesTimer programs),
        HasFinished payload call.1 → ¬ Startable env call.2 recorder call.1 := by
  obtain ⟨started, after, hruns, hiff⟩ :=
    exists_materializeSeriesTimerTimers env now clock programs seriesTimer payload recorder
  have hchildren : ∀ child ∈ childTimers env now seriesTimer programs, ∃ id, IsChild child id :=
    fun child hchild => exists_isChild hchild
  constructor
  · rintro ⟨outcome, h⟩ call hcall hfinished
    exact h.not_startable hcall hfinished
  · intro h
    refine ⟨_, hruns, fun later clock' recorder' hle => ?_, fun child hchild hfinished => ?_⟩
    · obtain ⟨started', after', hlater, -⟩ := exists_materializeSeriesTimerTimers env later clock'
        programs seriesTimer (Payload.upsert payload (childTimers env now seriesTimer programs))
        recorder'
      exact ⟨_, hlater, upsert_upsert (childTimers_subset hle seriesTimer programs) hchildren
        payload⟩
    · obtain ⟨call, hcall, hbad, hstartable⟩ := hiff.mp ⟨child, hchild,
        (hasFinished_upsert_iff hchildren payload child).mp hfinished⟩
      exact h call hcall hbad hstartable

section Cancelled

def midnight : OffsetDateTime := ⟨0, 0, by decide⟩

def halfPastMidnight : OffsetDateTime := ⟨1800 * nanosPerSecond, 0, by decide⟩

def oneOClock : OffsetDateTime := ⟨3600 * nanosPerSecond, 0, by decide⟩

def oneChannel : Surroundings where
  parseRfc3339 text :=
    if text = "1970-01-01T00:00:00Z" then some midnight
    else if text = "1970-01-01T01:00:00Z" then some oneOClock
    else none
  channelUrl id := if id = "hdhr_4.1" then some "http://tuner/4.1" else none
  runtimeShutdownStarted := false

def newsTimer : Json := ofFields [("Id", .string "news"), ("Name", .string "News"),
  ("ChannelId", .string "hdhr_4.1")]

def newsProgramme : Json := ofFields [("Id", .string "p1"), ("Name", .string "News"),
  ("ChannelId", .string "4.1"), ("StartDate", .string "1970-01-01T00:00:00Z"),
  ("EndDate", .string "1970-01-01T01:00:00Z")]

def newsChildFields : List (String × Json) := childFields "news" "p1" "p1" newsTimer newsProgramme

def cancelledTimer : Json := ofFields [("Id", .string (seriesTimerChildId "news" "p1")),
  ("Status", .string "Cancelled")]

/-- The timer of a programme that is on was cancelled, and is recorded again. -/
theorem not_runsWell : ¬ ∃ outcome, RunsWell oneChannel halfPastMidnight
    (fun _ => halfPastMidnight) [newsProgramme] newsTimer
    (some ⟨.array [cancelledTimer], .array [], .array []⟩) ⟨∅, ∅, 0⟩ outcome := by
  rintro ⟨outcome, h⟩
  have hchildren : childTimers oneChannel halfPastMidnight newsTimer [newsProgramme] =
      [ofFields newsChildFields] := rfl
  have hcall : (ofFields newsChildFields, halfPastMidnight) ∈
      atTimes (fun _ => halfPastMidnight)
        (childTimers oneChannel halfPastMidnight newsTimer [newsProgramme]) := by
    rw [hchildren]
    exact List.mem_singleton_self _
  have hchild : IsChild (ofFields newsChildFields) (seriesTimerChildId "news" "p1") :=
    isChild_ofFields "news" "p1" "p1" newsTimer newsProgramme
  have hfields := nodup_childFields "news" "p1" "p1" newsTimer newsProgramme
  have hstart : (ofFields newsChildFields).stringField "StartDate" = some "1970-01-01T00:00:00Z" :=
    stringField_ofFields hfields (by decide) ⟨by decide, by decide⟩
  have hend : (ofFields newsChildFields).stringField "EndDate" = some "1970-01-01T01:00:00Z" :=
    stringField_ofFields hfields (by decide) ⟨by decide, by decide⟩
  have hchannel : (ofFields newsChildFields).stringField "ChannelId" = some "hdhr_4.1" :=
    stringField_ofFields hfields (by decide) ⟨by decide, by decide⟩
  have hhex := isHex_stableEntityId "SeriesTimerChild" ("news" ++ "+" ++ "p1")
  have hid : cancelledTimer.stringField "Id" = some (seriesTimerChildId "news" "p1") :=
    stringField_ofFields (by simp; decide) (by simp) ⟨hhex.trim_eq, hhex.ne_empty⟩
  have hstatus : cancelledTimer.stringField "Status" = some "Cancelled" :=
    stringField_ofFields (by simp; decide) (by simp) ⟨by decide, by decide⟩
  refine h.not_startable hcall ⟨cancelledTimer, List.mem_singleton_self _, ?_, ?_⟩ ?_
  · rw [hchild.named, Option.getD_some, hasId, hid, Option.any_some, eqIgnoreAsciiCase_self]
  · rw [liveTvTimerIsTerminal, hstatus]
    decide
  · refine ⟨⟨midnight, oneOClock, ?_, ?_, by decide, by decide⟩, ⟨"http://tuner/4.1", ?_⟩,
      fun id _ => ⟨rfl, AList.notMem_empty _⟩, rfl⟩
    · rw [dateField, hstart]
      rfl
    · rw [dateField, hend]
      rfl
    · rw [hchannel]
      rfl

end Cancelled

end Jellyrin.LiveTv.Timers
