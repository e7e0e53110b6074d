import Jellyrin.Defs.LiveTv.HlsRegistry
import Jellyrin.Defs.Transition.Machine

/-! Starts, transcode tasks and stops of live HLS sessions.  A start is followed from
the request through the task that it spawns; each lock section of a registry and each
change of the files is one step. -/

namespace Jellyrin.LiveTv.Hls

open Api Transcode Transition

structure HlsTranscodePlan where
  primary : TranscodeJobKind
  fallback : Option TranscodeJobKind
  deriving DecidableEq

structure Request where
  playSessionId : String
  channelId : String
  subtitleStreamIndex : Option Int
  userId : Nat
  plan : HlsTranscodePlan
  deriving DecidableEq

structure Attempt where
  command : TranscodeJobKind
  fallback : Option TranscodeJobKind
  attemptCount : Nat
  deriving DecidableEq

/-- A stop, a lost sender, an idle client and a storage breach all end an attempt as
`stopped`, at any time. -/
inductive LiveHlsAttemptOutcome where
  | process (success : Bool)
  | stopped
  | capacityUnavailable
  | spawnFailed
  | waitFailed
  deriving DecidableEq

/-- `checking` to `stoppable` are the request's, the others the task's.  `opening` is
past both checks, `rejected` was refused by the registry, `evicting` has still to
remove the output of evicted entries. -/
inductive Phase where
  | checking
  | deduping
  | opening
  | cleaned
  | created
  | rejected
  | evicting (evicted : List LiveHlsSessionEntry)
  | stoppable
  | queued (attempt : Attempt)
  | running (attempt : Attempt)
  | restarting (attempt : Attempt)
  | recleaning (attempt : Attempt)
  | recreating (attempt : Attempt)
  | closing (finalStatus : Status)
  | settling (finalStatus : Status)
  | deleting (finalStatus : Status)
  | forgetting
  deriving DecidableEq

structure Start where
  id : StartId
  request : Request
  phase : Phase
  deriving DecidableEq

/-- A stop has read the entry of its id, found no sender, or removed the entry. -/
inductive StopRequest where
  | read (playSessionId : String) (outputPath : Path)
  | unsent (playSessionId : String) (outputPath : Path)
  | removed (outputPath : Path)
  deriving DecidableEq

structure World where
  sessions : Sessions
  stops : HashMap String StartId
  files : Files
  starts : List Start
  stopRequests : List StopRequest
  nextStart : StartId
  deriving DecidableEq

inductive Action where
  | request (request : Request)
  | giveUp (start : Start)
  | checkSession (start : Start) (now : Int)
  | checkDedupe (start : Start)
  | clean (start : Start)
  | createDir (start : Start)
  | register (start : Start) (now : Int)
  | cleanRejected (start : Start)
  | quarantine (start : Start) (entry : LiveHlsSessionEntry) (rest : List LiveHlsSessionEntry)
  | insertStop (start : Start)
  | spawn (start : Start)
  | run (start : Start) (attempt : Attempt) (now : Int)
  | output (start : Start) (attempt : Attempt)
  | unqueue (start : Start) (attempt : Attempt) (outcome : LiveHlsAttemptOutcome)
  | exit (start : Start) (attempt : Attempt) (outcome : LiveHlsAttemptOutcome)
  | restart (start : Start) (attempt : Attempt) (now : Int)
  | reclean (start : Start) (attempt : Attempt)
  | recreate (start : Start) (attempt : Attempt)
  | recreateFails (start : Start) (attempt : Attempt)
  | removeStop (start : Start) (finalStatus : Status)
  | setFinal (start : Start) (finalStatus : Status) (now : Int)
  | deleteFiles (start : Start) (finalStatus : Status)
  | removeEntry (start : Start)
  | stop (playSessionId : String)
  | takeStop (playSessionId : String) (outputPath : Path)
  | removeStopped (playSessionId : String) (outputPath : Path)
  | cleanStopped (outputPath : Path)
  deriving DecidableEq

def liveTvChannelHlsDedupeKeyForSelection (channelId : String)
    (subtitleStreamIndex : Option Int) : String :=
  "livetv:hls:" ++ channelId ++ ":subtitle:" ++
    match subtitleStreamIndex with
    | some index => toString index
    | none => "off"

def Request.layout (request : Request) : HlsTranscodeLayout := .new request.playSessionId

def Start.entry (start : Start) (now : Int) : LiveHlsSessionEntry where
  playSessionId := start.request.playSessionId
  dedupeKey := liveTvChannelHlsDedupeKeyForSelection start.request.channelId
    start.request.subtitleStreamIndex
  channelId := start.request.channelId
  subtitleStreamIndex := start.request.subtitleStreamIndex
  outputPath := start.request.layout.mediaPlaylistPath
  userId := start.request.userId
  status := .starting
  updatedAt := now
  start := start.id

def existingSession (sessions : Sessions) (request : Request) (now : Int) :
    Except ApiError (Option LiveHlsSessionEntry) :=
  match sessions.lookup request.playSessionId with
  | some entry =>
    if entry.channelId ≠ request.channelId ∨ entry.userId ≠ request.userId ∨
        entry.subtitleStreamIndex ≠ request.subtitleStreamIndex then
      .error (.forbidden "Live HLS session mismatch")
    else if entry.isKept then .ok (some { entry with updatedAt := now })
    else .ok none
  | none => .ok none

def duplicateSession (sessions : Sessions) (request : Request) : Option LiveHlsSessionEntry :=
  (sessions.entries.map Sigma.snd).find? fun entry =>
    entry.dedupeKey == liveTvChannelHlsDedupeKeyForSelection request.channelId
      request.subtitleStreamIndex && entry.userId == request.userId &&
      liveHlsSessionIsActive entry

def LiveHlsAttemptOutcome.finalStatus : LiveHlsAttemptOutcome → Status
  | .process true => .completed
  | .process false => .failed
  | .stopped => .stopped
  | .capacityUnavailable => .failed
  | .spawnFailed => .failed
  | .waitFailed => .failed

def Attempt.next (attempt : Attempt) (firstSegmentReady : Bool)
    (outcome : LiveHlsAttemptOutcome) : Phase :=
  match attempt.fallback with
  | some next =>
    if hlsRemuxFallbackEligible attempt.attemptCount attempt.command firstSegmentReady
        (outcome == .process false) true then
      .restarting ⟨next, none, 2⟩
    else .closing outcome.finalStatus
  | none => .closing outcome.finalStatus

def LiveHlsAttemptOutcome.isQueued : LiveHlsAttemptOutcome → Bool
  | .stopped => true
  | .capacityUnavailable => true
  | .spawnFailed => true
  | .process _ => false
  | .waitFailed => false

def LiveHlsAttemptOutcome.isRunning : LiveHlsAttemptOutcome → Bool
  | .process _ => true
  | .stopped => true
  | .waitFailed => true
  | .capacityUnavailable => false
  | .spawnFailed => false

/-- The request's future is dropped at an await, or fails before it registers. -/
def Phase.isRequest : Phase → Bool
  | .checking => true
  | .deduping => true
  | .opening => true
  | .cleaned => true
  | .created => true
  | .rejected => true
  | .evicting _ => true
  | .stoppable => true
  | _ => false

namespace World

def advance (w : World) (start : Start) (phase : Phase) : World :=
  { w with starts := { start with phase } :: w.starts.erase start }

def leave (w : World) (start : Start) : World :=
  { w with starts := w.starts.erase start }

def setEntry (w : World) (start : Start) (status : Status) (now : Int) : World :=
  { w with
    sessions := updateEntry start.request.playSessionId
      (fun entry => { entry with status, updatedAt := now }) w.sessions }

def checkSession (w : World) (start : Start) (now : Int) : World :=
  match existingSession w.sessions start.request now with
  | .error _ => w.leave start
  | .ok (some entry) =>
    { w with sessions := w.sessions.insert start.request.playSessionId entry }.leave start
  | .ok none => w.advance start .deduping

def checkDedupe (w : World) (start : Start) : World :=
  match duplicateSession w.sessions start.request with
  | some _ => w.leave start
  | none => w.advance start .opening

def register (w : World) (start : Start) (now : Int) : World :=
  match registerLiveHlsSession w.sessions (start.entry now) with
  | .error _ => w.advance start .rejected
  | .ok (evicted, sessions) => { w with sessions }.advance start (.evicting evicted)

def exit (w : World) (start : Start) (attempt : Attempt) (outcome : LiveHlsAttemptOutcome) :
    World :=
  let firstSegmentReady := decide (start.request.layout.firstSegmentPath ∈ w.files)
  w.advance start (attempt.next firstSegmentReady outcome)

def output (w : World) (start : Start) : World :=
  if start.request.layout.sessionDir ∈ w.files then
    { w with files := start.request.layout.firstSegmentPath :: w.files }
  else w

def setFinal (w : World) (start : Start) (finalStatus : Status) (now : Int) : World :=
  let w := w.setEntry start finalStatus now
  if finalStatus = .completed then w.leave start else w.advance start (.deleting finalStatus)

def deleteFiles (w : World) (start : Start) (finalStatus : Status) : World :=
  let w := { w with
    files := cleanupHlsTranscodeFiles start.request.layout.mediaPlaylistPath w.files }
  if finalStatus = .stopped then w.advance start .forgetting else w.leave start

def stop (w : World) (playSessionId : String) : World :=
  match w.sessions.lookup playSessionId with
  | some entry =>
    { w with stopRequests := .read playSessionId entry.outputPath :: w.stopRequests }
  | none => w

def takeStop (w : World) (playSessionId : String) (outputPath : Path) : World :=
  let stopRequests := w.stopRequests.erase (.read playSessionId outputPath)
  if playSessionId ∈ w.stops then
    { w with stops := w.stops.erase playSessionId, stopRequests }
  else { w with stopRequests := .unsent playSessionId outputPath :: stopRequests }

def inPhase (w : World) (start : Start) (phase : Phase) (next : World) : Option World :=
  if start ∈ w.starts ∧ start.phase = phase then some next else none

def answering (w : World) (request : StopRequest) (next : World) : Option World :=
  if request ∈ w.stopRequests then some next else none

def step (w : World) : Action → Option World
  | .request request =>
    some { w with
      starts := ⟨w.nextStart, request, .checking⟩ :: w.starts
      nextStart := w.nextStart + 1 }
  | .giveUp start =>
    if start ∈ w.starts ∧ start.phase.isRequest = true then some (w.leave start) else none
  | .checkSession start now => w.inPhase start .checking (w.checkSession start now)
  | .checkDedupe start => w.inPhase start .deduping (w.checkDedupe start)
  -- The source is open and the disk reservation made.
  | .clean start => w.inPhase start .opening
      ({ w with files := cleanupHlsTranscodeDir start.request.layout.sessionDir w.files }.advance
        start .cleaned)
  | .createDir start => w.inPhase start .cleaned
      ({ w with files := createDirAll start.request.layout.sessionDir w.files }.advance
        start .created)
  | .register start now => w.inPhase start .created (w.register start now)
  | .cleanRejected start => w.inPhase start .rejected
      ({ w with
        files := cleanupHlsTranscodeFiles start.request.layout.mediaPlaylistPath w.files }.leave
        start)
  -- The directory is renamed to a fresh name, under which nobody else looks for it.
  | .quarantine start entry rest => w.inPhase start (.evicting (entry :: rest))
      ({ w with files := cleanupHlsTranscodeFiles entry.outputPath w.files }.advance
        start (.evicting rest))
  | .insertStop start => w.inPhase start (.evicting [])
      ({ w with stops := w.stops.insert start.request.playSessionId start.id }.advance
        start .stoppable)
  | .spawn start => w.inPhase start .stoppable
      (w.advance start (.queued ⟨start.request.plan.primary, start.request.plan.fallback, 1⟩))
  | .run start attempt now => w.inPhase start (.queued attempt)
      ((w.setEntry start .running now).advance start (.running attempt))
  | .output start attempt => w.inPhase start (.running attempt) (w.output start)
  | .unqueue start attempt outcome =>
    if outcome.isQueued then w.inPhase start (.queued attempt) (w.exit start attempt outcome)
    else none
  | .exit start attempt outcome =>
    if outcome.isRunning then w.inPhase start (.running attempt) (w.exit start attempt outcome)
    else none
  | .restart start attempt now => w.inPhase start (.restarting attempt)
      ((w.setEntry start .starting now).advance start (.recleaning attempt))
  | .reclean start attempt => w.inPhase start (.recleaning attempt)
      ({ w with files := cleanupHlsTranscodeDir start.request.layout.sessionDir w.files }.advance
        start (.recreating attempt))
  | .recreate start attempt => w.inPhase start (.recreating attempt)
      ({ w with files := createDirAll start.request.layout.sessionDir w.files }.advance
        start (.queued attempt))
  | .recreateFails start attempt => w.inPhase start (.recreating attempt)
      (w.advance start (.closing .failed))
  | .removeStop start finalStatus => w.inPhase start (.closing finalStatus)
      ({ w with stops := w.stops.erase start.request.playSessionId }.advance
        start (.settling finalStatus))
  | .setFinal start finalStatus now => w.inPhase start (.settling finalStatus)
      (w.setFinal start finalStatus now)
  | .deleteFiles start finalStatus => w.inPhase start (.deleting finalStatus)
      (w.deleteFiles start finalStatus)
  | .removeEntry start => w.inPhase start .forgetting
      ({ w with sessions := w.sessions.erase start.request.playSessionId }.leave start)
  | .stop playSessionId => some (w.stop playSessionId)
  | .takeStop playSessionId outputPath =>
    w.answering (.read playSessionId outputPath) (w.takeStop playSessionId outputPath)
  | .removeStopped playSessionId outputPath =>
    w.answering (.unsent playSessionId outputPath)
      { w with
        sessions := w.sessions.erase playSessionId
        stopRequests := .removed outputPath ::
          w.stopRequests.erase (.unsent playSessionId outputPath) }
  | .cleanStopped outputPath =>
    w.answering (.removed outputPath)
      { w with
        files := cleanupHlsTranscodeFiles outputPath w.files
        stopRequests := w.stopRequests.erase (.removed outputPath) }

end World

def liveHlsSessions : Machine World Action where
  init := {
    sessions := ∅
    stops := ∅
    files := []
    starts := []
    stopRequests := []
    nextStart := 0 }
  step := World.step

end Jellyrin.LiveTv.Hls
