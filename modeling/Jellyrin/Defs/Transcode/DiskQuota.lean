import Jellyrin.Defs.Data.HashMap
import Jellyrin.Defs.Data.FixedWidth
import Jellyrin.Defs.Transition.Machine

/-! Admission and shared monitoring of transcode output storage.  The critical
sections of the state mutex come first, as functions of the state; the machine
below interleaves them at that granularity. -/

namespace Jellyrin.Transcode.DiskQuota

abbrev Nanos := Nat

structure TranscodeDiskQuotaConfig where
  quotaBytes : UInt64
  reservationBytes : UInt64
  scanInterval : Nanos
  deriving DecidableEq

def TranscodeDiskQuotaConfig.normalize (config : TranscodeDiskQuotaConfig) :
    TranscodeDiskQuotaConfig :=
  let quotaBytes := if config.quotaBytes < 1 then 1 else config.quotaBytes
  { quotaBytes
    reservationBytes := U64.clamp 1 quotaBytes config.reservationBytes
    scanInterval := Nat.max config.scanInterval 1000000 }

inductive IoErrorKind where | notFound | other
  deriving DecidableEq

structure IoError where
  kind : IoErrorKind
  message : String
  deriving DecidableEq

inductive TranscodeDiskQuotaError where
  | io (error : IoError)
  | exhausted (quotaBytes usageBytes reservedBytes requestedBytes : UInt64)
  deriving DecidableEq

structure TranscodeDiskQuotaState where
  usageBytes : Option UInt64
  reservedBytes : UInt64
  reservations : HashMap UInt64 UInt64
  nextReservationId : UInt64
  lastScan : Option Nanos
  quotaExceeded : Bool
  monitorRunning : Bool
  successfulScans : UInt64
  failedScans : UInt64
  deriving DecidableEq

def TranscodeDiskQuotaState.new : TranscodeDiskQuotaState where
  usageBytes := none
  reservedBytes := 0
  reservations := ∅
  nextReservationId := 0
  lastScan := none
  quotaExceeded := false
  monitorRunning := false
  successfulScans := 0
  failedScans := 0

/-- First section of a refresh: the cached measurement, when it is fresh enough. -/
def cachedUsage (config : TranscodeDiskQuotaConfig) (force : Bool) (now : Nanos)
    (state : TranscodeDiskQuotaState) : Option UInt64 :=
  match state.usageBytes, state.lastScan with
  | some usageBytes, some lastScan =>
    if !force && decide (now - lastScan < config.scanInterval) then some usageBytes else none
  | _, _ => none

def missingRootUsage (state : TranscodeDiskQuotaState) : Except IoError UInt64 :=
  if state.reservations.isEmpty then .ok 0
  else .error ⟨.notFound, "active transcode storage root disappeared"⟩

def recordUsage (config : TranscodeDiskQuotaConfig) (now : Nanos) (usageBytes : UInt64)
    (state : TranscodeDiskQuotaState) : TranscodeDiskQuotaState :=
  { state with
    usageBytes := some usageBytes
    lastScan := some now
    quotaExceeded :=
      if state.reservations.isEmpty then decide (config.quotaBytes ≤ usageBytes)
      else if config.quotaBytes ≤ usageBytes then true
      else state.quotaExceeded
    successfulScans := U64.saturatingAdd state.successfulScans 1 }

def recordFailure (state : TranscodeDiskQuotaState) : TranscodeDiskQuotaState :=
  { state with
    lastScan := none
    failedScans := U64.saturatingAdd state.failedScans 1
    quotaExceeded := if state.reservations.isEmpty then state.quotaExceeded else true }

def probeReservationId (reservations : HashMap UInt64 UInt64) :
    Nat → UInt64 → Option (UInt64 × UInt64)
  | 0, _ => none
  | fuel + 1, id =>
    if id ∈ reservations then probeReservationId reservations fuel (id + 1)
    else some (id, id + 1)

/-- One probe more than there are entries decides the loop, see
`nextTranscodeDiskReservationId_isSome`. -/
def nextTranscodeDiskReservationId (state : TranscodeDiskQuotaState) :
    Option (UInt64 × UInt64) :=
  probeReservationId state.reservations (state.reservations.size + 1) state.nextReservationId

def projectedBytes (config : TranscodeDiskQuotaConfig) (state : TranscodeDiskQuotaState) :
    UInt64 :=
  U64.saturatingAdd (U64.saturatingAdd (state.usageBytes.getD 0) state.reservedBytes)
    config.reservationBytes

inductive Admission where
  | rejected (error : TranscodeDiskQuotaError)
  | admitted (id : UInt64) (startMonitor : Bool) (state : TranscodeDiskQuotaState)

def admission (config : TranscodeDiskQuotaConfig) (state : TranscodeDiskQuotaState) :
    Option Admission :=
  if config.quotaBytes < projectedBytes config state then
    some (.rejected (.exhausted config.quotaBytes (state.usageBytes.getD 0) state.reservedBytes
      config.reservationBytes))
  else do
    let (id, next) ← nextTranscodeDiskReservationId state
    some (.admitted id (!state.monitorRunning) { state with
      nextReservationId := next
      reservations := state.reservations.insert id config.reservationBytes
      reservedBytes := U64.saturatingAdd state.reservedBytes config.reservationBytes
      monitorRunning := true })

/-- The section of a reservation's `drop`; the flag says whether it sends `false`. -/
def release (id : UInt64) (state : TranscodeDiskQuotaState) :
    Option (TranscodeDiskQuotaState × Bool) :=
  match state.reservations.lookup id with
  | none => none
  | some bytes =>
    let reservations : HashMap UInt64 UInt64 := state.reservations.erase id
    some ({ state with
      reservations
      reservedBytes := U64.saturatingSub state.reservedBytes bytes
      lastScan := none
      quotaExceeded := if reservations.isEmpty then false else state.quotaExceeded },
      reservations.isEmpty)

def monitorShouldStop (state : TranscodeDiskQuotaState) : Bool × TranscodeDiskQuotaState :=
  if state.reservations.isEmpty then (true, { state with monitorRunning := false })
  else (false, state)

inductive Caller where | reserve | snapshot | refreshSnapshot | monitor
  deriving DecidableEq

def Caller.force : Caller → Bool
  | .reserve | .snapshot => false
  | .refreshSnapshot | .monitor => true

inductive Phase where
  | start
  | scanning
  | missing
  | usage (result : Except IoError UInt64)
  | recorded (usageBytes : UInt64)
  | publish (result : Except IoError UInt64) (quotaExceeded : Bool)
  | refreshed (result : Except IoError UInt64)
  | rejected (error : TranscodeDiskQuotaError)
  | admitted (id : UInt64) (startMonitor : Bool)
  deriving DecidableEq

/-- `selecting`, `woken` and `waiting` count the monitor tasks in their `select`,
past it, and queued on the gate.  `breached` is history: the ids of the present
reservations that were present when a scan breached the quota or failed. -/
structure World where
  state : TranscodeDiskQuotaState
  usageTx : Bool
  gate : Option (Caller × Phase)
  guards : List UInt64
  wake : Bool
  notifying : Nat
  selecting : Nat
  woken : Nat
  waiting : Nat
  now : Nanos
  breached : List UInt64
  deriving DecidableEq

def World.new : World where
  state := .new
  usageTx := false
  gate := none
  guards := []
  wake := false
  notifying := 0
  selecting := 0
  woken := 0
  waiting := 0
  now := 0
  breached := []

inductive Action where
  | lock (caller : Caller)
  | checkCache
  | scan (result : Except IoError (Option UInt64))
  | checkWriters
  | record
  | readFlag
  | publish
  | admission
  | spawn
  | reserveReturns
  | finish
  | cancel
  | drop (id : UInt64)
  | notify
  | monitorSleeps
  | monitorNotified
  | monitorChecks
  | elapse (time : Nanos)
  deriving DecidableEq

def Breach (config : TranscodeDiskQuotaConfig) : Except IoError UInt64 → Prop
  | .ok usageBytes => config.quotaBytes ≤ usageBytes
  | .error _ => True

def World.lock (w : World) : Caller → Option World
  | .monitor =>
    if w.gate = none ∧ 0 < w.waiting then
      some { w with gate := some (.monitor, .start), waiting := w.waiting - 1 }
    else none
  | caller => if w.gate = none then some { w with gate := some (caller, .start) } else none

/-- The refresh steps, the admission and the return of the holder of the gate. -/
def World.advance (config : TranscodeDiskQuotaConfig) (w : World) (caller : Caller)
    (phase : Phase) : Action → Option World
  | .checkCache =>
    match phase with
    | .start =>
      some { w with gate := some (caller,
        match cachedUsage config caller.force w.now w.state with
        | some usageBytes => .refreshed (.ok usageBytes)
        | none => .scanning) }
    | _ => none
  | .scan result =>
    match phase with
    | .scanning =>
      some { w with gate := some (caller,
        match result with
        | .ok (some usageBytes) => .usage (.ok usageBytes)
        | .ok none => .missing
        | .error error => .usage (.error error)) }
    | _ => none
  | .cancel =>
    -- Only a request future can be dropped at the scan; the monitor task is never aborted.
    match phase with
    | .scanning => if caller = .monitor then none else some { w with gate := none }
    | _ => none
  | .checkWriters =>
    match phase with
    | .missing => some { w with gate := some (caller, .usage (missingRootUsage w.state)) }
    | _ => none
  -- No reservation is admitted between a scan and its record, so the ones present
  -- at a record were present at the scan.
  | .record =>
    match phase with
    | .usage (.ok usageBytes) =>
      some { w with
        state := recordUsage config w.now usageBytes w.state
        breached := if config.quotaBytes ≤ usageBytes then w.state.reservations.keys
          else w.breached
        gate := some (caller, .recorded usageBytes) }
    | .usage (.error error) =>
      some { w with
        state := recordFailure w.state
        breached := w.state.reservations.keys
        gate := some (caller, .publish (.error error) (recordFailure w.state).quotaExceeded) }
    | _ => none
  | .readFlag =>
    match phase with
    | .recorded usageBytes =>
      some { w with gate := some (caller, .publish (.ok usageBytes) w.state.quotaExceeded) }
    | _ => none
  | .publish =>
    match phase with
    | .publish result quotaExceeded =>
      some { w with usageTx := quotaExceeded, gate := some (caller, .refreshed result) }
    | _ => none
  | .admission =>
    match caller, phase with
    | .reserve, .refreshed (.ok _) =>
      match admission config w.state with
      | none => none
      | some (.rejected error) => some { w with gate := some (caller, .rejected error) }
      | some (.admitted id startMonitor state) =>
        some { w with state, gate := some (caller, .admitted id startMonitor) }
    | _, _ => none
  | .spawn =>
    match phase with
    | .admitted id true =>
      some { w with selecting := w.selecting + 1, gate := some (caller, .admitted id false) }
    | _ => none
  | .reserveReturns =>
    match phase with
    | .admitted id false => some { w with guards := id :: w.guards, gate := none }
    | _ => none
  | .finish =>
    match caller, phase with
    | _, .rejected _ => some { w with gate := none }
    | .reserve, .refreshed (.ok _) => none
    | .monitor, .refreshed _ => some { w with gate := none, selecting := w.selecting + 1 }
    | _, .refreshed _ => some { w with gate := none }
    | _, _ => none
  | _ => none

def World.drop (w : World) (id : UInt64) : Option World :=
  if id ∈ w.guards then
    match release id w.state with
    | none => some { w with guards := w.guards.erase id }
    | some (state, sendsFalse) =>
      some { w with
        state
        usageTx := if sendsFalse then false else w.usageTx
        guards := w.guards.erase id
        notifying := w.notifying + 1
        breached := w.breached.filter (· ≠ id) }
  else none

def World.notify (w : World) : Option World :=
  if 0 < w.notifying then some { w with notifying := w.notifying - 1, wake := true } else none

def World.monitorSleeps (w : World) : Option World :=
  if 0 < w.selecting then some { w with selecting := w.selecting - 1, woken := w.woken + 1 }
  else none

def World.monitorNotified (w : World) : Option World :=
  if 0 < w.selecting ∧ w.wake then
    some { w with selecting := w.selecting - 1, woken := w.woken + 1, wake := false }
  else none

def World.monitorChecks (w : World) : Option World :=
  if 0 < w.woken then
    match monitorShouldStop w.state with
    | (true, state) => some { w with state, woken := w.woken - 1 }
    | (false, state) => some { w with state, woken := w.woken - 1, waiting := w.waiting + 1 }
  else none

def step (config : TranscodeDiskQuotaConfig) (w : World) : Action → Option World
  | .lock caller => w.lock caller
  | .drop id => w.drop id
  | .notify => w.notify
  | .monitorSleeps => w.monitorSleeps
  | .monitorNotified => w.monitorNotified
  | .monitorChecks => w.monitorChecks
  | .elapse time => some { w with now := w.now + time }
  | action => w.gate.bind fun (caller, phase) => w.advance config caller phase action

/-- `TranscodeDiskQuota::new` and everything its clones, guards and monitor do. -/
def TranscodeDiskQuota.new (config : TranscodeDiskQuotaConfig) :
    Transition.Machine World Action where
  init := .new
  step := step config.normalize

end Jellyrin.Transcode.DiskQuota
