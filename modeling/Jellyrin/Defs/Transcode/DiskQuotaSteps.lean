import Jellyrin.Defs.Transcode.DiskQuota

/-! What each step of the disk quota machine can do, stated once. -/

namespace Jellyrin.Transcode.DiskQuota

variable {config : TranscodeDiskQuotaConfig}

theorem probeReservationId_eq_some {reservations : HashMap UInt64 UInt64} {fuel : Nat}
    {start id next : UInt64}
    (h : probeReservationId reservations fuel start = some (id, next)) : id ∉ reservations := by
  induction fuel generalizing start with
  | zero => cases h
  | succ fuel ih =>
    simp only [probeReservationId] at h
    split at h
    · exact ih h
    · cases h
      assumption

theorem mem_of_probeReservationId_eq_none {reservations : HashMap UInt64 UInt64} {fuel : Nat}
    {start : UInt64} (h : probeReservationId reservations fuel start = none) :
    ∀ i < fuel, start + UInt64.ofNat i ∈ reservations := by
  induction fuel generalizing start with
  | zero => simp
  | succ fuel ih =>
    simp only [probeReservationId] at h
    split at h
    · rename_i hmem
      intro i hi
      cases i with
      | zero => simpa using hmem
      | succ i =>
        have hshift : start + UInt64.ofNat (i + 1) = start + 1 + UInt64.ofNat i := by
          rw [UInt64.ofNat_add, UInt64.add_assoc, UInt64.add_comm (UInt64.ofNat i)]
          rfl
        rw [hshift]
        exact ih h i (by omega)
    · cases h

variable {state : TranscodeDiskQuotaState}

theorem nextTranscodeDiskReservationId_isSome (h : state.reservations.size < 2 ^ 64) :
    (nextTranscodeDiskReservationId state).isSome := by
  by_contra hnone
  have hmem := mem_of_probeReservationId_eq_none (Option.not_isSome_iff_eq_none.mp hnone)
  let probes := (List.range (state.reservations.size + 1)).map fun i =>
    state.nextReservationId + UInt64.ofNat i
  have hnodup : probes.Nodup := by
    refine (List.nodup_range).map_on fun i hi j hj hij => ?_
    have hi' := List.mem_range.mp hi
    have hj' := List.mem_range.mp hj
    have hnat := congrArg UInt64.toNat (UInt64.add_right_inj _ |>.mp hij)
    rw [UInt64.toNat_ofNat', UInt64.toNat_ofNat', Nat.mod_eq_of_lt (by omega),
      Nat.mod_eq_of_lt (by omega)] at hnat
    exact hnat
  have hsub : probes ⊆ state.reservations.keys := by
    intro id hid
    obtain ⟨i, hi, rfl⟩ := List.mem_map.mp hid
    exact hmem i (List.mem_range.mp hi)
  have hlen := hnodup.length_le_of_subset hsub
  simp only [probes, List.length_map, List.length_range] at hlen
  exact absurd hlen (by simp [HashMap.size])

theorem admission_eq_rejected {error : TranscodeDiskQuotaError}
    (h : admission config state = some (.rejected error)) :
    config.quotaBytes < projectedBytes config state := by
  simp only [admission] at h
  split at h
  · assumption
  · cases hn : nextTranscodeDiskReservationId state <;> simp [hn] at h

theorem admission_eq_admitted {state' : TranscodeDiskQuotaState} {id : UInt64} {start : Bool}
    (h : admission config state = some (.admitted id start state')) :
    projectedBytes config state ≤ config.quotaBytes ∧ id ∉ state.reservations ∧
      start = !state.monitorRunning ∧ ∃ next, state' = { state with
        nextReservationId := next
        reservations := state.reservations.insert id config.reservationBytes
        reservedBytes := U64.saturatingAdd state.reservedBytes config.reservationBytes
        monitorRunning := true } := by
  simp only [admission] at h
  split at h
  · cases h
  · rename_i hle
    cases hn : nextTranscodeDiskReservationId state with
    | none => simp [hn] at h
    | some found =>
      obtain ⟨found, next⟩ := found
      simp only [hn, Option.bind_eq_bind, Option.bind_some, Option.some.injEq,
        Admission.admitted.injEq] at h
      obtain ⟨rfl, rfl, rfl⟩ := h
      exact ⟨UInt64.not_lt.mp hle, probeReservationId_eq_some hn, rfl, next, rfl⟩

theorem release_eq_some {state' : TranscodeDiskQuotaState} {id : UInt64} {sends : Bool}
    (h : release id state = some (state', sends)) :
    ∃ bytes, state.reservations.lookup id = some bytes ∧
      sends = HashMap.isEmpty (state.reservations.erase id) ∧ state' = { state with
        reservations := state.reservations.erase id
        reservedBytes := U64.saturatingSub state.reservedBytes bytes
        lastScan := none
        quotaExceeded := if sends then false else state.quotaExceeded } := by
  simp only [release] at h
  split at h
  · cases h
  · rename_i bytes hbytes
    simp only [Option.some.injEq, Prod.mk.injEq] at h
    obtain ⟨rfl, rfl⟩ := h
    exact ⟨bytes, hbytes, rfl, rfl⟩

theorem release_eq_none {id : UInt64} (h : release id state = none) : id ∉ state.reservations := by
  simp only [release] at h
  split at h
  · rename_i hnone
    exact AList.lookup_eq_none.mp hnone
  · cases h

theorem monitorShouldStop_eq (state : TranscodeDiskQuotaState) :
    monitorShouldStop state = (state.reservations.isEmpty,
      if state.reservations.isEmpty then { state with monitorRunning := false } else state) := by
  simp only [monitorShouldStop]
  cases state.reservations.isEmpty <;> rfl

inductive Step (config : TranscodeDiskQuotaConfig) : World → Action → World → Prop
  | lock {w caller} : caller ≠ .monitor → w.gate = none →
      Step config w (.lock caller) { w with gate := some (caller, .start) }
  | lockMonitor {w} : w.gate = none → 0 < w.waiting →
      Step config w (.lock .monitor)
        { w with gate := some (.monitor, .start), waiting := w.waiting - 1 }
  | cached {w caller usageBytes} : w.gate = some (caller, .start) →
      cachedUsage config caller.force w.now w.state = some usageBytes →
      Step config w .checkCache { w with gate := some (caller, .refreshed (.ok usageBytes)) }
  | stale {w caller} : w.gate = some (caller, .start) →
      cachedUsage config caller.force w.now w.state = none →
      Step config w .checkCache { w with gate := some (caller, .scanning) }
  | scanned {w caller usageBytes} : w.gate = some (caller, .scanning) →
      Step config w (.scan (.ok (some usageBytes)))
        { w with gate := some (caller, .usage (.ok usageBytes)) }
  | scannedMissing {w caller} : w.gate = some (caller, .scanning) →
      Step config w (.scan (.ok none)) { w with gate := some (caller, .missing) }
  | scanFailed {w caller error} : w.gate = some (caller, .scanning) →
      Step config w (.scan (.error error)) { w with gate := some (caller, .usage (.error error)) }
  | cancel {w caller} : w.gate = some (caller, .scanning) → caller ≠ .monitor →
      Step config w .cancel { w with gate := none }
  | checkWriters {w caller} : w.gate = some (caller, .missing) →
      Step config w .checkWriters
        { w with gate := some (caller, .usage (missingRootUsage w.state)) }
  | recordUsage {w caller usageBytes} : w.gate = some (caller, .usage (.ok usageBytes)) →
      Step config w .record { w with
        state := recordUsage config w.now usageBytes w.state
        breached := if config.quotaBytes ≤ usageBytes then w.state.reservations.keys
          else w.breached
        gate := some (caller, .recorded usageBytes) }
  | recordFailure {w caller error} : w.gate = some (caller, .usage (.error error)) →
      Step config w .record { w with
        state := recordFailure w.state
        breached := w.state.reservations.keys
        gate := some (caller, .publish (.error error) (recordFailure w.state).quotaExceeded) }
  | readFlag {w caller usageBytes} : w.gate = some (caller, .recorded usageBytes) →
      Step config w .readFlag
        { w with gate := some (caller, .publish (.ok usageBytes) w.state.quotaExceeded) }
  | publish {w caller result flag} : w.gate = some (caller, .publish result flag) →
      Step config w .publish { w with usageTx := flag, gate := some (caller, .refreshed result) }
  | reject {w usageBytes error} : w.gate = some (.reserve, .refreshed (.ok usageBytes)) →
      admission config w.state = some (.rejected error) →
      Step config w .admission { w with gate := some (.reserve, .rejected error) }
  | admission {w usageBytes id start state} :
      w.gate = some (.reserve, .refreshed (.ok usageBytes)) →
      admission config w.state = some (.admitted id start state) →
      Step config w .admission { w with state, gate := some (.reserve, .admitted id start) }
  | spawn {w caller id} : w.gate = some (caller, .admitted id true) →
      Step config w .spawn
        { w with selecting := w.selecting + 1, gate := some (caller, .admitted id false) }
  | reserveReturns {w caller id} : w.gate = some (caller, .admitted id false) →
      Step config w .reserveReturns { w with guards := id :: w.guards, gate := none }
  | finishRejected {w caller error} : w.gate = some (caller, .rejected error) →
      Step config w .finish { w with gate := none }
  | finishMonitor {w result} : w.gate = some (.monitor, .refreshed result) →
      Step config w .finish { w with gate := none, selecting := w.selecting + 1 }
  | finishRequest {w caller result} : w.gate = some (caller, .refreshed result) →
      caller ≠ .monitor → Step config w .finish { w with gate := none }
  | dropAbsent {w id} : id ∈ w.guards → release id w.state = none →
      Step config w (.drop id) { w with guards := w.guards.erase id }
  | drop {w id state sends} : id ∈ w.guards → release id w.state = some (state, sends) →
      Step config w (.drop id) { w with
        state
        usageTx := if sends then false else w.usageTx
        guards := w.guards.erase id
        notifying := w.notifying + 1
        breached := w.breached.filter (· ≠ id) }
  | notify {w} : 0 < w.notifying →
      Step config w .notify { w with notifying := w.notifying - 1, wake := true }
  | monitorSleeps {w} : 0 < w.selecting →
      Step config w .monitorSleeps
        { w with selecting := w.selecting - 1, woken := w.woken + 1 }
  | monitorNotified {w} : 0 < w.selecting → w.wake = true →
      Step config w .monitorNotified
        { w with selecting := w.selecting - 1, woken := w.woken + 1, wake := false }
  | monitorStops {w} : 0 < w.woken → w.state.reservations.isEmpty = true →
      Step config w .monitorChecks
        { w with state := { w.state with monitorRunning := false }, woken := w.woken - 1 }
  | monitorContinues {w} : 0 < w.woken → w.state.reservations.isEmpty = false →
      Step config w .monitorChecks
        { w with woken := w.woken - 1, waiting := w.waiting + 1 }
  | elapse {w time} : Step config w (.elapse time) { w with now := w.now + time }

variable {w w' : World}

variable {caller : Caller}

theorem Step.of_lock (h : w.lock caller = some w') : Step config w (.lock caller) w' := by
  simp only [World.lock] at h
  split at h <;> split at h <;> cases h
  · rename_i hc
    exact .lockMonitor hc.1 hc.2
  · rename_i hne hg
    exact .lock hne hg

theorem Step.of_drop {id : UInt64} (h : w.drop id = some w') : Step config w (.drop id) w' := by
  simp only [World.drop] at h
  split at h
  · rename_i hid
    cases hr : release id w.state with
    | none =>
      rw [hr] at h
      cases h
      exact .dropAbsent hid hr
    | some result =>
      obtain ⟨state, sends⟩ := result
      rw [hr] at h
      cases h
      exact .drop hid hr
  · cases h

theorem Step.of_notify (h : w.notify = some w') : Step config w .notify w' := by
  simp only [World.notify] at h
  split at h <;> cases h
  exact .notify ‹_›

theorem Step.of_monitorSleeps (h : w.monitorSleeps = some w') :
    Step config w .monitorSleeps w' := by
  simp only [World.monitorSleeps] at h
  split at h <;> cases h
  exact .monitorSleeps ‹_›

theorem Step.of_monitorNotified (h : w.monitorNotified = some w') :
    Step config w .monitorNotified w' := by
  simp only [World.monitorNotified] at h
  split at h <;> cases h
  rename_i hs
  exact .monitorNotified hs.1 hs.2

theorem Step.of_monitorChecks (h : w.monitorChecks = some w') :
    Step config w .monitorChecks w' := by
  simp only [World.monitorChecks] at h
  rw [monitorShouldStop_eq] at h
  split at h
  · rename_i hw
    cases he : w.state.reservations.isEmpty <;> simp only [he] at h <;> cases h
    · exact .monitorContinues hw he
    · exact .monitorStops hw he
  · cases h

theorem Step.of_record {phase : Phase} (hg : w.gate = some (caller, phase))
    (h : w.advance config caller phase .record = some w') : Step config w .record w' := by
  simp only [World.advance] at h
  split at h <;> cases h
  · exact .recordUsage hg
  · exact .recordFailure hg

theorem Step.of_scan {phase : Phase} {result : Except IoError (Option UInt64)}
    (hg : w.gate = some (caller, phase))
    (h : w.advance config caller phase (.scan result) = some w') :
    Step config w (.scan result) w' := by
  simp only [World.advance] at h
  split at h <;> cases h
  split
  · exact .scanned hg
  · exact .scannedMissing hg
  · exact .scanFailed hg

theorem Step.of_admission {phase : Phase} (hg : w.gate = some (caller, phase))
    (h : w.advance config caller phase .admission = some w') : Step config w .admission w' := by
  simp only [World.advance] at h
  split at h
  · split at h <;> cases h
    · exact .reject hg ‹_›
    · exact .admission hg ‹_›
  · cases h

theorem Step.of_finish {phase : Phase} (hg : w.gate = some (caller, phase))
    (h : w.advance config caller phase .finish = some w') : Step config w .finish w' := by
  simp only [World.advance] at h
  split at h <;> cases h
  · exact .finishRejected hg
  · exact .finishMonitor hg
  · exact .finishRequest hg ‹_›

theorem Step.of_advance {phase : Phase} {action : Action} (hg : w.gate = some (caller, phase))
    (h : w.advance config caller phase action = some w') : Step config w action w' := by
  cases action with
  | checkCache =>
    simp only [World.advance] at h
    split at h <;> cases h
    cases hc : cachedUsage config caller.force w.now w.state
    · exact .stale hg hc
    · exact .cached hg hc
  | scan result => exact .of_scan hg h
  | cancel =>
    simp only [World.advance] at h
    split at h
    · split at h <;> cases h
      exact .cancel hg ‹_›
    · cases h
  | checkWriters =>
    simp only [World.advance] at h
    split at h <;> cases h
    exact .checkWriters hg
  | record => exact .of_record hg h
  | readFlag =>
    simp only [World.advance] at h
    split at h <;> cases h
    exact .readFlag hg
  | publish =>
    simp only [World.advance] at h
    split at h <;> cases h
    exact .publish hg
  | admission => exact .of_admission hg h
  | spawn =>
    simp only [World.advance] at h
    split at h <;> cases h
    exact .spawn hg
  | reserveReturns =>
    simp only [World.advance] at h
    split at h <;> cases h
    exact .reserveReturns hg
  | finish => exact .of_finish hg h
  | _ => cases h

theorem Step.of_step {action : Action} (h : step config w action = some w') :
    Step config w action w' := by
  cases action with
  | lock caller => exact .of_lock h
  | drop id => exact .of_drop h
  | notify => exact .of_notify h
  | monitorSleeps => exact .of_monitorSleeps h
  | monitorNotified => exact .of_monitorNotified h
  | monitorChecks => exact .of_monitorChecks h
  | elapse time =>
    cases h
    exact .elapse
  | _ =>
    obtain ⟨⟨caller, phase⟩, hg, ha⟩ := Option.bind_eq_some_iff.mp h
    exact .of_advance hg ha

end Jellyrin.Transcode.DiskQuota
