import Jellyrin.Defs.Transcode.DiskQuotaSignal

/-! What a finished refresh has published, for the writers that were there and for
the first writer after them. -/

namespace Jellyrin.Transcode.DiskQuota

open Transition

section

variable {config : TranscodeDiskQuotaConfig} {w w' : World} {action : Action}

structure Publishing (config : TranscodeDiskQuotaConfig) (w : World) : Prop where
  recorded : ∀ caller usageBytes, w.gate = some (caller, .recorded usageBytes) →
    w.state.reservations.isEmpty = false → config.quotaBytes ≤ usageBytes →
    w.state.quotaExceeded = true
  publish : ∀ caller result flag, w.gate = some (caller, .publish result flag) →
    w.state.reservations.isEmpty = false → Breach config result →
    w.state.quotaExceeded = true ∧ flag = true

theorem Publishing.new : Publishing config .new where
  recorded _ _ h := by cases h
  publish _ _ _ h := by cases h

theorem Publishing.of_gate (hr : ∀ caller usageBytes, w.gate ≠ some (caller, .recorded usageBytes))
    (hp : ∀ caller result flag, w.gate ≠ some (caller, .publish result flag)) :
    Publishing config w where
  recorded caller usageBytes h := absurd h (hr caller usageBytes)
  publish caller result flag h := absurd h (hp caller result flag)

theorem Publishing.congr (hi : Publishing config w) (hg : w'.gate = w.gate)
    (he : w'.state.reservations.isEmpty = false → w.state.reservations.isEmpty = false ∧
      w'.state.quotaExceeded = w.state.quotaExceeded) : Publishing config w' where
  recorded caller usageBytes h hne := by
    obtain ⟨hne, hflag⟩ := he hne
    rw [hflag]
    exact hi.recorded caller usageBytes (hg ▸ h) hne
  publish caller result flag h hne := by
    obtain ⟨hne, hflag⟩ := he hne
    rw [hflag]
    exact hi.publish caller result flag (hg ▸ h) hne

variable {id : UInt64} {state : TranscodeDiskQuotaState}

theorem Publishing.drop (hi : Publishing config w) {sends : Bool}
    (hr : release id w.state = some (state, sends)) (hw : w'.state = state)
    (hg : w'.gate = w.gate) : Publishing config w' := by
  obtain ⟨bytes, hbytes, rfl, rfl⟩ := release_eq_some hr
  refine hi.congr hg fun hne => ?_
  rw [hw] at hne ⊢
  have hmem := AList.lookup_isSome.mp (Option.isSome_of_eq_some hbytes)
  refine ⟨HashMap.isEmpty_eq_false_of_mem hmem, ?_⟩
  simp only at hne ⊢
  rw [hne]
  rfl

theorem Publishing.step (hi : Publishing config w) (h : Step config w action w') :
    Publishing config w' := by
  cases h
  case recordUsage hg =>
    refine ⟨fun caller usageBytes hgate hne hle => ?_, fun _ _ _ hgate => by cases hgate⟩
    cases hgate
    exact recordUsage_quotaExceeded_of_le w.now hle
  case recordFailure hg =>
    refine ⟨fun _ _ hgate => by (cases hgate), fun caller result flag hgate hne _ => ?_⟩
    cases hgate
    have hflag : (DiskQuota.recordFailure w.state).quotaExceeded = true :=
      recordFailure_quotaExceeded hne
    exact ⟨hflag, hflag⟩
  case readFlag hg =>
    refine ⟨fun _ _ hgate => by (cases hgate), fun caller result flag hgate hne hbreach => ?_⟩
    cases hgate
    have hflag := hi.recorded _ _ hg hne hbreach
    exact ⟨hflag, hflag⟩
  case drop hid hr => exact hi.drop hr rfl rfl
  case dropAbsent => exact hi.congr rfl fun h => ⟨h, rfl⟩
  case notify => exact hi.congr rfl fun h => ⟨h, rfl⟩
  case monitorSleeps => exact hi.congr rfl fun h => ⟨h, rfl⟩
  case monitorNotified => exact hi.congr rfl fun h => ⟨h, rfl⟩
  case monitorStops => exact hi.congr rfl fun h => ⟨h, rfl⟩
  case monitorContinues => exact hi.congr rfl fun h => ⟨h, rfl⟩
  case elapse => exact hi.congr rfl fun h => ⟨h, rfl⟩
  all_goals
    refine .of_gate ?_ ?_
    · rintro _ _ ⟨⟩
    · rintro _ _ _ ⟨⟩

theorem publishing_of_reachable (h : (TranscodeDiskQuota.new config).Reachable w) :
    Publishing config.normalize w :=
  h.invariant Publishing.new fun _ _ _ hs ha => hs.step (.of_step ha)

structure Sticky (id : UInt64) (w : World) : Prop where
  live : id ∈ w.state.reservations
  flag : w.state.quotaExceeded = true
  published : w.usageTx = true
  publish : ∀ caller result flag, w.gate = some (caller, .publish result flag) → flag = true

theorem Sticky.nonempty (hi : Sticky id w) :
    w.state.reservations.isEmpty = false := HashMap.isEmpty_eq_false_of_mem hi.live

theorem Sticky.congr (hi : Sticky id w) (hr : w'.state.reservations = w.state.reservations)
    (hf : w'.state.quotaExceeded = w.state.quotaExceeded) (hu : w'.usageTx = w.usageTx)
    (hp : ∀ caller result flag, w'.gate = some (caller, .publish result flag) →
      w.gate = w'.gate ∨ flag = w.state.quotaExceeded) : Sticky id w' where
  live := hr ▸ hi.live
  flag := hf ▸ hi.flag
  published := hu ▸ hi.published
  publish caller result flag hg := by
    obtain hsame | hflag := hp caller result flag hg
    · exact hi.publish caller result flag (hsame.trans hg)
    · exact hflag.trans hi.flag

theorem Sticky.drop {other : UInt64} (hi : Sticky id w) (hne : id ≠ other) {sends : Bool}
    (hr : release other w.state = some (state, sends)) :
    Sticky id { w with
      state
      usageTx := if sends then false else w.usageTx
      guards := w.guards.erase other
      notifying := w.notifying + 1
      breached := w.breached.filter (· ≠ other) } := by
  obtain ⟨bytes, -, rfl, rfl⟩ := release_eq_some hr
  have hlive : id ∈ w.state.reservations.erase other := AList.mem_erase.mpr ⟨hne, hi.live⟩
  have he : HashMap.isEmpty (w.state.reservations.erase other) = false :=
    HashMap.isEmpty_eq_false_of_mem hlive
  simp only [he]
  exact ⟨hlive, hi.flag, hi.published, hi.publish⟩

theorem Sticky.step (hi : Sticky id w) (hne : action ≠ .drop id) (h : Step config w action w') :
    Sticky id w' := by
  cases h
  case recordUsage caller usageBytes hg =>
    refine ⟨hi.live, ?_, hi.published, fun _ _ _ hgate => by cases hgate⟩
    by_cases hle : config.quotaBytes ≤ usageBytes
    · exact recordUsage_quotaExceeded_of_le w.now hle
    · exact (recordUsage_quotaExceeded_of_lt w.now hi.nonempty hle).trans hi.flag
  case recordFailure hg =>
    have hflag := recordFailure_quotaExceeded hi.nonempty
    refine ⟨hi.live, hflag, hi.published, fun _ _ _ hgate => ?_⟩
    cases hgate
    exact hflag
  case readFlag hg =>
    refine hi.congr rfl rfl rfl fun _ _ _ hgate => .inr ?_
    cases hgate
    rfl
  case publish hg =>
    exact ⟨hi.live, hi.flag, hi.publish _ _ _ hg, fun _ _ _ hgate => by cases hgate⟩
  case admission hg ha =>
    obtain ⟨-, -, -, next, rfl⟩ := admission_eq_admitted ha
    exact ⟨AList.mem_insert _ |>.mpr (.inr hi.live), hi.flag, hi.published,
      fun _ _ _ hgate => by cases hgate⟩
  case drop other state sends hid hr => exact hi.drop (fun heq => hne (heq ▸ rfl)) hr
  all_goals
    refine hi.congr rfl rfl rfl fun _ _ _ hgate => ?_
    first
    | exact .inl rfl
    | cases hgate

theorem Sticky.steps (hi : Sticky id w)
    (h : (TranscodeDiskQuota.new config).Steps (fun _ action => action ≠ .drop id) w w') :
    Sticky id w' :=
  h.invariant (fun _ _ _ hs hne ha => hs.step hne (.of_step ha)) hi

theorem sticky_of_publish {caller : Caller} {result : Except IoError UInt64} {flag : Bool}
    (hi : Publishing config w) (hlive : id ∈ w.state.reservations)
    (hg : w.gate = some (caller, .publish result flag)) (hbreach : Breach config result)
    (h : DiskQuota.step config w .publish = some w') : Sticky id w' := by
  obtain ⟨hflag, rfl⟩ := hi.publish _ _ _ hg (HashMap.isEmpty_eq_false_of_mem hlive) hbreach
  cases Step.of_step h with
  | publish hg' =>
    rw [hg] at hg'
    cases hg'
    exact ⟨hlive, hflag, rfl, fun _ _ _ hgate => by cases hgate⟩

def CacheSettled (config : TranscodeDiskQuotaConfig) (w : World) : Prop :=
  w.state.reservations.isEmpty = true → w.state.lastScan ≠ none →
    ∃ usageBytes, w.state.usageBytes = some usageBytes ∧
      settledSignal w = decide (config.quotaBytes ≤ usageBytes)

theorem CacheSettled.step (hi : CacheSettled config w) (h : Step config w action w') :
    CacheSettled config w' := by
  intro he hl
  cases h
  case recordUsage caller usageBytes hg =>
    exact ⟨usageBytes, rfl, recordUsage_quotaExceeded_of_isEmpty w.now usageBytes he⟩
  case recordFailure => exact absurd rfl hl
  case admission hg ha =>
    obtain ⟨-, -, -, next, rfl⟩ := admission_eq_admitted ha
    rw [HashMap.isEmpty_insert] at he
    cases he
  case drop hid hr =>
    obtain ⟨bytes, -, -, rfl⟩ := release_eq_some hr
    exact absurd rfl hl
  all_goals
    obtain ⟨usageBytes, husage, hsettled⟩ := hi he hl
    refine ⟨usageBytes, husage, ?_⟩
    simp_all [settledSignal]

theorem cacheSettled_of_reachable (h : (TranscodeDiskQuota.new config).Reachable w) :
    CacheSettled config.normalize w :=
  h.invariant (fun _ hl => absurd rfl hl) fun _ _ _ hs ha => hs.step (.of_step ha)

/-- No last writer leaves between the flag that an admission's refresh read and
the publication of it, and the admission's sum is not saturated. -/
structure KeepsSignal (config : TranscodeDiskQuotaConfig) (w : World) (action : Action) :
    Prop where
  fits : AdmissionFits config w action
  drop : ∀ id usageBytes, action = .drop id →
    w.gate = some (.reserve, .publish (.ok usageBytes) true) →
    usageBytes.toNat + config.reservationBytes.toNat ≤ config.quotaBytes.toNat →
    HashMap.isEmpty (w.state.reservations.erase id) = false

def LoweredBehind (config : TranscodeDiskQuotaConfig) (w : World) : Prop :=
  ∀ phase usageBytes, w.gate = some (.reserve, phase) → phase.measured = some usageBytes →
    w.state.reservations.isEmpty = true → w.state.lastScan = none →
    usageBytes.toNat + config.reservationBytes.toNat ≤ config.quotaBytes.toNat →
    settledSignal w = false

theorem LoweredBehind.drop {sends : Bool} (hc : KeepsSignal config w (.drop id))
    (hr : release id w.state = some (state, sends)) : LoweredBehind config { w with
      state
      usageTx := if sends then false else w.usageTx
      guards := w.guards.erase id
      notifying := w.notifying + 1
      breached := w.breached.filter (· ≠ id) } := by
  obtain ⟨bytes, -, rfl, rfl⟩ := release_eq_some hr
  intro phase usageBytes hg hm he _ hle
  dsimp only at hg he
  cases phase with
  | recorded _ => simp [settledSignal, hg, he]
  | refreshed _ => simp [settledSignal, hg, he]
  | publish result flag =>
    cases result with
    | error error => cases hm
    | ok measured =>
      cases hm
      cases flag with
      | false => simp [settledSignal, hg]
      | true => exact absurd he (by simp [hc.drop id _ rfl hg hle])
  | _ => cases hm

theorem LoweredBehind.step (hi : LoweredBehind config w) (hc : KeepsSignal config w action)
    (h : Step config w action w') : LoweredBehind config w' := by
  cases h
  case drop hid hr => exact .drop hc hr
  case readFlag hg =>
    rintro phase usageBytes ⟨⟩ hm he hl hle
    have hsettled := hi _ _ hg hm he hl hle
    rwa [settledSignal, hg] at hsettled
  case publish result flag hg =>
    rintro phase usageBytes ⟨⟩ hm he hl hle
    have hm' : (Phase.publish result flag).measured = some usageBytes := by
      cases result <;> exact hm
    have hsettled := hi _ _ hg hm' he hl hle
    rwa [settledSignal, hg] at hsettled
  case cached hg hcache =>
    rintro phase usageBytes - hm he hl hle
    exact absurd hl (cachedUsage_eq_some hcache).2
  case recordUsage hg =>
    rintro phase usageBytes - hm he hl hle
    cases hl
  all_goals
    intro phase usageBytes hg' hm he hl hle
    first
    | exact hi phase usageBytes hg' hm he hl hle
    | cases hg' <;> cases hm

theorem loweredBehind_of_reaches
    (h : (TranscodeDiskQuota.new config).Reaches (KeepsSignal config.normalize) w) :
    LoweredBehind config.normalize w :=
  h.invariant (J := fun _ => True) (fun _ _ => trivial) (fun _ _ hg => by cases hg)
    fun _ _ _ _ hi hc ha => hi.step hc (.of_step ha)

theorem usageTx_of_admission
    (hw : (TranscodeDiskQuota.new config).Reaches (KeepsSignal config.normalize) w)
    (hc : KeepsSignal config.normalize w .admission) (he : w.state.reservations.isEmpty = true)
    {usageBytes : UInt64} {start : Bool}
    (hg : w.gate = some (.reserve, .refreshed (.ok usageBytes)))
    (ha : admission config.normalize w.state = some (.admitted id start state)) :
    w.usageTx = false := by
  have husage := measured_of_reachable hw.reachable _ _ _ hg rfl
  have hfit := projectedBytes_exact (admission_eq_admitted ha).1 (hc.fits rfl)
  have hpos := normalize_reservationBytes_pos config
  rw [husage, Option.getD_some] at hfit
  rw [← settledSignal_of_refreshed hg]
  cases hl : w.state.lastScan with
  | none => exact loweredBehind_of_reaches hw _ _ hg rfl he hl (by omega)
  | some lastScan =>
    obtain ⟨cached, hcached, hsettled⟩ :=
      cacheSettled_of_reachable hw.reachable he (by simp [hl])
    rw [husage] at hcached
    cases hcached
    rw [hsettled, decide_eq_false_iff_not, UInt64.le_iff_toNat_le]
    omega

/-- From the admission to the return there is no guard whose drop could run. -/
structure Returning (w : World) : Prop where
  gate : ∃ caller id start, w.gate = some (caller, .admitted id start)
  guards : w.guards = []
  lowered : w.usageTx = false

theorem Returning.step (hi : Returning w) (hne : action ≠ .reserveReturns)
    (h : Step config w action w') : Returning w' := by
  obtain ⟨caller, id, start, hgate⟩ := hi.gate
  cases h
  case spawn => exact ⟨⟨_, _, _, rfl⟩, hi.guards, hi.lowered⟩
  case reserveReturns => exact absurd rfl hne
  case drop hid _ =>
    rw [hi.guards] at hid
    cases hid
  case dropAbsent hid _ =>
    rw [hi.guards] at hid
    cases hid
  all_goals first
    | exact ⟨⟨_, _, _, hgate⟩, hi.guards, hi.lowered⟩
    | simp_all

theorem Returning.steps (hi : Returning w)
    (h : (TranscodeDiskQuota.new config).Steps
      (fun _ action => action ≠ .reserveReturns) w w') : Returning w' :=
  h.invariant (fun _ _ _ hs hne ha => hs.step hne (.of_step ha)) hi

def ReservesIntoEmpty (config : TranscodeDiskQuotaConfig) (w r : World) : Prop :=
  w.state.reservations.isEmpty = true ∧ ∃ a b id start,
    (TranscodeDiskQuota.new config).step w .admission = some a ∧
    a.gate = some (.reserve, .admitted id start) ∧
    (TranscodeDiskQuota.new config).Steps (fun _ action => action ≠ .reserveReturns) a b ∧
    (TranscodeDiskQuota.new config).step b .reserveReturns = some r

theorem usageTx_of_reservesIntoEmpty
    (hw : (TranscodeDiskQuota.new config).Reaches (KeepsSignal config.normalize) w)
    (hc : KeepsSignal config.normalize w .admission) (h : ReservesIntoEmpty config w w') :
    w'.usageTx = false := by
  obtain ⟨he, a, b, id, start, hadmission, hgate, hsteps, hreturn⟩ := h
  have hguards : w.guards = [] := by
    refine List.eq_nil_iff_forall_not_mem.mpr fun id hid => ?_
    exact HashMap.isEmpty_iff.mp he id
      ((booked_of_reachable hw.reachable).mem_iff id |>.mpr (List.mem_append_right _ hid))
  have ha : Returning a := by
    cases (Step.of_step hadmission : Step config.normalize w .admission a) with
    | reject => cases hgate
    | admission hg ha =>
      have hlow := usageTx_of_admission hw hc he hg ha
      exact ⟨⟨_, _, _, rfl⟩, hguards, hlow⟩
  cases (Step.of_step hreturn : Step config.normalize b .reserveReturns w') with
  | reserveReturns => exact (ha.steps hsteps).lowered

/-- Each of the two guarantees of the channel: a completed breach stays visible to
its writers along every run; a first admission meets a lowered signal along the
runs in which no last writer slips in before the publication. -/
theorem signal_follows_flag (config : TranscodeDiskQuotaConfig) :
    (∀ w w₁ w₂ id caller result flag, (TranscodeDiskQuota.new config).Reachable w →
      id ∈ w.state.reservations → w.gate = some (caller, .publish result flag) →
      Breach config.normalize result →
      (TranscodeDiskQuota.new config).step w .publish = some w₁ →
      (TranscodeDiskQuota.new config).Steps (fun _ action => action ≠ .drop id) w₁ w₂ →
      w₂.state.quotaExceeded = true ∧ w₂.usageTx = true) ∧
    (∀ w r, (TranscodeDiskQuota.new config).Reaches (KeepsSignal config.normalize) w →
      KeepsSignal config.normalize w .admission → ReservesIntoEmpty config w r →
      r.usageTx = false) := by
  constructor
  · intro w w₁ w₂ id caller result flag hw hlive hg hbreach hpublish hsteps
    have hsticky := (sticky_of_publish (publishing_of_reachable hw) hlive hg hbreach
      hpublish).steps hsteps
    exact ⟨hsticky.flag, hsticky.published⟩
  · exact fun w r => usageTx_of_reservesIntoEmpty

def lastWriterLeaves : List Action :=
  (firstRefresh 0).append [.admission, .spawn, .reserveReturns,
    .lock .refreshSnapshot, .checkCache, .scan (.ok (some 100)), .record, .readFlag, .publish,
    .finish, .elapse 1000000, .lock .reserve, .checkCache, .scan (.ok (some 0)), .record,
    .readFlag, .drop 0, .publish]

/-- A second writer is admitted into the empty map under the signal of the first. -/
theorem signal_outlives_last_writer :
    ∃ w r, (TranscodeDiskQuota.new ⟨100, 10, 60⟩).Reachable w ∧
      ReservesIntoEmpty ⟨100, 10, 60⟩ w r ∧ r.guards = [1] ∧ r.usageTx = true := by
  have hrun : ∃ w, (TranscodeDiskQuota.new ⟨100, 10, 60⟩).Reachable w ∧
      w.state.reservations.isEmpty = true ∧
      ((TranscodeDiskQuota.new ⟨100, 10, 60⟩).step w .admission).any (fun a =>
        decide (a.gate = some (.reserve, .admitted 1 false)) &&
        ((TranscodeDiskQuota.new ⟨100, 10, 60⟩).step a .reserveReturns).any fun r =>
          decide (r.guards = [1]) && r.usageTx) = true :=
    Machine.exists_of_run lastWriterLeaves (by decide)
  obtain ⟨w, hreach, hempty, hadmission⟩ := hrun
  obtain ⟨a, ha, hgate⟩ := (Option.any_eq_true _ _).mp hadmission
  obtain ⟨hgate, hreturn⟩ := Bool.and_eq_true_iff.mp hgate
  obtain ⟨r, hr, hlast⟩ := (Option.any_eq_true _ _).mp hreturn
  obtain ⟨hguards, hup⟩ := Bool.and_eq_true_iff.mp hlast
  exact ⟨w, r, hreach, ⟨hempty, a, a, 1, false, ha, of_decide_eq_true hgate, .refl a, hr⟩,
    of_decide_eq_true hguards, hup⟩

end

end Jellyrin.Transcode.DiskQuota
