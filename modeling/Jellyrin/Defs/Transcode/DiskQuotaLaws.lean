import Jellyrin.Defs.Transcode.DiskQuotaSteps

/-! Accounting of reservations and the life of the monitor task. -/

namespace Jellyrin.Transcode.DiskQuota

open Transition

def pending : Option (Caller × Phase) → List UInt64
  | some (_, .admitted id _) => [id]
  | _ => []

/-- The keys of the reservations map are the ids of the live guards and of the
reservation that is about to be returned. -/
structure Booked (w : World) : Prop where
  nodup : (pending w.gate ++ w.guards).Nodup
  mem_iff : ∀ id, id ∈ w.state.reservations ↔ id ∈ pending w.gate ++ w.guards

section

variable {config : TranscodeDiskQuotaConfig} {w w' : World} {action : Action}

theorem Booked.new : Booked .new where
  nodup := List.nodup_nil
  mem_iff id := by simp [World.new, TranscodeDiskQuotaState.new, pending]

theorem Booked.congr (h : Booked w) (hr : w'.state.reservations = w.state.reservations)
    (hp : pending w'.gate = pending w.gate) (hg : w'.guards = w.guards) : Booked w' := by
  constructor
  · rw [hp, hg]
    exact h.nodup
  · rw [hr, hp, hg]
    exact h.mem_iff

theorem Booked.notMem_pending (h : Booked w) {id : UInt64} (hid : id ∈ w.guards) :
    id ∉ pending w.gate :=
  fun hp => List.disjoint_of_nodup_append h.nodup hp hid

theorem Booked.drop (hi : Booked w) {id : UInt64} (hid : id ∈ w.guards)
    (hr : w'.state.reservations = w.state.reservations.erase id) (hp : w'.gate = w.gate)
    (hg : w'.guards = w.guards.erase id) : Booked w' := by
  have hguards := (List.nodup_append.mp hi.nodup).2.1
  constructor
  · rw [hp, hg]
    exact hi.nodup.sublist (List.Sublist.append_left List.erase_sublist _)
  · intro a
    rw [hr, hp, hg, AList.mem_erase, hi.mem_iff, List.mem_append, List.mem_append,
      hguards.mem_erase_iff]
    constructor
    · rintro ⟨hne, hpend | hguard⟩
      · exact .inl hpend
      · exact .inr ⟨hne, hguard⟩
    · rintro (hpend | ⟨hne, hguard⟩)
      · refine ⟨?_, .inl hpend⟩
        rintro rfl
        exact hi.notMem_pending hid hpend
      · exact ⟨hne, .inr hguard⟩

theorem Booked.step (hi : Booked w) (h : Step config w action w') : Booked w' := by
  cases h
  case admission hg ha =>
    obtain ⟨-, hfresh, -, next, rfl⟩ := admission_eq_admitted ha
    have hnodup := hi.nodup
    have hmem := hi.mem_iff
    rw [hi.mem_iff] at hfresh
    simp only [hg, pending, List.nil_append] at hnodup hmem hfresh
    constructor
    · simpa [pending] using ⟨hfresh, hnodup⟩
    · intro a
      simp only [pending, AList.mem_insert, List.singleton_append, List.mem_cons, hmem]
  case reserveReturns hg =>
    have hnodup := hi.nodup
    have hmem := hi.mem_iff
    simp only [hg, pending] at hnodup hmem
    exact ⟨by simpa [pending] using hnodup, by simpa [pending] using hmem⟩
  case dropAbsent hid hr =>
    exact absurd ((hi.mem_iff _).mpr (List.mem_append_right _ hid)) (release_eq_none hr)
  case drop hid hr =>
    obtain ⟨bytes, -, -, rfl⟩ := release_eq_some hr
    exact hi.drop hid rfl rfl rfl
  all_goals exact hi.congr rfl (by simp [pending, *]) rfl

theorem booked_of_reachable (h : (TranscodeDiskQuota.new config).Reachable w) : Booked w :=
  h.invariant Booked.new fun _ _ _ hs ha => hs.step (.of_step ha)

def Phase.measured : Phase → Option UInt64
  | .recorded usageBytes => some usageBytes
  | .publish (.ok usageBytes) _ => some usageBytes
  | .refreshed (.ok usageBytes) => some usageBytes
  | _ => none

def Measured (w : World) : Prop :=
  ∀ caller phase usageBytes, w.gate = some (caller, phase) →
    phase.measured = some usageBytes → w.state.usageBytes = some usageBytes

variable {state : TranscodeDiskQuotaState}

theorem cachedUsage_eq_some {force : Bool} {now : Nanos} {usageBytes : UInt64}
    (h : cachedUsage config force now state = some usageBytes) :
    state.usageBytes = some usageBytes ∧ state.lastScan ≠ none := by
  simp only [cachedUsage] at h
  split at h
  · rename_i hu hl
    split at h <;> cases h
    exact ⟨hu, by simp [hl]⟩
  · cases h

theorem Measured.step (hi : Measured w) (h : Step config w action w') : Measured w' := by
  intro caller phase usageBytes hgate hm
  cases h
  case cached hg hc =>
    cases hgate
    cases hm
    exact (cachedUsage_eq_some hc).1
  case recordUsage hg =>
    cases hgate
    exact hm
  case readFlag hg =>
    cases hgate
    cases hm
    exact hi _ _ _ hg rfl
  case publish result flag hg =>
    cases hgate
    cases result with
    | error error => cases hm
    | ok bytes =>
      cases hm
      exact hi _ _ _ hg rfl
  case drop hid hr =>
    obtain ⟨bytes, -, -, rfl⟩ := release_eq_some hr
    exact hi _ _ _ hgate hm
  all_goals first
    | exact hi _ _ _ hgate hm
    | cases hgate <;> cases hm

theorem measured_of_reachable (h : (TranscodeDiskQuota.new config).Reachable w) :
    Measured w :=
  h.invariant (fun _ _ _ hg => by cases hg) fun _ _ _ hs ha => hs.step (.of_step ha)

def reservedSum (state : TranscodeDiskQuotaState) : Nat :=
  state.reservations.weight UInt64.toNat

/-- With a quota of `u64::MAX` the comparison of `reserve` cannot fail, so there
the sum itself has to fit; below it the comparison sees to that. -/
def AdmissionFits (config : TranscodeDiskQuotaConfig) (w : World) (action : Action) : Prop :=
  action = .admission → config.quotaBytes = U64.max →
    (w.state.usageBytes.getD 0).toNat + w.state.reservedBytes.toNat +
      config.reservationBytes.toNat ≤ U64.max.toNat

theorem projectedBytes_exact (h : projectedBytes config state ≤ config.quotaBytes)
    (hfits : config.quotaBytes = U64.max → (state.usageBytes.getD 0).toNat +
      state.reservedBytes.toNat + config.reservationBytes.toNat ≤ U64.max.toNat) :
    (state.usageBytes.getD 0).toNat + state.reservedBytes.toNat +
      config.reservationBytes.toNat ≤ config.quotaBytes.toNat := by
  rw [UInt64.le_iff_toNat_le, projectedBytes, U64.toNat_saturatingAdd,
    U64.toNat_saturatingAdd] at h
  have hquota := U64.toNat_le_max config.quotaBytes
  by_cases hmax : config.quotaBytes = U64.max
  · rw [hmax]
    exact hfits hmax
  · have hne := mt (U64.eq_max_iff _).mpr hmax
    omega

structure Exact (config : TranscodeDiskQuotaConfig) (w : World) : Prop where
  reserved : w.state.reservedBytes.toNat = reservedSum w.state
  uniform : ∀ id bytes, w.state.reservations.lookup id = some bytes →
    bytes = config.reservationBytes
  bounded : reservedSum w.state ≤ config.quotaBytes.toNat
  admitted : ∀ caller id start, w.gate = some (caller, .admitted id start) →
    ∃ usageBytes, w.state.usageBytes = some usageBytes ∧
      usageBytes.toNat + reservedSum w.state ≤ config.quotaBytes.toNat

theorem Exact.new : Exact config .new where
  reserved := rfl
  uniform id bytes h := by cases h
  bounded := Nat.zero_le _
  admitted _ _ _ h := by cases h

theorem Exact.congr (hi : Exact config w)
    (hr : w'.state.reservations = w.state.reservations)
    (hb : w'.state.reservedBytes = w.state.reservedBytes)
    (ha : ∀ caller id start, w'.gate = some (caller, .admitted id start) →
      w'.state.usageBytes = w.state.usageBytes ∧
        ∃ id start, w.gate = some (caller, .admitted id start)) : Exact config w' := by
  have hsum : reservedSum w'.state = reservedSum w.state := by rw [reservedSum, hr]; rfl
  constructor
  · rw [hb, hsum]
    exact hi.reserved
  · rw [hr]
    exact hi.uniform
  · rw [hsum]
    exact hi.bounded
  · intro caller id start hg
    obtain ⟨hu, id, start, hg⟩ := ha caller id start hg
    rw [hu, hsum]
    exact hi.admitted caller id start hg

theorem Exact.admission (hi : Exact config w) (hm : Measured w) {usageBytes id : UInt64}
    {start : Bool} (hf : AdmissionFits config w .admission)
    (hg : w.gate = some (.reserve, .refreshed (.ok usageBytes)))
    (ha : DiskQuota.admission config w.state = some (.admitted id start state))
    (hw : w'.state = state) : Exact config w' := by
  obtain ⟨hle, hfresh, -, next, rfl⟩ := admission_eq_admitted ha
  have husage : w.state.usageBytes = some usageBytes := hm _ _ _ hg rfl
  have hfit := projectedBytes_exact hle (hf rfl)
  have hsum : reservedSum w'.state = config.reservationBytes.toNat + reservedSum w.state := by
    rw [hw]
    exact HashMap.weight_insert_of_notMem _ _ hfresh
  have hquota := U64.toNat_le_max config.quotaBytes
  have hreserved := hi.reserved
  rw [husage, Option.getD_some] at hfit
  constructor
  · rw [hsum, hw, U64.toNat_saturatingAdd]
    omega
  · intro a bytes hbytes
    rw [hw] at hbytes
    obtain ⟨-, rfl⟩ | ⟨-, hbytes⟩ := HashMap.lookup_insert_eq_some.mp hbytes
    · rfl
    · exact hi.uniform a bytes hbytes
  · omega
  · intro caller a start' _
    refine ⟨usageBytes, ?_, by omega⟩
    rw [hw]
    exact husage

theorem Exact.drop (hi : Exact config w) {id : UInt64} {sends : Bool}
    (hr : release id w.state = some (state, sends)) (hw : w'.state = state)
    (hgate : w'.gate = w.gate) : Exact config w' := by
  obtain ⟨bytes, hbytes, -, rfl⟩ := release_eq_some hr
  have hsum : reservedSum w.state = bytes.toNat + reservedSum w'.state := by
    rw [hw]
    exact HashMap.weight_erase _ hbytes
  have hreserved := hi.reserved
  have hbounded := hi.bounded
  constructor
  · rw [hw, U64.toNat_saturatingSub, ← hw]
    omega
  · intro a b hb
    rw [hw] at hb
    exact hi.uniform a b (HashMap.lookup_erase_eq_some.mp hb).2
  · omega
  · intro caller a start hg
    obtain ⟨usageBytes, husage, hle⟩ := hi.admitted caller a start (hgate ▸ hg)
    refine ⟨usageBytes, ?_, by omega⟩
    rw [hw]
    exact husage

theorem Exact.step (hi : Exact config w) (hm : Measured w)
    (hf : AdmissionFits config w action) (h : Step config w action w') : Exact config w' := by
  cases h
  case admission hg ha => exact hi.admission hm hf hg ha rfl
  case drop hid hr => exact hi.drop hr rfl rfl
  case spawn hg =>
    refine hi.congr rfl rfl fun caller id start hg' => ?_
    cases hg'
    exact ⟨rfl, _, _, hg⟩
  all_goals
    refine hi.congr rfl rfl fun caller id start hg' => ?_
    first
    | cases hg'
    | exact ⟨rfl, id, start, hg'⟩

theorem exact_of_reaches
    (h : (TranscodeDiskQuota.new config).Reaches (AdmissionFits config.normalize) w) :
    Exact config.normalize w :=
  h.invariant (fun _ hs => measured_of_reachable hs.reachable) Exact.new
    fun _ _ _ hm hi hf ha => hi.step hm hf (.of_step ha)

theorem normalize_reservationBytes_pos (config : TranscodeDiskQuotaConfig) :
    1 ≤ config.normalize.reservationBytes.toNat := by
  have hpos : ∀ quota bytes : UInt64, 1 ≤ quota → 1 ≤ (U64.clamp 1 quota bytes).toNat := by
    intro quota bytes hquota
    rw [UInt64.le_iff_toNat_le] at hquota
    simp only [U64.clamp]
    split
    · decide
    · split
      · exact hquota
      · rename_i h _
        exact UInt64.le_iff_toNat_le.mp (UInt64.not_lt.mp h)
  refine hpos _ _ ?_
  split
  · decide
  · rename_i h
    exact UInt64.not_lt.mp h

/-- What callers rely on: the counter is the exact sum, guards are distinct keys
of the map, and a `reserve` that returns has found room for every byte. -/
structure Accounted (config : TranscodeDiskQuotaConfig) (w : World) : Prop where
  reserved_exact : w.state.reservedBytes.toNat = reservedSum w.state
  guards_distinct : w.guards.Nodup
  guards_keyed : ∀ id ∈ w.guards, id ∈ w.state.reservations
  returns_within : ∀ w', DiskQuota.step config w .reserveReturns = some w' →
    ∃ usageBytes, w'.state.usageBytes = some usageBytes ∧
      usageBytes.toNat + reservedSum w'.state ≤ config.quotaBytes.toNat

theorem Exact.accounted (hi : Exact config w) (hb : Booked w) : Accounted config w where
  reserved_exact := hi.reserved
  guards_distinct := (List.nodup_append.mp hb.nodup).2.1
  guards_keyed id hid := (hb.mem_iff id).mpr (List.mem_append_right _ hid)
  returns_within w' h := by
    cases Step.of_step h with
    | reserveReturns hg => exact hi.admitted _ _ _ hg

theorem normalize_quotaBytes_eq_max :
    config.normalize.quotaBytes = U64.max ↔ config.quotaBytes = U64.max := by
  simp only [TranscodeDiskQuotaConfig.normalize]
  split
  · rename_i h
    constructor
    · intro hmax
      exact absurd hmax (by decide)
    · intro hmax
      rw [hmax] at h
      exact absurd h (by decide)
  · rfl

def firstRefresh (usageBytes : UInt64) : List Action :=
  [.lock .reserve, .checkCache, .scan (.ok (some usageBytes)), .record, .readFlag, .publish]

def afterFirstRefresh (config : TranscodeDiskQuotaConfig) (usageBytes : UInt64) : World :=
  { World.new with
    state := recordUsage config 0 usageBytes .new
    usageTx := decide (config.quotaBytes ≤ usageBytes)
    gate := some (.reserve, .refreshed (.ok usageBytes))
    breached := if config.quotaBytes ≤ usageBytes then [] else [] }

theorem run_firstRefresh (usageBytes : UInt64) :
    (TranscodeDiskQuota.new config).run (firstRefresh usageBytes) .new =
      some (afterFirstRefresh config.normalize usageBytes) := rfl

theorem admission_of_quota_max (hmax : config.quotaBytes = U64.max) :
    ∃ id state, admission config (recordUsage config 0 U64.max .new) =
      some (.admitted id true state) := by
  have hle : ¬config.quotaBytes <
      projectedBytes config (recordUsage config 0 U64.max .new) := by
    rw [hmax, UInt64.not_lt, UInt64.le_iff_toNat_le]
    exact U64.toNat_le_max _
  simp only [admission]
  rw [if_neg hle]
  exact ⟨0, _, rfl⟩

theorem not_accounted_of_quota_max (hmax : config.quotaBytes = U64.max) :
    ∃ w, (TranscodeDiskQuota.new config).Reachable w ∧ ¬Accounted config.normalize w := by
  have hnorm := normalize_quotaBytes_eq_max.mpr hmax
  have hreach : (TranscodeDiskQuota.new config).Reachable _ :=
    Machine.reachable_of_run _ (run_firstRefresh U64.max)
  obtain ⟨id, state, hadmission⟩ := admission_of_quota_max hnorm
  obtain ⟨-, hfresh, -, next, hstate⟩ := admission_eq_admitted hadmission
  have hstep : (TranscodeDiskQuota.new config).step
      (afterFirstRefresh config.normalize U64.max) .admission =
        some { afterFirstRefresh config.normalize U64.max with
          state, gate := some (.reserve, .admitted id true) } := by
    change World.advance config.normalize _ .reserve (.refreshed (.ok U64.max)) .admission = _
    simp [afterFirstRefresh, World.advance, hadmission]
  refine ⟨_, (hreach.tail hstep).tail (a := .spawn) rfl, fun h => ?_⟩
  obtain ⟨usageBytes, husage, hle⟩ := h.returns_within _ rfl
  have hsum : reservedSum state = config.normalize.reservationBytes.toNat := by
    rw [hstate]
    exact HashMap.weight_insert_of_notMem _ _ hfresh
  have hpos := normalize_reservationBytes_pos config
  rw [hnorm] at hle
  rw [hstate] at husage
  cases husage
  simp only [hsum] at hle
  omega

/-- Accounting is exact along every run whose admissions fit, and along every
run at all exactly when the quota is below `u64::MAX`. -/
theorem accounted_iff_quota_ne_max (config : TranscodeDiskQuotaConfig) :
    (∀ w, (TranscodeDiskQuota.new config).Reaches (AdmissionFits config.normalize) w →
      Accounted config.normalize w) ∧
    ((∀ w, (TranscodeDiskQuota.new config).Reachable w → Accounted config.normalize w) ↔
      config.quotaBytes ≠ U64.max) := by
  have hfits : ∀ w, (TranscodeDiskQuota.new config).Reaches (AdmissionFits config.normalize) w →
      Accounted config.normalize w := fun w h =>
    (exact_of_reaches h).accounted (booked_of_reachable h.reachable)
  refine ⟨hfits, ?_, ?_⟩
  · intro hall hmax
    obtain ⟨w, hw, hnot⟩ := not_accounted_of_quota_max hmax
    exact hnot (hall w hw)
  · intro hne w hw
    exact hfits w (hw.mono fun _ _ _ _ hmax => absurd (normalize_quotaBytes_eq_max.mp hmax) hne)

/-- Two admissions with a reservation of the whole quota at `u64::MAX`: both
succeed and the counter stays behind the sum. -/
theorem accounting_saturates :
    ∃ w, (TranscodeDiskQuota.new ⟨U64.max, U64.max, 60⟩).Reachable w ∧ w.guards = [1, 0] ∧
      w.state.usageBytes = some 0 ∧ w.state.reservedBytes.toNat ≠ reservedSum w.state :=
  Machine.exists_of_run ((firstRefresh 0).append [.admission, .spawn, .reserveReturns,
    .lock .reserve, .checkCache, .admission, .reserveReturns]) (by decide)

def gateMonitors : Option (Caller × Phase) → Nat
  | some (caller, _) => if caller = .monitor then 1 else 0
  | none => 0

def spawning : Option (Caller × Phase) → Nat
  | some (_, .admitted _ true) => 1
  | _ => 0

def monitors (w : World) : Nat :=
  w.selecting + w.woken + w.waiting + gateMonitors w.gate + spawning w.gate

structure Watched (w : World) : Prop where
  admitting : ∀ caller id start, w.gate = some (caller, .admitted id start) → caller = .reserve
  rejecting : ∀ caller error, w.gate = some (caller, .rejected error) → caller = .reserve
  count : monitors w = w.state.monitorRunning.toNat
  watched : w.state.reservations.isEmpty = false → w.state.monitorRunning = true

theorem Watched.new : Watched .new where
  admitting _ _ _ h := by cases h
  rejecting _ _ h := by cases h
  count := rfl
  watched h := by cases h

theorem Watched.congr (hi : Watched w)
    (hr : w'.state.reservations.isEmpty = false → w.state.reservations.isEmpty = false)
    (hm : w'.state.monitorRunning = w.state.monitorRunning) (hcount : monitors w' = monitors w)
    (ha : ∀ caller id start, w'.gate = some (caller, .admitted id start) → caller = .reserve)
    (he : ∀ caller error, w'.gate = some (caller, .rejected error) → caller = .reserve) :
    Watched w' where
  admitting := ha
  rejecting := he
  count := by rw [hcount, hm, hi.count]
  watched h := by rw [hm]; exact hi.watched (hr h)

theorem Watched.step (hi : Watched w) (h : Step config w action w') : Watched w' := by
  have hcount := hi.count
  cases h
  case admission hg ha =>
    obtain ⟨-, -, rfl, next, rfl⟩ := admission_eq_admitted ha
    refine ⟨?_, ?_, ?_, fun _ => rfl⟩
    · rintro _ _ _ ⟨⟩
      rfl
    · rintro _ _ ⟨⟩
    · -- A monitor is announced exactly when none was running.
      rw [monitors, hg] at hcount
      cases hrun : w.state.monitorRunning <;>
        simpa [monitors, gateMonitors, spawning, hrun] using hcount
  case spawn hg =>
    have hreserve := hi.admitting _ _ _ hg
    refine hi.congr id rfl ?_ ?_ ?_
    · simp only [monitors, hg, gateMonitors, spawning]
      omega
    · rintro _ _ _ ⟨⟩
      exact hreserve
    · rintro _ _ ⟨⟩
  case reserveReturns hg =>
    have hreserve := hi.admitting _ _ _ hg
    refine hi.congr id rfl ?_ ?_ ?_
    · simp [monitors, hg, gateMonitors, spawning, hreserve]
    · rintro _ _ _ ⟨⟩
    · rintro _ _ ⟨⟩
  case finishRejected hg =>
    have hreserve := hi.rejecting _ _ hg
    refine hi.congr id rfl ?_ ?_ ?_
    · simp [monitors, hg, gateMonitors, spawning, hreserve]
    · rintro _ _ _ ⟨⟩
    · rintro _ _ ⟨⟩
  case monitorStops hw he =>
    -- The monitor that stops is the only one, and no writer is left.
    refine ⟨hi.admitting, hi.rejecting, ?_, fun h => by rw [he] at h; cases h⟩
    have hle := Bool.toNat_le w.state.monitorRunning
    simp only [monitors, Bool.toNat_false] at hcount ⊢
    omega
  case drop hid hr =>
    obtain ⟨bytes, hbytes, -, rfl⟩ := release_eq_some hr
    have hmem := AList.lookup_isSome.mp (Option.isSome_of_eq_some hbytes)
    exact hi.congr (fun _ => HashMap.isEmpty_eq_false_of_mem hmem) rfl rfl hi.admitting
      hi.rejecting
  all_goals
    refine hi.congr id rfl ?_ ?_ ?_
    · simp_all only [monitors, gateMonitors, spawning] <;> grind
    · first
      | exact hi.admitting
      | rintro _ _ _ ⟨⟩
    · first
      | exact hi.rejecting
      | rintro _ _ ⟨⟩ <;> rfl

theorem watched_of_reachable (h : (TranscodeDiskQuota.new config).Reachable w) : Watched w :=
  h.invariant Watched.new fun _ _ _ hs ha => hs.step (.of_step ha)

/-- There is never more than one monitor, `monitor_running` says whether there is
one, and writers always have one. -/
theorem monitor_unique (h : (TranscodeDiskQuota.new config).Reachable w) :
    monitors w ≤ 1 ∧ (w.state.monitorRunning = true ↔ monitors w = 1) ∧
      (w.state.reservations.isEmpty = false → monitors w = 1) := by
  have hi := watched_of_reachable h
  rw [hi.count]
  refine ⟨Bool.toNat_le _, ?_, fun hne => ?_⟩
  · cases w.state.monitorRunning <;> decide
  · rw [hi.watched hne]
    rfl

theorem monitor_unique_of_first_reserve :
    ∃ w, (TranscodeDiskQuota.new ⟨100, 10, 5⟩).Reachable w ∧ w.guards = [0] ∧
      monitors w ≤ 1 ∧ (w.state.monitorRunning = true ↔ monitors w = 1) ∧
      (w.state.reservations.isEmpty = false → monitors w = 1) := by
  have hrun : ∃ w, (TranscodeDiskQuota.new ⟨100, 10, 5⟩).Reachable w ∧ w.guards = [0] :=
    Machine.exists_of_run ((firstRefresh 0).append [.admission, .spawn, .reserveReturns])
      (by decide)
  obtain ⟨w, hreach, hguards⟩ := hrun
  exact ⟨w, hreach, hguards, monitor_unique hreach⟩

end

end Jellyrin.Transcode.DiskQuota
