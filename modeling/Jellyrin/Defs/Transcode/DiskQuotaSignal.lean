import Jellyrin.Defs.Transcode.DiskQuotaLaws

/-! The breach flag and the watch channel.  The flag is stored by one section and
published by a later step, while drops run in between. -/

namespace Jellyrin.Transcode.DiskQuota

open Transition

/-- The value of the watch channel once the refresh under way has published. -/
def settledSignal (w : World) : Bool :=
  match w.gate with
  | some (_, .recorded _) => w.state.quotaExceeded
  | some (_, .publish _ quotaExceeded) => quotaExceeded
  | _ => w.usageTx

section

variable {config : TranscodeDiskQuotaConfig} {w w' : World} {action : Action}

theorem settledSignal_of_refreshed {caller : Caller} {result : Except IoError UInt64}
    (h : w.gate = some (caller, .refreshed result)) : settledSignal w = w.usageTx := by
  rw [settledSignal, h]

variable {state : TranscodeDiskQuotaState}

theorem recordUsage_quotaExceeded_of_le {usageBytes : UInt64} (now : Nanos)
    (h : config.quotaBytes ≤ usageBytes) :
    (recordUsage config now usageBytes state).quotaExceeded = true := by
  simp [recordUsage, h]

theorem recordUsage_quotaExceeded_of_isEmpty (now : Nanos) (usageBytes : UInt64)
    (h : state.reservations.isEmpty = true) :
    (recordUsage config now usageBytes state).quotaExceeded =
      decide (config.quotaBytes ≤ usageBytes) := by
  simp [recordUsage, h]

theorem recordUsage_quotaExceeded_of_lt {usageBytes : UInt64} (now : Nanos)
    (hne : state.reservations.isEmpty = false) (h : ¬config.quotaBytes ≤ usageBytes) :
    (recordUsage config now usageBytes state).quotaExceeded = state.quotaExceeded := by
  simp [recordUsage, hne, h]

theorem recordFailure_quotaExceeded (h : state.reservations.isEmpty = false) :
    (recordFailure state).quotaExceeded = true := by
  simp [recordFailure, h]

def Raised (w : World) : Prop := w.state.quotaExceeded = true → settledSignal w = true

theorem Raised.step (hi : Raised w) (h : Step config w action w') : Raised w' := by
  intro hraised
  cases h
  case drop hid hr =>
    obtain ⟨bytes, -, rfl, rfl⟩ := release_eq_some hr
    cases he : HashMap.isEmpty (w.state.reservations.erase _) <;> simp only [he] at hraised
    · have hsettled := hi hraised
      simp only [settledSignal] at hsettled ⊢
      exact hsettled
    · cases hraised
  case recordUsage hg => exact hraised
  case recordFailure hg => exact hraised
  case admission hg hadmission =>
    obtain ⟨-, -, -, next, rfl⟩ := admission_eq_admitted hadmission
    exact (settledSignal_of_refreshed hg).symm.trans (hi hraised)
  all_goals simp_all [Raised, settledSignal]

theorem raised_of_reachable (h : (TranscodeDiskQuota.new config).Reachable w) : Raised w :=
  h.invariant (fun hraised => by cases hraised) fun _ _ _ hs ha => hs.step (.of_step ha)

def BreachedLive (w : World) : Prop := ∀ id ∈ w.breached, id ∈ w.state.reservations

theorem BreachedLive.step (hi : BreachedLive w) (h : Step config w action w') :
    BreachedLive w' := by
  intro a ha
  cases h
  case recordUsage hg =>
    dsimp only at ha
    split at ha
    · exact ha
    · exact hi a ha
  case recordFailure hg => exact ha
  case admission hg hadmission =>
    obtain ⟨-, -, -, next, rfl⟩ := admission_eq_admitted hadmission
    exact AList.mem_insert _ |>.mpr (.inr (hi a ha))
  case drop hid hr =>
    obtain ⟨bytes, -, -, rfl⟩ := release_eq_some hr
    obtain ⟨ha, hne⟩ := List.mem_filter.mp ha
    exact AList.mem_erase.mpr ⟨of_decide_eq_true hne, hi a ha⟩
  all_goals exact hi a ha

theorem breachedLive_of_reachable (h : (TranscodeDiskQuota.new config).Reachable w) :
    BreachedLive w :=
  h.invariant (fun _ ha => by cases ha) fun _ _ _ hs ha => hs.step (.of_step ha)

/-- No writer is admitted while the channel still says that the quota is exceeded. -/
def AdmitsLowered (config : TranscodeDiskQuotaConfig) (w : World) (action : Action) : Prop :=
  action = .admission → projectedBytes config w.state ≤ config.quotaBytes → w.usageTx = false

def AllBreached (w : World) : Prop := ∀ id ∈ w.state.reservations, id ∈ w.breached

/-- Whoever may see the signal, now or after the pending publication, was there. -/
structure Signalled (w : World) : Prop where
  settled : settledSignal w = true → AllBreached w
  published : w.usageTx = true → AllBreached w

theorem Signalled.new : Signalled .new where
  settled h := by cases h
  published h := by cases h

theorem AllBreached.of_isEmpty (h : w.state.reservations.isEmpty = true) : AllBreached w :=
  fun _ hid => by simp [HashMap.isEmpty_eq_false_of_mem hid] at h

theorem Signalled.recordUsage (hi : Signalled w) (hraised : Raised w) {caller : Caller}
    {usageBytes : UInt64} : Signalled { w with
      state := recordUsage config w.now usageBytes w.state
      breached := if config.quotaBytes ≤ usageBytes then w.state.reservations.keys
        else w.breached
      gate := some (caller, .recorded usageBytes) } := by
  by_cases hle : config.quotaBytes ≤ usageBytes
  · have hall : AllBreached { w with
        state := DiskQuota.recordUsage config w.now usageBytes w.state
        breached := if config.quotaBytes ≤ usageBytes then w.state.reservations.keys
          else w.breached
        gate := some (caller, .recorded usageBytes) } := by
      intro id hid
      dsimp only
      rw [if_pos hle]
      exact hid
    exact ⟨fun _ => hall, fun _ => hall⟩
  · simp only [hle, if_false]
    refine ⟨fun hsettled => ?_, hi.published⟩
    cases he : w.state.reservations.isEmpty with
    | true => exact .of_isEmpty he
    | false =>
      have hflag := (recordUsage_quotaExceeded_of_lt w.now he hle).symm.trans hsettled
      exact hi.settled (hraised hflag)

theorem Signalled.drop (hi : Signalled w) {id : UInt64} {sends : Bool}
    (hr : release id w.state = some (state, sends)) :
    Signalled { w with
      state
      usageTx := if sends then false else w.usageTx
      guards := w.guards.erase id
      notifying := w.notifying + 1
      breached := w.breached.filter (· ≠ id) } := by
  obtain ⟨bytes, -, rfl, rfl⟩ := release_eq_some hr
  cases he : HashMap.isEmpty (w.state.reservations.erase id) with
  | true => exact ⟨fun _ => .of_isEmpty he, fun _ => .of_isEmpty he⟩
  | false =>
    have hkeep : AllBreached w → ∀ a ∈ w.state.reservations.erase id,
        a ∈ w.breached.filter (· ≠ id) := by
      intro hall a ha
      obtain ⟨hne, ha⟩ := AList.mem_erase.mp ha
      exact List.mem_filter.mpr ⟨hall a ha, decide_eq_true hne⟩
    constructor
    · intro hsettled
      exact hkeep (hi.settled (by simpa [settledSignal] using hsettled))
    · intro hpublished
      exact hkeep (hi.published (by simpa using hpublished))

theorem Signalled.step (hi : Signalled w) (hraised : Raised w)
    (hc : AdmitsLowered config w action) (h : Step config w action w') : Signalled w' := by
  cases h
  case recordUsage hg => exact hi.recordUsage hraised
  case recordFailure hg => exact ⟨fun _ _ hid => hid, fun _ _ hid => hid⟩
  case readFlag hg => exact ⟨fun h => hi.settled (by rwa [settledSignal, hg]), hi.published⟩
  case publish hg =>
    have hall : settledSignal w = true → AllBreached w := hi.settled
    rw [settledSignal, hg] at hall
    exact ⟨hall, hall⟩
  case admission hg hadmission =>
    -- The newcomer is the one reservation without history, and the channel is low.
    have hlow := hc rfl (admission_eq_admitted hadmission).1
    exact ⟨fun h => absurd (hlow.symm.trans h) (by decide),
      fun h => absurd (hlow.symm.trans h) (by decide)⟩
  case drop hid hr => exact hi.drop hr
  all_goals
    refine ⟨fun h => hi.settled ?_, hi.published⟩
    simp_all [settledSignal]

theorem signalled_of_reaches
    (h : (TranscodeDiskQuota.new config).Reaches (AdmitsLowered config.normalize) w) :
    Signalled w :=
  h.invariant (fun _ hs => raised_of_reachable hs.reachable)
    Signalled.new
    fun _ _ _ hraised hi hc ha => hi.step hraised hc (.of_step ha)

/-- A raised flag concerns a writer of the breach, and `wait_until_exceeded`
returns only to writers that were present at a breach or a failed scan. -/
structure BreachWitnessed (w : World) : Prop where
  flagged : w.state.quotaExceeded = true → w.state.reservations.isEmpty = false →
    ∃ id ∈ w.state.reservations, id ∈ w.breached
  returned : w.usageTx = true → AllBreached w

theorem Signalled.breachWitnessed (hi : Signalled w) (hraised : Raised w) :
    BreachWitnessed w where
  flagged hflag hne := by
    obtain ⟨id, hid⟩ := HashMap.exists_mem_of_isEmpty_eq_false hne
    exact ⟨id, hid, hi.settled (hraised hflag) id hid⟩
  returned := hi.published

theorem breachWitnessed_of_reaches
    (h : (TranscodeDiskQuota.new config).Reaches (AdmitsLowered config.normalize) w) :
    BreachWitnessed w :=
  (signalled_of_reaches h).breachWitnessed (raised_of_reachable h.reachable)

theorem not_breachWitnessed_of_admission (hlive : BreachedLive w) (hup : w.usageTx = true)
    (hle : projectedBytes config w.state ≤ config.quotaBytes)
    (h : DiskQuota.step config w .admission = some w') : ¬BreachWitnessed w' := by
  intro hw
  cases Step.of_step h with
  | reject _ hadmission => exact UInt64.not_lt.mpr hle (admission_eq_rejected hadmission)
  | admission _ hadmission =>
    obtain ⟨-, hfresh, -, next, rfl⟩ := admission_eq_admitted hadmission
    exact hfresh (hlive _ (hw.returned hup _ (AList.mem_insert _ |>.mpr (.inl rfl))))

/-- Breaches are witnessed along the runs with admissions under a lowered signal
only, and the first admission that does not wait for it breaks the guarantee. -/
theorem breachWitnessed_iff_admitsLowered (config : TranscodeDiskQuotaConfig) :
    (∀ w, (TranscodeDiskQuota.new config).Reaches (AdmitsLowered config.normalize) w →
      BreachWitnessed w) ∧
    (∀ w action w', (TranscodeDiskQuota.new config).Reaches (AdmitsLowered config.normalize) w →
      (TranscodeDiskQuota.new config).step w action = some w' →
      (BreachWitnessed w' ↔ AdmitsLowered config.normalize w action)) := by
  refine ⟨fun w => breachWitnessed_of_reaches, fun w action w' hw hstep => ⟨?_, ?_⟩⟩
  · rintro hwitnessed rfl hle
    by_contra hup
    exact not_breachWitnessed_of_admission (breachedLive_of_reachable hw.reachable)
      (Bool.not_eq_false _ ▸ hup) hle hstep hwitnessed
  · intro hc
    exact breachWitnessed_of_reaches (hw.tail hc hstep)

/-- One writer meets the breach, a second is admitted after the cleanup, the first
leaves: the flag stays up for a writer that saw only good scans. -/
theorem breach_outlives_its_writers :
    ∃ w, (TranscodeDiskQuota.new ⟨100, 10, 60⟩).Reachable w ∧ w.guards = [1] ∧
      w.breached = [] ∧ w.state.quotaExceeded = true ∧ w.usageTx = true :=
  Machine.exists_of_run ((firstRefresh 0).append [.admission, .spawn, .reserveReturns,
    .lock .refreshSnapshot, .checkCache, .scan (.ok (some 100)), .record, .readFlag, .publish,
    .finish, .lock .refreshSnapshot, .checkCache, .scan (.ok (some 0)), .record, .readFlag,
    .publish, .finish, .lock .reserve, .checkCache, .admission, .reserveReturns, .drop 0])
    (by decide)

end

end Jellyrin.Transcode.DiskQuota
