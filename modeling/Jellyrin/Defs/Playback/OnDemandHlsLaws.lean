import Jellyrin.Defs.Playback.OnDemandHls

/-! Which runs leave the session in a terminal status. -/

namespace Jellyrin.Playback.OnDemand

open Api Transcode

def runFrom {α : Type} (generation : Generation α) (world : World) : Except ApiError α × World :=
  generation.run.run world

variable {α β : Type} {world : World}

@[simp] theorem runFrom_pure (value : α) : runFrom (pure value) world = (.ok value, world) := rfl

@[simp] theorem runFrom_throw (error : ApiError) :
    runFrom (throw error : Generation α) world = (.error error, world) := rfl

@[simp] theorem runFrom_get :
    runFrom (get : Generation World) world = (.ok world, world) := rfl

@[simp] theorem runFrom_modify (f : World → World) :
    runFrom (modify f : Generation Unit) world = (.ok (), f world) := rfl

theorem runFrom_bind (first : Generation α) (next : α → Generation β) :
    runFrom (first >>= next) world =
      match runFrom first world with
      | (.ok value, world) => runFrom (next value) world
      | (.error error, world) => (.error error, world) := by
  simp only [runFrom, ExceptT.run, StateT.run, bind, ExceptT.bind, ExceptT.mk, StateT.bind]
  obtain ⟨result, after⟩ := first world
  cases result with
  | ok value => rfl
  | error error => rfl

@[simp] theorem runFrom_updateTranscodeSessionStatus (status : SessionStatus) :
    runFrom (updateTranscodeSessionStatus status) world =
      (.ok (), { world with statuses := world.statuses ++ [status] }) := rfl

@[simp] theorem runFrom_cleanupHlsTranscodeDir :
    runFrom cleanupHlsTranscodeDir world = (.ok (), { world with segment := none }) := rfl

def World.hasSegment (world : World) : Bool := world.segment.any fun length => 0 < length

@[simp] theorem runFrom_hlsOutputFileIsNonempty :
    runFrom hlsOutputFileIsNonempty world = (.ok world.hasSegment, world) := rfl


/-! One pass of the loop. -/

def starts (config : Config) (outcomes : Outcomes) (attemptCount : Nat)
    (command : FfmpegCommandSpec) : Bool :=
  let attempt := outcomes.attempt attemptCount
  (match attempt.admission with | .granted => true | _ => false) &&
    (ffmpegJobAllowedForMode config.ffmpegMode (classifyTranscodeCommand command)).isOk &&
    attempt.spawn.isOk

def Attempt.hasSegment (attempt : Attempt) : Bool := attempt.segment.any fun length => 0 < length

def Attempt.exitsEmpty (attempt : Attempt) : Bool :=
  (match attempt.outcome with | .exited (.ok _) => true | _ => false) && !attempt.hasSegment

def IsTerminal (result : Except ApiError Unit) (world : World) : Prop :=
  match result with
  | .error _ => world.statuses.getLast? = some .failed ∨ world.statuses.getLast? = some .stopped
  | .ok _ => world.statuses.getLast? = some .completed ∧ world.hasSegment = true

def fallsBack (outcomes : Outcomes) (attemptCount : Nat) (command : FfmpegCommandSpec)
    (fallbackAvailable : Bool) : Bool :=
  (outcomes.attempt attemptCount).exitsEmpty && attemptCount == 1 &&
    classifyTranscodeCommand command == .remux && fallbackAvailable

variable {config : Config} {outcomes : Outcomes} {attemptCount : Nat}
  {command : FfmpegCommandSpec} {fallbackAvailable : Bool}

variable (world fallbackAvailable) in
theorem seekAttempt_of_not_starts (h : starts config outcomes attemptCount command = false) :
    ∃ error segment, runFrom (seekAttempt config outcomes attemptCount command fallbackAvailable)
      world = (.error error, ⟨world.statuses, segment⟩) := by
  simp only [seekAttempt, runFrom_bind]
  simp only [starts] at h
  cases hadmission : (outcomes.attempt attemptCount).admission with
  | exceeded => exact ⟨_, _, rfl⟩
  | refused error => exact ⟨_, _, rfl⟩
  | granted =>
    simp only [acquireTranscodeJob]
    cases hallowed : ffmpegJobAllowedForMode config.ffmpegMode (classifyTranscodeCommand command) with
    | error error => exact ⟨_, _, rfl⟩
    | ok _ =>
      cases hspawn : (outcomes.attempt attemptCount).spawn with
      | error error => exact ⟨_, _, rfl⟩
      | ok _ => simp [hadmission, hallowed, hspawn, Except.isOk, Except.toBool] at h

theorem seekAttempt_of_starts (h : starts config outcomes attemptCount command = true) :
    runFrom (seekAttempt config outcomes attemptCount command fallbackAvailable) world =
      match (outcomes.attempt attemptCount).outcome with
      | .exited (.error error) =>
        (.error (.internal ("HLS seek generation failed: " ++ error)),
          ⟨world.statuses ++ [.failed], none⟩)
      | .storageExceeded _ =>
        (.error (.serviceUnavailable "transcode storage quota is exhausted"),
          ⟨world.statuses ++ [.stopped], none⟩)
      | .timedOut _ =>
        (.error (.serviceUnavailable "HLS seek generation timed out"),
          ⟨world.statuses ++ [.failed], none⟩)
      | .exited (.ok exit) =>
        if exit.success && (outcomes.attempt attemptCount).hasSegment then
          (.ok false, ⟨world.statuses, (outcomes.attempt attemptCount).segment⟩)
        else if hlsRemuxFallbackEligible attemptCount (classifyTranscodeCommand command)
            (outcomes.attempt attemptCount).hasSegment true fallbackAvailable then
          match outcomes.recreateDir with
          | .ok _ => (.ok true, ⟨world.statuses, none⟩)
          | .error error => (.error (.internal error), ⟨world.statuses, none⟩)
        else
          (.error (.notFound "HLS segment not found"), ⟨world.statuses ++ [.failed], none⟩) := by
  simp only [starts, Bool.and_eq_true] at h
  obtain ⟨⟨hadmission, hallowed⟩, hspawn⟩ := h
  cases hgranted : (outcomes.attempt attemptCount).admission with
  | exceeded => simp [hgranted] at hadmission
  | refused error => simp [hgranted] at hadmission
  | granted =>
    cases hmode : ffmpegJobAllowedForMode config.ffmpegMode (classifyTranscodeCommand command) with
    | error error => simp [hmode, Except.isOk, Except.toBool] at hallowed
    | ok _ =>
      cases hprocess : (outcomes.attempt attemptCount).spawn with
      | error error => simp [hprocess, Except.isOk, Except.toBool] at hspawn
      | ok _ =>
        simp only [seekAttempt, acquireTranscodeJob, hgranted, hmode, hprocess, runFrom_bind,
          runFrom_pure, runFrom_modify]
        cases (outcomes.attempt attemptCount).outcome with
        | storageExceeded stop => rfl
        | timedOut stop => rfl
        | exited result =>
          cases result with
          | error error => rfl
          | ok exit =>
            have hsegment : World.hasSegment ⟨world.statuses, (outcomes.attempt attemptCount).segment⟩ =
                (outcomes.attempt attemptCount).hasSegment := rfl
            simp only [runFrom_bind, runFrom_hlsOutputFileIsNonempty, hsegment]
            split
            · rfl
            · simp only [runFrom_bind, runFrom_hlsOutputFileIsNonempty, hsegment]
              split
              · cases hrecreate : outcomes.recreateDir <;>
                  simp only [runFrom_bind, runFrom_cleanupHlsTranscodeDir, orInternal, runFrom_pure,
                    runFrom_throw]
              · rfl

variable (world fallbackAvailable) in
theorem seekAttempt_cases (h : starts config outcomes attemptCount command = true) :
    let run := runFrom (seekAttempt config outcomes attemptCount command fallbackAvailable) world
    (fallsBack outcomes attemptCount command fallbackAvailable = false ∧
      ((run.1 = .ok false ∧ run.2.statuses = world.statuses ∧ run.2.hasSegment = true) ∨
        ∃ error status, (status = .failed ∨ status = .stopped) ∧ run.1 = .error error ∧
          run.2.statuses = world.statuses ++ [status])) ∨
    (fallsBack outcomes attemptCount command fallbackAvailable = true ∧
      run.2.statuses = world.statuses ∧
      ((outcomes.recreateDir.isOk = true ∧ run.1 = .ok true) ∨
        (outcomes.recreateDir.isOk = false ∧ ∃ error, run.1 = .error error))) := by
  intro run
  have hrun : run = _ := seekAttempt_of_starts h
  revert hrun
  cases houtcome : (outcomes.attempt attemptCount).outcome with
  | storageExceeded stop =>
    intro hrun
    simp only [hrun, fallsBack, Attempt.exitsEmpty, houtcome]
    exact .inl ⟨by simp, .inr ⟨_, .stopped, .inr rfl, rfl, rfl⟩⟩
  | timedOut stop =>
    intro hrun
    simp only [hrun, fallsBack, Attempt.exitsEmpty, houtcome]
    exact .inl ⟨by simp, .inr ⟨_, .failed, .inl rfl, rfl, rfl⟩⟩
  | exited result =>
    cases result with
    | error error =>
      intro hrun
      simp only [hrun, fallsBack, Attempt.exitsEmpty, houtcome]
      exact .inl ⟨by simp, .inr ⟨_, .failed, .inl rfl, rfl, rfl⟩⟩
    | ok exit =>
      intro hrun
      have hfalls : fallsBack outcomes attemptCount command fallbackAvailable =
          hlsRemuxFallbackEligible attemptCount (classifyTranscodeCommand command)
            (outcomes.attempt attemptCount).hasSegment true fallbackAvailable := by
        simp only [fallsBack, Attempt.exitsEmpty, houtcome, hlsRemuxFallbackEligible]
        cases (outcomes.attempt attemptCount).hasSegment <;> cases attemptCount == 1 <;>
          cases classifyTranscodeCommand command == .remux <;> rfl
      rw [hfalls]
      cases hsegment : (outcomes.attempt attemptCount).hasSegment with
      | true =>
        have heligible : hlsRemuxFallbackEligible attemptCount (classifyTranscodeCommand command)
            true true fallbackAvailable = false := by
          simp [hlsRemuxFallbackEligible]
        rw [heligible]
        simp only [hsegment, heligible] at hrun
        cases hsuccess : exit.success with
        | true =>
          rw [hsuccess] at hrun
          exact .inl ⟨rfl, .inl ⟨by rw [hrun]; rfl, by rw [hrun]; rfl, by rw [hrun]; exact hsegment⟩⟩
        | false =>
          rw [hsuccess] at hrun
          exact .inl ⟨rfl, .inr ⟨_, .failed, .inl rfl, by rw [hrun]; rfl, by rw [hrun]; rfl⟩⟩
      | false =>
        simp only [hsegment, Bool.and_false, Bool.false_eq_true, if_false] at hrun
        cases heligible : hlsRemuxFallbackEligible attemptCount (classifyTranscodeCommand command)
            false true fallbackAvailable with
        | true =>
          rw [heligible] at hrun
          refine .inr ⟨rfl, ?_⟩
          cases hrecreate : outcomes.recreateDir with
          | ok _ =>
            rw [hrecreate] at hrun
            exact ⟨by rw [hrun]; rfl, .inl ⟨rfl, by rw [hrun]; rfl⟩⟩
          | error error =>
            rw [hrecreate] at hrun
            exact ⟨by rw [hrun]; rfl, .inr ⟨rfl, _, by rw [hrun]; rfl⟩⟩
        | false =>
          rw [heligible] at hrun
          exact .inl ⟨rfl, .inr ⟨_, .failed, .inl rfl, by rw [hrun]; rfl, by rw [hrun]; rfl⟩⟩

/-! The loop. -/

theorem not_isTerminal_of_starting {error : ApiError} {segment : Option Nat}
    (hlast : world.statuses.getLast? = some .starting) :
    ¬IsTerminal (.error error) ⟨world.statuses, segment⟩ := by
  simp [IsTerminal, hlast]

theorem isTerminal_of_abandon {error : ApiError} {status : SessionStatus} {after : World}
    (hstatus : status = .failed ∨ status = .stopped)
    (hafter : after.statuses = world.statuses ++ [status]) : IsTerminal (.error error) after := by
  obtain rfl | rfl := hstatus <;> simp [IsTerminal, hafter]

theorem runFrom_seekToEnd_nil :
    runFrom (seekToEnd config outcomes [] attemptCount command) world =
      match runFrom (seekAttempt config outcomes attemptCount command false) world with
      | (.ok _, after) => (.ok (), { after with statuses := after.statuses ++ [.completed] })
      | (.error error, after) => (.error error, after) := by
  simp only [seekToEnd, seekLoop, runFrom_bind]
  obtain ⟨result, after⟩ := runFrom (seekAttempt config outcomes attemptCount command false) world
  cases result with
  | ok value => rfl
  | error error => rfl

theorem runFrom_seekToEnd_cons {next : FfmpegCommandSpec} {rest : List FfmpegCommandSpec} :
    runFrom (seekToEnd config outcomes (next :: rest) attemptCount command) world =
      match runFrom (seekAttempt config outcomes attemptCount command true) world with
      | (.ok true, after) => runFrom (seekToEnd config outcomes rest 2 next) after
      | (.ok false, after) => (.ok (), { after with statuses := after.statuses ++ [.completed] })
      | (.error error, after) => (.error error, after) := by
  simp only [seekToEnd, seekLoop, runFrom_bind]
  obtain ⟨result, after⟩ := runFrom (seekAttempt config outcomes attemptCount command true) world
  cases result with
  | ok value => cases value <;> simp
  | error error => rfl

theorem fallsBack_false : fallsBack outcomes attemptCount command false = false :=
  Bool.and_false _

theorem isTerminal_of_not_fallsBack {run : Except ApiError Bool × World}
    (h : (run.1 = .ok false ∧ run.2.statuses = world.statuses ∧ run.2.hasSegment = true) ∨
      ∃ error status, (status = .failed ∨ status = .stopped) ∧ run.1 = .error error ∧
        run.2.statuses = world.statuses ++ [status]) :
    (run.1 = .ok false ∧
      IsTerminal (.ok ()) { run.2 with statuses := run.2.statuses ++ [.completed] }) ∨
    ∃ error, run.1 = .error error ∧ IsTerminal (.error error) run.2 := by
  obtain ⟨hresult, -, hsegment⟩ | ⟨error, status, hstatus, hresult, hafter⟩ := h
  · exact .inl ⟨hresult, by simp, hsegment⟩
  · exact .inr ⟨error, hresult, isTerminal_of_abandon hstatus hafter⟩

variable (config outcomes attemptCount command) in
theorem isTerminal_seekToEnd_nil (hlast : world.statuses.getLast? = some .starting) :
    let run := runFrom (seekToEnd config outcomes [] attemptCount command) world
    IsTerminal run.1 run.2 ↔ starts config outcomes attemptCount command = true := by
  rw [runFrom_seekToEnd_nil]
  cases hstarts : starts config outcomes attemptCount command with
  | false =>
    obtain ⟨error, segment, hrun⟩ := seekAttempt_of_not_starts world false hstarts
    rw [hrun]
    exact iff_of_false (not_isTerminal_of_starting hlast) Bool.false_ne_true
  | true =>
    refine iff_of_true ?_ rfl
    have hcases := seekAttempt_cases world false hstarts
    simp only [fallsBack_false, Bool.false_eq_true, false_and, or_false, true_and] at hcases
    have hterminal := isTerminal_of_not_fallsBack hcases
    generalize runFrom (seekAttempt config outcomes attemptCount command false) world = run
      at hterminal
    obtain ⟨result, after⟩ := run
    obtain ⟨rfl, hend⟩ | ⟨error, rfl, hend⟩ := hterminal
    · exact hend
    · exact hend

variable (config outcomes attemptCount command) in
theorem isTerminal_seekToEnd_singleton (next : FfmpegCommandSpec)
    (hlast : world.statuses.getLast? = some .starting) :
    let run := runFrom (seekToEnd config outcomes [next] attemptCount command) world
    IsTerminal run.1 run.2 ↔
      starts config outcomes attemptCount command = true ∧
        (fallsBack outcomes attemptCount command true = true →
          outcomes.recreateDir.isOk = true ∧ starts config outcomes 2 next = true) := by
  rw [runFrom_seekToEnd_cons]
  cases hstarts : starts config outcomes attemptCount command with
  | false =>
    obtain ⟨error, segment, hrun⟩ := seekAttempt_of_not_starts world true hstarts
    rw [hrun]
    exact iff_of_false (not_isTerminal_of_starting hlast) fun h => Bool.false_ne_true h.1
  | true =>
    have hcases := seekAttempt_cases world true hstarts
    cases hfalls : fallsBack outcomes attemptCount command true with
    | false =>
      simp only [hfalls, Bool.false_eq_true, false_and, or_false, true_and] at hcases
      have hterminal := isTerminal_of_not_fallsBack hcases
      generalize runFrom (seekAttempt config outcomes attemptCount command true) world = run
        at hterminal
      obtain ⟨result, after⟩ := run
      refine iff_of_true ?_ ⟨rfl, fun h => absurd h Bool.false_ne_true⟩
      obtain ⟨rfl, hend⟩ | ⟨error, rfl, hend⟩ := hterminal
      · exact hend
      · exact hend
    | true =>
      simp only [hfalls, Bool.true_eq_false, false_and, false_or, true_and] at hcases
      generalize runFrom (seekAttempt config outcomes attemptCount command true) world = run
        at hcases
      obtain ⟨result, after⟩ := run
      obtain ⟨hafter, ⟨hrecreate, rfl⟩ | ⟨hrecreate, error, rfl⟩⟩ := hcases
      · have hstarting : after.statuses.getLast? = some .starting := by
          rw [hafter]
          exact hlast
        simp only [hrecreate, true_and, true_imp_iff]
        exact isTerminal_seekToEnd_nil config outcomes 2 next hstarting
      · have hstarting : after.statuses.getLast? = some .starting := by
          rw [hafter]
          exact hlast
        simp only [hrecreate, Bool.false_eq_true, false_and, true_imp_iff, and_false, iff_false]
        exact not_isTerminal_of_starting hstarting

/-! The whole run. -/

def Settles (config : Config) (outcomes : Outcomes) (plan : HlsTranscodePlan) : Prop :=
  outcomes.reserve.isOk = false ∨ outcomes.createDir.isOk = false ∨
    starts config outcomes 1 plan.primary = true ∧
      ∀ next ∈ plan.fallback, fallsBack outcomes 1 plan.primary true = true →
        outcomes.recreateDir.isOk = true ∧ starts config outcomes 2 next = true

variable (world config outcomes) in
theorem isTerminal_generateFromStarting (plan : HlsTranscodePlan)
    (hlast : world.statuses.getLast? = some .starting) :
    let run := runFrom (generateFromStarting config outcomes plan) world
    IsTerminal run.1 run.2 ↔ Settles config outcomes plan := by
  simp only [generateFromStarting, Settles]
  cases outcomes.reserve with
  | error error =>
    exact iff_of_true (isTerminal_of_abandon (.inl rfl) rfl) (.inl rfl)
  | ok _ =>
    cases outcomes.createDir with
    | error error =>
      exact iff_of_true (isTerminal_of_abandon (.inl rfl) rfl) (.inr (.inl rfl))
    | ok _ =>
      have hok : ∀ {ε : Type} (value : Unit), (Except.ok value : Except ε Unit).isOk ≠ false := by
        intro ε value h
        cases h
      simp only [hok]
      cases hfallback : plan.fallback with
      | none =>
        have hnil := isTerminal_seekToEnd_nil config outcomes 1 plan.primary hlast
        simpa using hnil
      | some next =>
        have hcons := isTerminal_seekToEnd_singleton config outcomes 1 plan.primary next hlast
        simpa using hcons

def ReachesStarting (outcomes : Outcomes) (session : TranscodeSession) (segmentId : UInt32)
    (segment : Option Nat) : Prop :=
  segment = none ∧
    ¬(0 < runtimeTicks session ∧
      runtimeTicks session ≤ hlsSegmentStartPositionTicks segmentId) ∧
    ((session.status = "starting" ∨ session.status = "running") → outcomes.stopSender = true →
      outcomes.replaced.isOk = true)

/-! Statuses are only added. -/

variable (world config outcomes attemptCount command fallbackAvailable) in
theorem statuses_prefix_seekAttempt :
    world.statuses <+: (runFrom (seekAttempt config outcomes attemptCount command
      fallbackAvailable) world).2.statuses := by
  cases hstarts : starts config outcomes attemptCount command with
  | false =>
    obtain ⟨error, segment, hrun⟩ := seekAttempt_of_not_starts world fallbackAvailable
      hstarts
    simp only [hrun, List.prefix_refl]
  | true =>
    obtain ⟨-, ⟨-, hafter, -⟩ | ⟨error, status, -, -, hafter⟩⟩ | ⟨-, hafter, -⟩ :=
      seekAttempt_cases world fallbackAvailable hstarts
    · simp only [hafter, List.prefix_refl]
    · simp only [hafter, List.prefix_append]
    · simp only [hafter, List.prefix_refl]

theorem statuses_prefix_seekToEnd {fallback : List FfmpegCommandSpec} :
    world.statuses <+: (runFrom (seekToEnd config outcomes fallback attemptCount command)
      world).2.statuses := by
  induction fallback generalizing attemptCount command world with
  | nil =>
    have hattempt := statuses_prefix_seekAttempt world config outcomes attemptCount command
      false
    rw [runFrom_seekToEnd_nil]
    generalize runFrom (seekAttempt config outcomes attemptCount command false) world = run
      at hattempt
    obtain ⟨result, after⟩ := run
    cases result with
    | ok value => exact hattempt.trans (List.prefix_append _ _)
    | error error => exact hattempt
  | cons next rest ih =>
    have hattempt := statuses_prefix_seekAttempt world config outcomes attemptCount command
      true
    rw [runFrom_seekToEnd_cons]
    generalize runFrom (seekAttempt config outcomes attemptCount command true) world = run
      at hattempt
    obtain ⟨result, after⟩ := run
    cases result with
    | error error => exact hattempt
    | ok value =>
      cases value with
      | true => exact hattempt.trans ih
      | false => exact hattempt.trans (List.prefix_append _ _)

theorem statuses_prefix_generateFromStarting {plan : HlsTranscodePlan} :
    world.statuses <+: (runFrom (generateFromStarting config outcomes plan) world).2.statuses := by
  simp only [generateFromStarting]
  cases outcomes.reserve with
  | error error => exact List.prefix_append _ _
  | ok _ =>
    cases outcomes.createDir with
    | error error => exact List.prefix_append _ _
    | ok _ => exact statuses_prefix_seekToEnd

variable (world outcomes) in
theorem runFrom_stopContinuousHlsForSeek (session : TranscodeSession) :
    (∃ after, runFrom (stopContinuousHlsForSeek outcomes session) world = (.ok (), after) ∧
      ((session.status = "starting" ∨ session.status = "running") → outcomes.stopSender = true →
        outcomes.replaced.isOk = true)) ∨
    (∃ error, runFrom (stopContinuousHlsForSeek outcomes session) world =
        (.error error, { world with statuses := world.statuses ++ [.stopping] }) ∧
      (session.status = "starting" ∨ session.status = "running") ∧ outcomes.stopSender = true ∧
        outcomes.replaced.isOk = false) := by
  simp only [stopContinuousHlsForSeek]
  by_cases hstatus : session.status = "starting" ∨ session.status = "running"
  · rw [if_pos hstatus]
    cases outcomes.stopSender with
    | false => exact .inl ⟨_, rfl, fun _ h => absurd h Bool.false_ne_true⟩
    | true =>
      cases outcomes.replaced with
      | ok _ => exact .inl ⟨_, rfl, fun _ _ => rfl⟩
      | error error => exact .inr ⟨error, rfl, hstatus, rfl, rfl⟩
  · rw [if_neg hstatus]
    exact .inl ⟨_, rfl, fun h => absurd h hstatus⟩

/-- A run that writes `starting` ends as `failed` or `stopped` with an error, and as `completed`
with a segment otherwise, if and only if every attempt that it makes is admitted and spawned, and
the directory of a fallback is created. -/
theorem generation_settles_iff (config : Config) (outcomes : Outcomes) (session : TranscodeSession)
    (sessionDir inputPath : String) (segmentId : UInt32) (segment : Option Nat) :
    let run := runFrom (generateMissingHlsSegment config outcomes session sessionDir inputPath
      segmentId) ⟨[], segment⟩
    (.starting ∈ run.2.statuses → IsTerminal run.1 run.2) ↔
      (ReachesStarting outcomes session segmentId segment →
        Settles config outcomes (buildHlsTranscodePlan
          (seekRequest config session sessionDir inputPath segmentId) config.ffmpegMode)) := by
  intro run
  have hrun : run = runFrom (generateMissingHlsSegment config outcomes session sessionDir inputPath
    segmentId) ⟨[], segment⟩ := rfl
  simp only [generateMissingHlsSegment, runFrom_bind, runFrom_get] at hrun
  cases segment with
  | some length =>
    have hnone : run.2.statuses = [] := by rw [hrun]; rfl
    exact iff_of_true (by simp [hnone]) (fun h => absurd h.1 (by simp))
  | none =>
    by_cases hend : 0 < runtimeTicks session ∧
        runtimeTicks session ≤ hlsSegmentStartPositionTicks segmentId
    · have hnone : run.2.statuses = [] := by
        rw [hrun]
        simp [hend]
      exact iff_of_true (by simp [hnone]) (fun h => absurd hend h.2.1)
    · simp only [Option.isSome_none, Bool.false_eq_true, if_false, hend,
        runFrom_bind] at hrun
      obtain ⟨after, hstop, hreached⟩ | ⟨error, hstop, hstatus, hsender, hreplaced⟩ :=
        runFrom_stopContinuousHlsForSeek ⟨[], none⟩ outcomes session
      · simp only [hstop, runFrom_updateTranscodeSessionStatus] at hrun
        have hlast : (after.statuses ++ [SessionStatus.starting]).getLast? = some .starting := by
          simp
        have hterminal := isTerminal_generateFromStarting
          { after with statuses := after.statuses ++ [.starting] } config outcomes
          (buildHlsTranscodePlan (seekRequest config session sessionDir inputPath segmentId)
            config.ffmpegMode) hlast
        have hstarting : SessionStatus.starting ∈ run.2.statuses := by
          rw [hrun]
          exact statuses_prefix_generateFromStarting.subset (by simp)
        have hreaches : ReachesStarting outcomes session segmentId none := ⟨rfl, hend, hreached⟩
        rw [← hrun] at hterminal
        simp only [hstarting, hreaches, true_imp_iff]
        exact hterminal
      · simp only [hstop] at hrun
        have hstatuses : run.2.statuses = [.stopping] := by rw [hrun]; rfl
        refine iff_of_true (by simp [hstatuses]) fun h => ?_
        rw [h.2.2 hstatus hsender] at hreplaced
        cases hreplaced

def seekConfig : Config where
  ffmpegMode := .remuxOnly
  videoThreads := some 2
  videoPreset := .veryfast
  remoteVodReadrate := (some 110, some 15)

def endedSession : TranscodeSession where
  item := ⟨some 36000000000, fun _ => false, true, fun _ => true, false⟩
  status := "completed"
  dedupeKey := none
  videoStreamIndex := none
  audioStreamIndex := none
  subtitleStreamIndex := none

def busyOutcomes : Outcomes where
  stopSender := false
  replaced := .ok ()
  reserve := .ok ()
  createDir := .ok ()
  attempt := fun _ =>
    ⟨.refused "queue timeout", .ok (), none, .exited (.ok ⟨some 0, true⟩)⟩
  recreateDir := .ok ()

theorem refused_seek_stays_starting :
    let run := runFrom (generateMissingHlsSegment seekConfig busyOutcomes endedSession
      "/tmp/jellyrin/transcodes/s" "/media/film.mkv" 40) ⟨[], none⟩
    run.1 = .error (.serviceUnavailable "HLS seek capacity unavailable: queue timeout") ∧
      run.2.statuses = [.starting] ∧ ¬IsTerminal run.1 run.2 := by
  intro run
  have hrun : run =
      (.error (.serviceUnavailable "HLS seek capacity unavailable: queue timeout"),
        ⟨[.starting], none⟩) := rfl
  rw [hrun]
  exact ⟨rfl, rfl, by simp [IsTerminal]⟩

end Jellyrin.Playback.OnDemand
