import Jellyrin.Defs.Data.Ascii
import Jellyrin.Defs.Data.HashMap
import Jellyrin.Defs.Transition.Machine

/-! Start and end of the recording of a timer.  A task is first announced in the
registry of starting recordings and then promoted to the registry of active ones;
each lock section of either registry is one step. -/

namespace Jellyrin.LiveTv.Recording

open Ascii Transition

abbrev TaskId := Nat

structure LiveTvRecordingStartEntry where
  generation : UInt64
  task : Option TaskId
  deriving DecidableEq

structure LiveTvRecordingHandle where
  task : TaskId
  deriving DecidableEq

abbrev Starting := HashMap String LiveTvRecordingStartEntry

abbrev Active := HashMap String LiveTvRecordingHandle

def liveTvRecordingIsActive (active : Active) (timerId : String) : Bool :=
  active.keys.any fun key => eqIgnoreAsciiCase key timerId

def reserveLiveTvRecordingStart (timerId : String) (generation : UInt64)
    (starting : Starting) : Option Starting :=
  let normalized := toAsciiLowercase timerId
  if normalized ∈ starting then none
  else some (starting.insert normalized ⟨generation, none⟩)

def retainLiveTvRecordingStartTask (timerId : String) (generation : UInt64) (task : TaskId)
    (starting : Starting) : Option Starting :=
  match starting.lookup timerId with
  | some entry =>
    if entry.generation ≠ generation ∨ entry.task.isSome then none
    else some (starting.insert timerId { entry with task := some task })
  | none => none

def dropStartGuard (timerId : String) (generation : UInt64) (starting : Starting) : Starting :=
  match starting.lookup timerId with
  | some entry => if entry.generation = generation then starting.erase timerId else starting
  | none => starting

/-- A `maybe_spawn_live_tv_recording` future: before its first check, past it, and
between the second check and the reservation, where it does not wait. -/
inductive Call where
  | checking (timerId : String)
  | resolving (timerId : String)
  | clear (timerId : String)
  deriving DecidableEq

/-- `reserved` to `promoted` hold the start guard, `finishing` has removed the
active handle and still updates files and configuration. -/
inductive Phase where | reserved | launched | promoted | recording | finishing
  deriving DecidableEq

structure Task where
  id : TaskId
  timerId : String
  generation : UInt64
  phase : Phase
  deriving DecidableEq

structure World where
  starting : Starting
  active : Active
  nextGeneration : UInt64
  nextTask : TaskId
  calls : List Call
  tasks : List Task
  deriving DecidableEq

inductive Action where
  | call (timerId : String)
  | firstCheck (timerId : String)
  | giveUp (call : Call)
  | secondCheck (timerId : String)
  | reserve (timerId : String)
  | retain (task : Task)
  | skip (task : Task)
  | promote (task : Task)
  | dropGuard (task : Task)
  | remove (task : Task)
  | finish (task : Task)
  deriving DecidableEq

namespace World

/-- The task leaves `record_channel_to_file` while it holds its start guard. -/
def dropTask (w : World) (task : Task) : World :=
  { w with
    starting := dropStartGuard (toAsciiLowercase task.timerId) task.generation w.starting
    tasks := w.tasks.erase task }

def setPhase (w : World) (task : Task) (phase : Phase) : World :=
  { w with tasks := { task with phase } :: w.tasks.erase task }

def reserve (w : World) (timerId : String) : World :=
  let w := { w with calls := w.calls.erase (.clear timerId) }
  match reserveLiveTvRecordingStart timerId w.nextGeneration w.starting with
  | none => w
  | some starting =>
    { w with
      starting
      nextGeneration := w.nextGeneration + 1
      nextTask := w.nextTask + 1
      tasks := ⟨w.nextTask, timerId, w.nextGeneration, .reserved⟩ :: w.tasks }

def retain (w : World) (task : Task) : World :=
  match retainLiveTvRecordingStartTask (toAsciiLowercase task.timerId) task.generation task.id
    w.starting with
  | some starting => { w with starting }.setPhase task .launched
  | none => w.dropTask task

def promote (w : World) (task : Task) : World :=
  { w with active := w.active.insert task.timerId ⟨task.id⟩ }.setPhase task .promoted

def dropGuard (w : World) (task : Task) : World :=
  { w with
    starting := dropStartGuard (toAsciiLowercase task.timerId) task.generation w.starting
  }.setPhase task .recording

def remove (w : World) (task : Task) : World :=
  { w with active := w.active.erase task.timerId }.setPhase task .finishing

def step (w : World) : Action → Option World
  | .call timerId =>
    if timerId = "" then none else some { w with calls := .checking timerId :: w.calls }
  | .firstCheck timerId =>
    if .checking timerId ∈ w.calls then
      let calls := w.calls.erase (.checking timerId)
      if liveTvRecordingIsActive w.active timerId then some { w with calls }
      else some { w with calls := .resolving timerId :: calls }
    else none
  -- A check of the timer or its channel fails, or the future is dropped at an await.
  | .giveUp call =>
    match call with
    | .clear _ => none
    | call => if call ∈ w.calls then some { w with calls := w.calls.erase call } else none
  | .secondCheck timerId =>
    if .resolving timerId ∈ w.calls then
      let calls := w.calls.erase (.resolving timerId)
      if liveTvRecordingIsActive w.active timerId then some { w with calls }
      else some { w with calls := .clear timerId :: calls }
    else none
  | .reserve timerId => if .clear timerId ∈ w.calls then some (w.reserve timerId) else none
  | .retain task =>
    if task ∈ w.tasks ∧ task.phase = .reserved then some (w.retain task) else none
  | .skip task =>
    if task ∈ w.tasks ∧ task.phase = .launched then some (w.dropTask task) else none
  | .promote task =>
    if task ∈ w.tasks ∧ task.phase = .launched then some (w.promote task) else none
  | .dropGuard task =>
    if task ∈ w.tasks ∧ task.phase = .promoted then some (w.dropGuard task) else none
  | .remove task =>
    if task ∈ w.tasks ∧ task.phase = .recording then some (w.remove task) else none
  | .finish task =>
    if task ∈ w.tasks ∧ task.phase = .finishing then
      some { w with tasks := w.tasks.erase task }
    else none

end World

def recordings : Machine World Action where
  init := {
    starting := ∅
    active := ∅
    nextGeneration := 1
    nextTask := 0
    calls := []
    tasks := [] }
  step := World.step

end Jellyrin.LiveTv.Recording

/-! The starting registry excludes a second start of a timer until the promotion;
from there on only the two checks of the active registry do. -/

namespace Jellyrin.LiveTv.Recording

open Ascii Transition

inductive Step (w : World) : Action → World → Prop
  | call {timerId : String} :
      Step w (.call timerId) { w with calls := .checking timerId :: w.calls }
  | firstCheck {timerId : String} {calls : List Call} :
      Step w (.firstCheck timerId) { w with calls }
  | giveUp {call : Call} {calls : List Call} : Step w (.giveUp call) { w with calls }
  | secondCheck {timerId : String} {calls : List Call} :
      Step w (.secondCheck timerId) { w with calls }
  | refused {timerId : String} {calls : List Call} : toAsciiLowercase timerId ∈ w.starting →
      Step w (.reserve timerId) { w with calls }
  | reserved {timerId : String} {calls : List Call} : toAsciiLowercase timerId ∉ w.starting →
      Step w (.reserve timerId)
        { w with
          calls
          starting := w.starting.insert (toAsciiLowercase timerId) ⟨w.nextGeneration, none⟩
          nextGeneration := w.nextGeneration + 1
          nextTask := w.nextTask + 1
          tasks := ⟨w.nextTask, timerId, w.nextGeneration, .reserved⟩ :: w.tasks }
  | retained {task : Task} {entry : LiveTvRecordingStartEntry} : task ∈ w.tasks →
      task.phase = .reserved →
      Step w (.retain task)
        ({ w with starting := w.starting.insert (toAsciiLowercase task.timerId) entry }.setPhase
          task .launched)
  | aborted {task : Task} : task ∈ w.tasks → task.phase = .reserved →
      Step w (.retain task) (w.dropTask task)
  | skip {task : Task} : task ∈ w.tasks → task.phase = .launched →
      Step w (.skip task) (w.dropTask task)
  | promote {task : Task} : task ∈ w.tasks → task.phase = .launched →
      Step w (.promote task) (w.promote task)
  | dropGuard {task : Task} : task ∈ w.tasks → task.phase = .promoted →
      Step w (.dropGuard task) (w.dropGuard task)
  | remove {task : Task} : task ∈ w.tasks → task.phase = .recording →
      Step w (.remove task) (w.remove task)
  | finish {task : Task} : task ∈ w.tasks → task.phase = .finishing →
      Step w (.finish task) { w with tasks := w.tasks.erase task }

variable {w w' : World}

theorem Step.of_reserve {timerId : String} :
    Step w (.reserve timerId) (w.reserve timerId) := by
  simp only [World.reserve, reserveLiveTvRecordingStart]
  by_cases hmem : toAsciiLowercase timerId ∈ w.starting
  · simp only [if_pos hmem]
    exact .refused hmem
  · simp only [if_neg hmem]
    exact .reserved hmem

theorem Step.of_retain {task : Task} (hmem : task ∈ w.tasks) (hphase : task.phase = .reserved) :
    Step w (.retain task) (w.retain task) := by
  simp only [World.retain, retainLiveTvRecordingStartTask]
  cases w.starting.lookup (toAsciiLowercase task.timerId) with
  | none => exact .aborted hmem hphase
  | some entry =>
    by_cases hentry : entry.generation ≠ task.generation ∨ entry.task.isSome
    · simp only [if_pos hentry]
      exact .aborted hmem hphase
    · simp only [if_neg hentry]
      exact .retained hmem hphase

theorem Step.of_step {action : Action} (h : w.step action = some w') : Step w action w' := by
  cases action with
  | call timerId =>
    simp only [World.step] at h
    split at h <;> cases h
    exact .call
  | firstCheck timerId =>
    simp only [World.step] at h
    split at h
    · split at h <;> cases h <;> exact .firstCheck
    · cases h
  | giveUp call =>
    cases call with
    | clear timerId => cases h
    | checking timerId =>
      simp only [World.step] at h
      split at h <;> cases h
      exact .giveUp
    | resolving timerId =>
      simp only [World.step] at h
      split at h <;> cases h
      exact .giveUp
  | secondCheck timerId =>
    simp only [World.step] at h
    split at h
    · split at h <;> cases h <;> exact .secondCheck
    · cases h
  | reserve timerId =>
    simp only [World.step] at h
    split at h <;> cases h
    exact .of_reserve
  | retain task =>
    simp only [World.step] at h
    split at h <;> cases h
    rename_i hguard
    exact .of_retain hguard.1 hguard.2
  | skip task =>
    simp only [World.step] at h
    split at h <;> cases h
    rename_i hguard
    exact .skip hguard.1 hguard.2
  | promote task =>
    simp only [World.step] at h
    split at h <;> cases h
    rename_i hguard
    exact .promote hguard.1 hguard.2
  | dropGuard task =>
    simp only [World.step] at h
    split at h <;> cases h
    rename_i hguard
    exact .dropGuard hguard.1 hguard.2
  | remove task =>
    simp only [World.step] at h
    split at h <;> cases h
    rename_i hguard
    exact .remove hguard.1 hguard.2
  | finish task =>
    simp only [World.step] at h
    split at h <;> cases h
    rename_i hguard
    exact .finish hguard.1 hguard.2

def Phase.HoldsGuard (phase : Phase) : Prop :=
  phase = .reserved ∨ phase = .launched ∨ phase = .promoted

def Phase.IsActive (phase : Phase) : Prop := phase = .promoted ∨ phase = .recording

instance (phase : Phase) : Decidable phase.HoldsGuard := inferInstanceAs (Decidable (_ ∨ _))

instance (phase : Phase) : Decidable phase.IsActive := inferInstanceAs (Decidable (_ ∨ _))

def Task.key (task : Task) : String := toAsciiLowercase task.timerId

theorem dropStartGuard_of_ne {key timerId : String} {generation : UInt64} {starting : Starting}
    (hmem : key ∈ starting) (hne : key ≠ timerId) :
    key ∈ dropStartGuard timerId generation starting := by
  simp only [dropStartGuard]
  cases starting.lookup timerId with
  | none => exact hmem
  | some entry =>
    dsimp only
    split
    · exact AList.mem_erase.mpr ⟨hne, hmem⟩
    · exact hmem

section Tasks

variable {tasks : List Task} {task : Task}

theorem keys_setPhase (hmem : task ∈ tasks) (phase : Phase) :
    (({ task with phase } :: tasks.erase task).map Task.key).Perm (tasks.map Task.key) :=
  ((List.perm_cons_erase hmem).map Task.key).symm

theorem key_ne_of_mem_erase (hnodup : (tasks.map Task.key).Nodup) (hmem : task ∈ tasks)
    {other : Task} (hother : other ∈ tasks.erase task) : other.key ≠ task.key := by
  have hperm := ((List.perm_cons_erase hmem).map Task.key).nodup_iff.mp hnodup
  rw [List.map_cons, List.nodup_cons] at hperm
  intro heq
  exact hperm.1 (heq ▸ List.mem_map_of_mem hother)

theorem nodup_erase (hnodup : (tasks.map Task.key).Nodup) :
    ((tasks.erase task).map Task.key).Nodup :=
  hnodup.sublist (List.erase_sublist.map _)

theorem mem_erase_of_phase {other : Task} (hother : other ∈ tasks)
    (hphase : other.phase ≠ task.phase) : other ∈ tasks.erase task :=
  (List.mem_erase_of_ne fun heq => hphase (congrArg Task.phase heq)).mpr hother

end Tasks

/-- One task a timer, the guards are registered, and each handle of the active
registry belongs to a task that still records. -/
structure Exclusive (w : World) : Prop where
  keys : (w.tasks.map Task.key).Nodup
  guarded : ∀ task ∈ w.tasks, task.phase.HoldsGuard → task.key ∈ w.starting
  handled : ∀ timerId handle, w.active.lookup timerId = some handle →
    ∃ task ∈ w.tasks, task.timerId = timerId ∧ task.phase.IsActive

/-- A timer that is not being started has no task that is recording or finishing. -/
def Quiet (w : World) (action : Action) : Prop :=
  ∀ timerId, action = .reserve timerId → toAsciiLowercase timerId ∉ w.starting →
    ∀ task ∈ w.tasks, eqIgnoreAsciiCase task.timerId timerId = true →
      task.phase ≠ .recording ∧ task.phase ≠ .finishing

theorem Exclusive.new : Exclusive recordings.init where
  keys := List.nodup_nil
  guarded _ h := by cases h
  handled _ _ h := by cases h

theorem Exclusive.congr (hi : Exclusive w) (hstarting : w'.starting = w.starting)
    (hactive : w'.active = w.active) (htasks : w'.tasks = w.tasks) : Exclusive w' where
  keys := htasks ▸ hi.keys
  guarded := htasks ▸ hstarting ▸ hi.guarded
  handled := htasks ▸ hactive ▸ hi.handled

theorem Exclusive.key_ne_of_quiet (hi : Exclusive w) {timerId : String}
    (hquiet : Quiet w (.reserve timerId)) (hstarting : toAsciiLowercase timerId ∉ w.starting)
    {task : Task} (hmem : task ∈ w.tasks) : task.key ≠ toAsciiLowercase timerId := by
  intro hkey
  have hlate := hquiet timerId rfl hstarting task hmem (eqIgnoreAsciiCase_iff.mpr hkey)
  have hguarded : task.phase.HoldsGuard → False :=
    fun hphase => hstarting (hkey ▸ hi.guarded task hmem hphase)
  cases hphase : task.phase with
  | reserved => exact hguarded (.inl hphase)
  | launched => exact hguarded (.inr (.inl hphase))
  | promoted => exact hguarded (.inr (.inr hphase))
  | recording => exact hlate.1 hphase
  | finishing => exact hlate.2 hphase

theorem Exclusive.reserve (hi : Exclusive w) {timerId : String} {calls : List Call}
    (hquiet : Quiet w (.reserve timerId)) (hstarting : toAsciiLowercase timerId ∉ w.starting) :
    Exclusive { w with
      calls
      starting := w.starting.insert (toAsciiLowercase timerId) ⟨w.nextGeneration, none⟩
      nextGeneration := w.nextGeneration + 1
      nextTask := w.nextTask + 1
      tasks := ⟨w.nextTask, timerId, w.nextGeneration, .reserved⟩ :: w.tasks } := by
  constructor
  · rw [List.map_cons, List.nodup_cons]
    refine ⟨?_, hi.keys⟩
    intro hmem
    obtain ⟨task, htask, hkey⟩ := List.mem_map.mp hmem
    exact hi.key_ne_of_quiet hquiet hstarting htask hkey
  · intro task hmem hphase
    apply (AList.mem_insert _).mpr
    cases hmem with
    | head => exact .inl rfl
    | tail _ hmem => exact .inr (hi.guarded task hmem hphase)
  · intro key handle hlookup
    obtain ⟨task, hmem, htask⟩ := hi.handled key handle hlookup
    exact ⟨task, .tail _ hmem, htask⟩

theorem Exclusive.handled_erase (hi : Exclusive w) {task : Task} (hphase : ¬task.phase.IsActive)
    {timerId : String} {handle : LiveTvRecordingHandle}
    (hlookup : w.active.lookup timerId = some handle) :
    ∃ other ∈ w.tasks.erase task, other.timerId = timerId ∧ other.phase.IsActive := by
  obtain ⟨other, hother, htimer, hactive⟩ := hi.handled timerId handle hlookup
  refine ⟨other, mem_erase_of_phase hother ?_, htimer, hactive⟩
  intro heq
  exact hphase (heq ▸ hactive)

theorem Exclusive.handled_setPhase (hi : Exclusive w) {task : Task} {timerId : String}
    {handle : LiveTvRecordingHandle} {phase : Phase}
    (hlookup : w.active.lookup timerId = some handle) (hkeep : task.phase.IsActive → phase.IsActive) :
    ∃ other ∈ (w.setPhase task phase).tasks, other.timerId = timerId ∧ other.phase.IsActive := by
  obtain ⟨other, hother, htimer, hactive⟩ := hi.handled timerId handle hlookup
  by_cases heq : other = task
  · subst heq
    exact ⟨_, .head _, htimer, hkeep hactive⟩
  · exact ⟨other, .tail _ ((List.mem_erase_of_ne heq).mpr hother), htimer, hactive⟩

theorem Exclusive.finish (hi : Exclusive w) {task : Task} (hphase : ¬task.phase.IsActive) :
    Exclusive { w with tasks := w.tasks.erase task } := by
  constructor
  · exact nodup_erase hi.keys
  · intro other hother
    exact hi.guarded other (List.mem_of_mem_erase hother)
  · intro timerId handle hlookup
    exact hi.handled_erase hphase hlookup

section

variable {task : Task} (hi : Exclusive w) (hmem : task ∈ w.tasks)
include hi hmem

theorem Exclusive.dropTask (hphase : ¬task.phase.IsActive) : Exclusive (w.dropTask task) := by
  constructor
  · exact nodup_erase hi.keys
  · intro other hother hguard
    exact dropStartGuard_of_ne (hi.guarded other (List.mem_of_mem_erase hother) hguard)
      (key_ne_of_mem_erase hi.keys hmem hother)
  · intro timerId handle hlookup
    exact hi.handled_erase hphase hlookup

theorem Exclusive.retain {entry : LiveTvRecordingStartEntry} (hphase : task.phase = .reserved) :
    Exclusive ({ w with
      starting := w.starting.insert (toAsciiLowercase task.timerId) entry }.setPhase
        task .launched) := by
  constructor
  · exact (keys_setPhase hmem _).nodup_iff.mpr hi.keys
  · intro other hother hguard
    apply (AList.mem_insert _).mpr
    cases hother with
    | head => exact .inl rfl
    | tail _ hother => exact .inr (hi.guarded other (List.mem_of_mem_erase hother) hguard)
  · intro timerId handle hlookup
    exact hi.handled_setPhase hlookup fun h => absurd h (by rw [hphase]; decide)

theorem Exclusive.promote (hphase : task.phase = .launched) : Exclusive (w.promote task) := by
  constructor
  · exact (keys_setPhase hmem _).nodup_iff.mpr hi.keys
  · intro other hother hguard
    cases hother with
    | head => exact hi.guarded task hmem (.inr (.inl hphase))
    | tail _ hother => exact hi.guarded other (List.mem_of_mem_erase hother) hguard
  · intro timerId handle hlookup
    obtain ⟨heq, -⟩ | ⟨-, hlookup⟩ := HashMap.lookup_insert_eq_some.mp hlookup
    · exact ⟨_, .head _, heq.symm, .inl rfl⟩
    · exact hi.handled_setPhase hlookup fun _ => .inl rfl

theorem Exclusive.dropGuard : Exclusive (w.dropGuard task) := by
  constructor
  · exact (keys_setPhase hmem _).nodup_iff.mpr hi.keys
  · intro other hother hguard
    cases hother with
    | head =>
      have hfree : ¬Phase.HoldsGuard .recording := by decide
      exact absurd hguard hfree
    | tail _ hother =>
      exact dropStartGuard_of_ne (hi.guarded other (List.mem_of_mem_erase hother) hguard)
        (key_ne_of_mem_erase hi.keys hmem hother)
  · intro timerId handle hlookup
    exact hi.handled_setPhase hlookup fun _ => .inr rfl

theorem Exclusive.remove : Exclusive (w.remove task) := by
  constructor
  · exact (keys_setPhase hmem _).nodup_iff.mpr hi.keys
  · intro other hother hguard
    cases hother with
    | head =>
      have hfree : ¬Phase.HoldsGuard .finishing := by decide
      exact absurd hguard hfree
    | tail _ hother => exact hi.guarded other (List.mem_of_mem_erase hother) hguard
  · intro timerId handle hlookup
    obtain ⟨hne, hlookup⟩ := HashMap.lookup_erase_eq_some.mp hlookup
    obtain ⟨other, hother, htimer, hactive⟩ := hi.handled timerId handle hlookup
    refine ⟨other, .tail _ ((List.mem_erase_of_ne ?_).mpr hother), htimer, hactive⟩
    rintro rfl
    exact hne htimer.symm

end

theorem Exclusive.step (hi : Exclusive w) {action : Action} (hc : Quiet w action)
    (h : Step w action w') : Exclusive w' := by
  cases h with
  | call | firstCheck | giveUp | secondCheck | refused => exact hi.congr rfl rfl rfl
  | reserved hstarting => exact hi.reserve hc hstarting
  | retained hmem hphase => exact hi.retain hmem hphase
  | aborted hmem hphase | skip hmem hphase =>
    refine hi.dropTask hmem ?_
    rw [hphase]
    decide
  | promote hmem hphase => exact hi.promote hmem hphase
  | dropGuard hmem _ => exact hi.dropGuard hmem
  | remove hmem _ => exact hi.remove hmem
  | finish _ hphase =>
    refine hi.finish ?_
    rw [hphase]
    decide

theorem exclusive_of_reaches (h : recordings.Reaches Quiet w) : Exclusive w :=
  h.invariant (J := fun _ => True) (fun _ _ => trivial) Exclusive.new
    fun _ _ _ _ hi hc ha => hi.step hc (.of_step ha)

structure SingleRecording (w : World) : Prop where
  unique : w.tasks.Pairwise fun s t => eqIgnoreAsciiCase s.timerId t.timerId = false
  replaces : ∀ task ∈ w.tasks, task.phase = .launched →
    ∀ handle, w.active.lookup task.timerId = some handle →
      ∀ running ∈ w.tasks, running.id ≠ handle.task

theorem keys_nodup_iff {tasks : List Task} : (tasks.map Task.key).Nodup ↔
    tasks.Pairwise fun s t => eqIgnoreAsciiCase s.timerId t.timerId = false := by
  rw [List.Nodup, List.pairwise_map]
  apply iff_of_eq
  congr 1
  funext s t
  rw [← Bool.not_eq_true, eqIgnoreAsciiCase_iff]
  rfl

theorem Exclusive.singleRecording (hi : Exclusive w) : SingleRecording w where
  unique := keys_nodup_iff.mp hi.keys
  replaces task hmem hphase handle hlookup := by
    -- The handle's task would be a second task of the same timer.
    obtain ⟨other, hother, htimer, hactive⟩ := hi.handled task.timerId handle hlookup
    have hne : other.phase ≠ task.phase := by
      rw [hphase]
      obtain h | h := hactive <;> rw [h] <;> decide
    have hkey := key_ne_of_mem_erase hi.keys hmem (mem_erase_of_phase hother hne)
    exact absurd (congrArg toAsciiLowercase htimer) hkey

theorem SingleRecording.quiet {action : Action} (hi : SingleRecording w')
    (h : Step w action w') : Quiet w action := by
  rintro timerId rfl hstarting task hmem htimer
  cases h with
  | refused hmem => exact absurd hmem hstarting
  | reserved _ =>
    have hnew := List.rel_of_pairwise_cons hi.unique hmem
    rw [eqIgnoreAsciiCase_comm, htimer] at hnew
    cases hnew

/-- A timer has one recording along the quiet runs, and a step keeps that exactly
when it is quiet. -/
theorem singleRecording_iff_quiet (h : recordings.Reaches Quiet w) :
    SingleRecording w ∧
      ∀ action w', recordings.step w action = some w' →
        (SingleRecording w' ↔ Quiet w action) := by
  refine ⟨(exclusive_of_reaches h).singleRecording, ?_⟩
  intro action w' hstep
  constructor
  · intro hi
    exact hi.quiet (.of_step hstep)
  · intro hc
    exact (exclusive_of_reaches (h.tail hc hstep)).singleRecording

def isQuiet (w : World) : Action → Bool
  | .reserve _ => w.tasks.isEmpty
  | _ => true

theorem quiet_of_isQuiet (w : World) (action : Action) (h : isQuiet w action = true) :
    Quiet w action := by
  rintro timerId rfl - task hmem
  rw [List.isEmpty_iff.mp h] at hmem
  cases hmem

theorem singleRecording_of_second_call :
    ∃ w, w.tasks.map Task.phase = [.recording] ∧ w.calls = [] ∧ SingleRecording w := by
  have hrun : ∃ w, recordings.Reaches Quiet w ∧
      w.tasks.map Task.phase = [.recording] ∧ w.calls = [] :=
    Machine.exists_of_runWhile quiet_of_isQuiet [.call "t1", .call "T1", .firstCheck "t1",
      .firstCheck "T1", .secondCheck "t1", .reserve "t1", .retain ⟨0, "t1", 1, .reserved⟩,
      .promote ⟨0, "t1", 1, .launched⟩, .dropGuard ⟨0, "t1", 1, .promoted⟩,
      .secondCheck "T1"] (by decide)
  obtain ⟨w, hreach, hphases, hcalls⟩ := hrun
  exact ⟨w, hphases, hcalls, (singleRecording_iff_quiet hreach).1⟩

/-- The timer is spawned twice.  Both calls find the active registry empty, the
second one resumes between the first one's promotion and the end of its recording. -/
theorem second_recording_replaces_handle :
    ∃ w, recordings.Reachable w ∧
      w.tasks.map Task.phase = [.promoted, .recording] ∧
      w.tasks.map Task.timerId = ["t1", "t1"] ∧
      w.active.entries = [⟨"t1", ⟨1⟩⟩] ∧ ¬SingleRecording w := by
  have hrun : ∃ w, recordings.Reachable w ∧
      (w.tasks.map Task.phase = [.promoted, .recording] ∧
        w.tasks.map Task.timerId = ["t1", "t1"] ∧ w.active.entries = [⟨"t1", ⟨1⟩⟩]) ∧
      ¬w.tasks.Pairwise fun s t => eqIgnoreAsciiCase s.timerId t.timerId = false :=
    Machine.exists_of_run [.call "t1", .call "t1", .firstCheck "t1", .firstCheck "t1",
      .secondCheck "t1", .secondCheck "t1", .reserve "t1",
      .retain ⟨0, "t1", 1, .reserved⟩, .promote ⟨0, "t1", 1, .launched⟩,
      .dropGuard ⟨0, "t1", 1, .promoted⟩, .reserve "t1",
      .retain ⟨1, "t1", 2, .reserved⟩, .promote ⟨1, "t1", 2, .launched⟩] (by decide)
  obtain ⟨w, hreach, ⟨hphases, htimers, hactive⟩, hpair⟩ := hrun
  exact ⟨w, hreach, hphases, htimers, hactive, fun hi => hpair hi.unique⟩

end Jellyrin.LiveTv.Recording
