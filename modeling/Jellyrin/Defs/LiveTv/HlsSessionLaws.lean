import Jellyrin.Defs.LiveTv.HlsSessionSteps

/-! Starts that find their session directory free never harm the session of another
start. -/

namespace Jellyrin.LiveTv.Hls

open Transcode Transition

variable {w w' : World}

theorem inPhase_eq_some {s : Start} {phase : Phase} {next : World}
    (h : w.inPhase s phase next = some w') : s ∈ w.starts ∧ s.phase = phase ∧ next = w' := by
  simp only [World.inPhase] at h
  split at h
  · rename_i hguard
    exact ⟨hguard.1, hguard.2, Option.some.inj h⟩
  · cases h

theorem inPhase_of_mem {s : Start} (h : s ∈ w.starts) (next : World) :
    w.inPhase s s.phase next = some next := if_pos ⟨h, rfl⟩

theorem answering_eq_some {request : StopRequest} {next : World}
    (h : w.answering request next = some w') : next = w' := by
  simp only [World.answering] at h
  split at h
  · exact Option.some.inj h
  · cases h

/-- A request that passes its last check finds the directory free, and what a
registration evicts may go. -/
structure Quiet (w : World) (action : Action) : Prop where
  free : ∀ s, action = .checkDedupe s → duplicateSession w.sessions s.request = none → Free w s
  spare : ∀ s now, action = .register s now → s.key ∉ w.sessions →
    ∀ key ∈ evictions w.sessions liveHlsSessionRegistryMaxEntries, Spare w s key

theorem existingSession_eq_some {sessions : Sessions} {request : Request} {now : Int}
    {entry' : LiveHlsSessionEntry} (h : existingSession sessions request now = .ok (some entry')) :
    ∃ entry, sessions.lookup request.playSessionId = some entry ∧
      entry' = { entry with updatedAt := now } := by
  simp only [existingSession] at h
  split at h
  · rename_i entry hlookup
    split at h
    · cases h
    · split at h <;> cases h
      exact ⟨entry, hlookup, rfl⟩
  · cases h

theorem Separate.request (hi : Separate w) (request : Request) :
    Separate { w with
      starts := ⟨w.nextStart, request, .checking⟩ :: w.starts
      nextStart := w.nextStart + 1 } := by
  constructor
  · rw [List.map_cons, List.nodup_cons]
    refine ⟨?_, hi.ids⟩
    intro hmem
    obtain ⟨s, hs, hid⟩ := List.mem_map.mp hmem
    exact Nat.ne_of_lt (hi.fresh s hs) hid
  · intro s hs
    cases hs with
    | head => exact Nat.lt_succ_self _
    | tail _ hs => exact Nat.lt_succ_of_lt (hi.fresh s hs)
  · exact hi.filed
  · intro s hs t ht hclaims htclaims
    cases hs with
    | head => cases hclaims
    | tail _ hs =>
      cases ht with
      | head => cases htclaims
      | tail _ ht => exact hi.alone s hs t ht hclaims htclaims
  · intro s hs evicted hevicted t ht hpending
    cases hs with
    | head => cases hevicted
    | tail _ hs =>
      cases ht with
      | head => cases hpending
      | tail _ ht => exact hi.evicting s hs evicted hevicted t ht hpending
  · intro s hs hclaims
    cases hs with
    | head => cases hclaims
    | tail _ hs => exact hi.kept s hs hclaims
  · intro s hs evicted hevicted
    cases hs with
    | head => cases hevicted
    | tail _ hs => exact hi.keptEvicted s hs evicted hevicted
  · intro s hs hentry
    cases hs with
    | head => cases hentry
    | tail _ hs => exact hi.owned s hs hentry
  · intro s hs hlive
    cases hs with
    | head => cases hlive
    | tail _ hs => exact hi.live s hs hlive
  · intro s hs hstop
    cases hs with
    | head => cases hstop
    | tail _ hs => exact hi.stops s hs hstop

variable {entry : LiveHlsSessionEntry}

theorem Separate.touch (hi : Separate w) {key : String}
    (hlookup : w.sessions.lookup key = some entry) (now : Int) :
    Separate { w with sessions := w.sessions.insert key { entry with updatedAt := now } } := by
  apply hi.withSessions
  intro other entry' hother
  obtain ⟨rfl, rfl⟩ | ⟨-, hother⟩ := HashMap.lookup_insert_eq_some.mp hother
  · exact ⟨entry, hlookup, rfl, rfl, id, fun _ _ _ _ => id⟩
  · exact ⟨entry', hother, rfl, rfl, id, fun _ _ _ _ => id⟩

section Step

variable {s : Start} (hi : Separate w) (hs : s ∈ w.starts)
include hi

theorem Separate.checkSession (hs : s ∈ w.starts) (hphase : s.phase = .checking) (now : Int) :
    Separate (w.checkSession s now) := by
  simp only [World.checkSession]
  split
  · exact hi.leave
  · rename_i hexisting
    obtain ⟨entry, hlookup, rfl⟩ := existingSession_eq_some hexisting
    exact (hi.touch hlookup now).leave
  · refine hi.advance hs ?_ nofun
    rw [hphase]
    exact ⟨nofun, nofun, nofun, nofun, nofun⟩

theorem Separate.checkDedupe (hs : s ∈ w.starts)
    (hfree : duplicateSession w.sessions s.request = none → Free w s) :
    Separate (w.checkDedupe s) := by
  simp only [World.checkDedupe]
  cases hduplicate : duplicateSession w.sessions s.request with
  | some entry => exact hi.leave
  | none => exact hi.claim hs (hfree hduplicate)

include hs

theorem Separate.withFiles (files : Files) {phase : Phase} (hle : Phase.Le phase s.phase)
    (hstop : phase.hasStop = true → s.phase.hasStop = true) :
    Separate ({ w with files }.advance s phase) := by
  have hfiles : Separate { w with files } := hi.congr rfl rfl rfl rfl
  exact hfiles.advance hs hle hstop

theorem Separate.exit (hlive : s.phase.isLive = true) (hstop : s.phase.hasStop = true)
    (attempt : Attempt) (outcome : LiveHlsAttemptOutcome) :
    Separate (w.exit s attempt outcome) := by
  have hnext : ∀ ready, (attempt.next ready outcome).hasStop = true := by
    intro ready
    simp only [Attempt.next]
    split
    · split <;> rfl
    · rfl
  exact hi.advance hs (.of_isLive (hnext _) hlive) fun _ => hstop

end Step

theorem Separate.step (hi : Separate w) {action : Action} (hc : Quiet w action)
    (h : w.step action = some w') : Separate w' := by
  cases action with
  | request request =>
    cases h
    exact hi.request request
  | giveUp s =>
    simp only [World.step] at h
    split at h <;> cases h
    exact hi.leave
  | checkSession s now =>
    obtain ⟨hs, hphase, rfl⟩ := inPhase_eq_some h
    exact hi.checkSession hs hphase now
  | checkDedupe s =>
    obtain ⟨hs, -, rfl⟩ := inPhase_eq_some h
    exact hi.checkDedupe hs (hc.free s rfl)
  | clean s =>
    obtain ⟨hs, hphase, rfl⟩ := inPhase_eq_some h
    refine hi.withFiles hs _ ?_ nofun
    rw [hphase]
    exact ⟨fun _ => rfl, fun _ => rfl, nofun, nofun, nofun⟩
  | createDir s =>
    obtain ⟨hs, hphase, rfl⟩ := inPhase_eq_some h
    refine hi.withFiles hs _ ?_ nofun
    rw [hphase]
    exact ⟨fun _ => rfl, fun _ => rfl, nofun, nofun, nofun⟩
  | register s now =>
    obtain ⟨hs, hphase, rfl⟩ := inPhase_eq_some h
    simp only [World.register]
    split
    · refine hi.advance hs ?_ nofun
      rw [hphase]
      exact ⟨fun _ => rfl, nofun, nofun, nofun, nofun⟩
    · rename_i hregister
      exact hi.register hs hphase (.of_register hregister) (hc.spare s now rfl)
  | cleanRejected s =>
    obtain ⟨-, -, rfl⟩ := inPhase_eq_some h
    exact hi.leave.congr rfl rfl rfl rfl
  | quarantine s entry rest =>
    obtain ⟨hs, hphase, rfl⟩ := inPhase_eq_some h
    refine hi.withFiles hs _ ?_ nofun
    rw [hphase]
    exact ⟨fun _ => rfl, nofun, fun _ hmem => .tail _ hmem, fun _ => rfl, fun _ => rfl⟩
  | insertStop s =>
    obtain ⟨hs, hphase, rfl⟩ := inPhase_eq_some h
    exact hi.insertStop hs hphase
  | spawn s =>
    obtain ⟨hs, hphase, rfl⟩ := inPhase_eq_some h
    exact hi.advance hs (.of_isLive rfl (hphase ▸ rfl)) fun _ => hphase ▸ rfl
  | run s attempt now =>
    obtain ⟨hs, hphase, rfl⟩ := inPhase_eq_some h
    have hlive : s.phase.isLive = true := hphase ▸ rfl
    exact (hi.setEntry hs hlive now (.inr rfl)).advance hs (.of_isLive rfl hlive)
      fun _ => hphase ▸ rfl
  | output s attempt =>
    obtain ⟨-, -, rfl⟩ := inPhase_eq_some h
    simp only [World.output]
    split
    · exact hi.congr rfl rfl rfl rfl
    · exact hi
  | unqueue s attempt outcome =>
    simp only [World.step] at h
    split at h
    · obtain ⟨hs, hphase, rfl⟩ := inPhase_eq_some h
      exact hi.exit hs (hphase ▸ rfl) (hphase ▸ rfl) attempt outcome
    · cases h
  | exit s attempt outcome =>
    simp only [World.step] at h
    split at h
    · obtain ⟨hs, hphase, rfl⟩ := inPhase_eq_some h
      exact hi.exit hs (hphase ▸ rfl) (hphase ▸ rfl) attempt outcome
    · cases h
  | restart s attempt now =>
    obtain ⟨hs, hphase, rfl⟩ := inPhase_eq_some h
    have hlive : s.phase.isLive = true := hphase ▸ rfl
    exact (hi.setEntry hs hlive now (.inl rfl)).advance hs (.of_isLive rfl hlive)
      fun _ => hphase ▸ rfl
  | reclean s attempt =>
    obtain ⟨hs, hphase, rfl⟩ := inPhase_eq_some h
    exact hi.withFiles hs _ (.of_isLive rfl (hphase ▸ rfl)) fun _ => hphase ▸ rfl
  | recreate s attempt =>
    obtain ⟨hs, hphase, rfl⟩ := inPhase_eq_some h
    exact hi.withFiles hs _ (.of_isLive rfl (hphase ▸ rfl)) fun _ => hphase ▸ rfl
  | recreateFails s attempt =>
    obtain ⟨hs, hphase, rfl⟩ := inPhase_eq_some h
    exact hi.advance hs (.of_isLive rfl (hphase ▸ rfl)) fun _ => hphase ▸ rfl
  | removeStop s finalStatus =>
    obtain ⟨hs, hphase, rfl⟩ := inPhase_eq_some h
    refine (hi.eraseStop s.key).advance hs ?_ nofun
    rw [hphase]
    exact ⟨fun _ => rfl, nofun, nofun, fun _ => rfl, fun _ => rfl⟩
  | setFinal s finalStatus now =>
    obtain ⟨hs, hphase, rfl⟩ := inPhase_eq_some h
    have hlive : s.phase.isLive = true := hphase ▸ rfl
    simp only [World.setFinal]
    split
    · exact hi.setFinal hs hlive finalStatus now hi.leave fun t ht _ => ht
    · have hle : Phase.Le (.deleting finalStatus) s.phase := by
        rw [hphase]
        exact ⟨fun _ => rfl, nofun, nofun, fun _ => rfl, nofun⟩
      refine hi.setFinal hs hlive finalStatus now (hi.advance hs hle nofun) ?_
      intro t ht htlive
      cases ht with
      | head => cases htlive
      | tail _ ht => exact ht
  | deleteFiles s finalStatus =>
    obtain ⟨hs, hphase, rfl⟩ := inPhase_eq_some h
    simp only [World.deleteFiles]
    split
    · refine hi.withFiles hs _ ?_ nofun
      rw [hphase]
      exact ⟨fun _ => rfl, nofun, nofun, fun _ => rfl, nofun⟩
    · exact hi.leave.congr rfl rfl rfl rfl
  | removeEntry s =>
    obtain ⟨-, -, rfl⟩ := inPhase_eq_some h
    exact (hi.eraseEntry s.key).leave
  | stop playSessionId =>
    cases h
    simp only [World.stop]
    split
    · exact hi.congr rfl rfl rfl rfl
    · exact hi
  | takeStop playSessionId outputPath =>
    obtain rfl := answering_eq_some h
    simp only [World.takeStop]
    split
    · exact (hi.eraseStop playSessionId).congr rfl rfl rfl rfl
    · exact hi.congr rfl rfl rfl rfl
  | removeStopped playSessionId outputPath =>
    obtain rfl := answering_eq_some h
    exact (hi.eraseEntry playSessionId).congr rfl rfl rfl rfl
  | cleanStopped outputPath =>
    obtain rfl := answering_eq_some h
    exact hi.congr rfl rfl rfl rfl

theorem separate_of_reaches (h : liveHlsSessions.Reaches Quiet w) : Separate w :=
  h.invariant (J := fun _ => True) (fun _ _ => trivial) Separate.new
    fun _ _ _ _ hi hc ha => hi.step hc ha

def Action.start : Action → Option Start
  | .request _ => none
  | .giveUp start => some start
  | .checkSession start _ => some start
  | .checkDedupe start => some start
  | .clean start => some start
  | .createDir start => some start
  | .register start _ => some start
  | .cleanRejected start => some start
  | .quarantine start _ _ => some start
  | .insertStop start => some start
  | .spawn start => some start
  | .run start _ _ => some start
  | .output start _ => some start
  | .unqueue start _ _ => some start
  | .exit start _ _ => some start
  | .restart start _ _ => some start
  | .reclean start _ => some start
  | .recreate start _ => some start
  | .recreateFails start _ => some start
  | .removeStop start _ => some start
  | .setFinal start _ _ => some start
  | .deleteFiles start _ => some start
  | .removeEntry start => some start
  | .stop _ => none
  | .takeStop _ _ => none
  | .removeStopped _ _ => none
  | .cleanStopped _ => none

def Action.isFinal : Action → Bool
  | .removeStop _ _ => true
  | .setFinal _ _ _ => true
  | .deleteFiles _ _ => true
  | .removeEntry _ => true
  | _ => false

/-- What other starts keep across a step: the files of a session that is handed out,
and across the final steps of a task also their entries and senders. -/
structure Harmless (w : World) (action : Action) (w' : World) : Prop where
  files : ∀ s, action.start = some s → ∀ key entry, w.sessions.lookup key = some entry →
    entry.isKept = true → entry.start ≠ s.id →
    ∀ path ∈ w.files, entry.sessionDir <+: path → path ∈ w'.files
  entries : ∀ s, action.start = some s → action.isFinal = true → ∀ key entry,
    w.sessions.lookup key = some entry → entry.start ≠ s.id →
    w'.sessions.lookup key = some entry
  stops : ∀ s, action.start = some s → action.isFinal = true → ∀ key id,
    w.stops.lookup key = some id → id ≠ s.id → w'.stops.lookup key = some id

def Holds (w : World) (s : Start) (dir : Path) : Prop :=
  s ∈ w.starts ∧ ((s.phase.claims = true ∧ dir = s.dir) ∨
    ∃ evicted ∈ s.phase.evicted, dir = evicted.sessionDir)

theorem Separate.sessionDir_ne (hi : Separate w) {s : Start} {dir : Path} (hholds : Holds w s dir)
    {key : String} (hlookup : w.sessions.lookup key = some entry) (hkept : entry.isKept = true)
    (hstart : entry.start ≠ s.id) : entry.sessionDir ≠ dir := by
  obtain ⟨hs, ⟨hclaims, rfl⟩ | ⟨evicted, hevicted, rfl⟩⟩ := hholds
  · intro heq
    exact hstart (hi.kept s hs hclaims key entry hlookup hkept heq)
  · intro heq
    exact hstart (hi.keptEvicted s hs evicted hevicted key entry hlookup hkept heq)

theorem files_of_step {action : Action} (h : w.step action = some w') {s : Start}
    (hs : action.start = some s) :
    w.files ⊆ w'.files ∨
      ∃ dir, Holds w s dir ∧ w'.files = cleanupHlsTranscodeDir dir w.files := by
  cases action with
  | request | stop | takeStop | removeStopped | cleanStopped => cases hs
  | giveUp =>
    simp only [World.step] at h
    split at h <;> cases h
    exact .inl (List.Subset.refl _)
  | checkSession =>
    obtain ⟨-, -, rfl⟩ := inPhase_eq_some h
    simp only [World.checkSession]
    split <;> exact .inl (List.Subset.refl _)
  | checkDedupe =>
    obtain ⟨-, -, rfl⟩ := inPhase_eq_some h
    simp only [World.checkDedupe]
    split <;> exact .inl (List.Subset.refl _)
  | register =>
    obtain ⟨-, -, rfl⟩ := inPhase_eq_some h
    simp only [World.register]
    split <;> exact .inl (List.Subset.refl _)
  | insertStop | spawn | run | restart | recreateFails | removeStop | removeEntry =>
    obtain ⟨-, -, rfl⟩ := inPhase_eq_some h
    exact .inl (List.Subset.refl _)
  | createDir | recreate =>
    obtain ⟨-, -, rfl⟩ := inPhase_eq_some h
    exact .inl (subset_createDirAll _ _)
  | output =>
    obtain ⟨-, -, rfl⟩ := inPhase_eq_some h
    simp only [World.output]
    split
    · exact .inl (List.subset_cons_self _ _)
    · exact .inl (List.Subset.refl _)
  | unqueue | exit =>
    simp only [World.step] at h
    split at h
    · obtain ⟨-, -, rfl⟩ := inPhase_eq_some h
      exact .inl (List.Subset.refl _)
    · cases h
  | setFinal =>
    obtain ⟨-, -, rfl⟩ := inPhase_eq_some h
    simp only [World.setFinal]
    split <;> exact .inl (List.Subset.refl _)
  | clean | cleanRejected | reclean =>
    obtain ⟨hmem, hphase, rfl⟩ := inPhase_eq_some h
    cases hs
    exact .inr ⟨_, ⟨hmem, .inl ⟨hphase ▸ rfl, rfl⟩⟩, rfl⟩
  | deleteFiles =>
    obtain ⟨hmem, hphase, rfl⟩ := inPhase_eq_some h
    cases hs
    simp only [World.deleteFiles]
    split <;> exact .inr ⟨_, ⟨hmem, .inl ⟨hphase ▸ rfl, rfl⟩⟩, rfl⟩
  | quarantine =>
    obtain ⟨hmem, hphase, rfl⟩ := inPhase_eq_some h
    cases hs
    refine .inr ⟨_, ⟨hmem, .inr ⟨_, ?_, rfl⟩⟩, rfl⟩
    rw [hphase]
    exact .head _

theorem Separate.harmless_files (hi : Separate w) {action : Action} (h : w.step action = some w')
    {s : Start} (hs : action.start = some s) {key : String}
    (hlookup : w.sessions.lookup key = some entry) (hkept : entry.isKept = true)
    (hstart : entry.start ≠ s.id) {path : Path} (hpath : path ∈ w.files)
    (hunder : entry.sessionDir <+: path) : path ∈ w'.files := by
  obtain hsubset | ⟨dir, hholds, hfiles⟩ := files_of_step h hs
  · exact hsubset hpath
  · rw [hfiles]
    apply mem_cleanupHlsTranscodeDir hpath hunder
    · rw [hi.filed key entry hlookup]
      rfl
    · exact hi.sessionDir_ne hholds hlookup hkept hstart

theorem Separate.harmless_entries (hi : Separate w) {action : Action}
    (h : w.step action = some w') {s : Start} (hs : action.start = some s)
    (hfinal : action.isFinal = true) {key : String} (hlookup : w.sessions.lookup key = some entry)
    (hstart : entry.start ≠ s.id) : w'.sessions.lookup key = some entry := by
  have hother : s ∈ w.starts → s.phase.hasEntry = true → key ≠ s.key := by
    rintro hmem hentry rfl
    exact hstart (hi.owned s hmem hentry entry hlookup)
  cases action <;> cases hfinal <;> cases hs
  case removeStop =>
    obtain ⟨-, -, rfl⟩ := inPhase_eq_some h
    exact hlookup
  case setFinal =>
    obtain ⟨hmem, hphase, rfl⟩ := inPhase_eq_some h
    have hne := hother hmem (hphase ▸ rfl)
    simp only [World.setFinal]
    split <;> exact (lookup_updateEntry_of_ne hne).trans hlookup
  case deleteFiles =>
    obtain ⟨-, -, rfl⟩ := inPhase_eq_some h
    simp only [World.deleteFiles]
    split <;> exact hlookup
  case removeEntry =>
    obtain ⟨hmem, hphase, rfl⟩ := inPhase_eq_some h
    exact HashMap.lookup_erase_eq_some.mpr ⟨hother hmem (hphase ▸ rfl), hlookup⟩

theorem Separate.harmless_stops (hi : Separate w) {action : Action}
    (h : w.step action = some w') {s : Start} (hs : action.start = some s)
    (hfinal : action.isFinal = true) {key : String} {id : StartId}
    (hlookup : w.stops.lookup key = some id) (hid : id ≠ s.id) :
    w'.stops.lookup key = some id := by
  cases action <;> cases hfinal <;> cases hs
  case removeStop =>
    obtain ⟨hmem, hphase, rfl⟩ := inPhase_eq_some h
    have hne : key ≠ s.key := by
      rintro rfl
      exact hid (hi.stops s hmem (hphase ▸ rfl) id hlookup)
    exact (AList.lookup_erase_ne hne).trans hlookup
  case setFinal =>
    obtain ⟨-, -, rfl⟩ := inPhase_eq_some h
    simp only [World.setFinal]
    split <;> exact hlookup
  case deleteFiles =>
    obtain ⟨-, -, rfl⟩ := inPhase_eq_some h
    simp only [World.deleteFiles]
    split <;> exact hlookup
  case removeEntry =>
    obtain ⟨-, -, rfl⟩ := inPhase_eq_some h
    exact hlookup

/-- Along the quiet runs no step of a start harms another start's session. -/
theorem harmless_of_quiet (h : liveHlsSessions.Reaches Quiet w) {action : Action}
    (hstep : liveHlsSessions.step w action = some w') : Harmless w action w' := by
  have hi := separate_of_reaches h
  constructor
  · intro s hs key entry hlookup hkept hstart path hpath hunder
    exact hi.harmless_files hstep hs hlookup hkept hstart hpath hunder
  · intro s hs hfinal key entry hlookup hstart
    exact hi.harmless_entries hstep hs hfinal hlookup hstart
  · intro s hs hfinal key id hlookup hid
    exact hi.harmless_stops hstep hs hfinal hlookup hid

def isQuiet (w : World) : Action → Bool
  | .checkDedupe start =>
    w.starts.all (fun s => decide (s = start)) && w.sessions.entries.isEmpty &&
    !start.phase.claims && start.phase.evicted.isEmpty
  | .register _ _ => w.sessions.entries.isEmpty
  | _ => true

theorem quiet_of_isQuiet (w : World) (action : Action) (h : isQuiet w action = true) :
    Quiet w action := by
  constructor
  · rintro s rfl -
    simp only [isQuiet, Bool.and_eq_true, List.all_eq_true, decide_eq_true_eq, List.isEmpty_iff,
      Bool.not_eq_true'] at h
    obtain ⟨⟨⟨hstarts, hsessions⟩, hclaims⟩, hevicted⟩ := h
    constructor
    · intro t ht htclaims
      rw [hstarts t ht, hclaims] at htclaims
      cases htclaims
    · intro t ht evicted hmem
      rw [hstarts t ht, hevicted] at hmem
      cases hmem
    · intro key entry hlookup
      have hmem := AList.mem_lookup_iff.mp hlookup
      rw [hsessions] at hmem
      cases hmem
  · rintro s now rfl - key hkey
    have hterminal : terminalByAge w.sessions = [] := by
      rw [terminalByAge, List.isEmpty_iff.mp h]
      rfl
    rw [evictions, hterminal, List.take_nil] at hkey
    cases hkey

theorem harmless_of_failed_task :
    ∃ w w' action, liveHlsSessions.step w action = some w' ∧ action.isFinal = true ∧
      w.files = [["s1"]] ∧ Harmless w action w' := by
  let request : Request := ⟨"s1", "hdhr_1", none, 7, ⟨.remux, none⟩⟩
  let attempt : Attempt := ⟨.remux, none, 1⟩
  have hrun : ∃ w, liveHlsSessions.Reaches Quiet w ∧
      w.files = [["s1"]] ∧ ⟨0, request, .deleting .failed⟩ ∈ w.starts :=
    Machine.exists_of_runWhile quiet_of_isQuiet [.request request,
      .checkSession ⟨0, request, .checking⟩ 0, .checkDedupe ⟨0, request, .deduping⟩,
      .clean ⟨0, request, .opening⟩, .createDir ⟨0, request, .cleaned⟩,
      .register ⟨0, request, .created⟩ 1, .insertStop ⟨0, request, .evicting []⟩,
      .spawn ⟨0, request, .stoppable⟩, .run ⟨0, request, .queued attempt⟩ attempt 2,
      .exit ⟨0, request, .running attempt⟩ attempt (.process false),
      .removeStop ⟨0, request, .closing .failed⟩ .failed,
      .setFinal ⟨0, request, .settling .failed⟩ .failed 3] (by decide)
  obtain ⟨w, hreach, hfiles, hmem⟩ := hrun
  have hstep : liveHlsSessions.step w (.deleteFiles ⟨0, request, .deleting .failed⟩ .failed) =
      some (w.deleteFiles ⟨0, request, .deleting .failed⟩ .failed) := inPhase_of_mem hmem _
  exact ⟨w, _, _, hstep, rfl, hfiles, harmless_of_quiet hreach hstep⟩

/-- The request of an id is sent twice.  Both pass the checks; while the session of
the first runs, the second one's cleanup deletes its directory and its segment. -/
theorem overlapping_start_deletes_files :
    ∃ w, liveHlsSessions.Reachable w ∧ ∃ s ∈ w.starts, ∃ entry w',
      w.sessions.lookup "s1" = some entry ∧ entry.status = .running ∧ entry.start ≠ s.id ∧
      ["s1", "segment_00000.ts"] ∈ w.files ∧
      liveHlsSessions.step w (.clean s) = some w' ∧ w'.files = [] ∧
      ¬Harmless w (.clean s) w' := by
  let request : Request := ⟨"s1", "hdhr_1", none, 7, ⟨.remux, none⟩⟩
  let attempt : Attempt := ⟨.remux, none, 1⟩
  let entry : LiveHlsSessionEntry := ⟨"s1", "livetv:hls:hdhr_1:subtitle:off", "hdhr_1", none,
    ["s1", "main.m3u8"], 7, .running, 2, 0⟩
  have hrun : ∃ w, liveHlsSessions.Reachable w ∧
      w.sessions.lookup "s1" = some entry ∧
      w.files = [["s1", "segment_00000.ts"], ["s1"]] ∧
      ⟨1, request, .opening⟩ ∈ w.starts :=
    Machine.exists_of_run [.request request, .request request,
      .checkSession ⟨0, request, .checking⟩ 0, .checkSession ⟨1, request, .checking⟩ 0,
      .checkDedupe ⟨0, request, .deduping⟩, .checkDedupe ⟨1, request, .deduping⟩,
      .clean ⟨0, request, .opening⟩, .createDir ⟨0, request, .cleaned⟩,
      .register ⟨0, request, .created⟩ 1, .insertStop ⟨0, request, .evicting []⟩,
      .spawn ⟨0, request, .stoppable⟩, .run ⟨0, request, .queued attempt⟩ attempt 2,
      .output ⟨0, request, .running attempt⟩ attempt] (by decide)
  obtain ⟨w, hreach, hlookup, hfiles, hmem⟩ := hrun
  have hstep : liveHlsSessions.step w (.clean ⟨1, request, .opening⟩) = some
      ({ w with files := cleanupHlsTranscodeDir request.layout.sessionDir w.files }.advance
        ⟨1, request, .opening⟩ .cleaned) := inPhase_of_mem hmem _
  have hcleaned : cleanupHlsTranscodeDir request.layout.sessionDir w.files = [] := by
    rw [hfiles]
    decide
  have hpath : ["s1", "segment_00000.ts"] ∈ w.files := hfiles ▸ .head _
  refine ⟨w, hreach, _, hmem, entry, _, hlookup, rfl, nofun, hpath, hstep, hcleaned, ?_⟩
  intro hharmless
  have hkept := hharmless.files _ rfl _ entry hlookup rfl nofun _ hpath ⟨_, rfl⟩
  change _ ∈ cleanupHlsTranscodeDir request.layout.sessionDir w.files at hkept
  rw [hcleaned] at hkept
  cases hkept

end Jellyrin.LiveTv.Hls
