import Jellyrin.Defs.LiveTv.HlsSession

/-! A session directory has one start at a time as long as no start overlaps another
one or the end of an earlier task of its directory. -/

namespace Jellyrin.LiveTv.Hls

open Transcode Transition

def Start.key (start : Start) : String := start.request.playSessionId

def Start.dir (start : Start) : Path := start.request.layout.sessionDir

variable {phase : Phase}

namespace Phase

def claims : Phase → Bool
  | .checking => false
  | .deduping => false
  | _ => true

def isPending : Phase → Bool
  | .opening => true
  | .cleaned => true
  | .created => true
  | _ => false

def evicted : Phase → List LiveHlsSessionEntry
  | .evicting evicted => evicted
  | _ => []

def hasEntry : Phase → Bool
  | .checking => false
  | .deduping => false
  | .opening => false
  | .cleaned => false
  | .created => false
  | .rejected => false
  | _ => true

def isLive : Phase → Bool
  | .evicting _ => true
  | .stoppable => true
  | .queued _ => true
  | .running _ => true
  | .restarting _ => true
  | .recleaning _ => true
  | .recreating _ => true
  | .closing _ => true
  | .settling _ => true
  | _ => false

def hasStop : Phase → Bool
  | .stoppable => true
  | .queued _ => true
  | .running _ => true
  | .restarting _ => true
  | .recleaning _ => true
  | .recreating _ => true
  | .closing _ => true
  | _ => false

theorem claims_of_hasEntry (h : phase.hasEntry = true) : phase.claims = true := by
  cases phase <;> first | rfl | cases h

theorem hasEntry_of_isLive (h : phase.isLive = true) : phase.hasEntry = true := by
  cases phase <;> first | rfl | cases h

theorem hasEntry_of_hasStop (h : phase.hasStop = true) : phase.hasEntry = true := by
  cases phase <;> first | rfl | cases h

structure Le (new old : Phase) : Prop where
  claims : new.claims = true → old.claims = true
  isPending : new.isPending = true → old.isPending = true
  evicted : ∀ entry ∈ new.evicted, entry ∈ old.evicted
  hasEntry : new.hasEntry = true → old.hasEntry = true
  isLive : new.isLive = true → old.isLive = true

theorem Le.refl (phase : Phase) : Le phase phase := ⟨id, id, fun _ => id, id, id⟩

theorem isPending_eq_false (h : phase.hasEntry = true) : phase.isPending = false := by
  cases phase <;> first | rfl | cases h

theorem evicted_eq_nil (h : phase.hasStop = true) : phase.evicted = [] := by
  cases phase <;> first | rfl | cases h

theorem Le.of_isLive {new old : Phase} (hnew : new.hasStop = true) (hlive : old.isLive = true) :
    Le new old where
  claims _ := claims_of_hasEntry (hasEntry_of_isLive hlive)
  isPending h := by
    rw [isPending_eq_false (hasEntry_of_hasStop hnew)] at h
    cases h
  evicted entry h := by
    rw [evicted_eq_nil hnew] at h
    cases h
  hasEntry _ := hasEntry_of_isLive hlive
  isLive _ := hlive

end Phase

structure Separate (w : World) : Prop where
  ids : (w.starts.map Start.id).Nodup
  fresh : ∀ s ∈ w.starts, s.id < w.nextStart
  filed : ∀ key entry, w.sessions.lookup key = some entry →
    entry.sessionDir = (HlsTranscodeLayout.new key).sessionDir
  alone : ∀ s ∈ w.starts, ∀ t ∈ w.starts, s.phase.claims = true → t.phase.claims = true →
    t.dir = s.dir → t.id = s.id
  evicting : ∀ s ∈ w.starts, ∀ evicted ∈ s.phase.evicted, ∀ t ∈ w.starts,
    t.phase.isPending = true → t.dir = evicted.sessionDir → t.id = s.id
  kept : ∀ s ∈ w.starts, s.phase.claims = true → ∀ key entry,
    w.sessions.lookup key = some entry → entry.isKept = true → entry.sessionDir = s.dir →
    entry.start = s.id
  keptEvicted : ∀ s ∈ w.starts, ∀ evicted ∈ s.phase.evicted, ∀ key entry,
    w.sessions.lookup key = some entry → entry.isKept = true →
    entry.sessionDir = evicted.sessionDir → entry.start = s.id
  owned : ∀ s ∈ w.starts, s.phase.hasEntry = true → ∀ entry,
    w.sessions.lookup s.key = some entry → entry.start = s.id
  live : ∀ s ∈ w.starts, s.phase.isLive = true → ∀ entry,
    w.sessions.lookup s.key = some entry → liveHlsSessionIsActive entry = true
  stops : ∀ s ∈ w.starts, s.phase.hasStop = true → ∀ id,
    w.stops.lookup s.key = some id → id = s.id

theorem Separate.new : Separate liveHlsSessions.init where
  ids := List.nodup_nil
  fresh _ h := by cases h
  filed _ _ h := by cases h
  alone _ h := by cases h
  evicting _ h := by cases h
  kept _ h := by cases h
  keptEvicted _ h := by cases h
  owned _ h := by cases h
  live _ h := by cases h
  stops _ h := by cases h

theorem isKept_of_isActive {entry : LiveHlsSessionEntry}
    (h : liveHlsSessionIsActive entry = true) : entry.isKept = true := by
  simp only [liveHlsSessionIsActive] at h
  rw [LiveHlsSessionEntry.isKept, h]
  rfl

theorem dir_eq_of_key_eq {s t : Start} (h : t.key = s.key) : t.dir = s.dir :=
  congrArg (fun key => (HlsTranscodeLayout.new key).sessionDir) h

variable {w w' : World}

theorem Separate.congr (hi : Separate w) (hsessions : w'.sessions = w.sessions)
    (hstops : w'.stops = w.stops) (hstarts : w'.starts = w.starts)
    (hnext : w'.nextStart = w.nextStart) : Separate w' where
  ids := hstarts ▸ hi.ids
  fresh := hstarts ▸ hnext ▸ hi.fresh
  filed := hsessions ▸ hi.filed
  alone := hstarts ▸ hi.alone
  evicting := hstarts ▸ hi.evicting
  kept := hstarts ▸ hsessions ▸ hi.kept
  keptEvicted := hstarts ▸ hsessions ▸ hi.keptEvicted
  owned := hstarts ▸ hsessions ▸ hi.owned
  live := hstarts ▸ hsessions ▸ hi.live
  stops := hstarts ▸ hstops ▸ hi.stops

theorem Separate.withStarts (hi : Separate w) {starts : List Start}
    (hids : (starts.map Start.id).Nodup)
    (hle : ∀ s' ∈ starts, ∃ s ∈ w.starts,
      s'.id = s.id ∧ s'.request = s.request ∧ Phase.Le s'.phase s.phase)
    (hstops : ∀ s ∈ starts, s.phase.hasStop = true → ∀ id,
      w.stops.lookup s.key = some id → id = s.id) :
    Separate { w with starts } := by
  have hdir : ∀ {s s' : Start}, s'.request = s.request → s'.dir = s.dir :=
    fun h => congrArg (fun request => request.layout.sessionDir) h
  have hkey : ∀ {s s' : Start}, s'.request = s.request → s'.key = s.key :=
    fun h => congrArg Request.playSessionId h
  constructor
  · exact hids
  · intro s' hs'
    obtain ⟨s, hs, hid, -, -⟩ := hle s' hs'
    rw [hid]
    exact hi.fresh s hs
  · exact hi.filed
  · intro s' hs' t' ht' hclaims htclaims heq
    obtain ⟨s, hs, hid, hreq, hphase⟩ := hle s' hs'
    obtain ⟨t, ht, htid, htreq, htphase⟩ := hle t' ht'
    rw [hid, htid]
    apply hi.alone s hs t ht (hphase.claims hclaims) (htphase.claims htclaims)
    rw [← hdir hreq, ← hdir htreq, heq]
  · intro s' hs' evicted hevicted t' ht' hpending heq
    obtain ⟨s, hs, hid, -, hphase⟩ := hle s' hs'
    obtain ⟨t, ht, htid, htreq, htphase⟩ := hle t' ht'
    rw [hid, htid]
    apply hi.evicting s hs evicted (hphase.evicted _ hevicted) t ht (htphase.isPending hpending)
    rw [← hdir htreq, heq]
  · intro s' hs' hclaims key entry hlookup hkept heq
    obtain ⟨s, hs, hid, hreq, hphase⟩ := hle s' hs'
    rw [hid]
    exact hi.kept s hs (hphase.claims hclaims) key entry hlookup hkept (hdir hreq ▸ heq)
  · intro s' hs' evicted hevicted
    obtain ⟨s, hs, hid, -, hphase⟩ := hle s' hs'
    rw [hid]
    exact hi.keptEvicted s hs evicted (hphase.evicted _ hevicted)
  · intro s' hs' hentry
    obtain ⟨s, hs, hid, hreq, hphase⟩ := hle s' hs'
    rw [hid, hkey hreq]
    exact hi.owned s hs (hphase.hasEntry hentry)
  · intro s' hs' hlive
    obtain ⟨s, hs, -, hreq, hphase⟩ := hle s' hs'
    rw [hkey hreq]
    exact hi.live s hs (hphase.isLive hlive)
  · exact hstops

section Start

variable {s : Start} (hi : Separate w) (hs : s ∈ w.starts)
include hi

theorem Separate.leave : Separate (w.leave s) := by
  refine hi.withStarts (hi.ids.sublist (List.erase_sublist.map _)) ?_ ?_
  · intro t ht
    exact ⟨t, List.mem_of_mem_erase ht, rfl, rfl, .refl _⟩
  · intro t ht
    exact hi.stops t (List.mem_of_mem_erase ht)

include hs

theorem Separate.ids_advance (phase : Phase) :
    (({ s with phase } :: w.starts.erase s).map Start.id).Nodup :=
  ((List.perm_cons_erase hs).map Start.id).nodup_iff.mp hi.ids

theorem Separate.fresh_advance (phase : Phase) :
    ∀ t ∈ { s with phase } :: w.starts.erase s, t.id < w.nextStart := by
  intro t ht
  cases ht with
  | head => exact hi.fresh s hs
  | tail _ ht => exact hi.fresh t (List.mem_of_mem_erase ht)

theorem Separate.advance_of_stops (hle : Phase.Le phase s.phase)
    (hstops : phase.hasStop = true → ∀ id, w.stops.lookup s.key = some id → id = s.id) :
    Separate (w.advance s phase) := by
  refine hi.withStarts (hi.ids_advance hs phase) ?_ ?_
  · intro t ht
    cases ht with
    | head => exact ⟨s, hs, rfl, rfl, hle⟩
    | tail _ ht => exact ⟨t, List.mem_of_mem_erase ht, rfl, rfl, .refl _⟩
  · intro t ht
    cases ht with
    | head => exact hstops
    | tail _ ht => exact hi.stops t (List.mem_of_mem_erase ht)

theorem Separate.advance (hle : Phase.Le phase s.phase)
    (hstop : phase.hasStop = true → s.phase.hasStop = true) : Separate (w.advance s phase) :=
  hi.advance_of_stops hs hle fun h => hi.stops s hs (hstop h)

theorem Separate.id_ne_of_mem_erase {t : Start} (ht : t ∈ w.starts.erase s) : t.id ≠ s.id := by
  have hnodup := hi.ids_advance hs s.phase
  rw [List.map_cons, List.nodup_cons] at hnodup
  intro heq
  exact hnodup.1 (heq ▸ List.mem_map_of_mem ht)

end Start

theorem Separate.withSessions (hi : Separate w) {sessions : Sessions}
    (hle : ∀ key entry', sessions.lookup key = some entry' → ∃ entry,
      w.sessions.lookup key = some entry ∧ entry'.sessionDir = entry.sessionDir ∧
        entry'.start = entry.start ∧ (entry'.isKept = true → entry.isKept = true) ∧
        ∀ s ∈ w.starts, s.phase.isLive = true → s.key = key →
          liveHlsSessionIsActive entry = true → liveHlsSessionIsActive entry' = true) :
    Separate { w with sessions } := by
  constructor
  · exact hi.ids
  · exact hi.fresh
  · intro key entry' hlookup
    obtain ⟨entry, hentry, hdir, -, -, -⟩ := hle key entry' hlookup
    rw [hdir]
    exact hi.filed key entry hentry
  · exact hi.alone
  · exact hi.evicting
  · intro s hs hclaims key entry' hlookup hkept heq
    obtain ⟨entry, hentry, hdir, hstart, hkeeps, -⟩ := hle key entry' hlookup
    rw [hstart]
    exact hi.kept s hs hclaims key entry hentry (hkeeps hkept) (hdir ▸ heq)
  · intro s hs evicted hevicted key entry' hlookup hkept heq
    obtain ⟨entry, hentry, hdir, hstart, hkeeps, -⟩ := hle key entry' hlookup
    rw [hstart]
    exact hi.keptEvicted s hs evicted hevicted key entry hentry (hkeeps hkept) (hdir ▸ heq)
  · intro s hs hphase entry' hlookup
    obtain ⟨entry, hentry, -, hstart, -, -⟩ := hle s.key entry' hlookup
    rw [hstart]
    exact hi.owned s hs hphase entry hentry
  · intro s hs hphase entry' hlookup
    obtain ⟨entry, hentry, -, -, -, hlive⟩ := hle s.key entry' hlookup
    exact hlive s hs hphase rfl (hi.live s hs hphase entry hentry)
  · exact hi.stops

theorem Separate.withStops (hi : Separate w) {stops : HashMap String StartId}
    (hle : ∀ key id, stops.lookup key = some id → w.stops.lookup key = some id) :
    Separate { w with stops } where
  ids := hi.ids
  fresh := hi.fresh
  filed := hi.filed
  alone := hi.alone
  evicting := hi.evicting
  kept := hi.kept
  keptEvicted := hi.keptEvicted
  owned := hi.owned
  live := hi.live
  stops s hs hphase id hlookup := hi.stops s hs hphase id (hle _ _ hlookup)

theorem Separate.eraseEntry (hi : Separate w) (key : String) :
    Separate { w with sessions := w.sessions.erase key } := by
  apply hi.withSessions
  intro other entry hlookup
  exact ⟨entry, (HashMap.lookup_erase_eq_some.mp hlookup).2, rfl, rfl, id, fun _ _ _ _ => id⟩

theorem Separate.eraseStop (hi : Separate w) (key : String) :
    Separate { w with stops := w.stops.erase key } := by
  apply hi.withStops
  intro other id hlookup
  exact (HashMap.lookup_erase_eq_some.mp hlookup).2

section Step

variable {s : Start} (hi : Separate w) (hs : s ∈ w.starts)
include hi hs

theorem Separate.setEntry (hlive : s.phase.isLive = true) {status : Status} (now : Int)
    (hstatus : status = .starting ∨ status = .running) : Separate (w.setEntry s status now) := by
  apply hi.withSessions
  intro key entry' hlookup
  obtain ⟨rfl, entry, hentry, rfl⟩ | ⟨-, hentry⟩ := lookup_updateEntry hlookup
  · have hactive := hi.live s hs hlive entry hentry
    have hset : liveHlsSessionIsActive { entry with status, updatedAt := now } = true := by
      obtain rfl | rfl := hstatus <;> rfl
    exact ⟨entry, hentry, rfl, rfl, fun _ => isKept_of_isActive hactive, fun _ _ _ _ _ => hset⟩
  · exact ⟨entry', hentry, rfl, rfl, id, fun _ _ _ _ => id⟩

theorem Separate.setFinal (hlive : s.phase.isLive = true) (finalStatus : Status) (now : Int)
    {starts : List Start} (hstarts : Separate { w with starts })
    (hothers : ∀ t ∈ starts, t.phase.isLive = true → t ∈ w.starts.erase s) :
    Separate ({ w with starts }.setEntry s finalStatus now) := by
  apply hstarts.withSessions
  intro key entry' hlookup
  obtain ⟨rfl, entry, hentry, rfl⟩ | ⟨-, hentry⟩ := lookup_updateEntry hlookup
  · have hactive := hi.live s hs hlive entry hentry
    refine ⟨entry, hentry, rfl, rfl, fun _ => isKept_of_isActive hactive, ?_⟩
    intro t ht htlive htkey
    -- No other start is live under this id.
    have ht := hothers t ht htlive
    have htclaims := Phase.claims_of_hasEntry (Phase.hasEntry_of_isLive htlive)
    have hclaims := Phase.claims_of_hasEntry (Phase.hasEntry_of_isLive hlive)
    exact absurd (hi.alone s hs t (List.mem_of_mem_erase ht) hclaims htclaims
      (dir_eq_of_key_eq htkey)) (hi.id_ne_of_mem_erase hs ht)
  · exact ⟨entry', hentry, rfl, rfl, id, fun _ _ _ _ => id⟩

theorem Separate.insertStop (hphase : s.phase = .evicting []) :
    Separate ({ w with stops := w.stops.insert s.key s.id }.advance s .stoppable) := by
  have hclaims : s.phase.claims = true := by
    rw [hphase]
    rfl
  have hfiled : Separate { w with stops := w.stops.insert s.key s.id } := by
    refine { hi with stops := ?_ }
    intro t ht hstop id hlookup
    obtain ⟨hkey, rfl⟩ | ⟨-, hlookup⟩ := HashMap.lookup_insert_eq_some.mp hlookup
    · have htclaims := Phase.claims_of_hasEntry (Phase.hasEntry_of_hasStop hstop)
      exact (hi.alone s hs t ht hclaims htclaims (dir_eq_of_key_eq hkey)).symm
    · exact hi.stops t ht hstop id hlookup
  refine hfiled.advance_of_stops hs ?_ ?_
  · apply Phase.Le.of_isLive rfl
    rw [hphase]
    rfl
  · intro _ id hlookup
    rw [AList.lookup_insert] at hlookup
    cases hlookup
    rfl

/-- The session directory is free: no start that may use it is past its checks, no
task of it runs, no eviction of it is under way and no session of it is kept. -/
structure Free (w : World) (s : Start) : Prop where
  starts : ∀ t ∈ w.starts, t.phase.claims = true → t.dir ≠ s.dir
  evicting : ∀ t ∈ w.starts, ∀ evicted ∈ t.phase.evicted, evicted.sessionDir ≠ s.dir
  kept : ∀ key entry, w.sessions.lookup key = some entry → entry.isKept = true →
    entry.sessionDir ≠ s.dir

theorem Separate.claim (hfree : Free w s) :
    Separate (w.advance s .opening) := by
  constructor
  · exact hi.ids_advance hs _
  · exact hi.fresh_advance hs _
  · exact hi.filed
  · intro t ht u hu htclaims huclaims heq
    cases ht with
    | head =>
      cases hu with
      | head => rfl
      | tail _ hu => exact absurd heq (hfree.starts u (List.mem_of_mem_erase hu) huclaims)
    | tail _ ht =>
      cases hu with
      | head => exact absurd heq.symm (hfree.starts t (List.mem_of_mem_erase ht) htclaims)
      | tail _ hu =>
        exact hi.alone t (List.mem_of_mem_erase ht) u (List.mem_of_mem_erase hu) htclaims
          huclaims heq
  · intro t ht evicted hevicted u hu hpending heq
    cases ht with
    | head => cases hevicted
    | tail _ ht =>
      cases hu with
      | head => exact absurd heq.symm (hfree.evicting t (List.mem_of_mem_erase ht) _ hevicted)
      | tail _ hu =>
        exact hi.evicting t (List.mem_of_mem_erase ht) evicted hevicted u
          (List.mem_of_mem_erase hu) hpending heq
  · intro t ht hclaims key entry hlookup hkept heq
    cases ht with
    | head => exact absurd heq (hfree.kept key entry hlookup hkept)
    | tail _ ht =>
      exact hi.kept t (List.mem_of_mem_erase ht) hclaims key entry hlookup hkept heq
  · intro t ht evicted hevicted
    cases ht with
    | head => cases hevicted
    | tail _ ht => exact hi.keptEvicted t (List.mem_of_mem_erase ht) evicted hevicted
  · intro t ht hentry
    cases ht with
    | head => cases hentry
    | tail _ ht => exact hi.owned t (List.mem_of_mem_erase ht) hentry
  · intro t ht hlive
    cases ht with
    | head => cases hlive
    | tail _ ht => exact hi.live t (List.mem_of_mem_erase ht) hlive
  · intro t ht hstop
    cases ht with
    | head => cases hstop
    | tail _ ht => exact hi.stops t (List.mem_of_mem_erase ht) hstop

/-- Eviction of an entry disturbs nobody: no other start is about to register under
its directory, and no session that stays shares the directory. -/
structure Spare (w : World) (s : Start) (key : String) : Prop where
  pending : ∀ evicted, w.sessions.lookup key = some evicted → ∀ t ∈ w.starts,
    t.phase.isPending = true → t.dir = evicted.sessionDir → t.id = s.id
  kept : ∀ evicted, w.sessions.lookup key = some evicted → ∀ other entry,
    w.sessions.lookup other = some entry →
    other ∉ evictions w.sessions liveHlsSessionRegistryMaxEntries →
    entry.isKept = true → entry.sessionDir ≠ evicted.sessionDir

theorem Separate.register (hphase : s.phase = .created) {now : Int}
    {evicted : List LiveHlsSessionEntry} {sessions : Sessions}
    (hreg : Registered w.sessions (s.entry now) liveHlsSessionRegistryMaxEntries
      evicted sessions)
    (hspare : s.key ∉ w.sessions →
      ∀ key ∈ evictions w.sessions liveHlsSessionRegistryMaxEntries, Spare w s key) :
    Separate ({ w with sessions }.advance s (.evicting evicted)) := by
  have hclaims : s.phase.claims = true := by
    rw [hphase]
    rfl
  have hpending : s.phase.isPending = true := by
    rw [hphase]
    rfl
  constructor
  · exact hi.ids_advance hs _
  · exact hi.fresh_advance hs _
  · intro key entry hlookup
    obtain ⟨rfl, rfl⟩ | ⟨-, hlookup, -⟩ := hreg.lookup hlookup
    · rfl
    · exact hi.filed key entry hlookup
  · intro t ht u hu htclaims huclaims heq
    cases ht with
    | head =>
      cases hu with
      | head => rfl
      | tail _ hu =>
        exact hi.alone s hs u (List.mem_of_mem_erase hu) hclaims huclaims heq
    | tail _ ht =>
      cases hu with
      | head => exact hi.alone t (List.mem_of_mem_erase ht) s hs htclaims hclaims heq
      | tail _ hu =>
        exact hi.alone t (List.mem_of_mem_erase ht) u (List.mem_of_mem_erase hu) htclaims
          huclaims heq
  · intro t ht candidate hcandidate u hu hupending heq
    cases hu with
    | head => cases hupending
    | tail _ hu =>
      have hu := List.mem_of_mem_erase hu
      cases ht with
      | head =>
        obtain ⟨hnew, key, hkey, hlookup⟩ := hreg.of_mem hcandidate
        exact (hspare hnew key hkey).pending candidate hlookup u hu hupending heq
      | tail _ ht =>
        exact hi.evicting t (List.mem_of_mem_erase ht) candidate hcandidate u hu hupending heq
  · intro t ht htclaims key entry hlookup hkept heq
    obtain ⟨rfl, rfl⟩ | ⟨-, hlookup, -⟩ := hreg.lookup hlookup
    · cases ht with
      | head => rfl
      | tail _ ht => exact hi.alone t (List.mem_of_mem_erase ht) s hs htclaims hclaims heq
    · cases ht with
      | head => exact hi.kept s hs hclaims key entry hlookup hkept heq
      | tail _ ht =>
        exact hi.kept t (List.mem_of_mem_erase ht) htclaims key entry hlookup hkept heq
  · intro t ht candidate hcandidate key entry hlookup hkept heq
    obtain ⟨rfl, rfl⟩ | ⟨-, hlookup, hnotin⟩ := hreg.lookup hlookup
    · cases ht with
      | head => rfl
      | tail _ ht =>
        exact hi.evicting t (List.mem_of_mem_erase ht) candidate hcandidate s hs hpending heq
    · cases ht with
      | head =>
        obtain ⟨hnew, evictedKey, hevicted, hcandidateLookup⟩ := hreg.of_mem hcandidate
        exact absurd heq ((hspare hnew evictedKey hevicted).kept candidate hcandidateLookup key
          entry hlookup (hnotin (List.ne_nil_of_mem hcandidate)) hkept)
      | tail _ ht =>
        exact hi.keptEvicted t (List.mem_of_mem_erase ht) candidate hcandidate key entry hlookup
          hkept heq
  · intro t ht hentry entry hlookup
    obtain ⟨hkey, rfl⟩ | ⟨hkey, hlookup, -⟩ := hreg.lookup hlookup
    · cases ht with
      | head => rfl
      | tail _ ht =>
        exact (hi.alone s hs t (List.mem_of_mem_erase ht) hclaims
          (Phase.claims_of_hasEntry hentry) (dir_eq_of_key_eq hkey)).symm
    · cases ht with
      | head => exact absurd rfl hkey
      | tail _ ht => exact hi.owned t (List.mem_of_mem_erase ht) hentry entry hlookup
  · intro t ht hlive entry hlookup
    obtain ⟨-, rfl⟩ | ⟨hkey, hlookup, -⟩ := hreg.lookup hlookup
    · rfl
    · cases ht with
      | head => exact absurd rfl hkey
      | tail _ ht => exact hi.live t (List.mem_of_mem_erase ht) hlive entry hlookup
  · intro t ht hstop
    cases ht with
    | head => cases hstop
    | tail _ ht => exact hi.stops t (List.mem_of_mem_erase ht) hstop

end Step

end Jellyrin.LiveTv.Hls
