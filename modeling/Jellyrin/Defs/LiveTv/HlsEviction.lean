import Jellyrin.Defs.LiveTv.HlsRegistry

/-! What a registration removes from the registry of live HLS sessions. -/

namespace Jellyrin.LiveTv.Hls

/-- `&mut HashMap` of a function that may fail; what it wrote before it fails stays. -/
abbrev Registration := ExceptT String (StateM Sessions)

def insertBounded (entry : LiveHlsSessionEntry) (maxEntries : Nat) :
    Registration (List LiveHlsSessionEntry) := do
  if maxEntries = 0 then throw "Live HLS session registry is disabled"
  match (← get).lookup entry.playSessionId with
  | some existing =>
    if liveHlsSessionIsActive existing then throw "Live HLS session id is already active"
    modify fun registry => registry.insert entry.playSessionId entry
    return []
  | none =>
    let registry ← get
    if (terminalByAge registry).length < requiredEvictions registry maxEntries then
      throw "Live HLS session registry is full"
    let evicted ← modifyGet (evict (evictions registry maxEntries))
    modify fun registry => registry.insert entry.playSessionId entry
    return evicted

def Registration.runOn {α : Type} (registry : Sessions) (program : Registration α) :
    Except String α × Sessions := program.run.run registry

def Keyed (registry : Sessions) : Prop :=
  ∀ key entry, registry.lookup key = some entry → entry.playSessionId = key

def terminalEntries (registry : Sessions) : List LiveHlsSessionEntry :=
  (registry.entries.map Sigma.snd).filter fun candidate => !liveHlsSessionIsActive candidate

/-- The registry is disabled, the id is active, or there is no room that can be made. -/
def Refused (registry : Sessions) (entry : LiveHlsSessionEntry) (maxEntries : Nat) : Prop :=
  maxEntries = 0 ∨
    (∃ existing, registry.lookup entry.playSessionId = some existing ∧
      liveHlsSessionIsActive existing = true) ∨
    (entry.playSessionId ∉ registry ∧
      (terminalEntries registry).length < registry.size + 1 - maxEntries)

structure Inserted (registry : Sessions) (entry : LiveHlsSessionEntry) (maxEntries : Nat)
    (evicted : List LiveHlsSessionEntry) (registry' : Sessions) : Prop where
  keyed : Keyed registry'
  holds : registry'.lookup entry.playSessionId = some entry
  bounded : registry'.size ≤ maxEntries
  others : ∀ key found, key ≠ entry.playSessionId → registry'.lookup key = some found →
    registry.lookup key = some found
  keepsActive : ∀ key active, registry.lookup key = some active →
    liveHlsSessionIsActive active = true → registry'.lookup key = some active
  nodup : evicted.Nodup
  removed : ∀ candidate, candidate ∈ evicted ↔
    registry.lookup candidate.playSessionId = some candidate ∧
      candidate.playSessionId ∉ registry'
  oldest : ∀ candidate ∈ evicted, ∀ key kept, registry.lookup key = some kept →
    liveHlsSessionIsActive kept = false → registry'.lookup key = some kept →
      candidate.updatedAt ≤ kept.updatedAt

section

variable {α β : Type} {registry : Sessions}

theorem runOn_bind (first : Registration α) (next : α → Registration β) :
    (first >>= next).runOn registry =
      match first.runOn registry with
      | (.ok value, registry) => (next value).runOn registry
      | (.error message, registry) => (.error message, registry) := by
  simp only [Registration.runOn, ExceptT.run, StateT.run, bind, ExceptT.bind, ExceptT.mk,
    StateT.bind]
  obtain ⟨result, after⟩ := first registry
  cases result with
  | ok value => rfl
  | error message => rfl

@[simp] theorem runOn_get : (get : Registration Sessions).runOn registry = (.ok registry, registry) :=
  rfl

end

theorem runOn_insertBounded (registry : Sessions) (entry : LiveHlsSessionEntry) (maxEntries : Nat) :
    (insertBounded entry maxEntries).runOn registry =
      match insertBoundedLiveHlsSession registry entry maxEntries with
      | .ok (evicted, registry') => (.ok evicted, registry')
      | .error message => (.error message, registry) := by
  rw [insertBoundedLiveHlsSession, insertBounded]
  by_cases hmax : maxEntries = 0
  · rw [if_pos hmax, if_pos hmax]
    rfl
  · rw [if_neg hmax, if_neg hmax, runOn_bind, runOn_get]
    dsimp only
    cases hlookup : registry.lookup entry.playSessionId with
    | some existing =>
      dsimp only
      split <;> rfl
    | none =>
      rw [runOn_bind, runOn_get]
      dsimp only
      split <;> rfl

/-! What `evict` removes. -/

section

variable {ids : List String} {registry : Sessions}

theorem evict_snd (ids : List String) (registry : Sessions) :
    (evict ids registry).2 = HashMap.eraseAll ids registry := by
  induction ids generalizing registry with
  | nil => rfl
  | cons id rest ih => exact ih (registry.erase id)

theorem size_evict (hnodup : ids.Nodup) (hmem : ∀ id ∈ ids, id ∈ registry) :
    HashMap.size (evict ids registry).2 + ids.length = registry.size := by
  induction ids generalizing registry with
  | nil => rfl
  | cons id rest ih =>
    obtain ⟨hnotin, hrest⟩ := List.nodup_cons.mp hnodup
    have hid : id ∈ registry := hmem id (.head _)
    have herase := HashMap.size_erase_of_mem hid
    have hstep : HashMap.size (evict rest (registry.erase id)).2 + rest.length =
        HashMap.size (registry.erase id) := by
      refine ih hrest fun other hother => AList.mem_erase.mpr ⟨?_, hmem other (.tail _ hother)⟩
      rintro rfl
      exact hnotin hother
    have hevict : (evict (id :: rest) registry).2 = (evict rest (registry.erase id)).2 := rfl
    rw [hevict, List.length_cons]
    omega

theorem map_playSessionId_evict (h : Keyed registry) (hnodup : ids.Nodup)
    (hmem : ∀ id ∈ ids, id ∈ registry) :
    (evict ids registry).1.map (·.playSessionId) = ids := by
  induction ids generalizing registry with
  | nil => rfl
  | cons id rest ih =>
    obtain ⟨hnotin, hrest⟩ := List.nodup_cons.mp hnodup
    obtain ⟨entry, hentry⟩ := HashMap.exists_lookup_of_mem (hmem id (.head _))
    have hkeyed : Keyed (registry.erase id) := fun key found hfound =>
      h key found (HashMap.lookup_erase_eq_some.mp hfound).2
    have htail := ih hkeyed hrest fun other hother =>
      AList.mem_erase.mpr ⟨fun heq => hnotin (heq ▸ hother), hmem other (.tail _ hother)⟩
    have hevict : (evict (id :: rest) registry).1 = entry :: (evict rest (registry.erase id)).1 := by
      rw [evict, hentry]
      rfl
    rw [hevict, List.map_cons, htail, h id entry hentry]

theorem mem_evict_iff (h : Keyed registry) {candidate : LiveHlsSessionEntry} :
    candidate ∈ (evict ids registry).1 ↔
      candidate.playSessionId ∈ ids ∧
        registry.lookup candidate.playSessionId = some candidate := by
  constructor
  · intro hmem
    obtain ⟨key, hkey, hlookup⟩ := mem_evict hmem
    rw [h key candidate hlookup]
    exact ⟨hkey, hlookup⟩
  · rintro ⟨hid, hlookup⟩
    induction ids generalizing registry with
    | nil => cases hid
    | cons id rest ih =>
      refine List.mem_append.mpr ?_
      by_cases heq : candidate.playSessionId = id
      · exact .inl (Option.mem_toList.mpr (heq ▸ hlookup))
      · have hkeyed : Keyed (registry.erase id) := fun key found hfound =>
          h key found (HashMap.lookup_erase_eq_some.mp hfound).2
        have hrest := (List.mem_cons.mp hid).resolve_left heq
        exact .inr (ih hkeyed hrest (HashMap.lookup_erase_eq_some.mpr ⟨heq, hlookup⟩))

end

/-! The terminal entries by age. -/

section

variable {registry : Sessions}

def entriesByAge (registry : Sessions) : List LiveHlsSessionEntry :=
  (terminalEntries registry).insertionSort fun a b => a.updatedAt ≤ b.updatedAt

theorem terminalByAge_eq (registry : Sessions) :
    terminalByAge registry = (entriesByAge registry).map (·.playSessionId) := rfl

theorem length_terminalByAge (registry : Sessions) :
    (terminalByAge registry).length = (terminalEntries registry).length := by
  rw [terminalByAge_eq, List.length_map, entriesByAge, List.length_insertionSort]

theorem mem_terminalEntries (h : Keyed registry) {candidate : LiveHlsSessionEntry} :
    candidate ∈ terminalEntries registry ↔
      registry.lookup candidate.playSessionId = some candidate ∧
        liveHlsSessionIsActive candidate = false := by
  rw [terminalEntries, List.mem_filter, Bool.not_eq_true']
  refine and_congr_left fun _ => ?_
  constructor
  · intro hmem
    obtain ⟨e, he, rfl⟩ := List.mem_map.mp hmem
    have hlookup := HashMap.mem_entries_iff.mp he
    rw [h e.1 e.2 hlookup]
    exact hlookup
  · intro hlookup
    exact List.mem_map.mpr ⟨⟨_, candidate⟩, HashMap.mem_entries_iff.mpr hlookup, rfl⟩

theorem nodup_terminalByAge (h : Keyed registry) : (terminalByAge registry).Nodup := by
  have hperm : (terminalByAge registry).Perm
      ((terminalEntries registry).map (·.playSessionId)) :=
    (List.perm_insertionSort _ _).map _
  have hkeys : (registry.entries.map Sigma.snd).map (·.playSessionId) = registry.keys := by
    rw [List.map_map]
    exact List.map_congr_left fun e he => h e.1 e.2 (HashMap.mem_entries_iff.mp he)
  have hsublist : ((terminalEntries registry).map (·.playSessionId)).Sublist registry.keys :=
    hkeys ▸ List.filter_sublist.map _
  exact hperm.nodup_iff.mpr (registry.keys_nodup.sublist hsublist)

theorem nodup_evictions (h : Keyed registry) (maxEntries : Nat) :
    (evictions registry maxEntries).Nodup :=
  (nodup_terminalByAge h).sublist (List.take_sublist _ _)

theorem exists_of_mem_evictions (h : Keyed registry) {maxEntries : Nat} {id : String}
    (hid : id ∈ evictions registry maxEntries) :
    ∃ candidate ∈ (entriesByAge registry).take (requiredEvictions registry maxEntries),
      candidate.playSessionId = id ∧ registry.lookup id = some candidate ∧
        liveHlsSessionIsActive candidate = false := by
  rw [evictions, terminalByAge_eq, ← List.map_take] at hid
  obtain ⟨candidate, hcandidate, rfl⟩ := List.mem_map.mp hid
  have hmem := (List.mem_insertionSort _).mp (List.mem_of_mem_take hcandidate)
  exact ⟨candidate, hcandidate, rfl, (mem_terminalEntries h).mp hmem⟩

theorem updatedAt_le_of_evictions {maxEntries : Nat}
    {candidate kept : LiveHlsSessionEntry}
    (hcandidate : candidate ∈ (entriesByAge registry).take (requiredEvictions registry maxEntries))
    (hkept : kept ∈ terminalEntries registry)
    (hnotin : kept.playSessionId ∉ evictions registry maxEntries) :
    candidate.updatedAt ≤ kept.updatedAt := by
  have hsorted : (entriesByAge registry).Pairwise fun a b => a.updatedAt ≤ b.updatedAt :=
    List.pairwise_insertionSort _ _
  rw [← List.take_append_drop (requiredEvictions registry maxEntries) (entriesByAge registry),
    List.pairwise_append] at hsorted
  refine hsorted.2.2 candidate hcandidate kept ?_
  have hmem : kept ∈ entriesByAge registry := (List.mem_insertionSort _).mpr hkept
  rw [← List.take_append_drop (requiredEvictions registry maxEntries) (entriesByAge registry)]
    at hmem
  refine (List.mem_append.mp hmem).resolve_left fun htake => hnotin ?_
  rw [evictions, terminalByAge_eq, ← List.map_take]
  exact List.mem_map_of_mem htake

end

/-! The two registrations that are not refused. -/

section

variable {registry : Sessions} {entry : LiveHlsSessionEntry} {maxEntries : Nat}

theorem Keyed.insert (h : Keyed registry) (entry : LiveHlsSessionEntry) :
    Keyed (registry.insert entry.playSessionId entry) := by
  intro key found hfound
  obtain ⟨rfl, rfl⟩ | ⟨-, hfound⟩ := HashMap.lookup_insert_eq_some.mp hfound
  · rfl
  · exact h key found hfound

theorem inserted_replaced {existing : LiveHlsSessionEntry} (h : Keyed registry)
    (hsize : registry.size ≤ maxEntries)
    (hlookup : registry.lookup entry.playSessionId = some existing)
    (hactive : liveHlsSessionIsActive existing = false) :
    Inserted registry entry maxEntries [] (registry.insert entry.playSessionId entry) where
  keyed := h.insert entry
  holds := AList.lookup_insert _
  bounded := by
    rw [HashMap.size_insert_of_mem entry (HashMap.mem_of_lookup hlookup)]
    exact hsize
  others key found hne hfound := by rwa [AList.lookup_insert_ne hne] at hfound
  keepsActive key active hkey hisActive := by
    have hne : key ≠ entry.playSessionId := by
      rintro rfl
      rw [hlookup] at hkey
      cases hkey
      rw [hactive] at hisActive
      cases hisActive
    rwa [AList.lookup_insert_ne hne]
  nodup := List.nodup_nil
  removed candidate := by
    refine iff_of_false List.not_mem_nil fun hgone => hgone.2 ?_
    exact (AList.mem_insert _).mpr (.inr (HashMap.mem_of_lookup hgone.1))
  oldest candidate hmem := nomatch hmem

theorem inserted_added (h : Keyed registry) (hnew : entry.playSessionId ∉ registry)
    (hroom : requiredEvictions registry maxEntries ≤ (terminalByAge registry).length) :
    Inserted registry entry maxEntries (evict (evictions registry maxEntries) registry).1
      ((evict (evictions registry maxEntries) registry).2.insert entry.playSessionId entry) := by
  have hnodup := nodup_evictions h maxEntries
  have hmem : ∀ id ∈ evictions registry maxEntries, id ∈ registry := fun id hid => by
    obtain ⟨candidate, -, -, hlookup, -⟩ := exists_of_mem_evictions h hid
    exact HashMap.mem_of_lookup hlookup
  have hremaining : ∀ {key found},
      (evict (evictions registry maxEntries) registry).2.lookup key = some found ↔
        key ∉ evictions registry maxEntries ∧ registry.lookup key = some found := fun {key found} => by
    rw [evict_snd]
    exact HashMap.lookup_eraseAll_eq_some
  have hne : ∀ {key}, key ∈ registry → key ≠ entry.playSessionId := fun hkey heq =>
    hnew (heq ▸ hkey)
  refine ⟨?_, AList.lookup_insert _, ?_, ?_, ?_, ?_, ?_, ?_⟩
  · exact Keyed.insert (fun key found hfound => h key found (hremaining.mp hfound).2) entry
  · have hevicted := size_evict hnodup hmem
    have hlength : (evictions registry maxEntries).length =
        requiredEvictions registry maxEntries := List.length_take_of_le hroom
    have hinsert := HashMap.size_insert_le (evict (evictions registry maxEntries) registry).2
      entry.playSessionId entry
    rw [requiredEvictions] at hlength
    omega
  · intro key found hkey hfound
    rw [AList.lookup_insert_ne hkey] at hfound
    exact (hremaining.mp hfound).2
  · intro key active hkey hactive
    rw [AList.lookup_insert_ne (hne (HashMap.mem_of_lookup hkey))]
    refine hremaining.mpr ⟨fun hevicted => ?_, hkey⟩
    obtain ⟨candidate, -, -, hlookup, hterminal⟩ := exists_of_mem_evictions h hevicted
    rw [hkey] at hlookup
    cases hlookup
    rw [hactive] at hterminal
    cases hterminal
  · refine List.Nodup.of_map (·.playSessionId) ?_
    rwa [map_playSessionId_evict h hnodup hmem]
  · intro candidate
    rw [mem_evict_iff h, and_comm]
    refine and_congr_right fun hlookup => ?_
    rw [AList.mem_insert, not_or]
    constructor
    · intro hevicted
      refine ⟨hne (HashMap.mem_of_lookup hlookup), fun hstays => ?_⟩
      obtain ⟨found, hfound⟩ := HashMap.exists_lookup_of_mem hstays
      exact (hremaining.mp hfound).1 hevicted
    · rintro ⟨-, hgone⟩
      by_contra hnotin
      exact hgone (HashMap.mem_of_lookup (hremaining.mpr ⟨hnotin, hlookup⟩))
  · intro candidate hcandidate key kept hkept hterminal hstays
    obtain ⟨hid, hlookup⟩ := (mem_evict_iff h).mp hcandidate
    obtain ⟨found, htaken, -, hfound, -⟩ := exists_of_mem_evictions h hid
    rw [hlookup] at hfound
    cases hfound
    rw [AList.lookup_insert_ne (hne (HashMap.mem_of_lookup hkept))] at hstays
    have hkey := h key kept hkept
    refine updatedAt_le_of_evictions htaken ((mem_terminalEntries h).mpr ⟨?_, hterminal⟩) ?_
    · rwa [hkey]
    · rw [hkey]
      exact (hremaining.mp hstays).1

theorem insertBounded_refused (hrefused : Refused registry entry maxEntries) :
    ∃ message, insertBoundedLiveHlsSession registry entry maxEntries = .error message := by
  rw [insertBoundedLiveHlsSession]
  by_cases hmax : maxEntries = 0
  · exact ⟨_, if_pos hmax⟩
  · rw [if_neg hmax]
    obtain hzero | ⟨existing, hlookup, hactive⟩ | ⟨hnew, hfull⟩ := hrefused
    · exact absurd hzero hmax
    · rw [hlookup]
      exact ⟨_, if_pos hactive⟩
    · rw [AList.lookup_eq_none.mpr hnew]
      rw [← length_terminalByAge] at hfull
      exact ⟨_, if_pos hfull⟩

theorem insertBounded_inserted (h : Keyed registry) (hsize : registry.size ≤ maxEntries)
    (hrefused : ¬Refused registry entry maxEntries) :
    ∃ evicted registry', insertBoundedLiveHlsSession registry entry maxEntries =
        .ok (evicted, registry') ∧
      Inserted registry entry maxEntries evicted registry' := by
  simp only [Refused, not_or, not_exists, not_and, not_lt] at hrefused
  obtain ⟨hmax, hinactive, hroom⟩ := hrefused
  rw [insertBoundedLiveHlsSession, if_neg hmax]
  cases hlookup : registry.lookup entry.playSessionId with
  | some existing =>
    have hactive := hinactive existing hlookup
    exact ⟨_, _, if_neg hactive, inserted_replaced h hsize hlookup (Bool.not_eq_true _ ▸ hactive)⟩
  | none =>
    have hnew : entry.playSessionId ∉ registry := AList.lookup_eq_none.mp hlookup
    have hterminal := hroom hnew
    rw [← length_terminalByAge] at hterminal
    exact ⟨_, _, if_neg (not_lt.mpr hterminal), inserted_added h hnew hterminal⟩

end

/-- A registration is refused exactly when it has to be, and has then written nothing; otherwise
the registry stays within its bound, only the oldest terminal entries are gone, and these are the
ones that are returned. -/
theorem insertBounded_inserts (registry : Sessions) (entry : LiveHlsSessionEntry)
    (maxEntries : Nat) (h : Keyed registry) (hsize : registry.size ≤ maxEntries) :
    ((∃ message, ((insertBounded entry maxEntries).runOn registry).1 = .error message) ↔
        Refused registry entry maxEntries) ∧
      (Refused registry entry maxEntries →
        ((insertBounded entry maxEntries).runOn registry).2 = registry) ∧
      ∀ evicted, ((insertBounded entry maxEntries).runOn registry).1 = .ok evicted →
        Inserted registry entry maxEntries evicted
          ((insertBounded entry maxEntries).runOn registry).2 := by
  rw [runOn_insertBounded]
  by_cases hrefused : Refused registry entry maxEntries
  · obtain ⟨message, herror⟩ := insertBounded_refused hrefused
    rw [herror]
    exact ⟨⟨fun _ => hrefused, fun _ => ⟨message, rfl⟩⟩, fun _ => rfl, fun _ hok => nomatch hok⟩
  · obtain ⟨evicted, registry', hinsert, hinserted⟩ := insertBounded_inserted h hsize hrefused
    rw [hinsert]
    refine ⟨⟨fun herror => ?_, fun h => absurd h hrefused⟩, fun h => absurd h hrefused, ?_⟩
    · obtain ⟨message, ⟨⟩⟩ := herror
    · rintro _ ⟨⟩
      exact hinserted

def endedSession : LiveHlsSessionEntry :=
  ⟨"ended", "dedupe", "channel", none, [], 1, .stopped, 10, 0⟩

def nextSession : LiveHlsSessionEntry :=
  ⟨"next", "dedupe", "channel", none, [], 1, .starting, 20, 1⟩

theorem keyed_endedSession : Keyed (AList.insert "ended" endedSession ∅) := by
  intro key entry hlookup
  obtain ⟨rfl, rfl⟩ | ⟨-, hempty⟩ := HashMap.lookup_insert_eq_some.mp hlookup
  · rfl
  · rw [AList.lookup_empty] at hempty
    cases hempty

theorem insertBounded_inserts_nextSession :
    ((insertBounded nextSession 1).runOn (AList.insert "ended" endedSession ∅)).1 =
        .ok [endedSession] ∧
      Inserted (AList.insert "ended" endedSession ∅) nextSession 1 [endedSession]
        ((insertBounded nextSession 1).runOn (AList.insert "ended" endedSession ∅)).2 :=
  ⟨rfl, (insertBounded_inserts (AList.insert "ended" endedSession ∅) nextSession 1
    keyed_endedSession (by decide)).2.2 [endedSession] rfl⟩

end Jellyrin.LiveTv.Hls
