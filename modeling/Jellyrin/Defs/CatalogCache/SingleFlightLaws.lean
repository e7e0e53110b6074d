import Jellyrin.Defs.CatalogCache.SingleFlight

/-! At most one call fills the cache for a key, in the runs that give no key a lock of its own
while a call of that key still stands at the overflow lock. -/

universe u

namespace Jellyrin.CatalogCache

open Lock Transition

variable {phase : Phase}

theorem Phase.isActive_of_isInside (h : phase.isInside = true) : phase.isActive = true := by
  cases phase with
  | waiting lock => rfl
  | looking | missed | computing | rechecking lock | filling lock | bypassing lock | putting lock
  | leaving lock | released lock | finished => exact h

theorem Phase.exists_held (h : phase.isActive = true) : ∃ lock, phase.held = some lock := by
  cases phase with
  | looking | missed | computing | released lock | finished => cases h
  | waiting lock | rechecking lock | filling lock | bypassing lock | putting lock
  | leaving lock => exact ⟨lock, rfl⟩

theorem Phase.after_cases {next : Phase} {event : Event} (h : phase.after event = some next) :
    (∀ lock, next.held = some lock → phase.held = some lock) ∧
      (next.isActive = true → phase.isActive = true) ∧
      (next.isInside = true → phase.isInside = true) := by
  revert h
  fun_cases Phase.after phase event <;> intro h <;> cases h <;>
    simp [Phase.held, Phase.isActive, Phase.isInside]

namespace SharedCatalogCache

variable {K : Type u} [DecidableEq K] {cache cache' : SharedCatalogCache K} {i : Nat}

omit [DecidableEq K] in
theorem call_setPhase {j : Nat} {call : Call K}
    (h : (cache.setPhase i phase).calls[j]? = some call) :
    (∃ before, cache.calls[i]? = some before ∧ j = i ∧ call = { before with phase }) ∨
      j ≠ i ∧ cache.calls[j]? = some call := by
  simp only [setPhase, List.getElem?_modify] at h
  by_cases hij : i = j
  · subst hij
    simp only [if_true, Option.map_eq_map, Option.map_eq_some_iff] at h
    obtain ⟨before, hbefore, rfl⟩ := h
    exact .inl ⟨before, hbefore, rfl, rfl⟩
  · simp only [if_neg hij, Option.map_eq_map, Option.map_id'] at h
    exact .inr ⟨fun hji => hij hji.symm, h⟩

structure Served (cache : SharedCatalogCache K) : Prop where
  own : ∀ (i : Nat) (call : Call K) lock, cache.calls[i]? = some call → call.phase.held = some lock →
    lock ≠ cache.overflowFillLock → cache.fillLocks.lookup call.key = some lock
  lane : ∀ (i : Nat) (call : Call K), cache.calls[i]? = some call → call.phase.isActive = true →
    call.phase.held = some cache.overflowFillLock → cache.fillLocks.lookup call.key = none
  overflow_lt : cache.overflowFillLock < cache.nextMutex
  separate : ∀ key lock, cache.fillLocks.lookup key = some lock → lock ≠ cache.overflowFillLock
  /-- A mutex lets one call in. -/
  single : ∀ (i j : Nat) (a b : Call K), cache.calls[i]? = some a → cache.calls[j]? = some b →
    a.phase.isInside = true → b.phase.isInside = true → a.phase.held = b.phase.held → i = j

theorem Served.held_eq (hi : Served cache) {i j : Nat} {a b : Call K}
    (ha : cache.calls[i]? = some a) (hb : cache.calls[j]? = some b) (hkey : a.key = b.key)
    (haa : a.phase.isActive = true) (hba : b.phase.isActive = true) :
    a.phase.held = b.phase.held := by
  obtain ⟨lock, hlock⟩ := Phase.exists_held haa
  obtain ⟨lock', hlock'⟩ := Phase.exists_held hba
  by_cases hoverflow : lock = cache.overflowFillLock
  · have hnone := hi.lane i a ha haa (hoverflow ▸ hlock)
    have hoverflow' : lock' = cache.overflowFillLock := by
      by_contra hne
      have hsome := hi.own j b lock' hb hlock' hne
      rw [← hkey, hnone] at hsome
      cases hsome
    rw [hlock, hlock', hoverflow, hoverflow']
  · have hsome := hi.own i a lock ha hlock hoverflow
    have hne : lock' ≠ cache.overflowFillLock := by
      intro heq
      have hnone := hi.lane j b hb hba (heq ▸ hlock')
      rw [← hkey, hsome] at hnone
      cases hnone
    have hsome' := hi.own j b lock' hb hlock' hne
    rw [← hkey, hsome] at hsome'
    rw [hlock, hlock', hsome']

theorem Served.exclusive (hi : Served cache) : KeyedMutex.Exclusive cache.inside := by
  intro i j key hik hjk
  obtain ⟨a, ha, hak⟩ := Option.bind_eq_some_iff.mp hik
  obtain ⟨b, hb, hbk⟩ := Option.bind_eq_some_iff.mp hjk
  obtain ⟨hain, hakey⟩ := (Option.ite_none_right_eq_some ..).mp hak
  obtain ⟨hbin, hbkey⟩ := (Option.ite_none_right_eq_some ..).mp hbk
  have hkey : a.key = b.key := (Option.some.inj hakey).trans (Option.some.inj hbkey).symm
  have hheld := hi.held_eq ha hb hkey (Phase.isActive_of_isInside hain)
    (Phase.isActive_of_isInside hbin)
  exact hi.single i j a b ha hb hain hbin hheld

theorem Served.setPhase (hi : Served cache) {before : Call K}
    (hbefore : cache.calls[i]? = some before)
    (hheld : ∀ lock, phase.held = some lock → before.phase.held = some lock)
    (hactive : phase.isActive = true → before.phase.isActive = true)
    (halone : phase.isInside = true → ∀ j b, j ≠ i → cache.calls[j]? = some b →
      b.phase.isInside = true → phase.held ≠ b.phase.held) :
    Served (cache.setPhase i phase) where
  own j call lock hj hlock hne := by
    obtain ⟨same, hsame, rfl, rfl⟩ | ⟨-, hj⟩ := call_setPhase hj
    · cases hbefore.symm.trans hsame
      exact hi.own j before lock hbefore (hheld lock hlock) hne
    · exact hi.own j call lock hj hlock hne
  lane j call hj hjactive hlock := by
    obtain ⟨same, hsame, rfl, rfl⟩ | ⟨-, hj⟩ := call_setPhase hj
    · cases hbefore.symm.trans hsame
      exact hi.lane j before hbefore (hactive hjactive) (hheld _ hlock)
    · exact hi.lane j call hj hjactive hlock
  overflow_lt := hi.overflow_lt
  separate := hi.separate
  single j k a b hj hk ha hb heq := by
    obtain ⟨same, hsame, rfl, rfl⟩ | ⟨hji, hja⟩ := call_setPhase hj
    · obtain ⟨same', hsame', rfl, rfl⟩ | ⟨hki, hkb⟩ := call_setPhase hk
      · rfl
      · exact absurd heq (halone ha k b hki hkb hb)
    · obtain ⟨same', hsame', rfl, rfl⟩ | ⟨hki, hkb⟩ := call_setPhase hk
      · exact absurd heq.symm (halone hb j a hji hja ha)
      · exact hi.single j k a b hja hkb ha hb heq

theorem Served.waiting (hi : Served cache) {before : Call K} {lock : MutexId}
    (hbefore : cache.calls[i]? = some before)
    (hown : lock ≠ cache.overflowFillLock → cache.fillLocks.lookup before.key = some lock)
    (hlane : lock = cache.overflowFillLock → cache.fillLocks.lookup before.key = none) :
    Served (cache.setPhase i (.waiting lock)) where
  own j call held hj hheld hne := by
    obtain ⟨same, hsame, rfl, rfl⟩ | ⟨-, hj⟩ := call_setPhase hj
    · cases hbefore.symm.trans hsame
      cases hheld
      exact hown hne
    · exact hi.own j call held hj hheld hne
  lane j call hj hjactive hheld := by
    obtain ⟨same, hsame, rfl, rfl⟩ | ⟨-, hj⟩ := call_setPhase hj
    · cases hbefore.symm.trans hsame
      exact hlane (Option.some.inj hheld)
    · exact hi.lane j call hj hjactive hheld
  overflow_lt := hi.overflow_lt
  separate := hi.separate
  single j k a b hj hk ha hb heq := by
    obtain ⟨same, hsame, rfl, rfl⟩ | ⟨-, hj⟩ := call_setPhase hj
    · cases ha
    · obtain ⟨same', hsame', rfl, rfl⟩ | ⟨-, hk⟩ := call_setPhase hk
      · cases hb
      · exact hi.single j k a b hj hk ha hb heq

omit [DecidableEq K] in
theorem one_lt_strongCount {call : Call K} {lock : MutexId} (hcall : call ∈ cache.calls)
    (hheld : call.phase.held = some lock) : 1 < cache.strongCount lock := by
  have hpos : 0 < cache.calls.countP (·.phase.held = some lock) :=
    List.countP_pos_iff.mpr ⟨call, hcall, decide_eq_true hheld⟩
  rw [strongCount]
  omega

theorem lookup_retained {key : K} {lock : MutexId} :
    cache.retained.lookup key = some lock ↔
      cache.fillLocks.lookup key = some lock ∧ 1 < cache.strongCount lock := by
  rw [retained, HashMap.lookup_retain, decide_eq_true_iff]

theorem Served.retained (hi : Served cache) : Served { cache with fillLocks := cache.retained } where
  own i call lock hcall hheld hne :=
    lookup_retained.mpr ⟨hi.own i call lock hcall hheld hne,
      one_lt_strongCount (List.mem_of_getElem? hcall) hheld⟩
  lane i call hcall hactive hheld := by
    have hnone := hi.lane i call hcall hactive hheld
    apply Option.eq_none_iff_forall_ne_some.mpr
    intro lock hlock
    rw [(lookup_retained.mp hlock).1] at hnone
    cases hnone
  overflow_lt := hi.overflow_lt
  separate key lock hlock := hi.separate key lock (lookup_retained.mp hlock).1
  single := hi.single

theorem Served.insert (hi : Served cache) {key : K} (hnone : cache.fillLocks.lookup key = none)
    (hfree : ∀ (i : Nat) (call : Call K), cache.calls[i]? = some call → call.key = key →
      call.phase.isActive = true → call.phase.held ≠ some cache.overflowFillLock) :
    Served { cache with
      fillLocks := cache.fillLocks.insert key cache.nextMutex
      nextMutex := cache.nextMutex + 1 } where
  own i call lock hcall hheld hne := by
    have hlock := hi.own i call lock hcall hheld hne
    have hkey : call.key ≠ key := by
      intro heq
      rw [heq, hnone] at hlock
      cases hlock
    exact (AList.lookup_insert_ne hkey).trans hlock
  lane i call hcall hactive hheld := by
    have hkey : call.key ≠ key := fun heq => hfree i call hcall heq hactive hheld
    exact (AList.lookup_insert_ne hkey).trans (hi.lane i call hcall hactive hheld)
  overflow_lt := Nat.lt_succ_of_lt hi.overflow_lt
  separate k lock hlock := by
    obtain ⟨-, rfl⟩ | ⟨-, hold⟩ := HashMap.lookup_insert_eq_some.mp hlock
    · exact Nat.ne_of_gt hi.overflow_lt
    · exact hi.separate k lock hold
  single := hi.single

theorem Served.fillLock (hi : Served cache) {call : Call K} (hcall : cache.calls[i]? = some call)
    (hkeeps : KeepsLane cache (.fillLock i)) :
    Served ((cache.fillLock call.key).2.setPhase i (.waiting (cache.fillLock call.key).1)) := by
  have hretained := hi.retained
  have hfree : cache.retained.lookup call.key = none → cache.retained.size < maxSingleFlightKeys →
      ∀ (j : Nat) (other : Call K), cache.calls[j]? = some other → other.key = call.key →
        other.phase.isActive = true → other.phase.held ≠ some cache.overflowFillLock :=
    fun hnone hroom j other hother =>
      hkeeps call hcall hnone hroom other (List.mem_of_getElem? hother)
  unfold SharedCatalogCache.fillLock
  dsimp only
  split
  · next lock hlock =>
    apply hretained.waiting hcall
    · exact fun _ => hlock
    · exact fun heq => absurd heq (hretained.separate call.key lock hlock)
  · next hnone =>
    split
    · apply hretained.waiting hcall
      · exact fun hne => absurd rfl hne
      · exact fun _ => hnone
    · next hroom =>
      apply (hretained.insert hnone (hfree hnone (Nat.lt_of_not_le hroom))).waiting hcall
      · exact fun _ => AList.lookup_insert _
      · exact fun heq => absurd heq (Nat.ne_of_gt hi.overflow_lt)

theorem Served.step (hi : Served cache) {action : Action K} (hkeeps : KeepsLane cache action)
    (h : cache.step action = some cache') : Served cache' := by
  cases action with
  | call key =>
    cases h
    have hold : ∀ (j : Nat) (call : Call K),
        (cache.calls ++ [(⟨key, .looking⟩ : Call K)])[j]? = some call →
        call.phase.held ≠ none ∨ call.phase.isActive = true → cache.calls[j]? = some call := by
      intro j call hj hphase
      rw [List.getElem?_append] at hj
      split at hj
      · exact hj
      · cases List.mem_singleton.mp (List.mem_of_getElem? hj)
        cases hphase with
        | inl hheld => exact absurd rfl hheld
        | inr hactive => cases hactive
    constructor
    · intro j call lock hj hheld hne
      exact hi.own j call lock (hold j call hj (.inl (by simp [hheld]))) hheld hne
    · intro j call hj hactive hheld
      exact hi.lane j call (hold j call hj (.inr hactive)) hactive hheld
    · exact hi.overflow_lt
    · exact hi.separate
    · intro j k a b hj hk ha hb heq
      exact hi.single j k a b (hold j a hj (.inr (Phase.isActive_of_isInside ha)))
        (hold k b hk (.inr (Phase.isActive_of_isInside hb))) ha hb heq
  | fillLock i =>
    obtain ⟨call, hcall, h⟩ := Option.bind_eq_some_iff.mp h
    split at h
    · cases h
      exact hi.fillLock hcall hkeeps
    · cases h
  | lock i =>
    obtain ⟨call, hcall, h⟩ := Option.bind_eq_some_iff.mp h
    split at h
    · next lock hphase =>
      split at h
      · cases h
      · next hfree =>
        cases h
        apply hi.setPhase hcall
        · simp [hphase, Phase.held]
        · simp [hphase, Phase.isActive]
        · intro _ j other _ hother hinside hheld
          have hlock : other.phase.held = some lock := hheld.symm
          apply hfree
          refine List.any_eq_true.mpr ⟨other, List.mem_of_getElem? hother, ?_⟩
          simp [hinside, hlock]
    · cases h
  | event i event =>
    obtain ⟨call, hcall, h⟩ := Option.bind_eq_some_iff.mp h
    obtain ⟨next, hnext, rfl⟩ := Option.map_eq_some_iff.mp h
    obtain ⟨hheld, hactive, hinside⟩ := Phase.after_cases hnext
    apply hi.setPhase hcall hheld hactive
    intro hin j other hji hother hother' heq
    have hcallin := hinside hin
    obtain ⟨lock, hlock⟩ := Phase.exists_held (Phase.isActive_of_isInside hin)
    have hsame : call.phase.held = other.phase.held := by
      rw [hheld lock hlock, ← heq, hlock]
    exact hji (hi.single j i other call hother hcall hother' hcallin hsame.symm)

theorem Served.init : Served (sharedCatalogCache K).init where
  own i call lock hcall := by simp [sharedCatalogCache] at hcall
  lane i call hcall := by simp [sharedCatalogCache] at hcall
  overflow_lt := Nat.one_pos
  separate key lock hlock := by cases hlock
  single i j a b ha := by simp [sharedCatalogCache] at ha

theorem served_of_reaches (h : (sharedCatalogCache K).Reaches KeepsLane cache) : Served cache :=
  h.invariant (J := fun _ => True) (fun _ _ => trivial) Served.init
    fun _ _ _ _ hi hc ha => hi.step hc ha

def keepsLane (cache : SharedCatalogCache K) : Action K → Bool
  | .fillLock i => (cache.calls[i]?).all fun call =>
      (cache.retained.lookup call.key).isSome ||
        decide (maxSingleFlightKeys ≤ cache.retained.size) ||
        cache.calls.all fun other =>
          other.key != call.key || !other.phase.isActive ||
            other.phase.held != some cache.overflowFillLock
  | _ => true

theorem keepsLane_sound {action : Action K} (h : cache.keepsLane action = true) :
    KeepsLane cache action := by
  cases action with
  | call key | lock i | event i event => trivial
  | fillLock i =>
    intro call hcall hnone hroom other hother hkey hactive hheld
    have hcall : cache.calls[i]? = some call := hcall
    simp only [keepsLane, hcall, Option.all_some, hnone, Option.isSome_none, Bool.false_or,
      Bool.or_eq_true, decide_eq_true_iff] at h
    cases h with
    | inl hfull => exact absurd hroom (Nat.not_lt_of_le hfull)
    | inr hall =>
      have htest := List.all_eq_true.mp hall other hother
      simp [hkey, hactive, hheld] at htest

/-- While no key gets a lock of its own in the presence of a call of that key at the overflow
lock, no two calls of one key are past their fill lock. -/
theorem single_flight (h : (sharedCatalogCache K).Reaches KeepsLane cache) :
    KeyedMutex.Exclusive cache.inside :=
  (served_of_reaches h).exclusive

theorem single_flight_pair : ∃ cache : SharedCatalogCache Nat,
    ((sharedCatalogCache Nat).Reaches KeepsLane cache ∧ cache.inside 0 = some 7 ∧
      (cache.calls[1]?).map (·.phase) = some (.waiting 1)) ∧
      KeyedMutex.Exclusive cache.inside := by
  obtain ⟨cache, hreach, hinside, hwaiting⟩ :=
    (sharedCatalogCache Nat).exists_of_runWhile
      (fun cache action (h : cache.keepsLane action = true) => keepsLane_sound h)
      [.call 7, .event 0 (.lookup .miss), .fillLock 0, .lock 0, .call 7,
        .event 1 (.lookup .miss), .fillLock 1]
      (P := fun cache => cache.inside 0 = some 7 ∧
        (cache.calls[1]?).map (·.phase) = some (.waiting 1)) (by decide)
  exact ⟨cache, ⟨hreach, hinside, hwaiting⟩, single_flight hreach⟩

/-! Without the condition. -/

omit [DecidableEq K] in
def joined (cache : SharedCatalogCache K) (key : K) (phase : Phase) : SharedCatalogCache K :=
  { cache with calls := cache.calls ++ [⟨key, phase⟩] }

omit [DecidableEq K] in
theorem call_joined (cache : SharedCatalogCache K) (key : K) (phase : Phase) :
    (cache.joined key phase).calls[cache.calls.length]? = some ⟨key, phase⟩ := by
  simp [joined]

omit [DecidableEq K] in
theorem call_joined_of_some {key : K} {call : Call K} (h : cache.calls[i]? = some call) :
    (cache.joined key phase).calls[i]? = some call := by
  obtain ⟨hi, -⟩ := List.getElem?_eq_some_iff.mp h
  rw [joined, List.getElem?_append_left hi]
  exact h

theorem modify_append_length {α : Type u} (f : α → α) (l : List α) (a : α) :
    (l ++ [a]).modify l.length f = l ++ [f a] := by
  induction l with
  | nil => rfl
  | cons b l ih => simp [ih]

omit [DecidableEq K] in
theorem setPhase_joined (cache : SharedCatalogCache K) (key : K) (phase next : Phase) :
    (cache.joined key phase).setPhase cache.calls.length next = cache.joined key next := by
  simp [joined, setPhase, modify_append_length]

omit [DecidableEq K] in
theorem retained_joined {key : K} (h : phase.held = none) :
    (cache.joined key phase).retained = cache.retained := by
  have hcount : (cache.joined key phase).strongCount = cache.strongCount := by
    funext lock
    simp [strongCount, joined, h]
  rw [retained, hcount]
  rfl

theorem fillLock_joined {key : K} (h : phase.held = none) :
    (cache.joined key phase).fillLock key =
      ((cache.fillLock key).1, (cache.fillLock key).2.joined key phase) := by
  simp only [fillLock, retained_joined h]
  split
  · rfl
  · split <;> rfl

theorem fillLock_calls (cache : SharedCatalogCache K) (key : K) :
    (cache.fillLock key).2.calls = cache.calls := by
  simp only [fillLock]
  split
  · rfl
  · split <;> rfl

theorem steps_waiting (cache : SharedCatalogCache K) (key : K) :
    (sharedCatalogCache K).Steps Machine.Any cache
      ((cache.fillLock key).2.joined key (.waiting (cache.fillLock key).1)) := by
  have hcalls : (cache.fillLock key).2.calls.length = cache.calls.length := by
    rw [fillLock_calls]
  have hcall : (sharedCatalogCache K).step cache (.call key) = some (cache.joined key .looking) :=
    rfl
  have hmiss : (sharedCatalogCache K).step (cache.joined key .looking)
      (.event cache.calls.length (.lookup .miss)) = some (cache.joined key .missed) := by
    simp only [sharedCatalogCache, step, call_joined, Option.bind_some, Phase.after,
      Option.map_some, setPhase_joined]
  have hfill : (sharedCatalogCache K).step (cache.joined key .missed)
      (.fillLock cache.calls.length) =
        some ((cache.fillLock key).2.joined key (.waiting (cache.fillLock key).1)) := by
    have hsplit : (cache.joined key .missed).fillLock key =
        ((cache.fillLock key).1, (cache.fillLock key).2.joined key .missed) :=
      fillLock_joined rfl
    simp only [sharedCatalogCache, step, call_joined, Option.bind_some, if_true, hsplit]
    rw [← hcalls, setPhase_joined]
  exact (((Machine.Steps.refl cache).tail trivial hcall).tail trivial hmiss).tail trivial hfill

structure Busy (n : Nat) (cache : SharedCatalogCache Nat) : Prop where
  calls : cache.calls = (List.range n).map fun key => ⟨key, .waiting (key + 1)⟩
  lookup : ∀ key lock, cache.fillLocks.lookup key = some lock ↔ key < n ∧ lock = key + 1
  size : cache.fillLocks.size = n
  overflowFillLock : cache.overflowFillLock = 0
  nextMutex : cache.nextMutex = n + 1

theorem Busy.retained {n : Nat} {cache : SharedCatalogCache Nat} (h : Busy n cache) :
    cache.retained.size = n ∧ ∀ key lock,
      cache.retained.lookup key = some lock ↔ key < n ∧ lock = key + 1 := by
  have hlookup : ∀ key lock,
      cache.retained.lookup key = some lock ↔ cache.fillLocks.lookup key = some lock := by
    intro key lock
    rw [lookup_retained]
    refine ⟨And.left, fun hlock => ⟨hlock, ?_⟩⟩
    obtain ⟨hkey, rfl⟩ := (h.lookup key lock).mp hlock
    have hcall : (⟨key, .waiting (key + 1)⟩ : Call Nat) ∈ cache.calls := by
      rw [h.calls]
      exact List.mem_map_of_mem (List.mem_range.mpr hkey)
    exact one_lt_strongCount hcall rfl
  exact ⟨(HashMap.size_eq_of_lookup hlookup).trans h.size,
    fun key lock => (hlookup key lock).trans (h.lookup key lock)⟩

theorem Busy.next {n : Nat} {cache : SharedCatalogCache Nat} (h : Busy n cache)
    (hn : n < maxSingleFlightKeys) :
    Busy (n + 1) ((cache.fillLock n).2.joined n (.waiting (cache.fillLock n).1)) := by
  obtain ⟨hsize, hlookup⟩ := h.retained
  have hnone : cache.retained.lookup n = none := by
    apply Option.eq_none_iff_forall_ne_some.mpr
    intro lock hlock
    exact absurd ((hlookup n lock).mp hlock).1 (Nat.lt_irrefl n)
  have hroom : ¬ maxSingleFlightKeys ≤ cache.retained.size := by
    rw [hsize]
    exact Nat.not_le_of_lt hn
  have hfill : cache.fillLock n = (n + 1, { cache with
      fillLocks := cache.retained.insert n (n + 1)
      nextMutex := n + 1 + 1 }) := by
    simp only [fillLock, hnone, if_neg hroom, h.nextMutex]
  rw [hfill]
  constructor
  · simp [joined, h.calls, List.range_succ]
  · intro key lock
    refine HashMap.lookup_insert_eq_some.trans ?_
    rw [hlookup]
    constructor
    · rintro (⟨rfl, rfl⟩ | ⟨-, hkey, rfl⟩)
      · exact ⟨Nat.lt_succ_self key, rfl⟩
      · exact ⟨Nat.lt_succ_of_lt hkey, rfl⟩
    · rintro ⟨hkey, rfl⟩
      by_cases heq : key = n
      · exact .inl ⟨heq, by rw [heq]⟩
      · exact .inr ⟨heq, Nat.lt_of_le_of_ne (Nat.le_of_lt_succ hkey) heq, rfl⟩
  · refine (HashMap.size_insert_of_notMem _ ?_).trans (congrArg (· + 1) hsize)
    intro hmem
    obtain ⟨lock, hlock⟩ := HashMap.exists_lookup_of_mem hmem
    rw [hnone] at hlock
    cases hlock
  · exact h.overflowFillLock
  · rfl

theorem exists_busy {n : Nat} (hn : n ≤ maxSingleFlightKeys) :
    ∃ cache, (sharedCatalogCache Nat).Reachable cache ∧ Busy n cache := by
  induction n with
  | zero =>
    refine ⟨(sharedCatalogCache Nat).init, Machine.Reaches.init, rfl, ?_, rfl, rfl, rfl⟩
    intro key lock
    constructor
    · intro h
      cases h
    · exact fun h => absurd h.1 (Nat.not_lt_zero key)
  | succ n ih =>
    obtain ⟨cache, hreach, hbusy⟩ := ih (Nat.le_of_lt hn)
    exact ⟨_, hreach.steps (steps_waiting cache n), hbusy.next hn⟩

theorem step_lock {call : Call K} {lock : MutexId} (hcall : cache.calls[i]? = some call)
    (hphase : call.phase = .waiting lock)
    (hfree : ∀ other ∈ cache.calls, other.phase.isInside = true → other.phase.held ≠ some lock) :
    (sharedCatalogCache K).step cache (.lock i) = some (cache.setPhase i (.rechecking lock)) := by
  simpa [sharedCatalogCache, step, hcall, hphase] using hfree

theorem exists_overflow : ∃ cache : SharedCatalogCache Nat,
    (sharedCatalogCache Nat).Reachable (cache.joined 128 (.rechecking 0)) ∧ Busy 128 cache := by
  obtain ⟨cache, hreach, hbusy⟩ := exists_busy (Nat.le_refl maxSingleFlightKeys)
  obtain ⟨hsize, hlookup⟩ := hbusy.retained
  have hnone : cache.retained.lookup 128 = none := by
    apply Option.eq_none_iff_forall_ne_some.mpr
    intro lock hlock
    exact absurd ((hlookup 128 lock).mp hlock).1 (Nat.lt_irrefl 128)
  have hfill : cache.fillLock 128 = (0, { cache with fillLocks := cache.retained }) := by
    simp only [fillLock, hnone, if_pos (Nat.le_of_eq hsize.symm), hbusy.overflowFillLock]
  have hwait := hreach.steps (steps_waiting cache 128)
  rw [hfill] at hwait
  have hbusy' : Busy 128 { cache with fillLocks := cache.retained } :=
    ⟨hbusy.calls, hlookup, hsize, hbusy.overflowFillLock, hbusy.nextMutex⟩
  refine ⟨_, hwait.tail (a := .lock cache.calls.length) trivial ?_, hbusy'⟩
  refine (step_lock (call_joined _ 128 _) rfl ?_).trans (congrArg some (setPhase_joined ..))
  intro other hother hinside
  simp only [joined, hbusy.calls, List.mem_append, List.mem_map, List.mem_singleton] at hother
  obtain ⟨key, -, rfl⟩ | rfl := hother
  · cases hinside
  · cases hinside

omit [DecidableEq K] in
theorem inside_eq {call : Call K} (hcall : cache.calls[i]? = some call)
    (h : call.phase.isInside = true) : cache.inside i = some call.key := by
  simp [inside, hcall, h]

theorem Busy.exists_rest {cache : SharedCatalogCache Nat} (h : Busy 128 cache) :
    ∃ rest, cache.calls = ⟨0, .waiting 1⟩ :: rest ∧
      ∀ other ∈ rest, ∃ key, other = ⟨key + 1, .waiting (key + 2)⟩ := by
  refine ⟨_, h.calls.trans (congrArg _ (List.range_succ_eq_map (n := 127))), ?_⟩
  intro other hother
  simp only [List.mem_map] at hother
  obtain ⟨key, ⟨before, -, rfl⟩, rfl⟩ := hother
  exact ⟨before, rfl⟩

theorem steps_given_up {cache : SharedCatalogCache Nat} (h : Busy 128 cache) :
    (sharedCatalogCache Nat).Steps Machine.Any (cache.joined 128 (.rechecking 0))
      ((cache.setPhase 0 .finished).joined 128 (.rechecking 0)) := by
  have hfirst : (cache.joined 128 (.rechecking 0)).calls[0]? = some ⟨0, .waiting 1⟩ := by
    apply call_joined_of_some
    simp [h.calls]
  have hreleased : ((cache.joined 128 (.rechecking 0)).setPhase 0 (.released 1)).calls[0]? =
      some ⟨0, .released 1⟩ := by
    simp [setPhase, hfirst]
  have hcancel : (sharedCatalogCache Nat).step (cache.joined 128 (.rechecking 0))
      (.event 0 .cancel) = some ((cache.joined 128 (.rechecking 0)).setPhase 0 (.released 1)) := by
    simp [sharedCatalogCache, step, hfirst, Phase.after]
  have hdrop : (sharedCatalogCache Nat).step
      ((cache.joined 128 (.rechecking 0)).setPhase 0 (.released 1)) (.event 0 .dropLock) =
        some (((cache.joined 128 (.rechecking 0)).setPhase 0 (.released 1)).setPhase 0
          .finished) := by
    simp only [sharedCatalogCache, step, hreleased, Option.bind_some, Phase.after, Option.map_some]
  have htwice : ((cache.joined 128 (.rechecking 0)).setPhase 0 (.released 1)).setPhase 0
      .finished = (cache.setPhase 0 .finished).joined 128 (.rechecking 0) := by
    obtain ⟨rest, hrest, -⟩ := h.exists_rest
    simp [setPhase, joined, hrest]
  rw [htwice] at hdrop
  exact ((Machine.Steps.refl _).tail trivial hcancel).tail trivial hdrop

theorem fillLock_given_up {cache : SharedCatalogCache Nat} (h : Busy 128 cache) :
    (((cache.setPhase 0 .finished).joined 128 (.rechecking 0)).fillLock 128).1 = 129 := by
  have hcount : ((cache.setPhase 0 .finished).joined 128 (.rechecking 0)).strongCount 1 = 1 := by
    obtain ⟨rest, hcalls, hrest⟩ := h.exists_rest
    have hnone : rest.countP (·.phase.held = some 1) = 0 := by
      apply List.countP_eq_zero.mpr
      intro other hother
      obtain ⟨key, rfl⟩ := hrest other hother
      simp [Phase.held]
    simp only [strongCount, joined, setPhase, hcalls, List.modify_zero_cons, List.cons_append,
      List.countP_cons, List.countP_append, hnone]
    simp [Phase.held]
  have hlookup : ∀ key lock,
      ((cache.setPhase 0 .finished).joined 128 (.rechecking 0)).retained.lookup key = some lock →
        (cache.fillLocks.erase 0).lookup key = some lock := by
    intro key lock hlock
    obtain ⟨hold, hheld⟩ := lookup_retained.mp hlock
    refine HashMap.lookup_erase_eq_some.mpr ⟨?_, hold⟩
    rintro rfl
    obtain ⟨-, rfl⟩ := (h.lookup 0 lock).mp hold
    rw [hcount] at hheld
    exact absurd hheld (Nat.lt_irrefl 1)
  have hnone : ((cache.setPhase 0 .finished).joined 128 (.rechecking 0)).retained.lookup 128 =
      none := by
    apply Option.eq_none_iff_forall_ne_some.mpr
    intro lock hlock
    have hold := (HashMap.lookup_erase_eq_some.mp (hlookup 128 lock hlock)).2
    exact absurd ((h.lookup 128 lock).mp hold).1 (Nat.lt_irrefl 128)
  have hmem : 0 ∈ cache.fillLocks :=
    HashMap.mem_of_lookup ((h.lookup 0 1).mpr ⟨by decide, rfl⟩)
  have hsize : ((cache.setPhase 0 .finished).joined 128 (.rechecking 0)).retained.size < 128 := by
    have hle := HashMap.size_le_of_lookup hlookup
    have herase : HashMap.size (cache.fillLocks.erase 0) + 1 = cache.fillLocks.size := by
      have hpos : 0 < cache.fillLocks.keys.length := List.length_pos_of_mem hmem
      simp only [HashMap.size, AList.keys_erase, List.length_erase_of_mem hmem]
      omega
    rw [h.size] at herase
    omega
  have hroom : ¬ maxSingleFlightKeys ≤
      ((cache.setPhase 0 .finished).joined 128 (.rechecking 0)).retained.size :=
    Nat.not_le_of_lt hsize
  simp only [fillLock, hnone, if_neg hroom]
  exact h.nextMutex

theorem two_calls_of_one_key_inside : ∃ cache : SharedCatalogCache Nat,
    (sharedCatalogCache Nat).Reachable cache ∧ ¬ KeyedMutex.Exclusive cache.inside := by
  obtain ⟨busy, hreach, hbusy⟩ := exists_overflow
  obtain ⟨cache, hcache⟩ : ∃ cache,
    (busy.setPhase 0 .finished).joined 128 (.rechecking 0) = cache := ⟨_, rfl⟩
  have hgiven := hreach.steps (steps_given_up hbusy)
  have hlock := fillLock_given_up hbusy
  have hlen : (busy.setPhase 0 .finished).calls.length = 128 := by simp [setPhase, hbusy.calls]
  have hcalls : cache.calls = (busy.setPhase 0 .finished).calls ++ [⟨128, .rechecking 0⟩] := by
    rw [← hcache]
    rfl
  have hother : cache.calls[128]? = some ⟨128, .rechecking 0⟩ := by
    rw [hcalls, ← hlen]
    simp
  rw [hcache] at hgiven hlock
  -- The second call of the key waits for the new lock, which nobody has.
  have hwait := hgiven.steps (steps_waiting cache 128)
  rw [hlock] at hwait
  have henter := step_lock (call_joined (cache.fillLock 128).2 128 (.waiting 129)) rfl (by
    intro other hother hinside
    simp only [joined, fillLock_calls, hcalls, List.mem_append, List.mem_singleton] at hother
    obtain (hbefore | rfl) | rfl := hother
    · obtain ⟨rest, hrest, hwaiting⟩ := hbusy.exists_rest
      simp only [setPhase, hrest, List.modify_zero_cons, List.mem_cons] at hbefore
      obtain rfl | hbefore := hbefore
      · cases hinside
      · obtain ⟨key, rfl⟩ := hwaiting other hbefore
        cases hinside
    · intro hheld
      cases hheld
    · cases hinside)
  rw [setPhase_joined] at henter
  refine ⟨(cache.fillLock 128).2.joined 128 (.rechecking 129), hwait.tail trivial henter, ?_⟩
  intro hexclusive
  have hbefore : (cache.fillLock 128).2.calls[128]? = some ⟨128, .rechecking 0⟩ := by
    rw [fillLock_calls]
    exact hother
  have hfirst : ((cache.fillLock 128).2.joined 128 (.rechecking 129)).inside 128 = some 128 :=
    inside_eq (call_joined_of_some hbefore) rfl
  have hsecond := inside_eq (call_joined (cache.fillLock 128).2 128 (.rechecking 129)) rfl
  have hindex := hexclusive 128 _ 128 hfirst hsecond
  rw [fillLock_calls, hcalls, List.length_append, hlen] at hindex
  cases hindex

end SharedCatalogCache

end Jellyrin.CatalogCache
