import Jellyrin.Defs.Lock.WeakKeyed

/-! All handles of one key point to one mutex, so the registry refines a keyed
mutex, and it never outgrows its bound. -/

universe u

namespace Jellyrin.Lock

open Transition

variable {K : Type u} [DecidableEq K]

namespace WeakKeyedLockRegistry

variable {count : MutexId → Nat} {fresh lock : MutexId} {key : K}
  {registry registry' : WeakKeyedLockRegistry K}

structure Kept (count : MutexId → Nat) (key : K) (registry registry' : WeakKeyedLockRegistry K) :
    Prop where
  overflow : registry'.overflow = registry.overflow
  maxEntries : registry'.maxEntries = registry.maxEntries
  size : registry'.entries.size ≤ registry.entries.size
  entry : ∀ k lock, registry'.entries.lookup k = some lock →
    k ≠ key ∧ registry.entries.lookup k = some lock
  live : ∀ k lock, registry.entries.lookup k = some lock → 0 < count lock → k ≠ key →
    registry'.entries.lookup k = some lock

theorem Kept.pruneDead (h : Kept count key registry registry') :
    Kept count key registry (registry'.pruneDead count) where
  overflow := h.overflow
  maxEntries := h.maxEntries
  size := (HashMap.size_retain_le _ _).trans h.size
  entry k lock hk := h.entry k lock (HashMap.lookup_retain.mp hk).1
  live k lock hk hlive hne :=
    HashMap.lookup_retain.mpr ⟨h.live k lock hk hlive hne, decide_eq_true hlive⟩

inductive LockFor (count : MutexId → Nat) (fresh : MutexId) (key : K)
    (registry : WeakKeyedLockRegistry K) : MutexId → WeakKeyedLockRegistry K → Prop
  | reused {lock : MutexId} : registry.entries.lookup key = some lock → 0 < count lock →
      LockFor count fresh key registry lock registry
  | overflowed {registry' : WeakKeyedLockRegistry K} :
      (∀ lock, registry.entries.lookup key = some lock → count lock = 0) →
      Kept count key registry registry' →
      LockFor count fresh key registry registry.overflow registry'
  | inserted {registry' : WeakKeyedLockRegistry K} :
      (∀ lock, registry.entries.lookup key = some lock → count lock = 0) →
      count registry.overflow ≤ 1 → Kept count key registry registry' →
      registry'.entries.size < registry'.maxEntries.toNat →
      LockFor count fresh key registry fresh
        { registry' with entries := registry'.entries.insert key fresh }

theorem upgrade_bind_eq_none (h : (registry.entries.lookup key).bind (upgrade count) = none) :
    ∀ lock, registry.entries.lookup key = some lock → count lock = 0 := by
  intro lock hlock
  rw [hlock, Option.bind_some, upgrade] at h
  split at h
  · cases h
  · omega

theorem Kept.erase (registry : WeakKeyedLockRegistry K) (operations : UInt64) :
    Kept count key registry { registry with
      entries := registry.entries.erase key, operationsSincePrune := operations } where
  overflow := rfl
  maxEntries := rfl
  size := HashMap.size_erase_le _ _
  entry _ _ hk := HashMap.lookup_erase_eq_some.mp hk
  live k lock hk _ hne := by
    rw [AList.lookup_erase_ne hne]
    exact hk

theorem LockFor.of_lockFor (h : registry.lockFor count fresh key = (lock, registry')) :
    LockFor count fresh key registry lock registry' := by
  unfold lockFor at h
  split at h
  · rename_i hlive
    obtain ⟨found, hfound, hup⟩ := Option.bind_eq_some_iff.mp hlive
    simp only [upgrade] at hup
    split at hup <;> cases hup
    cases h
    exact .reused hfound ‹_›
  · rename_i hdead
    replace hdead := upgrade_bind_eq_none hdead
    dsimp only at h
    split at h
    · cases h
      exact .overflowed hdead (.erase registry _)
    · rename_i hidle
      split at h
      · split at h <;> cases h
        · exact .overflowed hdead (Kept.erase registry _).pruneDead
        · refine .inserted hdead (by omega) (Kept.erase registry _).pruneDead ?_
          exact Nat.lt_of_not_le ‹_›
      · split at h <;> cases h
        · exact .overflowed hdead (.erase registry _)
        · exact .inserted hdead (by omega) (.erase registry _) (Nat.lt_of_not_le ‹_›)

end WeakKeyedLockRegistry

open WeakKeyedLockRegistry

namespace World

variable {h : Handle K}

omit [DecidableEq K] in
theorem strongCount_pos {w : World K} (hh : h ∈ w.handles) : 0 < w.strongCount h.mutex := by
  have hpos : 0 < w.handles.countP (·.mutex = h.mutex) :=
    List.countP_pos_iff.mpr ⟨h, hh, decide_eq_true rfl⟩
  simp only [strongCount]
  omega

omit [DecidableEq K] in
theorem strongCount_overflow {w : World K} (hh : h ∈ w.handles)
    (hm : h.mutex = w.registry.overflow) : 1 < w.strongCount w.registry.overflow := by
  have hpos : 0 < w.handles.countP (·.mutex = w.registry.overflow) :=
    List.countP_pos_iff.mpr ⟨h, hh, decide_eq_true hm⟩
  simp only [strongCount, if_true]
  omega

/-- How the live handles of a key are tied to its entry and to the overflow lock. -/
structure Served (maxEntries : UInt64) (w : World K) : Prop where
  own : ∀ h ∈ w.handles, h.mutex = w.registry.overflow ∨
    w.registry.entries.lookup h.key = some h.mutex
  same : ∀ a ∈ w.handles, ∀ b ∈ w.handles, a.key = b.key → a.mutex = b.mutex
  separate : ∀ k lock, w.registry.entries.lookup k = some lock →
    lock ≠ w.registry.overflow ∧ lock < w.nextMutex
  injective : ∀ k k' lock, w.registry.entries.lookup k = some lock →
    w.registry.entries.lookup k' = some lock → k = k'
  overflow_lt : w.registry.overflow < w.nextMutex
  limit : w.registry.maxEntries = maxEntries
  bounded : w.registry.entries.size ≤ maxEntries.toNat

variable {maxEntries : UInt64} {w w' : World K}

omit [DecidableEq K] in
theorem Served.new [DecidableEq K] : Served maxEntries (World.new maxEntries : World K) where
  own h hh := by cases hh
  same a ha := by cases ha
  separate k lock h := by cases h
  injective k k' lock h := by cases h
  overflow_lt := Nat.one_pos
  limit := rfl
  bounded := Nat.zero_le _

theorem Served.of_handles (hi : Served maxEntries w) (hr : w'.registry = w.registry)
    (hn : w'.nextMutex = w.nextMutex)
    (hh : ∀ h' ∈ w'.handles, ∃ h ∈ w.handles, h.key = h'.key ∧ h.mutex = h'.mutex) :
    Served maxEntries w' where
  own h' hmem := by
    obtain ⟨h, hmem, hkey, hmutex⟩ := hh h' hmem
    rw [hr, ← hkey, ← hmutex]
    exact hi.own h hmem
  same a' ha' b' hb' hkey := by
    obtain ⟨a, ha, hak, ham⟩ := hh a' ha'
    obtain ⟨b, hb, hbk, hbm⟩ := hh b' hb'
    rw [← ham, ← hbm]
    exact hi.same a ha b hb (by rw [hak, hbk, hkey])
  separate := by
    rw [hr, hn]
    exact hi.separate
  injective := by
    rw [hr]
    exact hi.injective
  overflow_lt := by
    rw [hr, hn]
    exact hi.overflow_lt
  limit := by
    rw [hr]
    exact hi.limit
  bounded := by
    rw [hr]
    exact hi.bounded

theorem Served.overflow_of_dead (hi : Served maxEntries w) {key : K}
    (hdead : ∀ lock, w.registry.entries.lookup key = some lock → w.strongCount lock = 0)
    (hh : h ∈ w.handles) (hkey : h.key = key) : h.mutex = w.registry.overflow := by
  cases hi.own h hh with
  | inl hoverflow => exact hoverflow
  | inr hown =>
    have hzero := hdead h.mutex (hkey ▸ hown)
    have hpos := strongCount_pos hh
    omega

theorem Served.lock_eq (hi : Served maxEntries w) {key : K} {lock : MutexId}
    {registry : WeakKeyedLockRegistry K}
    (hl : LockFor w.strongCount w.nextMutex key w.registry lock registry) (hh : h ∈ w.handles)
    (hkey : h.key = key) : h.mutex = lock := by
  cases hl with
  | overflowed hdead _ => exact hi.overflow_of_dead hdead hh hkey
  | inserted hdead hidle _ _ =>
    have hbusy := strongCount_overflow hh (hi.overflow_of_dead hdead hh hkey)
    omega
  | reused hlock hlive =>
    -- The entry is live, so a handle holds it, and that handle has the same key.
    have hlocal := hi.separate key lock hlock
    have hcount : 0 < w.handles.countP (·.mutex = lock) := by
      simpa [strongCount, hlocal.1] using hlive
    obtain ⟨h₀, hh₀, hm₀⟩ := List.countP_pos_iff.mp hcount
    replace hm₀ := of_decide_eq_true hm₀
    have hown₀ : w.registry.entries.lookup h₀.key = some lock := by
      cases hi.own h₀ hh₀ with
      | inl hoverflow => exact absurd (hm₀.symm.trans hoverflow) hlocal.1
      | inr hown => exact hm₀ ▸ hown
    have hkey₀ := hi.injective h₀.key key lock hown₀ hlock
    rw [hi.same h hh h₀ hh₀ (hkey.trans hkey₀.symm), hm₀]

theorem Served.own_kept (hi : Served maxEntries w) {key : K} {registry : WeakKeyedLockRegistry K}
    (hdead : ∀ lock, w.registry.entries.lookup key = some lock → w.strongCount lock = 0)
    (hk : Kept w.strongCount key w.registry registry) (hh : h ∈ w.handles) :
    h.mutex = w.registry.overflow ∨
      h.key ≠ key ∧ registry.entries.lookup h.key = some h.mutex := by
  by_cases hkey : h.key = key
  · exact .inl (hi.overflow_of_dead hdead hh hkey)
  · cases hi.own h hh with
    | inl hoverflow => exact .inl hoverflow
    | inr hown => exact .inr ⟨hkey, hk.live h.key h.mutex hown (strongCount_pos hh) hkey⟩

theorem Served.push {key : K} {lock : MutexId} (hi : Served maxEntries w)
    (hown : lock = w.registry.overflow ∨ w.registry.entries.lookup key = some lock)
    (hsame : ∀ h ∈ w.handles, h.key = key → h.mutex = lock) :
    Served maxEntries (w.push key lock) where
  own h hh := by
    cases List.mem_cons.mp hh with
    | inl heq =>
      subst heq
      exact hown
    | inr hold => exact hi.own h hold
  same a ha b hb hkey := by
    cases List.mem_cons.mp ha with
    | inl haeq =>
      subst haeq
      cases List.mem_cons.mp hb with
      | inl hbeq =>
        subst hbeq
        rfl
      | inr hbold => exact (hsame b hbold hkey.symm).symm
    | inr haold =>
      cases List.mem_cons.mp hb with
      | inl hbeq =>
        subst hbeq
        exact hsame a haold hkey
      | inr hbold => exact hi.same a haold b hbold hkey
  separate := hi.separate
  injective := hi.injective
  overflow_lt := hi.overflow_lt
  limit := hi.limit
  bounded := hi.bounded

theorem Served.kept (hi : Served maxEntries w) {key : K} {registry : WeakKeyedLockRegistry K}
    (hdead : ∀ lock, w.registry.entries.lookup key = some lock → w.strongCount lock = 0)
    (hk : Kept w.strongCount key w.registry registry) :
    Served maxEntries { w with registry, nextMutex := w.nextMutex + 1 } where
  own h hh := by
    rw [hk.overflow]
    cases hi.own_kept hdead hk hh with
    | inl hoverflow => exact .inl hoverflow
    | inr hown => exact .inr hown.2
  same := hi.same
  separate k lock h := by
    have hlocal := hi.separate k lock (hk.entry k lock h).2
    rw [hk.overflow]
    exact ⟨hlocal.1, Nat.lt_succ_of_lt hlocal.2⟩
  injective k k' lock h h' :=
    hi.injective k k' lock (hk.entry k lock h).2 (hk.entry k' lock h').2
  overflow_lt := by
    rw [hk.overflow]
    exact Nat.lt_succ_of_lt hi.overflow_lt
  limit := hk.maxEntries.trans hi.limit
  bounded := hk.size.trans hi.bounded

theorem Served.inserted (hi : Served maxEntries w) {key : K}
    {registry : WeakKeyedLockRegistry K}
    (hdead : ∀ lock, w.registry.entries.lookup key = some lock → w.strongCount lock = 0)
    (hk : Kept w.strongCount key w.registry registry)
    (hroom : registry.entries.size < registry.maxEntries.toNat) :
    Served maxEntries { w with
      registry := { registry with entries := registry.entries.insert key w.nextMutex }
      nextMutex := w.nextMutex + 1 } := by
  have hk' := hi.kept hdead hk
  have hnew : ∀ k lock, (registry.entries.insert key w.nextMutex).lookup k = some lock →
      (k = key ∧ lock = w.nextMutex) ∨
        (k ≠ key ∧ registry.entries.lookup k = some lock ∧ lock < w.nextMutex) := by
    intro k lock h
    obtain ⟨hkey, hlock⟩ | ⟨hkey, h⟩ := HashMap.lookup_insert_eq_some.mp h
    · exact .inl ⟨hkey, hlock.symm⟩
    · exact .inr ⟨hkey, h, (hi.separate k lock (hk.entry k lock h).2).2⟩
  have hoverflow := hi.overflow_lt
  constructor
  · intro h hh
    dsimp only
    rw [hk.overflow]
    cases hi.own_kept hdead hk hh with
    | inl hoverflow => exact .inl hoverflow
    | inr hown =>
      rw [AList.lookup_insert_ne hown.1]
      exact .inr hown.2
  · exact hi.same
  · intro k lock h
    cases hnew k lock h with
    | inl hfresh =>
      dsimp only
      rw [hfresh.2, hk.overflow]
      exact ⟨Nat.ne_of_gt hoverflow, Nat.lt_succ_self _⟩
    | inr hold => exact hk'.separate k lock hold.2.1
  · intro k k' lock h h'
    cases hnew k lock h with
    | inl hfresh =>
      cases hnew k' lock h' with
      | inl hfresh' => rw [hfresh.1, hfresh'.1]
      | inr hold' =>
        have hlt := hold'.2.2
        rw [hfresh.2] at hlt
        exact absurd hlt (Nat.lt_irrefl _)
    | inr hold =>
      cases hnew k' lock h' with
      | inl hfresh' =>
        have hlt := hold.2.2
        rw [hfresh'.2] at hlt
        exact absurd hlt (Nat.lt_irrefl _)
      | inr hold' => exact hk'.injective k k' lock hold.2.1 hold'.2.1
  · exact hk'.overflow_lt
  · exact hk'.limit
  · have hsize := HashMap.size_insert_le registry.entries key w.nextMutex
    have hlimit : registry.maxEntries = maxEntries := hk'.limit
    rw [hlimit] at hroom
    exact hsize.trans hroom

theorem Served.lockFor (hi : Served maxEntries w) (key : K) :
    Served maxEntries (w.lockFor key) := by
  obtain ⟨lock, registry, hl⟩ : ∃ lock registry,
      w.registry.lockFor w.strongCount w.nextMutex key = (lock, registry) := ⟨_, _, rfl⟩
  rw [World.lockFor, hl]
  dsimp only
  have hlock := LockFor.of_lockFor hl
  have hsame : ∀ h ∈ w.handles, h.key = key → h.mutex = lock := fun h hh => hi.lock_eq hlock hh
  cases hlock with
  | reused hlock _ =>
    refine Served.push ?_ (.inr hlock) hsame
    constructor
    · exact hi.own
    · exact hi.same
    · exact fun k m h => ⟨(hi.separate k m h).1, Nat.lt_succ_of_lt (hi.separate k m h).2⟩
    · exact hi.injective
    · exact Nat.lt_succ_of_lt hi.overflow_lt
    · exact hi.limit
    · exact hi.bounded
  | overflowed hdead hk =>
    exact (hi.kept hdead hk).push (.inl hk.overflow.symm) hsame
  | inserted hdead _ hk hroom =>
    exact (hi.inserted hdead hk hroom).push (.inr (AList.lookup_insert _)) hsame

omit [DecidableEq K] in
theorem mem_of_handle {id : Nat} (hh : w.handle id = some h) : h ∈ w.handles :=
  List.mem_of_find?_eq_some hh

omit [DecidableEq K] in
theorem id_of_handle {id : Nat} (hh : w.handle id = some h) : h.id = id :=
  of_decide_eq_true (List.find?_some (p := fun h : Handle K => decide (h.id = id)) hh)

theorem Served.setInside (hi : Served maxEntries w) (id : Nat) (inside : Bool) :
    Served maxEntries (w.setInside id inside) := by
  refine hi.of_handles rfl rfl ?_
  intro h' hh'
  obtain ⟨h, hh, rfl⟩ := List.mem_map.mp hh'
  refine ⟨h, hh, ?_⟩
  split <;> exact ⟨rfl, rfl⟩

theorem Served.step (hi : Served maxEntries w) {action : Action K}
    (h : w.step action = some w') : Served maxEntries w' := by
  cases action with
  | lockFor key =>
    cases h
    exact hi.lockFor key
  | clone id =>
    obtain ⟨handle, hhandle, rfl⟩ := Option.map_eq_some_iff.mp h
    refine hi.of_handles rfl rfl ?_
    intro h' hh'
    cases List.mem_cons.mp hh' with
    | inl heq =>
      subst heq
      exact ⟨handle, mem_of_handle hhandle, rfl, rfl⟩
    | inr hold => exact ⟨h', hold, rfl, rfl⟩
  | drop id =>
    cases h
    exact hi.of_handles rfl rfl fun h' hh' => ⟨h', (List.mem_filter.mp hh').1, rfl, rfl⟩
  | enter id =>
    obtain ⟨handle, _, h⟩ := Option.bind_eq_some_iff.mp h
    split at h <;> cases h
    exact hi.setInside id true
  | leave id =>
    cases h
    exact hi.setInside id false

omit [DecidableEq K] in
structure Numbered (w : World K) : Prop where
  nodup : (w.handles.map Handle.id).Nodup
  lt : ∀ h ∈ w.handles, h.id < w.nextHandle

omit [DecidableEq K] in
theorem Numbered.push {registry : WeakKeyedLockRegistry K} {nextMutex : MutexId}
    (hi : Numbered w) (key : K) (lock : MutexId) :
    Numbered (({ w with registry, nextMutex } : World K).push key lock) where
  nodup := by
    refine List.nodup_cons.mpr ⟨?_, hi.nodup⟩
    intro hmem
    obtain ⟨h, hh, hid⟩ := List.mem_map.mp hmem
    exact absurd (hi.lt h hh) (by simp [hid])
  lt h hh := by
    cases List.mem_cons.mp hh with
    | inl heq =>
      subst heq
      exact Nat.lt_succ_self _
    | inr hold => exact Nat.lt_succ_of_lt (hi.lt h hold)

omit [DecidableEq K] in
theorem Numbered.setInside (hi : Numbered w) (id : Nat) (inside : Bool) :
    Numbered (w.setInside id inside) where
  nodup := by
    have hids : (w.setInside id inside).handles.map Handle.id = w.handles.map Handle.id := by
      simp only [World.setInside, List.map_map]
      congr 1
      funext h
      simp only [Function.comp]
      split <;> rfl
    rw [hids]
    exact hi.nodup
  lt h hh := by
    obtain ⟨h₀, hh₀, rfl⟩ := List.mem_map.mp hh
    have hlt := hi.lt h₀ hh₀
    split <;> exact hlt

theorem Numbered.step (hi : Numbered w) {action : Action K} (h : w.step action = some w') :
    Numbered w' := by
  cases action with
  | lockFor key =>
    cases h
    exact hi.push key _
  | clone id =>
    obtain ⟨handle, _, rfl⟩ := Option.map_eq_some_iff.mp h
    exact hi.push _ _
  | drop id =>
    cases h
    exact ⟨hi.nodup.sublist (List.filter_sublist.map _),
      fun h hh => hi.lt h (List.mem_filter.mp hh).1⟩
  | enter id =>
    obtain ⟨handle, _, h⟩ := Option.bind_eq_some_iff.mp h
    split at h <;> cases h
    exact hi.setInside id true
  | leave id =>
    cases h
    exact hi.setInside id false

omit [DecidableEq K] in
theorem Numbered.handle_eq (hi : Numbered w) (hh : h ∈ w.handles) : w.handle h.id = some h := by
  cases hfind : w.handle h.id with
  | none =>
    have hnot := List.find?_eq_none.mp hfind h hh
    simp at hnot
  | some found =>
    have hid := id_of_handle hfind
    rw [List.inj_on_of_nodup_map hi.nodup (mem_of_handle hfind) hh hid]

omit [DecidableEq K] in
def inside (w : World K) (id : Nat) : Option K :=
  (w.handle id).bind fun h => if h.inside then some h.key else none

omit [DecidableEq K] in
theorem inside_eq_some {id : Nat} {key : K} :
    w.inside id = some key ↔ ∃ h, w.handle id = some h ∧ h.inside = true ∧ h.key = key := by
  simp only [inside, Option.bind_eq_some_iff]
  constructor
  · rintro ⟨h, hh, hkey⟩
    split at hkey <;> cases hkey
    exact ⟨h, hh, ‹_›, rfl⟩
  · rintro ⟨h, hh, hin, rfl⟩
    exact ⟨h, hh, if_pos hin⟩

omit [DecidableEq K] in
theorem inside_push {registry : WeakKeyedLockRegistry K} {nextMutex : MutexId}
    (hi : Numbered w) (key : K) (lock : MutexId) :
    (({ w with registry, nextMutex } : World K).push key lock).inside = w.inside := by
  funext id
  by_cases hid : w.nextHandle = id
  · have hnone : w.handle id = none := by
      apply List.find?_eq_none.mpr
      intro h hh
      have hlt := hi.lt h hh
      simp
      omega
    rw [inside, inside, hnone]
    simp [handle, World.push, hid]
  · simp [inside, handle, World.push, hid]

omit [DecidableEq K] in
theorem inside_drop (id : Nat) :
    inside { w with handles := w.handles.filter (·.id ≠ id) } =
      Function.update w.inside id none := by
  funext other
  by_cases hid : other = id
  · subst hid
    rw [Function.update_self, inside]
    have hnone : handle { w with handles := w.handles.filter (·.id ≠ other) } other = none := by
      apply List.find?_eq_none.mpr
      intro h hh
      simpa using (List.mem_filter.mp hh).2
    rw [hnone]
    rfl
  · rw [Function.update_of_ne hid]
    simp only [inside, handle, List.find?_filter]
    congr 2
    funext h
    by_cases hother : h.id = other
    · simp [hother, hid]
    · simp [hother]

omit [DecidableEq K] in
theorem handle_setInside (id other : Nat) (inside : Bool) :
    (w.setInside id inside).handle other = (w.handle other).map fun h =>
      if h.id = id then { h with inside } else h := by
  simp only [handle, setInside, List.find?_map]
  congr 2
  funext h
  simp only [Function.comp]
  split <;> rfl

omit [DecidableEq K] in
theorem inside_setInside_of_ne {id other : Nat} (hne : other ≠ id) (inside : Bool) :
    (w.setInside id inside).inside other = w.inside other := by
  simp only [World.inside, handle_setInside]
  cases hh : w.handle other with
  | none => rfl
  | some h => simp [id_of_handle hh, hne]

omit [DecidableEq K] in
theorem inside_enter {id : Nat} (hh : w.handle id = some h) :
    (w.setInside id true).inside = Function.update w.inside id (some h.key) := by
  funext other
  by_cases hid : other = id
  · subst hid
    simp [inside, handle_setInside, hh, id_of_handle hh]
  · rw [Function.update_of_ne hid, inside_setInside_of_ne hid]

omit [DecidableEq K] in
theorem inside_leave (id : Nat) :
    (w.setInside id false).inside = Function.update w.inside id none := by
  funext other
  by_cases hid : other = id
  · subst hid
    rw [Function.update_self, inside, handle_setInside]
    cases hh : w.handle other with
    | none => rfl
    | some h => simp [id_of_handle hh]
  · rw [Function.update_of_ne hid, inside_setInside_of_ne hid]

theorem Served.free (hi : Served maxEntries w) {id : Nat} (hh : w.handle id = some h)
    (hfree : ¬(w.handles.any fun other => other.mutex = h.mutex && other.inside) = true) :
    ∀ other, w.inside other ≠ some h.key := by
  intro other hother
  obtain ⟨h', hh', hin, hkey⟩ := inside_eq_some.mp hother
  apply hfree
  apply List.any_eq_true.mpr
  refine ⟨h', mem_of_handle hh', ?_⟩
  simp [hin, hi.same h' (mem_of_handle hh') h (mem_of_handle hh) hkey]

end World

theorem served_of_reachable {maxEntries : UInt64} {w : World K}
    (h : (WeakKeyedLockRegistry.new maxEntries).Reachable w) : w.Served maxEntries :=
  h.invariant World.Served.new fun _ _ _ hi ha => hi.step ha

theorem numbered_of_reachable {maxEntries : UInt64} {w : World K}
    (h : (WeakKeyedLockRegistry.new maxEntries).Reachable w) : w.Numbered :=
  h.invariant ⟨List.nodup_nil, fun h hh => by cases hh⟩ fun _ _ _ hi ha => hi.step ha

theorem refines_keyedMutex (maxEntries : UInt64) :
    Refinement (WeakKeyedLockRegistry.new (K := K) maxEntries) (KeyedMutex Nat K)
      World.inside where
  init := rfl
  step w action w' hw h := by
    have hserved := served_of_reachable hw
    have hnumbered := numbered_of_reachable hw
    cases action with
    | lockFor key =>
      cases h
      exact .inl (World.inside_push hnumbered key _)
    | clone id =>
      obtain ⟨handle, _, rfl⟩ := Option.map_eq_some_iff.mp h
      exact .inl (World.inside_push hnumbered _ _)
    | drop id =>
      cases h
      refine .inr ⟨.leave id, ?_⟩
      rw [World.inside_drop, KeyedMutex.step_leave]
    | enter id =>
      obtain ⟨handle, hhandle, h⟩ := Option.bind_eq_some_iff.mp h
      split at h <;> cases h
      refine .inr ⟨.enter id handle.key, ?_⟩
      rw [World.inside_enter hhandle]
      exact KeyedMutex.step_enter (hserved.free hhandle ‹_›)
    | leave id =>
      cases h
      refine .inr ⟨.leave id, ?_⟩
      rw [World.inside_leave, KeyedMutex.step_leave]

/-- Live handles of one key share one mutex, at most one of them is inside, and
the registry stays within its bound. -/
theorem keyed_mutual_exclusion (maxEntries : UInt64) {w : World K}
    (h : (WeakKeyedLockRegistry.new maxEntries).Reachable w) :
    (∀ a ∈ w.handles, ∀ b ∈ w.handles, a.key = b.key → a.mutex = b.mutex) ∧
    (∀ a ∈ w.handles, ∀ b ∈ w.handles, a.key = b.key → a.inside = true → b.inside = true →
      a = b) ∧
    w.registry.entries.size ≤ maxEntries.toNat := by
  have hserved := served_of_reachable h
  have hnumbered := numbered_of_reachable h
  refine ⟨hserved.same, ?_, hserved.bounded⟩
  intro a ha b hb hkey hina hinb
  have hexclusive := (refines_keyedMutex maxEntries).invariant
    (fun _ hs => KeyedMutex.exclusive_of_reachable hs) h
  have hid : a.id = b.id := by
    apply hexclusive a.id b.id b.key
    · exact World.inside_eq_some.mpr ⟨a, hnumbered.handle_eq ha, hina, hkey⟩
    · exact World.inside_eq_some.mpr ⟨b, hnumbered.handle_eq hb, hinb, rfl⟩
  have hlast := hnumbered.handle_eq ha
  rw [hid, hnumbered.handle_eq hb] at hlast
  exact (Option.some.inj hlast).symm

theorem keyed_mutual_exclusion_of_overflow :
    ∃ w : World Nat, (WeakKeyedLockRegistry.new 1).Reachable w ∧
      (w.handles.map Handle.mutex = [0, 0, 1] ∧ w.handles.map Handle.inside = [false, true, true]) ∧
      (∀ a ∈ w.handles, ∀ b ∈ w.handles, a.key = b.key → a.mutex = b.mutex) ∧
      (∀ a ∈ w.handles, ∀ b ∈ w.handles, a.key = b.key → a.inside = true → b.inside = true →
        a = b) ∧
      w.registry.entries.size ≤ (1 : UInt64).toNat := by
  have hrun : ∃ w : World Nat, (WeakKeyedLockRegistry.new 1).Reachable w ∧
      w.handles.map Handle.mutex = [0, 0, 1] ∧
      w.handles.map Handle.inside = [false, true, true] :=
    Machine.exists_of_run
      [.lockFor 7, .lockFor 8, .enter 0, .enter 1, .lockFor 8] (by decide)
  obtain ⟨w, hreach, hends⟩ := hrun
  exact ⟨w, hreach, hends, keyed_mutual_exclusion 1 hreach⟩

end Jellyrin.Lock
