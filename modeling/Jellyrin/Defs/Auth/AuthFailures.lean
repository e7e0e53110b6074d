import Jellyrin.Defs.Data.Expiry
import Jellyrin.Defs.Data.FixedWidth
import Jellyrin.Defs.Transition.Machine

/-! The registry of failed logins.  Expired entries are dropped lazily: the entry at
hand in every operation, all of them now and then and when a new key finds no room. -/

namespace Jellyrin.Auth

def authLockoutFailureLimit : UInt32 := 5

def authLockoutSeconds : UInt64 := 60

def authFailureRetentionSeconds : UInt64 := 15 * 60

def authFailureMaxEntries : Nat := 16384

def authFailurePruneInterval : UInt64 := 64

structure AuthFailureState where
  failures : UInt32
  lockedUntilEpoch : Option UInt64
  lastFailureEpoch : UInt64
  deriving DecidableEq

structure AuthFailureRegistry where
  entries : HashMap String AuthFailureState
  operationsSincePrune : UInt64

def AuthFailureRegistry.default : AuthFailureRegistry where
  entries := ∅
  operationsSincePrune := 0

def authFailureExpired (state : AuthFailureState) (now : UInt64) : Bool :=
  match state.lockedUntilEpoch with
  | some lockedUntil => lockedUntil ≤ now
  | none => U64.saturatingAdd state.lastFailureEpoch authFailureRetentionSeconds ≤ now

def pruneAuthFailures (registry : AuthFailureRegistry) (now : UInt64) : AuthFailureRegistry where
  entries := registry.entries.retain fun _ state => !authFailureExpired state now
  operationsSincePrune := 0

def maintainAuthFailureRegistry (registry : AuthFailureRegistry) (now : UInt64)
    (force : Bool) : AuthFailureRegistry :=
  let registry :=
    { registry with operationsSincePrune := U64.saturatingAdd registry.operationsSincePrune 1 }
  if force || authFailurePruneInterval ≤ registry.operationsSincePrune then
    pruneAuthFailures registry now
  else registry

def removeExpiredAuthFailure (registry : AuthFailureRegistry) (key : String)
    (now : UInt64) : AuthFailureRegistry :=
  if (registry.entries.lookup key).any (authFailureExpired · now) then
    { registry with entries := registry.entries.erase key }
  else registry

def missingAtCapacity (entries : HashMap String AuthFailureState) (key : String)
    (maxEntries : Nat) : Bool :=
  !decide (key ∈ entries) && decide (maxEntries ≤ entries.size)

def settleAuthFailures (registry : AuthFailureRegistry) (key : String) (now : UInt64)
    (maxEntries : Nat) : AuthFailureRegistry :=
  let registry := removeExpiredAuthFailure registry key now
  maintainAuthFailureRegistry registry now (missingAtCapacity registry.entries key maxEntries)

def isLockedAt (entries : HashMap String AuthFailureState) (key : String) (now : UInt64) : Bool :=
  ((entries.lookup key).bind AuthFailureState.lockedUntilEpoch).any fun lockedUntil =>
    decide (now < lockedUntil)

def authAttemptIsLimited (registry : AuthFailureRegistry) (key : String) (now : UInt64)
    (maxEntries : Nat) : AuthFailureRegistry × Bool :=
  let registry := settleAuthFailures registry key now maxEntries
  (registry, isLockedAt registry.entries key now ||
    missingAtCapacity registry.entries key maxEntries)

def AuthFailureState.failed (entry : Option AuthFailureState) (now : UInt64) : AuthFailureState :=
  let entry := entry.getD ⟨0, none, now⟩
  let failures := U32.saturatingAdd entry.failures 1
  { failures
    lastFailureEpoch := now
    lockedUntilEpoch :=
      if authLockoutFailureLimit ≤ failures then some (U64.saturatingAdd now authLockoutSeconds)
      else entry.lockedUntilEpoch }

def recordAuthFailureInRegistry (registry : AuthFailureRegistry) (key : String) (now : UInt64)
    (maxEntries : Nat) : AuthFailureRegistry × Bool :=
  let registry := settleAuthFailures registry key now maxEntries
  if missingAtCapacity registry.entries key maxEntries then (registry, false)
  else
    let entry := AuthFailureState.failed (registry.entries.lookup key) now
    ({ registry with entries := registry.entries.insert key entry }, true)

def clearAuthFailure (registry : AuthFailureRegistry) (key : String) : AuthFailureRegistry :=
  { registry with entries := registry.entries.erase key }

/-! The registry that drops expired entries lazily answers as one that drops them at once. -/

open Expiry Transition

theorem authFailureExpired_mono (state : AuthFailureState) (t t' : UInt64) (ht : t ≤ t')
    (h : authFailureExpired state t = true) : authFailureExpired state t' = true := by
  simp only [authFailureExpired] at h ⊢
  cases hlocked : state.lockedUntilEpoch with
  | none =>
    rw [hlocked] at h
    exact decide_eq_true (UInt64.le_trans (of_decide_eq_true h) ht)
  | some lockedUntil =>
    rw [hlocked] at h
    exact decide_eq_true (UInt64.le_trans (of_decide_eq_true h) ht)

structure Settles (key : String) (now : UInt64) (old new : HashMap String AuthFailureState) :
    Prop where
  agree : Agree authFailureExpired now new old
  keeps : ∀ k state, new.lookup k = some state → old.lookup k = some state
  fresh : ∀ state, new.lookup key = some state → authFailureExpired state now = false

theorem removeExpiredAuthFailure_settles (registry : AuthFailureRegistry) (key : String)
    (now : UInt64) :
    Settles key now registry.entries (removeExpiredAuthFailure registry key now).entries := by
  simp only [removeExpiredAuthFailure]
  cases hentry : registry.entries.lookup key with
  | none =>
    refine ⟨Agree.refl _ _, fun _ _ h => h, ?_⟩
    intro state hstate
    exact absurd (hentry.symm.trans hstate) (by simp)
  | some entry =>
    cases hexp : authFailureExpired entry now with
    | false =>
      simp only [Option.any_some, hexp, Bool.false_eq_true, if_false]
      refine ⟨Agree.refl _ _, fun _ _ h => h, ?_⟩
      intro state hstate
      rw [← Option.some.inj (hentry.symm.trans hstate)]
      exact hexp
    | true =>
      simp only [Option.any_some, hexp, if_true]
      refine ⟨agree_erase_expired hentry hexp, ?_, ?_⟩
      · exact fun k state h => (HashMap.lookup_erase_eq_some.mp h).2
      · exact fun state h => absurd rfl (HashMap.lookup_erase_eq_some.mp h).1

theorem maintainAuthFailureRegistry_entries (registry : AuthFailureRegistry) (now : UInt64)
    (force : Bool) :
    (maintainAuthFailureRegistry registry now force).entries =
        prune authFailureExpired now registry.entries ∨
      force = false ∧
        (maintainAuthFailureRegistry registry now force).entries = registry.entries := by
  simp only [maintainAuthFailureRegistry]
  split
  · exact .inl rfl
  · rename_i hlazy
    refine .inr ⟨?_, rfl⟩
    cases force with
    | false => rfl
    | true => exact absurd rfl hlazy

variable {old new : HashMap String AuthFailureState}

theorem Settles.prune {key : String} {now : UInt64} (h : Settles key now old new) :
    Settles key now old (Expiry.prune authFailureExpired now new) where
  agree := (agree_prune now new).trans h.agree
  keeps k state hstate := h.keeps k state (lookup_prune.mp hstate).1
  fresh _ hstate := (lookup_prune.mp hstate).2

theorem settleAuthFailures_settles (registry : AuthFailureRegistry) (key : String)
    (now : UInt64) (maxEntries : Nat) :
    Settles key now registry.entries
      (settleAuthFailures registry key now maxEntries).entries := by
  have hremoved := removeExpiredAuthFailure_settles registry key now
  simp only [settleAuthFailures]
  obtain hpruned | ⟨_, hkept⟩ := maintainAuthFailureRegistry_entries
    (removeExpiredAuthFailure registry key now) now
    (missingAtCapacity (removeExpiredAuthFailure registry key now).entries key maxEntries)
  · rw [hpruned]
    exact hremoved.prune
  · rw [hkept]
    exact hremoved

theorem Settles.lookup_eq {key : String} {now : UInt64} (h : Settles key now old new) :
    new.lookup key = (Expiry.prune authFailureExpired now old).lookup key := by
  apply Option.ext
  intro state
  rw [lookup_prune, ← h.agree key state]
  exact ⟨fun hstate => ⟨hstate, h.fresh state hstate⟩, fun hlive => hlive.1⟩

theorem Settles.mem_iff {key : String} {now : UInt64} (h : Settles key now old new) :
    key ∈ new ↔ key ∈ Expiry.prune authFailureExpired now old := by
  rw [← AList.lookup_isSome, ← AList.lookup_isSome, h.lookup_eq]

theorem Settles.size_le {key : String} {now : UInt64} (h : Settles key now old new) :
    new.size ≤ old.size := HashMap.size_le_of_lookup h.keeps

theorem missingAtCapacity_eq_true {entries : HashMap String AuthFailureState} {key : String}
    {maxEntries : Nat} :
    missingAtCapacity entries key maxEntries = true ↔ key ∉ entries ∧ maxEntries ≤ entries.size := by
  simp [missingAtCapacity]

theorem settleAuthFailures_missingAtCapacity (registry : AuthFailureRegistry) (key : String)
    (now : UInt64) (maxEntries : Nat) :
    missingAtCapacity (settleAuthFailures registry key now maxEntries).entries key maxEntries =
      missingAtCapacity (prune authFailureExpired now registry.entries) key maxEntries := by
  have hsettles := settleAuthFailures_settles registry key now maxEntries
  have hremoved := removeExpiredAuthFailure_settles registry key now
  have hsize := hremoved.agree.size_prune
  rw [Bool.eq_iff_iff, missingAtCapacity_eq_true, missingAtCapacity_eq_true, hsettles.mem_iff]
  refine and_congr_right ?_
  intro hmissing
  simp only [settleAuthFailures]
  obtain hpruned | ⟨hroom, hkept⟩ := maintainAuthFailureRegistry_entries
    (removeExpiredAuthFailure registry key now) now
    (missingAtCapacity (removeExpiredAuthFailure registry key now).entries key maxEntries)
  · rw [hpruned, hsize]
  · rw [hkept]
    have hlt : (removeExpiredAuthFailure registry key now).entries.size < maxEntries := by
      by_contra hfull
      have hmem : key ∉ (removeExpiredAuthFailure registry key now).entries := by
        rw [hremoved.mem_iff]
        exact hmissing
      rw [missingAtCapacity_eq_true.mpr ⟨hmem, Nat.le_of_not_lt hfull⟩] at hroom
      cases hroom
    have hle : (prune authFailureExpired now
        (removeExpiredAuthFailure registry key now).entries).size ≤
        (removeExpiredAuthFailure registry key now).entries.size := size_prune_le now _
    omega

/-! The reference registry deletes every expired entry before each operation. -/

namespace Eager

def authAttemptIsLimited (entries : HashMap String AuthFailureState) (key : String)
    (now : UInt64) (maxEntries : Nat) : HashMap String AuthFailureState × Bool :=
  let entries := prune authFailureExpired now entries
  (entries, isLockedAt entries key now || missingAtCapacity entries key maxEntries)

def recordAuthFailure (entries : HashMap String AuthFailureState) (key : String)
    (now : UInt64) (maxEntries : Nat) : HashMap String AuthFailureState × Bool :=
  let entries := prune authFailureExpired now entries
  if missingAtCapacity entries key maxEntries then (entries, false)
  else (entries.insert key (AuthFailureState.failed (entries.lookup key) now), true)

def clearAuthFailure (entries : HashMap String AuthFailureState) (key : String)
    (now : UInt64) : HashMap String AuthFailureState :=
  (prune authFailureExpired now entries).erase key

end Eager

inductive AuthOperation where
  | limited (key : String) (now : UInt64)
  | record (key : String) (now : UInt64)
  | clear (key : String) (now : UInt64)

def AuthOperation.now : AuthOperation → UInt64
  | .limited _ now | .record _ now | .clear _ now => now

def lazyRegistry (maxEntries : Nat) : Mealy AuthFailureRegistry AuthOperation (Option Bool) where
  step registry
    | .limited key now => (authAttemptIsLimited registry key now maxEntries).map id some
    | .record key now => (recordAuthFailureInRegistry registry key now maxEntries).map id some
    | .clear key _ => (clearAuthFailure registry key, none)

def eagerRegistry (maxEntries : Nat) :
    Mealy (HashMap String AuthFailureState) AuthOperation (Option Bool) where
  step entries
    | .limited key now => (Eager.authAttemptIsLimited entries key now maxEntries).map id some
    | .record key now => (Eager.recordAuthFailure entries key now maxEntries).map id some
    | .clear key now => (Eager.clearAuthFailure entries key now, none)

variable {maxEntries : Nat} {now : UInt64} {registry : AuthFailureRegistry}
  {entries : HashMap String AuthFailureState} {key : String}

theorem authAttemptIsLimited_eq (registry : AuthFailureRegistry) (key : String) (now : UInt64)
    (maxEntries : Nat) :
    (authAttemptIsLimited registry key now maxEntries).2 =
      (Eager.authAttemptIsLimited registry.entries key now maxEntries).2 := by
  simp only [authAttemptIsLimited, Eager.authAttemptIsLimited, isLockedAt]
  rw [settleAuthFailures_missingAtCapacity,
    (settleAuthFailures_settles registry key now maxEntries).lookup_eq]

theorem recordAuthFailureInRegistry_eq (registry : AuthFailureRegistry) (key : String)
    (now : UInt64) (maxEntries : Nat) :
    (recordAuthFailureInRegistry registry key now maxEntries).2 =
        (Eager.recordAuthFailure registry.entries key now maxEntries).2 ∧
      Agree authFailureExpired now
        (recordAuthFailureInRegistry registry key now maxEntries).1.entries
        (Eager.recordAuthFailure registry.entries key now maxEntries).1 := by
  have hsettles := settleAuthFailures_settles registry key now maxEntries
  have hagree := hsettles.agree.trans (agree_prune now registry.entries).symm
  simp only [recordAuthFailureInRegistry, Eager.recordAuthFailure]
  rw [settleAuthFailures_missingAtCapacity, hsettles.lookup_eq]
  cases missingAtCapacity (prune authFailureExpired now registry.entries) key maxEntries with
  | true => exact ⟨rfl, hagree⟩
  | false => exact ⟨rfl, hagree.insert key _⟩

theorem Eager.limited_congr (h : Agree authFailureExpired now old new) (key : String)
    (maxEntries : Nat) :
    (Eager.authAttemptIsLimited old key now maxEntries).2 =
      (Eager.authAttemptIsLimited new key now maxEntries).2 := by
  simp only [Eager.authAttemptIsLimited, isLockedAt, missingAtCapacity, h.lookup_prune,
    h.mem_prune, h.size_prune]

theorem Eager.record_congr (h : Agree authFailureExpired now old new) (key : String)
    (maxEntries : Nat) :
    (Eager.recordAuthFailure old key now maxEntries).2 =
        (Eager.recordAuthFailure new key now maxEntries).2 ∧
      Agree authFailureExpired now (Eager.recordAuthFailure old key now maxEntries).1
        (Eager.recordAuthFailure new key now maxEntries).1 := by
  have hagree := ((agree_prune now old).trans h).trans (agree_prune now new).symm
  have hroom : missingAtCapacity (prune authFailureExpired now old) key maxEntries =
      missingAtCapacity (prune authFailureExpired now new) key maxEntries := by
    simp only [missingAtCapacity, h.mem_prune, h.size_prune]
  simp only [Eager.recordAuthFailure, hroom, h.lookup_prune]
  cases missingAtCapacity (prune authFailureExpired now new) key maxEntries with
  | true => exact ⟨rfl, hagree⟩
  | false => exact ⟨rfl, hagree.insert key _⟩

theorem lazyRegistry_step (maxEntries : Nat) (registry : AuthFailureRegistry)
    (entries : HashMap String AuthFailureState) (operation : AuthOperation)
    (h : Agree authFailureExpired operation.now registry.entries entries) :
    ((lazyRegistry maxEntries).step registry operation).2 =
        ((eagerRegistry maxEntries).step entries operation).2 ∧
      Agree authFailureExpired operation.now
        ((lazyRegistry maxEntries).step registry operation).1.entries
        ((eagerRegistry maxEntries).step entries operation).1 := by
  cases operation with
  | limited key now =>
    constructor
    · exact congrArg some
        ((authAttemptIsLimited_eq registry key now maxEntries).trans (Eager.limited_congr h _ _))
    · have hsettles := settleAuthFailures_settles registry key now maxEntries
      exact (hsettles.agree.trans h).trans (agree_prune now entries).symm
  | record key now =>
    obtain ⟨hanswer, hagree⟩ := recordAuthFailureInRegistry_eq registry key now maxEntries
    obtain ⟨hanswer', hagree'⟩ := Eager.record_congr h key maxEntries
    exact ⟨congrArg some (hanswer.trans hanswer'), hagree.trans hagree'⟩
  | clear key now =>
    exact ⟨rfl, (h.trans (agree_prune now entries).symm).erase key⟩

theorem size_recordAuthFailureInRegistry (h : registry.entries.size ≤ maxEntries) (key : String)
    (now : UInt64) :
    (recordAuthFailureInRegistry registry key now maxEntries).1.entries.size ≤ maxEntries := by
  have hle := (settleAuthFailures_settles registry key now maxEntries).size_le
  simp only [recordAuthFailureInRegistry]
  cases hroom : missingAtCapacity (settleAuthFailures registry key now maxEntries).entries key
      maxEntries with
  | true => exact Nat.le_trans hle h
  | false =>
    by_cases hmem : key ∈ (settleAuthFailures registry key now maxEntries).entries
    · simp only [Bool.false_eq_true, if_false]
      rw [HashMap.size_insert_of_mem _ hmem]
      exact Nat.le_trans hle h
    · simp only [Bool.false_eq_true, if_false]
      rw [HashMap.size_insert_of_notMem _ hmem]
      by_contra hfull
      rw [missingAtCapacity_eq_true.mpr ⟨hmem, by omega⟩] at hroom
      cases hroom

theorem size_lazyRegistry_step (registry : AuthFailureRegistry) (operation : AuthOperation)
    (h : registry.entries.size ≤ maxEntries) :
    ((lazyRegistry maxEntries).step registry operation).1.entries.size ≤ maxEntries := by
  cases operation with
  | limited key now =>
    exact Nat.le_trans (settleAuthFailures_settles registry key now maxEntries).size_le h
  | record key now => exact size_recordAuthFailureInRegistry h key now
  | clear key now => exact Nat.le_trans (HashMap.size_erase_le _ _) h

/-- Over whole runs with non-decreasing times: equal answers, equal live entries, and
never more entries than allowed. -/
theorem lazyRegistry_simulates_eagerRegistry (maxEntries : Nat) (start : UInt64)
    (operations : List AuthOperation) (htimed : Mealy.Timed AuthOperation.now start operations) :
    ((lazyRegistry maxEntries).run operations .default).2 =
        ((eagerRegistry maxEntries).run operations ∅).2 ∧
      (∀ key state,
        Live authFailureExpired (Mealy.clock AuthOperation.now start operations)
            ((lazyRegistry maxEntries).run operations .default).1.entries key state ↔
          Live authFailureExpired (Mealy.clock AuthOperation.now start operations)
            ((eagerRegistry maxEntries).run operations ∅).1 key state) ∧
      ((lazyRegistry maxEntries).run operations .default).1.entries.size ≤ maxEntries := by
  obtain ⟨hanswers, hagree⟩ := Mealy.run_simulates AuthOperation.now
    (M := lazyRegistry maxEntries) (N := eagerRegistry maxEntries)
    (R := fun now registry entries => Agree authFailureExpired now registry.entries entries)
    (fun _ _ _ _ ht h => h.mono authFailureExpired_mono ht)
    (lazyRegistry_step maxEntries) operations htimed
    (s := AuthFailureRegistry.default) (u := ∅) (Agree.refl _ _)
  have hempty : AuthFailureRegistry.default.entries.size ≤ maxEntries := Nat.zero_le _
  refine ⟨hanswers, hagree, ?_⟩
  exact Mealy.run_invariant (I := fun registry => registry.entries.size ≤ maxEntries)
    (fun registry operation h => size_lazyRegistry_step registry operation h) operations hempty

theorem lazyRegistry_simulates_eagerRegistry_full :
    Mealy.Timed AuthOperation.now 100
        [.record "name:a" 100, .limited "name:b" 900, .limited "name:b" 1000] ∧
      ((lazyRegistry 1).run
          [.record "name:a" 100, .limited "name:b" 900, .limited "name:b" 1000] .default).2 =
        ((eagerRegistry 1).run
          [.record "name:a" 100, .limited "name:b" 900, .limited "name:b" 1000] ∅).2 ∧
      ((lazyRegistry 1).run
          [.record "name:a" 100, .limited "name:b" 900, .limited "name:b" 1000] .default).2 =
        [some true, some true, some false] :=
  ⟨by decide, (lazyRegistry_simulates_eagerRegistry 1 100 _ (by decide)).1, by decide⟩

end Jellyrin.Auth
