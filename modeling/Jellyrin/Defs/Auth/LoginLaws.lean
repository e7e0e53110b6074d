import Jellyrin.Defs.Auth.Login

/-! How many wrong passwords are checked for a key, over every interleaving of requests. -/

namespace Jellyrin.Auth

open Api Expiry Transition

variable {maxEntries : Nat} {s t : LoginState} {key : String}

variable {entries : HashMap String AuthFailureState} {now : UInt64} {entry : AuthFailureState}

theorem liveEntry_eq_some :
    liveEntry entries key now = some entry ↔ Live authFailureExpired now entries key entry := by
  simp only [liveEntry, Live, Option.filter_eq_some_iff, Bool.not_eq_true']

theorem lookup_prune_eq_liveEntry (entries : HashMap String AuthFailureState) (key : String)
    (now : UInt64) :
    (prune authFailureExpired now entries).lookup key = liveEntry entries key now := by
  apply Option.ext
  intro entry
  rw [lookup_prune, liveEntry_eq_some]

theorem liveEntry_of_agree {old new : HashMap String AuthFailureState}
    (h : Agree authFailureExpired now new old) (key : String) :
    liveEntry new key now = liveEntry old key now := by
  rw [← lookup_prune_eq_liveEntry, ← lookup_prune_eq_liveEntry, h.lookup_prune]

theorem liveEntry_authAttemptIsLimited (registry : AuthFailureRegistry) (key : String)
    (now : UInt64) (maxEntries : Nat) (k : String) :
    liveEntry (authAttemptIsLimited registry key now maxEntries).1.entries k now =
      liveEntry registry.entries k now :=
  liveEntry_of_agree (settleAuthFailures_settles registry key now maxEntries).agree k

theorem liveEntry_insert_of_ne {k : String} (h : k ≠ key) :
    liveEntry (entries.insert key entry) k now = liveEntry entries k now := by
  rw [liveEntry, AList.lookup_insert_ne h, liveEntry]

theorem liveEntry_clear_of_ne {registry : AuthFailureRegistry} {k : String} (h : k ≠ key) :
    liveEntry (clearAuthFailure registry key).entries k now = liveEntry registry.entries k now := by
  rw [liveEntry, clearAuthFailure, AList.lookup_erase_ne h, liveEntry]

theorem liveEntry_clear (registry : AuthFailureRegistry) (key : String) (now : UInt64) :
    liveEntry (clearAuthFailure registry key).entries key now = none := by
  rw [liveEntry, clearAuthFailure, AList.lookup_erase]
  rfl

theorem liveEntry_recordAuthFailure_of_ne (registry : AuthFailureRegistry) (now : UInt64)
    (maxEntries : Nat) {k : String} (h : k ≠ key) :
    liveEntry (recordAuthFailureInRegistry registry key now maxEntries).1.entries k now =
      liveEntry registry.entries k now := by
  have hpruned := liveEntry_of_agree (agree_prune now registry.entries) k
  rw [liveEntry_of_agree (recordAuthFailureInRegistry_eq registry key now maxEntries).2 k]
  simp only [Eager.recordAuthFailure]
  split
  · exact hpruned
  · rw [liveEntry_insert_of_ne h]
    exact hpruned

theorem liveEntry_recordAuthFailure (registry : AuthFailureRegistry) (key : String) (now : UInt64)
    (maxEntries : Nat)
    (h : liveEntry (recordAuthFailureInRegistry registry key now maxEntries).1.entries key now =
      some entry) : entry = AuthFailureState.failed (liveEntry registry.entries key now) now := by
  rw [liveEntry_of_agree (recordAuthFailureInRegistry_eq registry key now maxEntries).2 key] at h
  simp only [Eager.recordAuthFailure] at h
  split at h
  · rename_i hroom
    have hmem := HashMap.mem_of_lookup (liveEntry_eq_some.mp h).1
    exact absurd hmem (missingAtCapacity_eq_true.mp hroom).1
  · have hlookup := (liveEntry_eq_some.mp h).1
    rw [AList.lookup_insert, lookup_prune_eq_liveEntry] at hlookup
    exact (Option.some.inj hlookup).symm

theorem liveEntry_recordAuthFailure_of_live (registry : AuthFailureRegistry) (key : String)
    (now : UInt64) (maxEntries : Nat) (h : liveEntry registry.entries key now = some entry)
    (hfresh : authFailureExpired (AuthFailureState.failed (some entry) now) now = false) :
    liveEntry (recordAuthFailureInRegistry registry key now maxEntries).1.entries key now =
      some (AuthFailureState.failed (some entry) now) := by
  have hlookup : (prune authFailureExpired now registry.entries).lookup key = some entry := by
    rw [lookup_prune_eq_liveEntry, h]
  rw [liveEntry_of_agree (recordAuthFailureInRegistry_eq registry key now maxEntries).2 key]
  simp only [Eager.recordAuthFailure]
  split
  · rename_i hroom
    exact absurd (HashMap.mem_of_lookup hlookup) (missingAtCapacity_eq_true.mp hroom).1
  · rw [liveEntry_eq_some, hlookup]
    exact ⟨AList.lookup_insert _, hfresh⟩

theorem isLockedAt_iff :
    isLockedAt entries key now = true ↔ ∃ entry lockedUntil,
      liveEntry entries key now = some entry ∧ entry.lockedUntilEpoch = some lockedUntil := by
  simp only [isLockedAt, Option.any_eq_true, Option.bind_eq_some_iff, decide_eq_true_eq]
  constructor
  · rintro ⟨lockedUntil, ⟨entry, hentry, hlocked⟩, hlt⟩
    refine ⟨entry, lockedUntil, liveEntry_eq_some.mpr ⟨hentry, ?_⟩, hlocked⟩
    simp only [authFailureExpired, hlocked]
    exact decide_eq_false (UInt64.not_le.mpr hlt)
  · rintro ⟨entry, lockedUntil, hlive, hlocked⟩
    have hfresh := (liveEntry_eq_some.mp hlive).2
    simp only [authFailureExpired, hlocked] at hfresh
    exact ⟨lockedUntil, ⟨entry, (liveEntry_eq_some.mp hlive).1, hlocked⟩,
      UInt64.not_le.mp (of_decide_eq_false hfresh)⟩

def Counted : Option AuthFailureState → Nat → Prop
  | none, n => n = 0
  | some entry, n =>
    entry.failures.toNat = min n U32.max.toNat ∧
      (entry.lockedUntilEpoch = none ↔ entry.failures < authLockoutFailureLimit)

theorem Counted.exists_base {entry : Option AuthFailureState} {n : Nat} (h : Counted entry n)
    (now : UInt64) : ∃ base, Counted (some base) n ∧
      AuthFailureState.failed entry now = AuthFailureState.failed (some base) now := by
  have hzero : (0 : UInt32) < authLockoutFailureLimit := by decide
  cases entry with
  | none =>
    cases h
    exact ⟨⟨0, none, now⟩, ⟨rfl, fun _ => hzero, fun _ => rfl⟩, rfl⟩
  | some entry => exact ⟨entry, h, rfl⟩

theorem counted_failed {entry : Option AuthFailureState} {n : Nat} (h : Counted entry n)
    (now : UInt64) : Counted (some (AuthFailureState.failed entry now)) (n + 1) := by
  have hmax : U32.max.toNat = 4294967295 := rfl
  have hlimit : authLockoutFailureLimit.toNat = 5 := rfl
  have hone : (1 : UInt32).toNat = 1 := rfl
  obtain ⟨base, ⟨hcount, hlocked⟩, heq⟩ := h.exists_base now
  have hnext : (U32.saturatingAdd base.failures 1).toNat = min (n + 1) U32.max.toNat := by
    rw [U32.toNat_saturatingAdd, hcount, hone]
    omega
  rw [heq]
  refine ⟨hnext, ?_⟩
  simp only [AuthFailureState.failed, Option.getD_some]
  split
  · rename_i hreached
    constructor
    · intro h
      cases h
    · exact fun h => absurd hreached (UInt32.not_le.mpr h)
  · rename_i hbelow
    have hlt := UInt32.not_le.mp hbelow
    refine ⟨fun _ => hlt, fun _ => hlocked.mpr ?_⟩
    rw [UInt32.lt_iff_toNat_lt, hlimit] at hlt ⊢
    omega

theorem Counted.lt_limit {entry : Option AuthFailureState} {n : Nat} (h : Counted entry n)
    (hfree : ∀ e lockedUntil, entry = some e → e.lockedUntilEpoch ≠ some lockedUntil) :
    n < authLockoutFailureLimit.toNat := by
  have hmax : U32.max.toNat = 4294967295 := rfl
  have hlimit : authLockoutFailureLimit.toNat = 5 := rfl
  cases entry with
  | none =>
    cases h
    exact Nat.zero_lt_succ 4
  | some entry =>
    have hnone : entry.lockedUntilEpoch = none :=
      Option.eq_none_iff_forall_ne_some.mpr fun lockedUntil => hfree entry lockedUntil rfl
    have hlt := UInt32.lt_iff_toNat_lt.mp (h.2.mp hnone)
    rw [h.1] at hlt
    omega

/-! Steps. -/

inductive LoginStep (maxEntries : Nat) (s : LoginState) : LoginAction → LoginState → Prop
  | tick {now : UInt64} (h : s.now ≤ now) : LoginStep maxEntries s (.tick now) { s with now }.forget
  | receive (request : LoginRequest) :
    LoginStep maxEntries s (.receive request)
      { s with logins := s.logins ++ [⟨request, .received⟩] }
  | ensure {i : Nat} {request : LoginRequest} (h : s.logins[i]? = some ⟨request, .received⟩) :
    LoginStep maxEntries s (.ensureAuthNotLocked i) (s.ensureAuthNotLocked maxEntries i request)
  | verify {i : Nat} {request : LoginRequest} (correct : Bool)
    (h : s.logins[i]? = some ⟨request, .admitted⟩) :
    LoginStep maxEntries s (.verifyPassword i correct) (s.verifyPassword i request correct)
  | fail {i : Nat} {request : LoginRequest}
    (h : s.logins[i]? = some ⟨request, .verified false⟩) :
    LoginStep maxEntries s (.recordOutcome i) (s.recordAuthFailure maxEntries i request)
  | accept {i : Nat} {request : LoginRequest}
    (h : s.logins[i]? = some ⟨request, .verified true⟩) :
    LoginStep maxEntries s (.recordOutcome i) (s.acceptLogin i request)

variable {action : LoginAction}

theorem loginStep_of_step {start : UInt64}
    (h : (loginServer maxEntries start).step s action = some t) :
    LoginStep maxEntries s action t := by
  cases action with
  | tick now =>
    simp only [loginServer, LoginState.step] at h
    split at h
    · cases h
      exact .tick ‹_›
    · cases h
  | receive request =>
    cases h
    exact .receive request
  | ensureAuthNotLocked i =>
    simp only [loginServer, LoginState.step] at h
    split at h
    · cases h
      exact .ensure ‹_›
    · cases h
  | verifyPassword i correct =>
    simp only [loginServer, LoginState.step] at h
    split at h
    · cases h
      exact .verify correct ‹_›
    · cases h
  | recordOutcome i =>
    simp only [loginServer, LoginState.step] at h
    split at h
    · cases h
      exact .fail ‹_›
    · cases h
      exact .accept ‹_›
    · cases h

theorem countP_set_add {α : Type} (p : α → Bool) {l : List α} {i : Nat} {a b : α}
    (h : l[i]? = some a) :
    (l.set i b).countP p + (if p a then 1 else 0) = l.countP p + (if p b then 1 else 0) := by
  obtain ⟨hi, ha⟩ := List.getElem?_eq_some_iff.mp h
  have hmem : a ∈ l := List.mem_of_getElem? h
  rw [List.countP_set hi, ha]
  split
  · have hpos : 0 < l.countP p := List.countP_pos_iff.mpr ⟨a, hmem, ‹_›⟩
    omega
  · omega

variable {request : LoginRequest}

namespace LoginState

theorem unrecorded_setPhase {i : Nat} {old : LoginPhase} (h : s.logins[i]? = some ⟨request, old⟩)
    (new : LoginPhase) (key : String) :
    (s.setPhase i request new).unrecorded key +
        (if Login.isUnrecorded key ⟨request, old⟩ then 1 else 0) =
      s.unrecorded key + (if Login.isUnrecorded key ⟨request, new⟩ then 1 else 0) :=
  countP_set_add _ h

theorem isUnrecorded_of_ne {phase : LoginPhase} (h : phase ≠ .verified false) (key : String) :
    Login.isUnrecorded key ⟨request, phase⟩ = false := by
  simp [Login.isUnrecorded, h]

theorem unrecorded_setPhase_of_ne {i : Nat} {old new : LoginPhase}
    (h : s.logins[i]? = some ⟨request, old⟩) (hold : old ≠ .verified false)
    (hnew : new ≠ .verified false) (key : String) :
    (s.setPhase i request new).unrecorded key = s.unrecorded key := by
  have hcount := unrecorded_setPhase h new key
  rw [isUnrecorded_of_ne hold, isUnrecorded_of_ne hnew] at hcount
  simpa using hcount

end LoginState

/-- Every wrong password of a key is recorded, forgotten or about to be recorded, and a
live entry counts the recorded ones. -/
structure Accounts (s : LoginState) (key : String) : Prop where
  balance : (s.history key).checked =
    (s.history key).recorded + (s.history key).forgotten + s.unrecorded key
  counted : ∀ entry, liveEntry s.registry.entries key s.now = some entry →
    Counted (some entry) (s.history key).recorded

structure Settled (s : LoginState) (key : String) : Prop extends Accounts s key where
  forgotten : liveEntry s.registry.entries key s.now = none → (s.history key).recorded = 0

theorem Settled.counts (h : Settled s key) :
    Counted (liveEntry s.registry.entries key s.now) (s.history key).recorded := by
  cases hlive : liveEntry s.registry.entries key s.now with
  | none => exact h.forgotten hlive
  | some entry => exact h.counted entry hlive

theorem Accounts.forget (h : Accounts s key) : Settled s.forget key := by
  have hforget : s.forget.history key =
      if (liveEntry s.registry.entries key s.now).isSome then s.history key
      else (s.history key).forget := rfl
  have hbalance := h.balance
  cases hlive : liveEntry s.registry.entries key s.now with
  | none =>
    rw [hlive] at hforget
    refine ⟨⟨?_, fun entry hentry => ?_⟩, fun _ => ?_⟩
    · rw [hforget]
      change (s.history key).checked =
        0 + ((s.history key).forgotten + (s.history key).recorded) + s.unrecorded key
      omega
    · exact absurd (hlive.symm.trans hentry) (by simp)
    · rw [hforget]
      rfl
  | some entry =>
    rw [hlive] at hforget
    refine ⟨⟨?_, fun other hother => ?_⟩, fun hnone => ?_⟩
    · rw [hforget]
      exact hbalance
    · rw [hforget]
      exact h.counted other hother
    · exact absurd (hlive.symm.trans hnone) (by simp)

theorem Settled.congr (h : Settled s key) (hhistory : t.history key = s.history key)
    (hlive : liveEntry t.registry.entries key t.now = liveEntry s.registry.entries key s.now)
    (hunrecorded : t.unrecorded key = s.unrecorded key) : Settled t key where
  balance := by
    rw [hhistory, hunrecorded]
    exact h.balance
  counted := by
    rw [hhistory, hlive]
    exact h.counted
  forgotten := by
    rw [hhistory, hlive]
    exact h.forgotten

theorem liveEntry_of_le {later : UInt64} (hle : now ≤ later)
    (h : liveEntry entries key later = some entry) : liveEntry entries key now = some entry := by
  obtain ⟨hlookup, hfresh⟩ := liveEntry_eq_some.mp h
  refine liveEntry_eq_some.mpr ⟨hlookup, ?_⟩
  cases hexp : authFailureExpired entry now with
  | false => rfl
  | true =>
    rw [authFailureExpired_mono entry now later hle hexp] at hfresh
    cases hfresh

theorem LoginState.unrecorded_receive (s : LoginState) (request : LoginRequest) (key : String) :
    LoginState.unrecorded { s with logins := s.logins ++ [⟨request, .received⟩] } key =
      s.unrecorded key := by
  simp [LoginState.unrecorded, Login.isUnrecorded]

namespace Settled

theorem tick (h : Settled s key) {now : UInt64} (hle : s.now ≤ now) :
    Settled { s with now }.forget key := by
  refine Accounts.forget ⟨h.balance, ?_⟩
  intro entry hlive
  exact h.counted entry (liveEntry_of_le hle hlive)

theorem ensure (h : Settled s key) {i : Nat} {request : LoginRequest}
    (hi : s.logins[i]? = some ⟨request, .received⟩) :
    Settled (s.ensureAuthNotLocked maxEntries i request) key := by
  simp only [LoginState.ensureAuthNotLocked]
  split
  · exact h.congr rfl rfl
      (LoginState.unrecorded_setPhase_of_ne hi (by decide) (by decide) key)
  · refine h.congr rfl (liveEntry_authAttemptIsLimited _ _ _ _ _) ?_
    refine LoginState.unrecorded_setPhase_of_ne hi (by decide) ?_ key
    split <;> decide

theorem verify (h : Settled s key) {i : Nat} {request : LoginRequest} (correct : Bool)
    (hi : s.logins[i]? = some ⟨request, .admitted⟩) :
    Settled (s.verifyPassword i request correct) key := by
  cases correct with
  | true =>
    exact h.congr rfl rfl (LoginState.unrecorded_setPhase_of_ne hi (by decide) (by decide) key)
  | false =>
    have hcount := LoginState.unrecorded_setPhase hi (.verified false) key
    have hbalance := h.balance
    rw [LoginState.isUnrecorded_of_ne (by decide)] at hcount
    simp only [LoginState.verifyPassword, Bool.false_eq_true, if_false]
    by_cases hkey : key = request.lockoutKey
    · subst hkey
      simp only [Login.isUnrecorded, beq_self_eq_true, Bool.and_self, if_true] at hcount
      refine ⟨⟨?_, ?_⟩, ?_⟩
      · simp only [LoginState.updateHistory, if_true]
        change (s.history _).checked + 1 = (s.history _).recorded + (s.history _).forgotten +
          (s.setPhase i request (.verified false)).unrecorded _
        simp only [Bool.false_eq_true, if_false] at hcount
        omega
      · simp only [LoginState.updateHistory, if_true]
        exact h.counted
      · simp only [LoginState.updateHistory, if_true]
        exact h.forgotten
    · have hother : Login.isUnrecorded key ⟨request, .verified false⟩ = false := by
        simp [Login.isUnrecorded, Ne.symm hkey]
      rw [hother] at hcount
      refine h.congr ?_ rfl (Nat.add_right_cancel hcount)
      simp [LoginState.updateHistory, LoginState.setPhase, hkey]

theorem fail (h : Settled s key) {i : Nat} {request : LoginRequest}
    (hi : s.logins[i]? = some ⟨request, .verified false⟩) :
    Settled (s.recordAuthFailure maxEntries i request) key := by
  have hcount := LoginState.unrecorded_setPhase hi
    (.refused (.unauthorized "Invalid username or password")) key
  have hbalance := h.balance
  have hrefused : LoginPhase.refused (.unauthorized "Invalid username or password") ≠
      .verified false := by decide
  rw [LoginState.isUnrecorded_of_ne hrefused] at hcount
  simp only [LoginState.recordAuthFailure]
  apply Accounts.forget
  by_cases hkey : key = request.lockoutKey
  · subst hkey
    simp only [Login.isUnrecorded, beq_self_eq_true, Bool.and_self, if_true, Bool.false_eq_true,
      if_false] at hcount
    refine ⟨?_, ?_⟩
    · simp only [LoginState.updateHistory, if_true]
      change (s.history _).checked = (s.history _).recorded + 1 + (s.history _).forgotten +
        (s.setPhase i request (.refused (.unauthorized "Invalid username or password"))).unrecorded _
      omega
    · intro entry hlive
      simp only [LoginState.updateHistory, if_true]
      rw [liveEntry_recordAuthFailure _ _ _ _ hlive]
      exact counted_failed h.counts _
  · have hother : Login.isUnrecorded key ⟨request, .verified false⟩ = false := by
      simp [Login.isUnrecorded, Ne.symm hkey]
    rw [hother] at hcount
    refine Settled.toAccounts ?_
    refine h.congr ?_ (liveEntry_recordAuthFailure_of_ne _ _ _ hkey) (Nat.add_right_cancel hcount)
    simp [LoginState.updateHistory, LoginState.setPhase, hkey]

theorem accept (h : Settled s key) {i : Nat} {request : LoginRequest}
    (hi : s.logins[i]? = some ⟨request, .verified true⟩) :
    Settled (s.acceptLogin i request) key := by
  have hsame : (s.setPhase i request .accepted).unrecorded key = s.unrecorded key :=
    LoginState.unrecorded_setPhase_of_ne hi (by decide) (by decide) key
  simp only [LoginState.acceptLogin]
  apply Accounts.forget
  by_cases hkey : key = request.lockoutKey
  · subst hkey
    refine ⟨?_, fun entry hlive => ?_⟩
    · change (s.history _).checked = (s.history _).recorded + (s.history _).forgotten +
        (s.setPhase i request .accepted).unrecorded _
      rw [hsame]
      exact h.balance
    · exact absurd ((liveEntry_clear _ _ _).symm.trans hlive) (by simp)
  · refine Settled.toAccounts ?_
    exact h.congr rfl (liveEntry_clear_of_ne hkey) hsame

theorem step (h : Settled s key) (hstep : LoginStep maxEntries s action t) : Settled t key := by
  cases hstep with
  | tick hle => exact h.tick hle
  | receive request => exact h.congr rfl rfl (s.unrecorded_receive request key)
  | ensure hi => exact h.ensure hi
  | verify correct hi => exact h.verify correct hi
  | fail hi => exact h.fail hi
  | accept hi => exact h.accept hi

end Settled

theorem settled_of_reachable {start : UInt64} (h : (loginServer maxEntries start).Reachable s)
    (key : String) : Settled s key := by
  refine h.invariant (I := fun s => Settled s key) ?_ ?_
  · refine ⟨⟨rfl, fun entry hlive => ?_⟩, fun _ => rfl⟩
    cases hlive
  · intro s action t hs ha
    exact hs.step (loginStep_of_step ha)

theorem forgotten_forget (h : (s.forget.history key).forgotten ≠ (s.history key).forgotten) :
    liveEntry s.registry.entries key s.now = none ∧ (s.history key).recorded ≠ 0 := by
  have hforget : s.forget.history key =
      if (liveEntry s.registry.entries key s.now).isSome then s.history key
      else (s.history key).forget := rfl
  rw [hforget] at h
  split at h
  · exact absurd rfl h
  · rename_i hlive
    refine ⟨Option.not_isSome_iff_eq_none.mp hlive, fun hrecorded => h ?_⟩
    rw [FailureHistory.forget, hrecorded, Nat.add_zero]

theorem expired_of_liveEntry_eq_none (h : liveEntry entries key now = none)
    (hentry : entries.lookup key = some entry) : authFailureExpired entry now = true := by
  cases hexpired : authFailureExpired entry now with
  | true => rfl
  | false =>
    rw [liveEntry_eq_some.mpr ⟨hentry, hexpired⟩] at h
    cases h

theorem exists_lookup_recordAuthFailure {registry : AuthFailureRegistry}
    (h : (recordAuthFailureInRegistry registry key now maxEntries).2 = true) :
    ∃ entry, (recordAuthFailureInRegistry registry key now maxEntries).1.entries.lookup key =
      some entry := by
  cases hroom : missingAtCapacity (settleAuthFailures registry key now maxEntries).entries key
      maxEntries with
  | true => simp [recordAuthFailureInRegistry, hroom] at h
  | false =>
    simp only [recordAuthFailureInRegistry, hroom, Bool.false_eq_true, if_false]
    exact ⟨_, AList.lookup_insert _⟩

/-- Failures of a key are forgotten only when their entry has expired, when a login succeeds, and
when there is no room for an entry. -/
theorem Settled.forgotten_of_step (h : Settled s key) (hstep : LoginStep maxEntries s action t)
    (hforgotten : (t.history key).forgotten ≠ (s.history key).forgotten) :
    (∃ entry, (s.registry.entries.lookup key = some entry ∨
        t.registry.entries.lookup key = some entry) ∧ authFailureExpired entry t.now = true) ∨
      (∃ i request, action = .recordOutcome i ∧ request.lockoutKey = key ∧
        s.logins[i]? = some ⟨request, .verified true⟩) ∨
      (recordAuthFailureInRegistry s.registry key s.now maxEntries).2 = false := by
  cases hstep with
  | @tick now hle =>
    obtain ⟨hnone, hrecorded⟩ := forgotten_forget (s := { s with now }) hforgotten
    obtain ⟨entry, hentry⟩ := Option.ne_none_iff_exists'.mp fun hlive =>
      hrecorded (h.forgotten hlive)
    have hlookup := (liveEntry_eq_some.mp hentry).1
    exact .inl ⟨entry, .inl hlookup, expired_of_liveEntry_eq_none hnone hlookup⟩
  | receive request => exact absurd rfl hforgotten
  | @ensure i request hi =>
    refine absurd ?_ hforgotten
    rw [LoginState.ensureAuthNotLocked]
    split <;> rfl
  | @verify i request correct hi =>
    refine absurd ?_ hforgotten
    cases correct with
    | true => rfl
    | false =>
      simp only [LoginState.verifyPassword, LoginState.updateHistory, Bool.false_eq_true, if_false]
      split <;> rfl
  | @fail i request hi =>
    by_cases hkey : key = request.lockoutKey
    · subst hkey
      cases hroom : (recordAuthFailureInRegistry s.registry request.lockoutKey s.now maxEntries).2 with
      | false => exact .inr (.inr rfl)
      | true =>
        simp only [LoginState.recordAuthFailure] at hforgotten
        obtain ⟨hnone, -⟩ := forgotten_forget fun heq => hforgotten (heq.trans (by
          simp [LoginState.updateHistory, LoginState.setPhase]))
        obtain ⟨entry, hentry⟩ := exists_lookup_recordAuthFailure hroom
        exact .inl ⟨entry, .inr hentry, expired_of_liveEntry_eq_none hnone hentry⟩
    · simp only [LoginState.recordAuthFailure] at hforgotten
      obtain ⟨hnone, hrecorded⟩ := forgotten_forget fun heq => hforgotten (heq.trans (by
        simp [LoginState.updateHistory, LoginState.setPhase, hkey]))
      refine absurd ?_ hrecorded
      simp only [LoginState.updateHistory, LoginState.setPhase, hkey, if_false]
      exact h.forgotten ((liveEntry_recordAuthFailure_of_ne _ _ _ hkey).symm.trans hnone)
  | @accept i request hi =>
    by_cases hkey : key = request.lockoutKey
    · exact .inr (.inl ⟨i, request, rfl, hkey.symm, hi⟩)
    · obtain ⟨hnone, hrecorded⟩ := forgotten_forget hforgotten
      exact absurd (h.forgotten ((liveEntry_clear_of_ne hkey).symm.trans hnone)) hrecorded

theorem Settled.recorded_lt (h : Settled s key) (hfree : s.isLocked key = false) :
    (s.history key).recorded < authLockoutFailureLimit.toNat := by
  refine h.counts.lt_limit ?_
  intro entry lockedUntil hlive hlocked
  have htrue : s.isLocked key = true := isLockedAt_iff.mpr ⟨entry, lockedUntil, hlive, hlocked⟩
  rw [hfree] at htrue
  cases htrue

/-! The time of a lockout. -/

def HeldUntil (limit : UInt64) (s : LoginState) (key : String) : Prop :=
  ∃ entry lockedUntil, liveEntry s.registry.entries key s.now = some entry ∧
    entry.lockedUntilEpoch = some lockedUntil ∧ limit ≤ lockedUntil ∧
    authLockoutFailureLimit ≤ entry.failures

def Unsuccessful (key : String) (s : LoginState) : LoginAction → Prop
  | .recordOutcome i => ∀ request, s.logins[i]? = some ⟨request, .verified true⟩ →
      request.lockoutKey ≠ key
  | _ => True

variable {limit : UInt64}

theorem HeldUntil.isLocked (h : HeldUntil limit s key) : s.isLocked key = true := by
  obtain ⟨entry, lockedUntil, hlive, hlocked, _⟩ := h
  exact isLockedAt_iff.mpr ⟨entry, lockedUntil, hlive, hlocked⟩

theorem HeldUntil.congr (h : HeldUntil limit s key)
    (hlive : liveEntry t.registry.entries key t.now = liveEntry s.registry.entries key s.now) :
    HeldUntil limit t key := by
  obtain ⟨entry, lockedUntil, hentry, hrest⟩ := h
  exact ⟨entry, lockedUntil, hlive.trans hentry, hrest⟩

theorem HeldUntil.limited (h : HeldUntil limit s key) :
    (authAttemptIsLimited s.registry key s.now maxEntries).2 = true := by
  obtain ⟨entry, lockedUntil, hlive, hlocked, _⟩ := h
  have hpruned : liveEntry (prune authFailureExpired s.now s.registry.entries) key s.now =
      some entry := by
    rw [liveEntry_of_agree (agree_prune _ _), hlive]
  rw [authAttemptIsLimited_eq]
  simp only [Eager.authAttemptIsLimited, Bool.or_eq_true]
  exact .inl (isLockedAt_iff.mpr ⟨entry, lockedUntil, hpruned, hlocked⟩)

theorem ensureAuthNotLocked_logins (maxEntries : Nat) (s : LoginState) (i : Nat)
    (request : LoginRequest) :
    ∃ phase,
      (s.ensureAuthNotLocked maxEntries i request).logins = s.logins.set i ⟨request, phase⟩ ∧
      (phase = .admitted →
        (authAttemptIsLimited s.registry request.lockoutKey s.now maxEntries).2 = false) := by
  simp only [LoginState.ensureAuthNotLocked]
  split
  · refine ⟨.refused (.badRequest "Username must not be empty"), rfl, ?_⟩
    intro h
    cases h
  · cases hlimited : (authAttemptIsLimited s.registry request.lockoutKey s.now maxEntries).2 with
    | false => exact ⟨.admitted, rfl, fun _ => rfl⟩
    | true =>
      refine ⟨.refused ⟨.tooManyRequests, "Too many failed login attempts"⟩, rfl, ?_⟩
      intro h
      cases h

theorem admitted_of_set {logins : List Login} {i j : Nat} {other : LoginRequest}
    {phase : LoginPhase} (h : (logins.set j ⟨other, phase⟩)[i]? = some ⟨request, .admitted⟩) :
    logins[i]? = some ⟨request, .admitted⟩ ∨ phase = .admitted ∧ other = request := by
  rw [List.getElem?_set] at h
  split at h
  · split at h
    · cases h
      exact .inr ⟨rfl, rfl⟩
    · cases h
  · exact .inl h

theorem admitted_of_set_of_ne {logins : List Login} {i j : Nat} {other : LoginRequest}
    {phase : LoginPhase} (hphase : phase ≠ .admitted)
    (h : (logins.set j ⟨other, phase⟩)[i]? = some ⟨request, .admitted⟩) :
    logins[i]? = some ⟨request, .admitted⟩ := by
  cases admitted_of_set h with
  | inl hbefore => exact hbefore
  | inr hset => exact absurd hset.1 hphase

theorem HeldUntil.admitted_of_step (hheld : HeldUntil limit s key)
    (hstep : LoginStep maxEntries s action t) {i : Nat} (hkey : request.lockoutKey = key)
    (h : t.logins[i]? = some ⟨request, .admitted⟩) : s.logins[i]? = some ⟨request, .admitted⟩ := by
  cases hstep with
  | tick hle => exact h
  | receive other =>
    rw [List.getElem?_append] at h
    split at h
    · exact h
    · have hmem := List.mem_of_getElem? h
      simp at hmem
  | @ensure j other hj =>
    obtain ⟨phase, hlogins, hfree⟩ := ensureAuthNotLocked_logins maxEntries s j other
    rw [hlogins] at h
    obtain hbefore | ⟨hphase, rfl⟩ := admitted_of_set h
    · exact hbefore
    · rw [hkey, hheld.limited] at hfree
      exact absurd (hfree hphase) (by simp)
  | verify correct hj => cases correct <;> exact admitted_of_set_of_ne (by simp) h
  | fail hj => exact admitted_of_set_of_ne (by simp) h
  | accept hj => exact admitted_of_set_of_ne (by simp) h

theorem HeldUntil.fail {limit : UInt64} (h : HeldUntil limit s key)
    (hbefore : s.now < limit) (hlimit : limit ≤ U64.saturatingAdd s.now authLockoutSeconds) :
    ∃ entry lockedUntil,
      liveEntry (recordAuthFailureInRegistry s.registry key s.now maxEntries).1.entries key s.now =
        some entry ∧
      entry.lockedUntilEpoch = some lockedUntil ∧ limit ≤ lockedUntil ∧
      authLockoutFailureLimit ≤ entry.failures := by
  obtain ⟨entry, lockedUntil, hlive, hlocked, hle, hfailures⟩ := h
  have hmax : U32.max.toNat = 4294967295 := rfl
  have hfive : authLockoutFailureLimit.toNat = 5 := rfl
  have hone : (1 : UInt32).toNat = 1 := rfl
  have hnext : authLockoutFailureLimit ≤ U32.saturatingAdd entry.failures 1 := by
    rw [UInt32.le_iff_toNat_le] at hfailures ⊢
    rw [U32.toNat_saturatingAdd]
    omega
  have hprolonged : (AuthFailureState.failed (some entry) s.now).lockedUntilEpoch =
      some (U64.saturatingAdd s.now authLockoutSeconds) := by
    simp only [AuthFailureState.failed, Option.getD_some]
    rw [if_pos hnext]
  refine ⟨AuthFailureState.failed (some entry) s.now, _, ?_, hprolonged, hlimit, hnext⟩
  refine liveEntry_recordAuthFailure_of_live _ _ _ _ hlive ?_
  simp only [authFailureExpired, hprolonged]
  exact decide_eq_false (UInt64.not_le.mpr (UInt64.lt_of_lt_of_le hbefore hlimit))

theorem HeldUntil.step (h : HeldUntil limit s key)
    (hlimit : limit ≤ U64.saturatingAdd s.now authLockoutSeconds) (hbefore : t.now < limit)
    (hfails : Unsuccessful key s action) (hstep : LoginStep maxEntries s action t) :
    HeldUntil limit t key := by
  cases hstep with
  | @tick now hle =>
    obtain ⟨entry, lockedUntil, hlive, hlocked, hrest⟩ := h
    refine ⟨entry, lockedUntil, liveEntry_eq_some.mpr ⟨(liveEntry_eq_some.mp hlive).1, ?_⟩,
      hlocked, hrest⟩
    simp only [authFailureExpired, hlocked]
    exact decide_eq_false (UInt64.not_le.mpr (UInt64.lt_of_lt_of_le hbefore hrest.1))
  | receive request => exact h.congr rfl
  | ensure hi =>
    simp only [LoginState.ensureAuthNotLocked]
    split
    · exact h.congr rfl
    · exact h.congr (liveEntry_authAttemptIsLimited _ _ _ _ _)
  | verify correct hi => cases correct <;> exact h.congr rfl
  | @fail i request hi =>
    by_cases hkey : key = request.lockoutKey
    · subst hkey
      exact h.fail hbefore hlimit
    · exact h.congr (liveEntry_recordAuthFailure_of_ne _ _ _ hkey)
  | @accept i request hi =>
    exact h.congr (liveEntry_clear_of_ne (Ne.symm (hfails request hi)))

theorem now_le_of_step (hstep : LoginStep maxEntries s action t) : s.now ≤ t.now := by
  cases hstep with
  | tick hle => exact hle
  | receive request => exact UInt64.le_refl _
  | ensure hi =>
    simp only [LoginState.ensureAuthNotLocked]
    split <;> exact UInt64.le_refl _
  | verify correct hi => cases correct <;> exact UInt64.le_refl _
  | fail hi => exact UInt64.le_refl _
  | accept hi => exact UInt64.le_refl _

theorem recorded_le_of_step (hstep : LoginStep maxEntries s action t) (key : String) :
    (t.history key).recorded ≤ (s.history key).recorded + 1 := by
  have hforget : ∀ u : LoginState,
      (u.forget.history key).recorded ≤ (u.history key).recorded := by
    intro u
    simp only [LoginState.forget]
    split
    · exact Nat.le_refl _
    · exact Nat.zero_le _
  cases hstep with
  | tick hle => exact Nat.le_succ_of_le (hforget _)
  | receive request => exact Nat.le_succ _
  | ensure hi =>
    simp only [LoginState.ensureAuthNotLocked]
    split <;> exact Nat.le_succ _
  | verify correct hi =>
    cases correct with
    | true => exact Nat.le_succ _
    | false =>
      simp only [LoginState.verifyPassword, Bool.false_eq_true, if_false,
        LoginState.updateHistory, LoginState.setPhase]
      split <;> exact Nat.le_succ _
  | fail hi =>
    refine Nat.le_trans (hforget _) ?_
    simp only [LoginState.updateHistory, LoginState.setPhase]
    split
    · exact Nat.le_refl _
    · exact Nat.le_succ _
  | accept hi => exact Nat.le_succ_of_le (hforget _)

theorem isLocked_congr
    (hlive : liveEntry t.registry.entries key t.now = liveEntry s.registry.entries key s.now) :
    t.isLocked key = s.isLocked key := by
  rw [Bool.eq_iff_iff, LoginState.isLocked, LoginState.isLocked, isLockedAt_iff, isLockedAt_iff,
    hlive]

theorem heldUntil_of_start (ht : Settled t key) (hstep : LoginStep maxEntries s action t)
    (hfree : s.isLocked key = false) (hlocked : t.isLocked key = true) :
    HeldUntil (U64.saturatingAdd t.now authLockoutSeconds) t key := by
  have hstart : liveEntry t.registry.entries key t.now ≠
      liveEntry s.registry.entries key s.now := by
    intro hsame
    rw [isLocked_congr hsame, hfree] at hlocked
    cases hlocked
  obtain ⟨entry, lockedUntil, hlive, hentry⟩ := isLockedAt_iff.mp hlocked
  have hfailures : authLockoutFailureLimit ≤ entry.failures := by
    by_contra hbelow
    rw [(ht.counted entry hlive).2.mpr (UInt32.not_le.mp hbelow)] at hentry
    cases hentry
  cases hstep with
  | tick hle => exact absurd (hlive.trans (liveEntry_of_le hle hlive).symm) hstart
  | receive request => exact absurd rfl hstart
  | ensure hi =>
    refine absurd ?_ hstart
    simp only [LoginState.ensureAuthNotLocked]
    split
    · rfl
    · exact liveEntry_authAttemptIsLimited _ _ _ _ _
  | verify correct hi => cases correct <;> exact absurd rfl hstart
  | @fail i request hi =>
    by_cases hkey : key = request.lockoutKey
    · subst hkey
      have hfailed := liveEntry_recordAuthFailure _ _ _ _ hlive
      refine ⟨entry, U64.saturatingAdd s.now authLockoutSeconds, hlive, ?_, UInt64.le_refl _,
        hfailures⟩
      rw [hfailed] at hfailures ⊢
      simp only [AuthFailureState.failed] at hfailures ⊢
      rw [if_pos hfailures]
    · exact absurd (liveEntry_recordAuthFailure_of_ne _ _ _ hkey) hstart
  | @accept i request hi =>
    by_cases hkey : key = request.lockoutKey
    · subst hkey
      exact absurd ((liveEntry_clear _ _ _).symm.trans hlive) (by simp)
    · exact absurd (liveEntry_clear_of_ne hkey) hstart

def AdmittedBefore (t u : LoginState) (key : String) : Prop :=
  ∀ (i : Nat) (request : LoginRequest), request.lockoutKey = key →
    u.logins[i]? = some ⟨request, .admitted⟩ → t.logins[i]? = some ⟨request, .admitted⟩

/-- Until `limit` the key is held, and no request has passed the test since `t`. -/
def LockedOut (limit : UInt64) (t u : LoginState) (key : String) : Prop :=
  limit ≤ U64.saturatingAdd u.now authLockoutSeconds ∧
    (u.now < limit → HeldUntil limit u key ∧ AdmittedBefore t u key)

theorem LockedOut.step {u v : LoginState} (h : LockedOut limit t u key)
    (hfails : Unsuccessful key u action) (hstep : LoginStep maxEntries u action v) :
    LockedOut limit t v key := by
  have hle := now_le_of_step hstep
  refine ⟨UInt64.le_trans h.1 (U64.saturatingAdd_mono hle _), fun hbefore => ?_⟩
  obtain ⟨hheld, hadmitted⟩ := h.2 (UInt64.lt_of_le_of_lt hle hbefore)
  refine ⟨hheld.step h.1 hbefore hfails hstep, ?_⟩
  intro i request hkey hi
  exact hadmitted i request hkey (hheld.admitted_of_step hstep hkey hi)

theorem HeldUntil.steps {start : UInt64} {u : LoginState} (h : HeldUntil limit t key)
    (hlimit : limit ≤ U64.saturatingAdd t.now authLockoutSeconds)
    (hsteps : (loginServer maxEntries start).Steps (Unsuccessful key) t u) :
    LockedOut limit t u key := by
  have hstart : LockedOut limit t t key := ⟨hlimit, fun _ => ⟨h, fun _ _ _ hi => hi⟩⟩
  refine hsteps.invariant (I := fun u => LockedOut limit t u key) ?_ hstart
  intro u action v hu hfails ha
  exact hu.step hfails (loginStep_of_step ha)

/-- Before a lockout of a key the wrong passwords checked for it and not forgotten are
below the limit, but for those about to be recorded; the failure that starts the lockout
reaches the limit; and for the length of the lockout no further request passes the test,
unless a login of the key succeeds meanwhile. -/
theorem wrongPasswords_bounded (maxEntries : Nat) (start : UInt64) (key : String)
    (h : (loginServer maxEntries start).Reachable s) :
    (s.isLocked key = false → (s.history key).checked <
      authLockoutFailureLimit.toNat + (s.history key).forgotten + s.unrecorded key) ∧
    ∀ action t, (loginServer maxEntries start).step s action = some t →
      s.isLocked key = false → t.isLocked key = true →
      (t.history key).checked ≤
        authLockoutFailureLimit.toNat + (t.history key).forgotten + t.unrecorded key ∧
      ∀ u, (loginServer maxEntries start).Steps (Unsuccessful key) t u →
        u.now < U64.saturatingAdd t.now authLockoutSeconds →
        u.isLocked key = true ∧ AdmittedBefore t u key := by
  have hs := settled_of_reachable h key
  refine ⟨fun hfree => ?_, fun action t ha hfree hlocked => ⟨?_, fun u hsteps hbefore => ?_⟩⟩
  · have hbalance := hs.balance
    have hrecorded := hs.recorded_lt hfree
    omega
  · have hstep := loginStep_of_step ha
    have hbalance := (hs.step hstep).balance
    have hrecorded := hs.recorded_lt hfree
    have hone := recorded_le_of_step hstep key
    omega
  · have hstep := loginStep_of_step ha
    have hheld := heldUntil_of_start (hs.step hstep) hstep hfree hlocked
    obtain ⟨hend, hadmitted⟩ := (hheld.steps (UInt64.le_refl _) hsteps).2 hbefore
    exact ⟨hend.isLocked, hadmitted⟩

def failedAttempt (request : LoginRequest) (i : Nat) : List LoginAction :=
  [.receive request, .ensureAuthNotLocked i, .verifyPassword i false, .recordOutcome i]

theorem wrongPasswords_bounded_alice :
    ∃ s t, (loginServer authFailureMaxEntries 1000).Reachable s ∧
      (loginServer authFailureMaxEntries 1000).step s (.recordOutcome 4) = some t ∧
      s.isLocked "name:alice" = false ∧ t.isLocked "name:alice" = true ∧
      (t.history "name:alice").checked ≤ authLockoutFailureLimit.toNat +
        (t.history "name:alice").forgotten + t.unrecorded "name:alice" := by
  let attempt := failedAttempt (.byName " Alice")
  obtain ⟨s, hs, hfree, hstart⟩ := Machine.exists_of_run
    (M := loginServer authFailureMaxEntries 1000)
    (P := fun s => s.isLocked "name:alice" = false ∧
      ((loginServer authFailureMaxEntries 1000).step s (.recordOutcome 4)).any
        (·.isLocked "name:alice") = true)
    ((attempt 0).append ((attempt 1).append ((attempt 2).append ((attempt 3).append
      [.receive (.byName " Alice"), .ensureAuthNotLocked 4, .verifyPassword 4 false]))))
    (by decide)
  obtain ⟨t, ht, hlocked⟩ := (Option.any_eq_true _ _).mp hstart
  exact ⟨s, t, hs, ht, hfree, hlocked,
    ((wrongPasswords_bounded authFailureMaxEntries 1000 "name:alice" hs).2
      _ t ht hfree hlocked).1⟩

def isUnsuccessful (s : LoginState) : LoginAction → Bool
  | .recordOutcome i => (s.logins[i]?).all fun login => login.phase != .verified true
  | _ => true

theorem unsuccessful_of_isUnsuccessful (key : String) (s : LoginState) (action : LoginAction)
    (h : isUnsuccessful s action = true) : Unsuccessful key s action := by
  cases action with
  | recordOutcome i =>
    intro request hi
    simp only [isUnsuccessful, hi] at h
    exact absurd h (by simp)
  | tick | receive | ensureAuthNotLocked | verifyPassword => trivial

def sixAdmitted (request : LoginRequest) : List LoginAction :=
  List.replicate 6 (.receive request) ++ (List.range 6).map .ensureAuthNotLocked ++
    (List.range 5).map (.verifyPassword · false)

/-- Without a success and before any lockout more wrong passwords than the limit are
checked: by six requests that pass the test before the first failure is recorded, and by
six requests one after the other when the first four failures are forgotten meanwhile. A request
that passes the test with five others has its password checked after the key is locked. -/
theorem wrongPasswords_exceed_limit :
    (∃ s, (loginServer authFailureMaxEntries 1000).Reaches (Unsuccessful "name:alice") s ∧
      s.isLocked "name:alice" = false ∧ (s.history "name:alice").forgotten = 0 ∧
      authLockoutFailureLimit.toNat < (s.history "name:alice").checked) ∧
    (∃ s, (loginServer authFailureMaxEntries 1000).Reaches (Unsuccessful "name:alice") s ∧
      s.isLocked "name:alice" = false ∧ s.unrecorded "name:alice" = 0 ∧
      authLockoutFailureLimit.toNat < (s.history "name:alice").checked) ∧
    ∃ s t, (loginServer authFailureMaxEntries 1000).Reaches (Unsuccessful "name:alice") s ∧
      s.isLocked "name:alice" = true ∧
      (loginServer authFailureMaxEntries 1000).step s (.verifyPassword 5 false) = some t ∧
      (s.history "name:alice").checked < (t.history "name:alice").checked := by
  let alice : LoginRequest := .byName "alice"
  let attempt := failedAttempt alice
  refine ⟨?_, ?_, ?_⟩
  · exact Machine.exists_of_runWhile (unsuccessful_of_isUnsuccessful "name:alice")
      (sixAdmitted alice ++ [.verifyPassword 5 false]) (by decide +kernel)
  · exact Machine.exists_of_runWhile (unsuccessful_of_isUnsuccessful "name:alice")
      ((attempt 0).append ((attempt 1).append ((attempt 2).append ((attempt 3).append
        (.tick 1900 :: (attempt 4).append (attempt 5))))))
      (by decide)
  · obtain ⟨s, hs, hlocked, hchecked⟩ := Machine.exists_of_runWhile
      (M := loginServer authFailureMaxEntries 1000)
      (P := fun s => s.isLocked "name:alice" = true ∧
        ((loginServer authFailureMaxEntries 1000).step s (.verifyPassword 5 false)).any (fun t =>
          decide ((s.history "name:alice").checked < (t.history "name:alice").checked)) = true)
      (unsuccessful_of_isUnsuccessful "name:alice")
      (sixAdmitted alice ++ (List.range 5).map .recordOutcome) (by decide +kernel)
    obtain ⟨t, ht, hmore⟩ := (Option.any_eq_true _ _).mp hchecked
    exact ⟨s, t, hs, hlocked, ht, of_decide_eq_true hmore⟩

end Jellyrin.Auth
