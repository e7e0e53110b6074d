import Jellyrin.Defs.Data.HashMap
import Jellyrin.Defs.Transition.Machine
import Mathlib.Data.Finset.Basic

/-! Artwork that is fetched ahead for a page.  A claim and the mark of a pending fill are sections
of two mutexes, between which other calls may come. -/

universe u

namespace Jellyrin.PluginVod.Artwork

open Transition

def pluginVodArtworkPrefetchMaxPerPage : Nat := 120

def pluginVodArtworkPrefetchMaxClaims : Nat := 8192

def pluginVodArtworkPrefetchClaimTtl : Nat := 10 * 60

variable {Key : Type u} [DecidableEq Key]

def liveClaims (now : Nat) (claims : HashMap Key Nat) : HashMap Key Nat :=
  claims.retain fun _ claimedAt => decide (now - claimedAt < pluginVodArtworkPrefetchClaimTtl)

def isOldest (claims : HashMap Key Nat) (key : Key) : Bool :=
  (claims.lookup key).any fun claimedAt => !claims.any fun _ other => decide (other < claimedAt)

/-- The claims and whether the key is claimed by the call.  Which claim is found as the oldest of
a full registry is given. -/
def claimPluginVodArtworkPrefetch (now : Nat) (claims : HashMap Key Nat) (fillKey : Key)
    (oldest : Option Key) : Option (HashMap Key Nat × Bool) :=
  let claims := liveClaims now claims
  if fillKey ∈ claims then some (claims, false)
  else if claims.size < pluginVodArtworkPrefetchMaxClaims then
    some (claims.insert fillKey now, true)
  else
    (oldest.filter (isOldest claims)).map fun oldest =>
      ((claims.erase oldest).insert fillKey now, true)

structure QueueCall (Key : Type u) where
  /-- What is left of the page. -/
  fillKeys : List Key
  queued : Nat
  /-- Claimed and not yet marked as pending. -/
  claimed : Option Key

structure State (Key : Type u) where
  now : Nat
  claims : HashMap Key Nat
  pending : Finset Key
  calls : HashMap Nat (QueueCall Key)
  /-- The keys of the fills that are registered and have not ended. -/
  running : List Key
  /-- How many fills were started since the last claim of a key. -/
  started : Key → Nat

inductive Action (Key : Type u) where
  | advance (elapsed : Nat)
  | queue (call : Nat) (fillKeys : List Key)
  /-- The next round of a call's loop. -/
  | next (call : Nat) (oldest : Option Key)
  /-- The fill is marked as pending and spawned. -/
  | register (call : Nat)
  /-- A fill ends, in whatever way, and its guard is dropped. -/
  | finish (fillKey : Key)

def State.step (s : State Key) : Action Key → Option (State Key)
  | .advance elapsed => some { s with now := s.now + elapsed }
  | .queue call fillKeys =>
    if call ∈ s.calls then none
    else some { s with calls := s.calls.insert call ⟨fillKeys, 0, none⟩ }
  | .next call oldest =>
    match s.calls.lookup call with
    | some ⟨[], _, none⟩ => some { s with calls := s.calls.erase call }
    | some ⟨fillKey :: rest, queued, none⟩ =>
      if pluginVodArtworkPrefetchMaxPerPage ≤ queued then
        some { s with calls := s.calls.erase call }
      else
        (claimPluginVodArtworkPrefetch s.now s.claims fillKey oldest).map fun (claims, claimed) =>
          if claimed then
            { s with
              claims
              calls := s.calls.insert call ⟨rest, queued + 1, some fillKey⟩
              started := Function.update s.started fillKey 0 }
          else { s with claims, calls := s.calls.insert call ⟨rest, queued, none⟩ }
    | _ => none
  | .register call =>
    match s.calls.lookup call with
    | some ⟨rest, queued, some fillKey⟩ =>
      some { s with
        pending := insert fillKey s.pending
        calls := s.calls.insert call ⟨rest, queued, none⟩
        running := fillKey :: s.running
        started := Function.update s.started fillKey (s.started fillKey + 1) }
    | _ => none
  | .finish fillKey =>
    if fillKey ∈ s.running then
      some { s with
        pending := s.pending.erase fillKey
        running := s.running.erase fillKey }
    else none

def machine (Key : Type u) [DecidableEq Key] : Machine (State Key) (Action Key) where
  init := ⟨0, ∅, ∅, ∅, [], fun _ => 0⟩
  step := State.step

/-- The marks are those of the fills, the registry is bounded, and a claim starts one fill. -/
structure MarksAreExact (s : State Key) : Prop where
  pending : ∀ fillKey, fillKey ∈ s.pending ↔ fillKey ∈ s.running
  bounded : s.claims.size ≤ pluginVodArtworkPrefetchMaxClaims
  started : ∀ fillKey ∈ s.claims, s.started fillKey ≤ 1

def earlierFillEnded (s : State Key) : Action Key → Bool
  | .next call _ =>
    match s.calls.lookup call with
    | some ⟨fillKey :: _, _, none⟩ =>
      decide (fillKey ∈ liveClaims s.now s.claims) ||
        !decide (fillKey ∈ s.running) && !s.calls.any fun _ call => call.claimed == some fillKey
    | _ => true
  | _ => true

end Jellyrin.PluginVod.Artwork

/-! When the marks of pending artwork are those of the fills. -/

namespace Jellyrin.PluginVod.Artwork

open Transition

variable {Key : Type u} [DecidableEq Key] {s t : State Key} {claims claims' : HashMap Key Nat}
  {now call : Nat} {fillKey : Key} {oldest : Option Key} {claimed : Bool}

theorem claim_cases
    (h : claimPluginVodArtworkPrefetch now claims fillKey oldest = some (claims', claimed)) :
    (claims.size ≤ pluginVodArtworkPrefetchMaxClaims →
      claims'.size ≤ pluginVodArtworkPrefetchMaxClaims) ∧
    (claimed = true → fillKey ∉ liveClaims now claims) := by
  rw [claimPluginVodArtworkPrefetch] at h
  split at h
  · cases h
    exact ⟨(HashMap.size_retain_le _ _).trans, fun h => absurd h Bool.false_ne_true⟩
  · rename_i hmem
    split at h
    · rename_i hsize
      cases h
      exact ⟨fun _ => (HashMap.size_insert_le _ _ _).trans hsize, fun _ => hmem⟩
    · obtain ⟨key, hkey, heq⟩ := Option.map_eq_some_iff.mp h
      cases heq
      refine ⟨fun hsize => ?_, fun _ => hmem⟩
      have hmem' : key ∈ liveClaims now claims := by
        obtain ⟨-, holdest⟩ := Option.filter_eq_some_iff.mp hkey
        rw [isOldest, Option.any_eq_true] at holdest
        obtain ⟨claimedAt, hclaimed, -⟩ := holdest
        exact HashMap.mem_of_lookup hclaimed
      -- One claim is dropped for the new one.
      have herase : HashMap.size ((liveClaims now claims).erase key) + 1 =
          (liveClaims now claims).size := by
        rw [HashMap.size, AList.keys_erase, List.length_erase_of_mem hmem', HashMap.size]
        exact Nat.sub_add_cancel (List.length_pos_of_mem hmem')
      have hle := HashMap.size_insert_le ((liveClaims now claims).erase key) fillKey now
      have hlive : (liveClaims now claims).size ≤ pluginVodArtworkPrefetchMaxClaims :=
        le_trans (HashMap.size_retain_le _ _) hsize
      rw [herase] at hle
      exact hle.trans hlive

/-! What a step can do. -/

theorem next_cases (h : s.step (.next call oldest) = some t) :
    t = { s with calls := s.calls.erase call } ∨
    ∃ fillKey rest queued claims claimed,
      s.calls.lookup call = some ⟨fillKey :: rest, queued, none⟩ ∧
      claimPluginVodArtworkPrefetch s.now s.claims fillKey oldest = some (claims, claimed) ∧
      ((claimed = false ∧
          t = { s with claims, calls := s.calls.insert call ⟨rest, queued, none⟩ }) ∨
        (claimed = true ∧ t = { s with
          claims
          calls := s.calls.insert call ⟨rest, queued + 1, some fillKey⟩
          started := Function.update s.started fillKey 0 })) := by
  simp only [State.step] at h
  split at h
  · cases h
    exact .inl rfl
  · rename_i fillKey rest queued hcall
    split at h
    · cases h
      exact .inl rfl
    · obtain ⟨⟨claims, claimed⟩, hclaim, heq⟩ := Option.map_eq_some_iff.mp h
      refine .inr ⟨fillKey, rest, queued, claims, claimed, hcall, hclaim, ?_⟩
      cases claimed with
      | false => exact .inl ⟨rfl, heq.symm⟩
      | true => exact .inr ⟨rfl, heq.symm⟩
  · cases h

theorem register_cases (h : s.step (.register call) = some t) :
    ∃ fillKey rest queued, s.calls.lookup call = some ⟨rest, queued, some fillKey⟩ ∧
      t = { s with
        pending := insert fillKey s.pending
        calls := s.calls.insert call ⟨rest, queued, none⟩
        running := fillKey :: s.running
        started := Function.update s.started fillKey (s.started fillKey + 1) } := by
  simp only [State.step] at h
  split at h
  · rename_i rest queued fillKey hcall
    cases h
    exact ⟨fillKey, rest, queued, hcall, rfl⟩
  · cases h

theorem finish_cases (h : s.step (.finish fillKey) = some t) :
    fillKey ∈ s.running ∧ t = { s with
      pending := s.pending.erase fillKey
      running := s.running.erase fillKey } := by
  simp only [State.step] at h
  split at h
  · rename_i hmem
    cases h
    exact ⟨hmem, rfl⟩
  · cases h

/-! Runs in which no key is claimed over a fill of its own. -/

def Claims (s : State Key) (call : Nat) (fillKey : Key) : Prop :=
  ∃ rest queued, s.calls.lookup call = some ⟨rest, queued, some fillKey⟩

structure Exclusive (s : State Key) : Prop where
  bounded : s.claims.size ≤ pluginVodArtworkPrefetchMaxClaims
  pending : ∀ fillKey, fillKey ∈ s.pending ↔ fillKey ∈ s.running
  nodup : s.running.Nodup
  claimed : ∀ call fillKey, Claims s call fillKey → fillKey ∉ s.running ∧ s.started fillKey = 0
  unique : ∀ call call' fillKey, Claims s call fillKey → Claims s call' fillKey → call = call'
  started : ∀ fillKey, s.started fillKey ≤ 1

omit [DecidableEq Key] in
theorem Exclusive.marksAreExact (h : Exclusive s) : MarksAreExact s :=
  ⟨h.pending, h.bounded, fun fillKey _ => h.started fillKey⟩

omit [DecidableEq Key] in
theorem claims_of_insert {calls : HashMap Nat (QueueCall Key)} {other : Nat} {key : Key}
    {rest : List Key} {queued : Nat} {mark : Option Key}
    (hcalls : t.calls = calls.insert call ⟨rest, queued, mark⟩) (h : Claims t other key) :
    other = call ∧ mark = some key ∨
      other ≠ call ∧ ∃ rest queued, calls.lookup other = some ⟨rest, queued, some key⟩ := by
  obtain ⟨rest', queued', hother⟩ := h
  rw [hcalls] at hother
  obtain ⟨rfl, heq⟩ | ⟨hne, hother⟩ := HashMap.lookup_insert_eq_some.mp hother
  · cases heq
    exact .inl ⟨rfl, rfl⟩
  · exact .inr ⟨hne, rest', queued', hother⟩

omit [DecidableEq Key] in
theorem Exclusive.of_fewer (h : Exclusive s)
    (hbounded : t.claims.size ≤ pluginVodArtworkPrefetchMaxClaims)
    (hpending : t.pending = s.pending) (hrunning : t.running = s.running)
    (hstarted : t.started = s.started)
    (hclaims : ∀ call fillKey, Claims t call fillKey → Claims s call fillKey) : Exclusive t where
  bounded := hbounded
  pending := by
    rw [hpending, hrunning]
    exact h.pending
  nodup := by
    rw [hrunning]
    exact h.nodup
  claimed call fillKey hclaim := by
    rw [hrunning, hstarted]
    exact h.claimed call fillKey (hclaims call fillKey hclaim)
  unique call call' fillKey hcall hcall' :=
    h.unique call call' fillKey (hclaims call fillKey hcall) (hclaims call' fillKey hcall')
  started := by
    rw [hstarted]
    exact h.started

theorem Exclusive.next (h : Exclusive s) (hended : earlierFillEnded s (.next call oldest) = true)
    (hstep : s.step (.next call oldest) = some t) : Exclusive t := by
  obtain rfl | ⟨fillKey, rest, queued, claims, claimed, hcall, hclaim, hnext⟩ := next_cases hstep
  · refine h.of_fewer h.bounded rfl rfl rfl fun other key hother => ?_
    obtain ⟨rest, queued, hother⟩ := hother
    exact ⟨rest, queued, (HashMap.lookup_erase_eq_some.mp hother).2⟩
  · obtain ⟨hsize, hnotLive⟩ := claim_cases hclaim
    obtain ⟨-, rfl⟩ | ⟨hclaimed, rfl⟩ := hnext
    · refine h.of_fewer (hsize h.bounded) rfl rfl rfl fun other key hother => ?_
      obtain ⟨-, hmark⟩ | ⟨-, hbefore⟩ := claims_of_insert rfl hother
      · cases hmark
      · exact hbefore
    · simp only [earlierFillEnded, hcall, decide_eq_false (hnotLive hclaimed), Bool.false_or,
        Bool.and_eq_true, Bool.not_eq_true', decide_eq_false_iff_not] at hended
      obtain ⟨hrunning, hunclaimed⟩ := hended
      have hnone : ∀ other, ¬Claims s other fillKey := by
        rintro other ⟨rest, queued, hother⟩
        have hany : s.calls.any (fun _ queued => queued.claimed == some fillKey) = true :=
          HashMap.any_eq_true.mpr ⟨other, _, hother, beq_self_eq_true (some fillKey)⟩
        rw [hunclaimed] at hany
        cases hany
      refine ⟨hsize h.bounded, h.pending, h.nodup, fun other key hother => ?_,
        fun other other' key hother hother' => ?_, fun key => ?_⟩
      · obtain ⟨-, hmark⟩ | ⟨-, hbefore⟩ := claims_of_insert rfl hother
        · cases hmark
          exact ⟨hrunning, Function.update_self _ _ _⟩
        · have hne : key ≠ fillKey := fun heq => hnone other (heq ▸ hbefore)
          obtain ⟨hnot, hzero⟩ := h.claimed other key hbefore
          exact ⟨hnot, (Function.update_of_ne hne _ _).trans hzero⟩
      · obtain ⟨heq, hmark⟩ | ⟨-, hbefore⟩ := claims_of_insert rfl hother
        · cases hmark
          obtain ⟨heq', -⟩ | ⟨-, hbefore'⟩ := claims_of_insert rfl hother'
          · exact heq.trans heq'.symm
          · exact absurd hbefore' (hnone other')
        · obtain ⟨-, hmark⟩ | ⟨-, hbefore'⟩ := claims_of_insert rfl hother'
          · cases hmark
            exact absurd hbefore (hnone other)
          · exact h.unique other other' key hbefore hbefore'
      · by_cases hkey : key = fillKey
        · subst hkey
          exact le_of_eq_of_le (Function.update_self key 0 s.started) (Nat.zero_le 1)
        · exact le_of_eq_of_le (Function.update_of_ne hkey 0 s.started) (h.started key)

theorem Exclusive.register (h : Exclusive s) (hstep : s.step (.register call) = some t) :
    Exclusive t := by
  obtain ⟨fillKey, rest, queued, hcall, rfl⟩ := register_cases hstep
  have hclaims : Claims s call fillKey := ⟨rest, queued, hcall⟩
  obtain ⟨hrunning, hzero⟩ := h.claimed call fillKey hclaims
  refine ⟨h.bounded, fun key => ?_, List.nodup_cons.mpr ⟨hrunning, h.nodup⟩,
    fun other key hother => ?_, fun other other' key hother hother' => ?_, fun key => ?_⟩
  · rw [Finset.mem_insert, List.mem_cons, h.pending]
  · obtain ⟨-, hmark⟩ | ⟨hne, hbefore⟩ := claims_of_insert rfl hother
    · cases hmark
    · obtain ⟨hnot, hstarted⟩ := h.claimed other key hbefore
      have hkey : key ≠ fillKey := fun heq =>
        hne (h.unique other call fillKey (heq ▸ hbefore) hclaims)
      refine ⟨?_, (Function.update_of_ne hkey _ _).trans hstarted⟩
      rw [List.mem_cons, not_or]
      exact ⟨hkey, hnot⟩
  · obtain ⟨-, hmark⟩ | ⟨-, hbefore⟩ := claims_of_insert rfl hother
    · cases hmark
    · obtain ⟨-, hmark⟩ | ⟨-, hbefore'⟩ := claims_of_insert rfl hother'
      · cases hmark
      · exact h.unique other other' key hbefore hbefore'
  · by_cases hkey : key = fillKey
    · subst hkey
      refine le_of_eq_of_le (Function.update_self key _ s.started) ?_
      rw [hzero]
    · exact le_of_eq_of_le (Function.update_of_ne hkey _ s.started) (h.started key)

theorem Exclusive.finish (h : Exclusive s) (hstep : s.step (.finish fillKey) = some t) :
    Exclusive t := by
  obtain ⟨-, rfl⟩ := finish_cases hstep
  refine ⟨h.bounded, fun key => ?_, h.nodup.erase fillKey, fun other key hother => ?_, h.unique,
    h.started⟩
  · rw [Finset.mem_erase, h.nodup.mem_erase_iff, h.pending]
  · obtain ⟨hnot, hzero⟩ := h.claimed other key hother
    exact ⟨fun hmem => hnot (List.mem_of_mem_erase hmem), hzero⟩

theorem Exclusive.step {action : Action Key} (h : Exclusive s)
    (hended : earlierFillEnded s action = true) (hstep : s.step action = some t) :
    Exclusive t := by
  cases action with
  | advance elapsed =>
    cases hstep
    exact h.of_fewer h.bounded rfl rfl rfl fun _ _ => id
  | queue call fillKeys =>
    simp only [State.step] at hstep
    split at hstep
    · cases hstep
    · cases hstep
      refine h.of_fewer h.bounded rfl rfl rfl fun other key hother => ?_
      obtain ⟨-, hmark⟩ | ⟨-, hbefore⟩ := claims_of_insert rfl hother
      · cases hmark
      · exact hbefore
  | next call oldest => exact h.next hended hstep
  | register call => exact h.register hstep
  | finish fillKey => exact h.finish hstep

theorem exclusive_init : Exclusive (machine Key).init where
  bounded := Nat.zero_le _
  pending fillKey := iff_of_false (Finset.notMem_empty fillKey) List.not_mem_nil
  nodup := List.nodup_nil
  claimed := by
    rintro call fillKey ⟨rest, queued, hcall⟩
    cases hcall
  unique := by
    rintro call call' fillKey ⟨rest, queued, hcall⟩
    cases hcall
  started fillKey := Nat.zero_le 1

theorem artwork_marks_are_exact
    (h : (machine Key).Reaches (fun s action => earlierFillEnded s action = true) s) :
    MarksAreExact s :=
  (Machine.Steps.invariant (I := Exclusive) (fun _ _ _ hs hended hstep => hs.step hended hstep) h
    exclusive_init).marksAreExact

theorem artwork_marks_are_exact_of_one_page :
    ∃ s : State Nat, s.running = [9, 8] ∧ s.pending = {8, 9} ∧ MarksAreExact s := by
  -- Two calls share the key 8, and the fill of 7 ends and its claim expires in between.
  obtain ⟨s, hreaches, hrunning, hpending⟩ := Machine.exists_of_runWhile
    (M := machine Nat) (C := fun s action => earlierFillEnded s action = true)
    (P := fun s => s.running = [9, 8] ∧ s.pending = {8, 9})
    (fun _ _ (h : earlierFillEnded _ _ = true) => h)
    [.queue 0 [7, 8], .next 0 none, .register 0, .finish 7, .advance 600, .queue 1 [8, 7, 9],
      .next 0 none, .next 1 none, .register 0, .next 1 none, .register 1, .finish 7, .next 1 none,
      .register 1]
    (by decide +kernel)
  exact ⟨s, hrunning, hpending, artwork_marks_are_exact hreaches⟩

/-- The claim expires while the fill runs on, and a second fill is started; the first one that ends
takes the mark away. -/
theorem second_fill_loses_its_mark :
    ∃ s, (machine Nat).Reachable s ∧ s.running = [7] ∧ s.pending = ∅ :=
  Machine.exists_of_run [.queue 0 [7], .next 0 none, .register 0, .advance 600, .queue 1 [7],
    .next 1 none, .register 1, .finish 7] (by decide)

end Jellyrin.PluginVod.Artwork
