import Jellyrin.Defs.Api.ApiError
import Jellyrin.Defs.Data.Ascii
import Jellyrin.Defs.Data.FixedWidth
import Jellyrin.Defs.Data.HashMap
import Jellyrin.Defs.Transition.Machine

/-! Tuner slots shared by direct streams, live HLS and recordings.  Acquire and
release are one section of the registry's mutex each. -/

namespace Jellyrin.LiveTv

open Api Ascii Transition

def liveTvMaxDistinctProducers : Nat := 64

def liveTunerUnassignedHostId : String := "jellyrin:unassigned"

structure LiveTunerLeaseKey where
  tunerHostId : String
  channelUrl : String
  deriving DecidableEq

structure LiveTunerLease where
  refcount : UInt64
  deriving DecidableEq

abbrev LiveTunerLeases := HashMap LiveTunerLeaseKey LiveTunerLease

def LiveTunerLeaseKey.of (tunerHostId : Option String) (channelUrl : String) :
    LiveTunerLeaseKey where
  tunerHostId := toAsciiLowercase (tunerHostId.getD liveTunerUnassignedHostId)
  channelUrl := channelUrl

def hostKeys (leases : LiveTunerLeases) (tunerHostId : String) : List LiveTunerLeaseKey :=
  leases.keys.filter fun leaseKey => eqIgnoreAsciiCase leaseKey.tunerHostId tunerHostId

def ensureLiveTunerLeaseCapacity (leases : LiveTunerLeases) (key : LiveTunerLeaseKey)
    (tunerCount : Option UInt64) : Except ApiError Unit :=
  if key ∈ leases then .ok ()
  else if liveTvMaxDistinctProducers ≤ leases.size then
    .error (.serviceUnavailable "Global Live TV producer limit has been reached")
  else
    match tunerCount with
    | some limit =>
      let activeDistinctChannels := UInt64.ofNat (hostKeys leases key.tunerHostId).length
      if limit ≤ activeDistinctChannels then
        .error (.serviceUnavailable
          s!"Live TV simultaneous stream limit has been reached (TunerCount={limit})")
      else .ok ()
    | none => .ok ()

def acquireLiveTunerLease (tunerHostId : Option String) (channelUrl : String)
    (tunerCount : Option UInt64) (leases : LiveTunerLeases) :
    Except ApiError LiveTunerLeaseKey × LiveTunerLeases :=
  let key := LiveTunerLeaseKey.of tunerHostId channelUrl
  match leases.lookup key with
  | some lease => (.ok key, leases.insert key ⟨U64.saturatingAdd lease.refcount 1⟩)
  | none =>
    match ensureLiveTunerLeaseCapacity leases key tunerCount with
    | .error error => (.error error, leases)
    | .ok () => (.ok key, leases.insert key ⟨1⟩)

def releaseLiveTunerLease (key : LiveTunerLeaseKey) (leases : LiveTunerLeases) :
    LiveTunerLeases :=
  match leases.lookup key with
  | some lease =>
    let refcount := U64.saturatingSub lease.refcount 1
    if refcount = 0 then leases.erase key else leases.insert key ⟨refcount⟩
  | none => leases

def liveTunerLeaseGuardBytes : Nat := 48

namespace TunerLease

structure World where
  leases : LiveTunerLeases
  guards : List LiveTunerLeaseKey
  deriving DecidableEq

inductive Action where
  | acquire (tunerHostId : Option String) (channelUrl : String) (tunerCount : Option UInt64)
  | drop (key : LiveTunerLeaseKey)

def World.acquire (tunerHostId : Option String) (channelUrl : String)
    (tunerCount : Option UInt64) (w : World) :
    Option (Except ApiError LiveTunerLeaseKey × World) :=
  match acquireLiveTunerLease tunerHostId channelUrl tunerCount w.leases with
  | (.error error, leases) => some (.error error, { w with leases })
  | (.ok key, leases) =>
    if liveTunerLeaseGuardBytes * (w.guards.length + 1) ≤ 2 ^ 64 then
      some (.ok key, { leases, guards := key :: w.guards })
    else none

def World.release (key : LiveTunerLeaseKey) (w : World) : World :=
  { leases := releaseLiveTunerLease key w.leases, guards := w.guards.erase key }

def step (w : World) : Action → Option World
  | .acquire tunerHostId channelUrl tunerCount =>
    (w.acquire tunerHostId channelUrl tunerCount).map Prod.snd
  | .drop key => if key ∈ w.guards then some (w.release key) else none

def registry : Machine World Action where
  init := ⟨∅, []⟩
  step := step

end TunerLease

/-! Reference counts are the numbers of live guards, and no admission exceeds the
global or the host's limit. -/

theorem hostKeys_length_le (leases : LiveTunerLeases) (tunerHostId : String) :
    (hostKeys leases tunerHostId).length ≤ leases.size :=
  List.length_filter_le _ _

theorem hostKeys_congr (leases : LiveTunerLeases) {s t : String}
    (h : toAsciiLowercase s = toAsciiLowercase t) : hostKeys leases s = hostKeys leases t := by
  simp only [hostKeys]
  congr 1
  funext leaseKey
  rw [Bool.eq_iff_iff, eqIgnoreAsciiCase_iff, eqIgnoreAsciiCase_iff, h]

theorem hostKeys_of (leases : LiveTunerLeases) (tunerHostId : Option String)
    (channelUrl : String) :
    hostKeys leases (LiveTunerLeaseKey.of tunerHostId channelUrl).tunerHostId =
      hostKeys leases (tunerHostId.getD liveTunerUnassignedHostId) := by
  apply hostKeys_congr
  simp [LiveTunerLeaseKey.of]

variable {key : LiveTunerLeaseKey}

theorem hostKeys_insert_length {leases : LiveTunerLeases} (lease : LiveTunerLease)
    (h : key ∉ leases) (tunerHostId : String) :
    (hostKeys (leases.insert key lease) tunerHostId).length ≤
      (hostKeys leases tunerHostId).length + 1 := by
  have hkey : key ∉ leases.keys := h
  simp only [hostKeys, AList.keys_insert, List.erase_of_not_mem hkey, List.filter_cons]
  split
  · rfl
  · exact Nat.le_succ _

theorem ensureLiveTunerLeaseCapacity_ok {leases : LiveTunerLeases} {tunerCount : Option UInt64}
    (hkey : key ∉ leases) (h : ensureLiveTunerLeaseCapacity leases key tunerCount = .ok ()) :
    leases.size < liveTvMaxDistinctProducers ∧
      ∀ limit, tunerCount = some limit →
        (hostKeys leases key.tunerHostId).length < limit.toNat := by
  simp only [ensureLiveTunerLeaseCapacity] at h
  rw [if_neg hkey] at h
  split at h
  · cases h
  · rename_i hsize
    refine ⟨Nat.lt_of_not_le hsize, ?_⟩
    intro limit hlimit
    subst hlimit
    dsimp only at h
    split at h
    · cases h
    · rename_i hroom
      -- The cast to `u64` is exact: the registry holds fewer than 64 keys here.
      have hlen := hostKeys_length_le leases key.tunerHostId
      rw [UInt64.not_le, UInt64.lt_iff_toNat_lt, UInt64.toNat_ofNat', Nat.mod_eq_of_lt] at hroom
      · exact hroom
      · simp only [liveTvMaxDistinctProducers] at hsize
        omega

inductive Acquired (tunerHostId : Option String) (channelUrl : String)
    (tunerCount : Option UInt64) (leases : LiveTunerLeases) :
    Except ApiError LiveTunerLeaseKey → LiveTunerLeases → Prop
  | shared {lease : LiveTunerLease} :
      leases.lookup (LiveTunerLeaseKey.of tunerHostId channelUrl) = some lease →
      Acquired tunerHostId channelUrl tunerCount leases
        (.ok (LiveTunerLeaseKey.of tunerHostId channelUrl))
        (leases.insert (LiveTunerLeaseKey.of tunerHostId channelUrl)
          ⟨U64.saturatingAdd lease.refcount 1⟩)
  | rejected {error : ApiError} : Acquired tunerHostId channelUrl tunerCount leases
      (.error error) leases
  | added : LiveTunerLeaseKey.of tunerHostId channelUrl ∉ leases →
      leases.size < liveTvMaxDistinctProducers →
      (∀ limit, tunerCount = some limit →
        (hostKeys leases (tunerHostId.getD liveTunerUnassignedHostId)).length <
          limit.toNat) →
      Acquired tunerHostId channelUrl tunerCount leases
        (.ok (LiveTunerLeaseKey.of tunerHostId channelUrl))
        (leases.insert (LiveTunerLeaseKey.of tunerHostId channelUrl) ⟨1⟩)

section

variable {tunerHostId : Option String} {channelUrl : String} {tunerCount : Option UInt64}
  {leases leases' : LiveTunerLeases} {result : Except ApiError LiveTunerLeaseKey}

theorem Acquired.of_acquire
    (h : acquireLiveTunerLease tunerHostId channelUrl tunerCount leases = (result, leases')) :
    Acquired tunerHostId channelUrl tunerCount leases result leases' := by
  unfold acquireLiveTunerLease at h
  dsimp only at h
  split at h
  · cases h
    exact .shared ‹_›
  · rename_i hnone
    split at h
    · cases h
      exact .rejected
    · rename_i hcapacity
      cases h
      have hkey := AList.lookup_eq_none.mp hnone
      obtain ⟨hsize, hlimit⟩ := ensureLiveTunerLeaseCapacity_ok hkey hcapacity
      rw [hostKeys_of] at hlimit
      exact .added hkey hsize hlimit

end

namespace TunerLease

structure Leased (w : World) : Prop where
  counts : Counts (fun lease : LiveTunerLease => lease.refcount.toNat) w.leases w.guards
  fits : liveTunerLeaseGuardBytes * w.guards.length ≤ 2 ^ 64
  bounded : w.leases.size ≤ liveTvMaxDistinctProducers

theorem Leased.new : Leased ⟨∅, []⟩ where
  counts := .empty _
  fits := Nat.zero_le _
  bounded := Nat.zero_le _

variable {w w' : World}

theorem Leased.refcount_lt (hi : Leased w) {lease : LiveTunerLease}
    (h : w.leases.lookup key = some lease) : lease.refcount.toNat + 1 ≤ U64.max.toNat := by
  have hcount := hi.counts.count_eq key lease h
  have hlen := List.count_le_length (a := key) (l := w.guards)
  have hfits := hi.fits
  have hmax : U64.max.toNat = 2 ^ 64 - 1 := rfl
  simp only [liveTunerLeaseGuardBytes] at hfits
  omega

theorem Leased.acquired (hi : Leased w) {tunerHostId : Option String} {channelUrl : String}
    {tunerCount : Option UInt64} {leases : LiveTunerLeases}
    (h : Acquired tunerHostId channelUrl tunerCount w.leases (.ok key) leases)
    (hfits : liveTunerLeaseGuardBytes * (w.guards.length + 1) ≤ 2 ^ 64) :
    Leased { leases, guards := key :: w.guards } := by
  cases h with
  | shared hlease =>
    have hlt := hi.refcount_lt hlease
    have hmem := AList.lookup_isSome.mp (Option.isSome_of_eq_some hlease)
    constructor
    · refine hi.counts.insert_succ hlease ?_
      rw [U64.toNat_saturatingAdd]
      exact Nat.min_eq_left hlt
    · exact hfits
    · dsimp only
      rw [HashMap.size_insert_of_mem _ hmem]
      exact hi.bounded
  | added hkey hsize _ =>
    constructor
    · exact hi.counts.insert_one hkey rfl
    · exact hfits
    · dsimp only
      rw [HashMap.size_insert_of_notMem _ hkey]
      exact hsize

inductive Grants (channelUrl : String) (w : World) :
    Except ApiError LiveTunerLeaseKey → World → Prop
  | granted {key : LiveTunerLeaseKey} {leases : LiveTunerLeases} :
      key.channelUrl = channelUrl → (Leased w → Leased ⟨leases, key :: w.guards⟩) →
      Grants channelUrl w (.ok key) ⟨leases, key :: w.guards⟩
  | refused {error : ApiError} : Grants channelUrl w (.error error) w

theorem Grants.of_acquire {tunerHostId : Option String} {channelUrl : String}
    {tunerCount : Option UInt64} {result : Except ApiError LiveTunerLeaseKey}
    (h : w.acquire tunerHostId channelUrl tunerCount = some (result, w')) :
    Grants channelUrl w result w' := by
  simp only [World.acquire] at h
  split at h
  · rename_i hacquire
    cases h
    cases Acquired.of_acquire hacquire with
    | rejected => exact .refused
  · rename_i hacquire
    split at h <;> cases h
    have hacquired := Acquired.of_acquire hacquire
    refine .granted ?_ fun hi => hi.acquired hacquired ‹_›
    cases hacquired <;> rfl

theorem acquireLiveTunerLease_of_mem {tunerHostId : Option String} {channelUrl : String}
    {tunerCount : Option UInt64} {leases : LiveTunerLeases}
    (h : LiveTunerLeaseKey.of tunerHostId channelUrl ∈ leases) :
    (acquireLiveTunerLease tunerHostId channelUrl tunerCount leases).1 =
      .ok (LiveTunerLeaseKey.of tunerHostId channelUrl) := by
  obtain ⟨lease, hlease⟩ := Option.isSome_iff_exists.mp (AList.lookup_isSome.mpr h)
  simp only [acquireLiveTunerLease, hlease]

theorem acquire_again {tunerHostId : Option String} {channelUrl : String}
    {tunerCount : Option UInt64} {error : ApiError} {w₁ w₂ : World}
    (h : w.acquire tunerHostId channelUrl tunerCount = some (.ok key, w₁)) :
    w₁.acquire tunerHostId channelUrl tunerCount ≠ some (.error error, w₂) := by
  have hmem : LiveTunerLeaseKey.of tunerHostId channelUrl ∈ w₁.leases := by
    simp only [World.acquire] at h
    split at h
    · cases h
    · rename_i hacquire
      split at h <;> cases h
      cases Acquired.of_acquire hacquire with
      | shared _ => exact AList.mem_insert _ |>.mpr (.inl rfl)
      | added _ _ _ => exact AList.mem_insert _ |>.mpr (.inl rfl)
  intro hagain
  have hok : (acquireLiveTunerLease tunerHostId channelUrl tunerCount w₁.leases).1 = .ok _ :=
    acquireLiveTunerLease_of_mem hmem
  simp only [World.acquire] at hagain
  split at hagain
  · rename_i hacquire
    rw [hacquire] at hok
    cases hok
  · split at hagain <;> cases hagain

theorem Leased.release (hi : Leased w) (h : key ∈ w.guards) : Leased (w.release key) := by
  have hmem := (hi.counts.mem_iff key).mpr h
  obtain ⟨lease, hlease⟩ := Option.isSome_iff_exists.mp (AList.lookup_isSome.mpr hmem)
  have hpos := hi.counts.pos hlease
  have hone : (U64.saturatingSub lease.refcount 1).toNat = lease.refcount.toNat - 1 := by
    rw [U64.toNat_saturatingSub]
    rfl
  have hfits : liveTunerLeaseGuardBytes * (w.guards.erase key).length ≤ 2 ^ 64 :=
    (Nat.mul_le_mul_left _ List.length_erase_le).trans hi.fits
  rw [World.release, releaseLiveTunerLease, hlease]
  dsimp only
  split
  · rename_i hzero
    rw [hzero] at hone
    constructor
    · refine hi.counts.erase_last hlease ?_
      change 0 = _ at hone
      omega
    · exact hfits
    · exact (HashMap.size_erase_le _ _).trans hi.bounded
  · rename_i hnonzero
    constructor
    · refine hi.counts.insert_pred hlease hone ?_
      exact Nat.pos_of_ne_zero fun hzero => hnonzero (UInt64.toNat_inj.mp hzero)
    · exact hfits
    · dsimp only
      rw [HashMap.size_insert_of_mem _ hmem]
      exact hi.bounded

theorem Leased.step (hi : Leased w) {action : Action} (h : TunerLease.step w action = some w') :
    Leased w' := by
  cases action with
  | acquire tunerHostId channelUrl tunerCount =>
    obtain ⟨⟨result, w₁⟩, hacquire, rfl⟩ := Option.map_eq_some_iff.mp h
    cases Grants.of_acquire hacquire with
    | granted _ hleased => exact hleased hi
    | refused => exact hi
  | drop key =>
    simp only [TunerLease.step] at h
    split at h <;> cases h
    exact hi.release ‹_›

theorem leased_of_reachable (h : registry.Reachable w) : Leased w :=
  h.invariant Leased.new fun _ _ _ hi ha => hi.step ha

theorem channels_le_of_added {tunerHostId : Option String} {channelUrl : String} {limit : UInt64}
    {leases leases' : LiveTunerLeases}
    (h : Acquired tunerHostId channelUrl (some limit) leases (.ok key) leases')
    (hnew : key ∉ leases) :
    ((hostKeys leases' (tunerHostId.getD liveTunerUnassignedHostId)).map
      LiveTunerLeaseKey.channelUrl).dedup.length ≤ limit.toNat := by
  cases h with
  | shared hlease =>
    exact absurd (AList.lookup_isSome.mp (Option.isSome_of_eq_some hlease)) hnew
  | added hkey _ hlimit =>
    refine (List.dedup_sublist _).length_le.trans ?_
    rw [List.length_map]
    exact (hostKeys_insert_length _ hkey _).trans (hlimit limit rfl)

/-- What the streams, HLS sessions and recordings that hold tuners rely on. -/
structure Consistent (w : World) : Prop where
  counts : ∀ key lease, w.leases.lookup key = some lease →
    lease.refcount.toNat = w.guards.count key ∧ 0 < lease.refcount.toNat
  guarded : ∀ key ∈ w.guards, key ∈ w.leases
  bounded : w.leases.size ≤ liveTvMaxDistinctProducers
  failed : ∀ tunerHostId channelUrl tunerCount error leases,
    acquireLiveTunerLease tunerHostId channelUrl tunerCount w.leases = (.error error, leases) →
    leases = w.leases
  limited : ∀ tunerHostId channelUrl limit key leases,
    acquireLiveTunerLease tunerHostId channelUrl (some limit) w.leases = (.ok key, leases) →
    key ∉ w.leases →
    ((hostKeys leases (tunerHostId.getD liveTunerUnassignedHostId)).map
      LiveTunerLeaseKey.channelUrl).dedup.length ≤ limit.toNat

theorem leases_consistent (h : registry.Reachable w) : Consistent w := by
  have hi := leased_of_reachable h
  constructor
  · intro key lease hlease
    exact ⟨hi.counts.count_eq key lease hlease, hi.counts.pos hlease⟩
  · intro key hkey
    exact (hi.counts.mem_iff key).mpr hkey
  · exact hi.bounded
  · intro tunerHostId channelUrl tunerCount error leases hacquire
    cases Acquired.of_acquire hacquire with
    | rejected => rfl
  · intro tunerHostId channelUrl limit key leases hacquire hnew
    exact channels_le_of_added (.of_acquire hacquire) hnew

theorem leases_consistent_of_shared_channel :
    ∃ w, registry.Reachable w ∧ w.leases.lookup ⟨"hdhr", "/v1"⟩ = some ⟨2⟩ ∧ Consistent w := by
  have hrun : ∃ w, registry.Reachable w ∧ w.leases.lookup ⟨"hdhr", "/v1"⟩ = some ⟨2⟩ :=
    Machine.exists_of_run [.acquire (some "HDHR") "/v1" (some 2),
      .acquire (some "hdhr") "/v2" (some 2), .acquire (some "hdHr") "/v1" (some 2),
      .drop ⟨"hdhr", "/v2"⟩] (by decide)
  obtain ⟨w, hreach, hlookup⟩ := hrun
  exact ⟨w, hreach, hlookup, leases_consistent hreach⟩

end TunerLease

end Jellyrin.LiveTv
