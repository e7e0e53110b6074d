import Jellyrin.Defs.Data.FixedWidth
import Jellyrin.Defs.Data.HashMap
import Mathlib.Data.List.MinMax

/-! The cache of the clients that fetch remote images. -/

namespace Jellyrin.RemoteImage

structure Origin where
  scheme : String
  host : String
  port : UInt16
  deriving DecidableEq

structure RemoteImageClientKey (Addr : Type) where
  scheme : String
  host : String
  port : UInt16
  resolved : List Addr
  deriving DecidableEq

structure RemoteImageClientCacheEntry (Client : Type) where
  client : Client
  expiresAt : Nat
  lastUsed : UInt64

variable {Addr Client : Type}

def RemoteImageClientKey.origin (key : RemoteImageClientKey Addr) : Origin :=
  ⟨key.scheme, key.host, key.port⟩

abbrev Entries (Addr Client : Type) :=
  HashMap (RemoteImageClientKey Addr) (RemoteImageClientCacheEntry Client)

structure RemoteImageClientCache (Addr Client : Type) where
  entries : Entries Addr Client
  maxEntries : Nat
  ttl : Nat
  clock : UInt64

namespace RemoteImageClientCache

def new (maxEntries ttl : Nat) : RemoteImageClientCache Addr Client := ⟨∅, maxEntries, ttl, 0⟩

def pruneExpired (now : Nat) (cache : RemoteImageClientCache Addr Client) :
    RemoteImageClientCache Addr Client :=
  { cache with entries := HashMap.retain (fun _ entry => now < entry.expiresAt) cache.entries }

def tick (cache : RemoteImageClientCache Addr Client) : RemoteImageClientCache Addr Client :=
  { cache with clock := U64.saturatingAdd cache.clock 1 }

variable [DecidableEq Addr]

def use (key : RemoteImageClientKey Addr) (clock : UInt64) (entries : Entries Addr Client) :
    Entries Addr Client :=
  HashMap.mapEntries
    (fun other entry => if other = key then { entry with lastUsed := clock } else entry) entries

def get (origin : Origin) (now : Nat) (cache : RemoteImageClientCache Addr Client) :
    Option Client × RemoteImageClientCache Addr Client :=
  let cache := (cache.pruneExpired now).tick
  match cache.entries.entries.find? fun e => e.1.origin = origin with
  | none => (none, cache)
  | some found =>
    (some found.2.client, { cache with entries := use found.1 cache.clock cache.entries })

def makeRoom (maxEntries : Nat) : Nat → Entries Addr Client → Entries Addr Client
  | 0, entries => entries
  | fuel + 1, entries =>
    if maxEntries ≤ entries.size then
      match entries.entries.argmin fun e => e.2.lastUsed.toNat with
      | none => entries
      | some oldest => makeRoom maxEntries fuel (entries.erase oldest.1)
    else entries

def insert (key : RemoteImageClientKey Addr) (client : Client) (now : Nat)
    (cache : RemoteImageClientCache Addr Client) : Client × RemoteImageClientCache Addr Client :=
  match (cache.pruneExpired now).get key.origin now with
  | (some existing, cache) => (existing, cache)
  | (none, cache) =>
    if cache.maxEntries = 0 then (client, cache)
    else
      let cache := tick
        { cache with entries := makeRoom cache.maxEntries cache.entries.size cache.entries }
      (client, { cache with
        entries := cache.entries.insert key ⟨client, now + cache.ttl, cache.clock⟩ })

def len (now : Nat) (cache : RemoteImageClientCache Addr Client) :
    Nat × RemoteImageClientCache Addr Client :=
  let cache := cache.pruneExpired now
  (cache.entries.size, cache)

end RemoteImageClientCache

/-! Runs. -/

inductive Op (Addr Client : Type)
  | get (origin : Origin) (now : Nat)
  | insert (key : RemoteImageClientKey Addr) (client : Client) (now : Nat)
  | len (now : Nat)

namespace Op

def origin? : Op Addr Client → Option Origin
  | .get origin _ => some origin
  | .insert key _ _ => some key.origin
  | .len _ => none

def ticks : Op Addr Client → Nat
  | .get _ _ => 1
  | .insert _ _ _ => 2
  | .len _ => 0

variable [DecidableEq Addr]

def step (cache : RemoteImageClientCache Addr Client) :
    Op Addr Client → Option Client × RemoteImageClientCache Addr Client
  | .get origin now => cache.get origin now
  | .insert key client now => ((cache.insert key client now).1, (cache.insert key client now).2)
  | .len now => (none, (cache.len now).2)

end Op

variable [DecidableEq Addr]

/-- The cache after a run; the operations of a run are listed from the last to the first. -/
def cacheAfter (maxEntries ttl : Nat) : List (Op Addr Client) → RemoteImageClientCache Addr Client
  | [] => .new maxEntries ttl
  | op :: earlier => (op.step (cacheAfter maxEntries ttl earlier)).2

def sinceUse (ops : List (Op Addr Client)) (origin : Origin) : Nat :=
  ops.findIdx fun op => op.origin? = some origin

def totalTicks (ops : List (Op Addr Client)) : Nat := (ops.map Op.ticks).sum

def Stored (maxEntries ttl : Nat) (ops : List (Op Addr Client)) (key : RemoteImageClientKey Addr)
    (client : Client) (time : Nat) : Prop :=
  ∃ later earlier entry, ops = later ++ .insert key client time :: earlier ∧
    (cacheAfter maxEntries ttl (.insert key client time :: earlier)).entries.lookup key =
      some entry ∧ entry.client = client ∧ entry.expiresAt = time + ttl

/-! What an operation does. -/

namespace RemoteImageClientCache

variable {cache : RemoteImageClientCache Addr Client} {origin : Origin} {now : Nat}
  {key : RemoteImageClientKey Addr} {entry : RemoteImageClientCacheEntry Client}

theorem lookup_pruneExpired :
    (cache.pruneExpired now).entries.lookup key = some entry ↔
      cache.entries.lookup key = some entry ∧ now < entry.expiresAt := by
  rw [pruneExpired, HashMap.lookup_retain, decide_eq_true_iff]

omit [DecidableEq Addr] in
theorem pruneExpired_pruneExpired :
    (cache.pruneExpired now).pruneExpired now = cache.pruneExpired now := by
  simp only [pruneExpired, HashMap.retain, List.filter_filter, Bool.and_self]

theorem lookup_use {clock : UInt64} {entries : Entries Addr Client}
    {other : RemoteImageClientKey Addr} {found : RemoteImageClientCacheEntry Client}
    (h : (use key clock entries).lookup other = some found) :
    ∃ before, entries.lookup other = some before ∧
      found = if other = key then { before with lastUsed := clock } else before := by
  rw [use, HashMap.lookup_mapEntries, Option.map_eq_some_iff] at h
  obtain ⟨before, hbefore, rfl⟩ := h
  exact ⟨before, hbefore, rfl⟩

theorem size_use {clock : UInt64} {entries : Entries Addr Client} :
    HashMap.size (use key clock entries) = entries.size := by
  simp [use, HashMap.size, HashMap.mapEntries, AList.keys, List.keys]

theorem get_cases (cache : RemoteImageClientCache Addr Client) (origin : Origin) (now : Nat) :
    (∃ key entry, (cache.pruneExpired now).entries.lookup key = some entry ∧
        key.origin = origin ∧
        cache.get origin now = (some entry.client,
          { (cache.pruneExpired now).tick with
            entries := use key (U64.saturatingAdd cache.clock 1)
              (cache.pruneExpired now).entries })) ∨
      ((∀ key entry, (cache.pruneExpired now).entries.lookup key = some entry →
          key.origin ≠ origin) ∧
        cache.get origin now = (none, (cache.pruneExpired now).tick)) := by
  simp only [get]
  cases hfind : (cache.pruneExpired now).tick.entries.entries.find? fun e => e.1.origin = origin with
  | none =>
    refine .inr ⟨fun key entry hlookup horigin => ?_, rfl⟩
    have hnone := List.find?_eq_none.mp hfind ⟨key, entry⟩ (HashMap.mem_entries_iff.mpr hlookup)
    exact hnone (decide_eq_true horigin)
  | some found =>
    have hlookup := HashMap.mem_entries_iff.mp (List.mem_of_find?_eq_some hfind)
    have horigin := List.find?_some hfind
    exact .inl ⟨found.1, found.2, hlookup, of_decide_eq_true horigin, rfl⟩

theorem insert_cases (cache : RemoteImageClientCache Addr Client)
    (key : RemoteImageClientKey Addr) (client : Client) (now : Nat) :
    (∃ other entry, (cache.pruneExpired now).entries.lookup other = some entry ∧
        other.origin = key.origin ∧
        cache.insert key client now = (entry.client,
          { (cache.pruneExpired now).tick with
            entries := use other (U64.saturatingAdd cache.clock 1)
              (cache.pruneExpired now).entries })) ∨
      ((∀ other entry, (cache.pruneExpired now).entries.lookup other = some entry →
          other.origin ≠ key.origin) ∧
        ((cache.maxEntries = 0 ∧
            cache.insert key client now = (client, (cache.pruneExpired now).tick)) ∨
          (cache.maxEntries ≠ 0 ∧
            cache.insert key client now = (client,
              { (cache.pruneExpired now).tick.tick with
                entries := AList.insert key
                  ⟨client, now + cache.ttl, (cache.pruneExpired now).tick.tick.clock⟩
                  (makeRoom cache.maxEntries (HashMap.size (cache.pruneExpired now).entries)
                    (cache.pruneExpired now).entries) })))) := by
  rw [insert]
  obtain ⟨other, entry, hlookup, horigin, hget⟩ | ⟨hnone, hget⟩ :=
    get_cases (cache.pruneExpired now) key.origin now
  · rw [pruneExpired_pruneExpired] at hlookup hget
    rw [hget]
    exact .inl ⟨other, entry, hlookup, horigin, rfl⟩
  · rw [pruneExpired_pruneExpired] at hnone hget
    rw [hget]
    refine .inr ⟨hnone, ?_⟩
    by_cases hmax : cache.maxEntries = 0
    · exact .inl ⟨hmax, if_pos hmax⟩
    · exact .inr ⟨hmax, if_neg hmax⟩

theorem makeRoom_cases {maxEntries : Nat} {entries : Entries Addr Client} (hmax : maxEntries ≠ 0)
    (hsize : entries.size ≤ maxEntries) :
    (entries.size < maxEntries ∧ makeRoom maxEntries entries.size entries = entries) ∨
      ∃ oldest entry, entries.lookup oldest = some entry ∧
        (∀ key other, entries.lookup key = some other →
          entry.lastUsed.toNat ≤ other.lastUsed.toNat) ∧
        makeRoom maxEntries entries.size entries = entries.erase oldest ∧
        HashMap.size (entries.erase oldest) < maxEntries := by
  obtain ⟨fuel, hfuel⟩ : ∃ fuel, entries.size = fuel := ⟨_, rfl⟩
  rw [hfuel]
  cases fuel with
  | zero => exact .inl ⟨Nat.pos_of_ne_zero hmax, rfl⟩
  | succ fuel =>
    by_cases hfull : maxEntries ≤ entries.size
    · right
      cases hmin : entries.entries.argmin fun e => e.2.lastUsed.toNat with
      | none =>
        have hnil : entries.entries = [] := List.argmin_eq_none.mp hmin
        have hzero : entries.size = 0 := by simp [HashMap.size, AList.keys, hnil]
        omega
      | some oldest =>
        have hlookup := HashMap.mem_entries_iff.mp (List.argmin_mem hmin)
        have herase := HashMap.size_erase_of_mem (HashMap.mem_of_lookup hlookup)
        have hsmaller : HashMap.size (entries.erase oldest.1) < maxEntries := by omega
        refine ⟨oldest.1, oldest.2, hlookup, fun key other hother => ?_, ?_, hsmaller⟩
        · exact List.le_of_mem_argmin (a := ⟨key, other⟩) (HashMap.mem_entries_iff.mpr hother) hmin
        · rw [makeRoom, if_pos hfull, hmin]
          cases fuel with
          | zero => rfl
          | succ fuel => exact if_neg (not_le.mpr hsmaller)
    · rw [hfuel] at hfull
      refine .inl ⟨not_le.mp hfull, if_neg ?_⟩
      rwa [hfuel]

end RemoteImageClientCache

open RemoteImageClientCache

/-! What holds after every run. -/

structure Sound (maxEntries ttl : Nat) (ops : List (Op Addr Client))
    (cache : RemoteImageClientCache Addr Client) : Prop where
  maxEntries_eq : cache.maxEntries = maxEntries
  ttl_eq : cache.ttl = ttl
  bounded : cache.entries.size ≤ maxEntries
  unique : ∀ key entry other found, cache.entries.lookup key = some entry →
    cache.entries.lookup other = some found → key.origin = other.origin → key = other
  stored : ∀ key entry, cache.entries.lookup key = some entry →
    ∃ time, Stored maxEntries ttl ops key entry.client time ∧ entry.expiresAt = time + ttl

section

variable {maxEntries ttl : Nat} {ops : List (Op Addr Client)}
  {cache cache' : RemoteImageClientCache Addr Client}

theorem Stored.cons {key : RemoteImageClientKey Addr} {client : Client} {time : Nat}
    (h : Stored maxEntries ttl ops key client time) (op : Op Addr Client) :
    Stored maxEntries ttl (op :: ops) key client time := by
  obtain ⟨later, earlier, entry, rfl, hentry⟩ := h
  exact ⟨op :: later, earlier, entry, rfl, hentry⟩

theorem Sound.restamp (h : Sound maxEntries ttl ops cache) (op : Op Addr Client)
    (hmax : cache'.maxEntries = cache.maxEntries) (httl : cache'.ttl = cache.ttl)
    (hsize : cache'.entries.size ≤ cache.entries.size)
    (hlookup : ∀ key entry, cache'.entries.lookup key = some entry →
      ∃ before, cache.entries.lookup key = some before ∧ before.client = entry.client ∧
        before.expiresAt = entry.expiresAt) :
    Sound maxEntries ttl (op :: ops) cache' where
  maxEntries_eq := hmax.trans h.maxEntries_eq
  ttl_eq := httl.trans h.ttl_eq
  bounded := hsize.trans h.bounded
  unique key entry other found hentry hfound := by
    obtain ⟨before, hbefore, -⟩ := hlookup key entry hentry
    obtain ⟨earlier, hearlier, -⟩ := hlookup other found hfound
    exact h.unique key before other earlier hbefore hearlier
  stored key entry hentry := by
    obtain ⟨before, hbefore, hclient, hexpires⟩ := hlookup key entry hentry
    obtain ⟨time, hstored, htime⟩ := h.stored key before hbefore
    exact ⟨time, (hclient ▸ hstored).cons op, hexpires ▸ htime⟩

omit [DecidableEq Addr] in
theorem size_pruneExpired_le (cache : RemoteImageClientCache Addr Client) (now : Nat) :
    HashMap.size (cache.pruneExpired now).entries ≤ cache.entries.size :=
  HashMap.size_retain_le _ _

theorem Sound.pruned (h : Sound maxEntries ttl ops cache) (op : Op Addr Client) (now : Nat)
    (clock : UInt64) :
    Sound maxEntries ttl (op :: ops) { cache.pruneExpired now with clock := clock } := by
  refine h.restamp op rfl rfl (size_pruneExpired_le cache now) fun key entry hentry => ?_
  exact ⟨entry, (lookup_pruneExpired.mp hentry).1, rfl, rfl⟩

theorem Sound.used (h : Sound maxEntries ttl ops cache) (op : Op Addr Client) (now : Nat)
    (clock stamp : UInt64) (key : RemoteImageClientKey Addr) :
    Sound maxEntries ttl (op :: ops) { cache.pruneExpired now with
      clock := clock, entries := use key stamp (cache.pruneExpired now).entries } := by
  refine h.restamp op rfl rfl ?_ fun other entry hentry => ?_
  · exact size_use.le.trans (size_pruneExpired_le cache now)
  · obtain ⟨before, hbefore, rfl⟩ := lookup_use hentry
    refine ⟨before, (lookup_pruneExpired.mp hbefore).1, ?_⟩
    split <;> exact ⟨rfl, rfl⟩

theorem lookup_makeRoom (hmax : maxEntries ≠ 0) {entries : Entries Addr Client}
    (hsize : entries.size ≤ maxEntries) {key : RemoteImageClientKey Addr}
    {entry : RemoteImageClientCacheEntry Client}
    (h : (makeRoom maxEntries entries.size entries).lookup key = some entry) :
    entries.lookup key = some entry := by
  obtain ⟨-, heq⟩ | ⟨oldest, -, -, -, heq, -⟩ := makeRoom_cases hmax hsize
  · rwa [heq] at h
  · rw [heq] at h
    exact (HashMap.lookup_erase_eq_some.mp h).2

theorem size_makeRoom_lt (hmax : maxEntries ≠ 0) {entries : Entries Addr Client}
    (hsize : entries.size ≤ maxEntries) :
    HashMap.size (makeRoom maxEntries entries.size entries) < maxEntries := by
  obtain ⟨hlt, heq⟩ | ⟨oldest, -, -, -, heq, hlt⟩ := makeRoom_cases hmax hsize
  · rwa [heq]
  · rwa [heq]

theorem sound_cacheAfter (maxEntries ttl : Nat) (ops : List (Op Addr Client)) :
    Sound maxEntries ttl ops (cacheAfter maxEntries ttl ops) := by
  induction ops with
  | nil =>
    have hempty : ∀ key entry,
        (∅ : Entries Addr Client).lookup key = some entry → False := fun key entry h => by
      rw [AList.lookup_empty] at h
      cases h
    exact ⟨rfl, rfl, Nat.zero_le _, fun key entry _ _ h => (hempty key entry h).elim,
      fun key entry h => (hempty key entry h).elim⟩
  | cons op earlier ih =>
    generalize hcache : cacheAfter maxEntries ttl earlier = cache at ih
    have hafter : cacheAfter maxEntries ttl (op :: earlier) = (op.step cache).2 := by
      rw [cacheAfter, hcache]
    cases op with
    | get origin now =>
      have hstep : (Op.step cache (.get origin now : Op Addr Client)).2 = (cache.get origin now).2 := rfl
      rw [hafter, hstep]
      obtain ⟨key, entry, -, -, hget⟩ | ⟨-, hget⟩ := get_cases cache origin now
      · rw [hget]
        exact ih.used _ now _ _ key
      · rw [hget]
        exact ih.pruned _ now _
    | len now =>
      rw [hafter]
      exact ih.pruned _ now cache.clock
    | insert key client now =>
      have hstep : (Op.step cache (.insert key client now)).2 = (cache.insert key client now).2 := rfl
      obtain ⟨other, entry, -, -, hinsert⟩ | ⟨hnone, ⟨-, hinsert⟩ | ⟨hmax, hinsert⟩⟩ :=
        insert_cases cache key client now
      · rw [hafter, hstep, hinsert]
        exact ih.used _ now _ _ other
      · rw [hafter, hstep, hinsert]
        exact ih.pruned _ now _
      · have hsize : HashMap.size (cache.pruneExpired now).entries ≤ cache.maxEntries :=
          (size_pruneExpired_le cache now).trans (ih.bounded.trans_eq ih.maxEntries_eq.symm)
        have hroom : ∀ {other found},
            (makeRoom cache.maxEntries (HashMap.size (cache.pruneExpired now).entries)
              (cache.pruneExpired now).entries).lookup other = some found →
              (cache.pruneExpired now).entries.lookup other = some found :=
          fun hfound => lookup_makeRoom hmax hsize hfound
        have hlookup : (cacheAfter maxEntries ttl (.insert key client now :: earlier)).entries.lookup
            key = some ⟨client, now + cache.ttl, (cache.pruneExpired now).tick.tick.clock⟩ := by
          rw [hafter, hstep, hinsert]
          exact AList.lookup_insert _
        refine ⟨?_, ?_, ?_, ?_, ?_⟩
        · rw [hafter, hstep, hinsert]
          exact ih.maxEntries_eq
        · rw [hafter, hstep, hinsert]
          exact ih.ttl_eq
        · rw [hafter, hstep, hinsert, ← ih.maxEntries_eq]
          exact (HashMap.size_insert_le _ _ _).trans (size_makeRoom_lt hmax hsize)
        · rw [hafter, hstep, hinsert]
          intro first entry second found hfirst hsecond horigin
          obtain ⟨rfl, -⟩ | ⟨-, hkept⟩ := HashMap.lookup_insert_eq_some.mp hfirst
          · obtain ⟨rfl, -⟩ | ⟨-, hother⟩ := HashMap.lookup_insert_eq_some.mp hsecond
            · rfl
            · exact absurd horigin.symm (hnone second found (hroom hother))
          · obtain ⟨rfl, -⟩ | ⟨-, hother⟩ := HashMap.lookup_insert_eq_some.mp hsecond
            · exact absurd horigin (hnone first entry (hroom hkept))
            · exact ih.unique first entry second found (lookup_pruneExpired.mp (hroom hkept)).1
                (lookup_pruneExpired.mp (hroom hother)).1 horigin
        · intro other found hfound
          by_cases heq : other = key
          · subst heq
            rw [hlookup] at hfound
            cases hfound
            exact ⟨now, ⟨[], earlier, _, rfl, hlookup, rfl, by rw [ih.ttl_eq]⟩, by rw [ih.ttl_eq]⟩
          · rw [hafter, hstep, hinsert] at hfound
            have hbefore := hroom ((HashMap.lookup_insert_eq_some.mp hfound).resolve_left
              fun h => heq h.1).2
            obtain ⟨time, hstored, htime⟩ := ih.stored other found (lookup_pruneExpired.mp hbefore).1
            exact ⟨time, hstored.cons _, htime⟩

end

/-! Stamps and uses. -/

structure Recent (ops : List (Op Addr Client)) (entries : Entries Addr Client) (clock : UInt64) :
    Prop where
  le_clock : ∀ key entry, entries.lookup key = some entry →
    entry.lastUsed.toNat ≤ clock.toNat
  order : ∀ key entry other found, entries.lookup key = some entry →
    entries.lookup other = some found → key ≠ other →
      entry.lastUsed.toNat < found.lastUsed.toNat ∧
          sinceUse ops other.origin < sinceUse ops key.origin ∨
        found.lastUsed.toNat < entry.lastUsed.toNat ∧
          sinceUse ops key.origin < sinceUse ops other.origin

section

variable {ops : List (Op Addr Client)} {entries entries' : Entries Addr Client}
  {clock clock' : UInt64} {op : Op Addr Client}

omit [DecidableEq Addr] in
theorem sinceUse_cons_of_ne {origin : Origin} (h : op.origin? ≠ some origin) :
    sinceUse (op :: ops) origin = sinceUse ops origin + 1 := by
  rw [sinceUse, List.findIdx_cons, decide_eq_false h]
  rfl

omit [DecidableEq Addr] in
theorem sinceUse_cons_of_eq {origin : Origin} (h : op.origin? = some origin) :
    sinceUse (op :: ops) origin = 0 := by
  rw [sinceUse, List.findIdx_cons, decide_eq_true h]
  rfl

theorem Recent.kept (h : Recent ops entries clock) (hclock : clock.toNat ≤ clock'.toNat)
    (hlookup : ∀ key entry, entries'.lookup key = some entry → entries.lookup key = some entry)
    (hother : ∀ key entry, entries'.lookup key = some entry → op.origin? ≠ some key.origin) :
    Recent (op :: ops) entries' clock' where
  le_clock key entry hentry := (h.le_clock key entry (hlookup key entry hentry)).trans hclock
  order key entry other found hentry hfound hne := by
    rw [sinceUse_cons_of_ne (hother key entry hentry),
      sinceUse_cons_of_ne (hother other found hfound)]
    have horder := h.order key entry other found (hlookup key entry hentry)
      (hlookup other found hfound) hne
    omega

theorem Recent.stamped (h : Recent ops entries clock) (hclock : clock.toNat < clock'.toNat)
    (used : RemoteImageClientKey Addr) (hop : op.origin? = some used.origin)
    (hused : ∀ entry, entries'.lookup used = some entry → entry.lastUsed = clock')
    (hlookup : ∀ key entry, key ≠ used → entries'.lookup key = some entry →
      entries.lookup key = some entry ∧ key.origin ≠ used.origin) :
    Recent (op :: ops) entries' clock' := by
  have hother : ∀ key entry, key ≠ used → entries'.lookup key = some entry →
      sinceUse (op :: ops) key.origin = sinceUse ops key.origin + 1 ∧
        entry.lastUsed.toNat < clock'.toNat := by
    intro key entry hne hentry
    obtain ⟨hbefore, horigin⟩ := hlookup key entry hne hentry
    refine ⟨sinceUse_cons_of_ne ?_, (h.le_clock key entry hbefore).trans_lt hclock⟩
    rw [hop]
    exact fun heq => horigin (Option.some.inj heq).symm
  have hzero : sinceUse (op :: ops) used.origin = 0 := sinceUse_cons_of_eq hop
  refine ⟨fun key entry hentry => ?_, fun key entry other found hentry hfound hne => ?_⟩
  · by_cases heq : key = used
    · subst heq
      exact Nat.le_of_eq (congrArg UInt64.toNat (hused entry hentry))
    · exact Nat.le_of_lt (hother key entry heq hentry).2
  · by_cases hkey : key = used
    · subst hkey
      obtain ⟨hsince, hlt⟩ := hother other found hne.symm hfound
      rw [hused entry hentry, hzero, hsince]
      exact .inr ⟨hlt, Nat.succ_pos _⟩
    · obtain ⟨hsince, hlt⟩ := hother key entry hkey hentry
      by_cases hfoundUsed : other = used
      · subst hfoundUsed
        rw [hused found hfound, hzero, hsince]
        exact .inl ⟨hlt, Nat.succ_pos _⟩
      · rw [hsince, (hother other found hfoundUsed hfound).1]
        have horder := h.order key entry other found (hlookup key entry hkey hentry).1
          (hlookup other found hfoundUsed hfound).1 hne
        omega

end

theorem toNat_clock_le (maxEntries ttl : Nat) (ops : List (Op Addr Client)) :
    (cacheAfter maxEntries ttl ops).clock.toNat ≤ totalTicks ops := by
  induction ops with
  | nil => exact Nat.le_refl 0
  | cons op earlier ih =>
    have htotal : totalTicks (op :: earlier) = op.ticks + totalTicks earlier := rfl
    rw [htotal, cacheAfter]
    generalize cacheAfter maxEntries ttl earlier = cache at ih
    cases op with
    | get origin now =>
      obtain ⟨key, entry, -, -, hget⟩ | ⟨-, hget⟩ := get_cases cache origin now <;>
      · simp only [Op.step, hget, tick, pruneExpired, U64.toNat_saturatingAdd, Op.ticks]
        have hone : UInt64.toNat 1 = 1 := rfl
        omega
    | len now => simpa [Op.step, RemoteImageClientCache.len, pruneExpired, Op.ticks] using ih
    | insert key client now =>
      obtain ⟨other, entry, -, -, hinsert⟩ | ⟨hnone, ⟨-, hinsert⟩ | ⟨hmax, hinsert⟩⟩ :=
        insert_cases cache key client now <;>
      · simp only [Op.step, hinsert, tick, pruneExpired, U64.toNat_saturatingAdd, Op.ticks]
        have hone : UInt64.toNat 1 = 1 := rfl
        omega

theorem lt_saturatingAdd {clock : UInt64} (h : clock.toNat < U64.max.toNat) :
    clock.toNat < (U64.saturatingAdd clock 1).toNat := by
  rw [U64.toNat_saturatingAdd]
  have hone : UInt64.toNat 1 = 1 := rfl
  omega

section

variable {ops : List (Op Addr Client)} {cache : RemoteImageClientCache Addr Client}
  {op : Op Addr Client} {maxEntries ttl : Nat}

theorem Recent.used (h : Recent ops cache.entries cache.clock)
    (hsound : Sound maxEntries ttl ops cache) (hclock : cache.clock.toNat < U64.max.toNat)
    {now : Nat} {key : RemoteImageClientKey Addr} {entry : RemoteImageClientCacheEntry Client}
    (hentry : (cache.pruneExpired now).entries.lookup key = some entry)
    (hop : op.origin? = some key.origin) :
    Recent (op :: ops)
      (use key (U64.saturatingAdd cache.clock 1) (cache.pruneExpired now).entries)
      (U64.saturatingAdd cache.clock 1) := by
  refine h.stamped (lt_saturatingAdd hclock) _ hop (fun found hfound => ?_)
    fun other found hne hfound => ?_
  · obtain ⟨before, -, rfl⟩ := lookup_use hfound
    rw [if_pos rfl]
  · obtain ⟨before, hbefore, rfl⟩ := lookup_use hfound
    rw [if_neg hne]
    refine ⟨(lookup_pruneExpired.mp hbefore).1, fun horigin => hne ?_⟩
    exact hsound.unique other before key entry (lookup_pruneExpired.mp hbefore).1
      (lookup_pruneExpired.mp hentry).1 horigin

theorem Recent.pruned (h : Recent ops cache.entries cache.clock) (now : Nat) {clock : UInt64}
    (hclock : cache.clock.toNat ≤ clock.toNat)
    (hother : ∀ key entry, (cache.pruneExpired now).entries.lookup key = some entry →
      op.origin? ≠ some key.origin) :
    Recent (op :: ops) (cache.pruneExpired now).entries clock :=
  h.kept hclock (fun _ _ hentry => (lookup_pruneExpired.mp hentry).1) hother

end

theorem recent_cacheAfter (maxEntries ttl : Nat) {ops : List (Op Addr Client)}
    (h : totalTicks ops ≤ U64.max.toNat) :
    Recent ops (cacheAfter maxEntries ttl ops).entries (cacheAfter maxEntries ttl ops).clock := by
  induction ops with
  | nil =>
    have hempty : ∀ key entry,
        (∅ : Entries Addr Client).lookup key = some entry → False := fun key entry h => by
      rw [AList.lookup_empty] at h
      cases h
    exact ⟨fun key entry h => (hempty key entry h).elim,
      fun key entry _ _ h => (hempty key entry h).elim⟩
  | cons op earlier ih =>
    have htotal : totalTicks (op :: earlier) = op.ticks + totalTicks earlier := rfl
    rw [htotal] at h
    have hrecent := ih (by omega)
    have hsound := sound_cacheAfter maxEntries ttl earlier
    have hclock := toNat_clock_le maxEntries ttl earlier
    rw [cacheAfter]
    generalize cacheAfter maxEntries ttl earlier = cache at hrecent hsound hclock
    cases op with
    | get origin now =>
      have hlt : cache.clock.toNat < U64.max.toNat := by
        simp only [Op.ticks] at h
        omega
      simp only [Op.step]
      obtain ⟨key, entry, hentry, horigin, hget⟩ | ⟨hnone, hget⟩ := get_cases cache origin now
      · rw [hget]
        exact hrecent.used hsound hlt hentry (congrArg some horigin.symm)
      · rw [hget]
        refine hrecent.pruned now (Nat.le_of_lt (lt_saturatingAdd hlt)) fun key entry hentry heq => ?_
        exact hnone key entry hentry (Option.some.inj heq).symm
    | len now => exact hrecent.pruned now (Nat.le_refl _) fun _ _ _ heq => nomatch heq
    | insert key client now =>
      have hlt : cache.clock.toNat + 1 < U64.max.toNat := by
        simp only [Op.ticks] at h
        omega
      have hfirst : cache.clock.toNat < (U64.saturatingAdd cache.clock 1).toNat :=
        lt_saturatingAdd (by omega)
      simp only [Op.step]
      obtain ⟨other, entry, hentry, horigin, hinsert⟩ | ⟨hnone, ⟨-, hinsert⟩ | ⟨hmax, hinsert⟩⟩ :=
        insert_cases cache key client now
      · rw [hinsert]
        exact hrecent.used hsound (by omega) hentry (congrArg some horigin.symm)
      · rw [hinsert]
        refine hrecent.pruned now (Nat.le_of_lt hfirst) fun other entry hentry heq => ?_
        exact hnone other entry hentry (Option.some.inj heq).symm
      · have hsize : HashMap.size (cache.pruneExpired now).entries ≤ cache.maxEntries :=
          (size_pruneExpired_le cache now).trans
            (hsound.bounded.trans_eq hsound.maxEntries_eq.symm)
        have hone : UInt64.toNat 1 = 1 := rfl
        have hroom : (U64.saturatingAdd cache.clock 1).toNat < U64.max.toNat := by
          rw [U64.toNat_saturatingAdd]
          omega
        have hsecond := lt_saturatingAdd hroom
        rw [hinsert]
        refine hrecent.stamped (hfirst.trans hsecond) key rfl (fun entry hentry => ?_)
          fun other found hne hfound => ?_
        · rw [AList.lookup_insert] at hentry
          cases hentry
          rfl
        · rw [AList.lookup_insert_ne hne] at hfound
          have hbefore := lookup_makeRoom hmax hsize hfound
          exact ⟨(lookup_pruneExpired.mp hbefore).1, hnone other found hbefore⟩

/-! The cache as a whole. -/

section

variable (maxEntries ttl : Nat) (ops : List (Op Addr Client))

def OnePerOrigin : Prop :=
  (cacheAfter maxEntries ttl ops).entries.size ≤ maxEntries ∧
    ∀ key entry other found, (cacheAfter maxEntries ttl ops).entries.lookup key = some entry →
      (cacheAfter maxEntries ttl ops).entries.lookup other = some found →
        key.origin = other.origin → key = other

def IsFresh (origin : Origin) (now : Nat) (client : Client) : Prop :=
  ∃ key time, Stored maxEntries ttl ops key client time ∧ key.origin = origin ∧ now < time + ttl

def HandsOutFresh : Prop :=
  (∀ origin now client, ((cacheAfter maxEntries ttl ops).get origin now).1 = some client →
      IsFresh maxEntries ttl ops origin now client) ∧
    ∀ key client now, ((cacheAfter maxEntries ttl ops).insert key client now).1 = client ∨
      IsFresh maxEntries ttl ops key.origin now
        ((cacheAfter maxEntries ttl ops).insert key client now).1

/-- Of the entries that have not expired, an insertion removes none but the one that was used
least recently. -/
def EvictsLeastRecent : Prop :=
  ∀ key client now evicted entry,
    (cacheAfter maxEntries ttl ops).entries.lookup evicted = some entry →
    now < entry.expiresAt →
    evicted ∉ ((cacheAfter maxEntries ttl ops).insert key client now).2.entries →
    ∀ other found, (cacheAfter maxEntries ttl ops).entries.lookup other = some found →
      now < found.expiresAt → other ≠ evicted →
        sinceUse ops other.origin < sinceUse ops evicted.origin

variable {maxEntries ttl ops}

theorem isFresh_of_lookup {key : RemoteImageClientKey Addr} {now : Nat}
    {entry : RemoteImageClientCacheEntry Client}
    (h : ((cacheAfter maxEntries ttl ops).pruneExpired now).entries.lookup key = some entry) :
    IsFresh maxEntries ttl ops key.origin now entry.client := by
  obtain ⟨hlookup, hexpires⟩ := lookup_pruneExpired.mp h
  obtain ⟨time, hstored, htime⟩ := (sound_cacheAfter maxEntries ttl ops).stored key entry hlookup
  exact ⟨key, time, hstored, rfl, htime ▸ hexpires⟩

theorem handsOutFresh : HandsOutFresh maxEntries ttl ops := by
  refine ⟨fun origin now client hclient => ?_, fun key client now => ?_⟩
  · obtain ⟨key, entry, hentry, rfl, hget⟩ | ⟨-, hget⟩ :=
      get_cases (cacheAfter maxEntries ttl ops) origin now
    · rw [hget] at hclient
      cases hclient
      exact isFresh_of_lookup hentry
    · rw [hget] at hclient
      cases hclient
  · obtain ⟨other, entry, hentry, horigin, hinsert⟩ | ⟨-, ⟨-, hinsert⟩ | ⟨-, hinsert⟩⟩ :=
      insert_cases (cacheAfter maxEntries ttl ops) key client now
    · rw [hinsert, ← horigin]
      exact .inr (isFresh_of_lookup hentry)
    · exact .inl (congrArg Prod.fst hinsert)
    · exact .inl (congrArg Prod.fst hinsert)

theorem evictsLeastRecent (h : totalTicks ops ≤ U64.max.toNat) :
    EvictsLeastRecent maxEntries ttl ops := by
  intro key client now evicted entry hevicted hlive hgone other found hfound hfoundLive hne
  have hsound := sound_cacheAfter maxEntries ttl ops
  have hrecent := recent_cacheAfter maxEntries ttl h
  generalize cacheAfter maxEntries ttl ops = cache at hevicted hgone hfound hsound hrecent
  have hpruned : (cache.pruneExpired now).entries.lookup evicted = some entry :=
    lookup_pruneExpired.mpr ⟨hevicted, hlive⟩
  obtain ⟨used, touched, -, -, hinsert⟩ | ⟨-, ⟨-, hinsert⟩ | ⟨hmax, hinsert⟩⟩ :=
    insert_cases cache key client now
  · have hkept := HashMap.lookup_mapEntries (fun other entry => if other = used then
      { entry with lastUsed := U64.saturatingAdd cache.clock 1 } else entry)
      (cache.pruneExpired now).entries evicted
    rw [hpruned, Option.map_some] at hkept
    rw [hinsert] at hgone
    exact absurd (HashMap.mem_of_lookup hkept) hgone
  · refine absurd ?_ hgone
    rw [hinsert]
    exact HashMap.mem_of_lookup hpruned
  · have hsize : HashMap.size (cache.pruneExpired now).entries ≤ cache.maxEntries :=
      (size_pruneExpired_le cache now).trans
        (hsound.bounded.trans_eq hsound.maxEntries_eq.symm)
    rw [hinsert, AList.mem_insert, not_or] at hgone
    obtain ⟨-, heq⟩ | ⟨oldest, least, hleast, hle, heq, -⟩ := makeRoom_cases hmax hsize
    · rw [heq] at hgone
      exact absurd (HashMap.mem_of_lookup hpruned) hgone.2
    · rw [heq, AList.mem_erase] at hgone
      have holdest : evicted = oldest := by
        by_contra hother
        exact hgone.2 ⟨hother, HashMap.mem_of_lookup hpruned⟩
      subst holdest
      rw [hpruned] at hleast
      cases hleast
      have hstamp := hle other found (lookup_pruneExpired.mpr ⟨hfound, hfoundLive⟩)
      have horder := hrecent.order evicted entry other found hevicted hfound hne.symm
      omega

end

/-- The bounds and the lifetime hold after every run, the order of eviction in every run during
which the clock does not stick. -/
theorem remoteImageClientCache_after (maxEntries ttl : Nat) (ops : List (Op Addr Client)) :
    OnePerOrigin maxEntries ttl ops ∧ HandsOutFresh maxEntries ttl ops ∧
      (totalTicks ops ≤ U64.max.toNat → EvictsLeastRecent maxEntries ttl ops) :=
  ⟨⟨(sound_cacheAfter maxEntries ttl ops).bounded, (sound_cacheAfter maxEntries ttl ops).unique⟩,
    handsOutFresh, evictsLeastRecent⟩

def imageHost (host : String) (octet : Nat) : RemoteImageClientKey Nat := ⟨"https", host, 443, [octet]⟩

def oneAgain : List (Op Nat Nat) :=
  [.get ⟨"https", "one.example", 443⟩ 0, .insert (imageHost "two.example" 2) 2 0,
    .insert (imageHost "one.example" 1) 1 0]

theorem remoteImageClientCache_after_oneAgain :
    imageHost "two.example" 2 ∉
        ((cacheAfter 2 600 oneAgain).insert (imageHost "three.example" 3) 3 0).2.entries ∧
      sinceUse oneAgain (imageHost "one.example" 1).origin <
        sinceUse oneAgain (imageHost "two.example" 2).origin :=
  ⟨by decide, (remoteImageClientCache_after 2 600 oneAgain).2.2 (by decide)
    (imageHost "three.example" 3) 3 0 (imageHost "two.example" 2) ⟨2, 600, 4⟩ rfl (by decide)
    (by decide) (imageHost "one.example" 1) ⟨1, 600, 5⟩ rfl (by decide) (by decide)⟩

/-! A clock that sticks. -/

def twoHosts : Entries Nat Nat :=
  AList.insert (imageHost "two.example" 2) ⟨2, 600, 4⟩
    (AList.insert (imageHost "one.example" 1) ⟨1, 600, 2⟩ ∅)

def waiting (times : Nat) : List (Op Nat Nat) :=
  List.replicate times (.get ⟨"https", "other.example", 443⟩ 0) ++
    [.insert (imageHost "two.example" 2) 2 0, .insert (imageHost "one.example" 1) 1 0]

theorem get_other (clock : UInt64) :
    RemoteImageClientCache.get ⟨"https", "other.example", 443⟩ 0 ⟨twoHosts, 2, 600, clock⟩ =
      (none, ⟨twoHosts, 2, 600, U64.saturatingAdd clock 1⟩) := rfl

theorem cacheAfter_waiting (times : Nat) :
    ∃ clock : UInt64, clock.toNat = min (4 + times) U64.max.toNat ∧
      cacheAfter 2 600 (waiting times) = ⟨twoHosts, 2, 600, clock⟩ := by
  induction times with
  | zero => exact ⟨4, rfl, rfl⟩
  | succ times ih =>
    obtain ⟨clock, hclock, hcache⟩ := ih
    refine ⟨U64.saturatingAdd clock 1, ?_, ?_⟩
    · rw [U64.toNat_saturatingAdd, hclock]
      have hone : UInt64.toNat 1 = 1 := rfl
      omega
    · have hstep : waiting (times + 1) =
          .get ⟨"https", "other.example", 443⟩ 0 :: waiting times := rfl
      rw [hstep, cacheAfter, hcache]
      exact congrArg Prod.snd (get_other clock)

/-- With the clock at its end two uses get the same stamp, and the later one is evicted. -/
theorem not_evictsLeastRecent :
    ¬∀ (maxEntries ttl : Nat) (ops : List (Op Nat Nat)), EvictsLeastRecent maxEntries ttl ops := by
  intro h
  obtain ⟨clock, hclock, hcache⟩ := cacheAfter_waiting (2 ^ 64)
  have hmax : clock = U64.max := UInt64.toNat_inj.mp (hclock.trans (by decide))
  subst hmax
  have hevicts := h 2 600
    (.get ⟨"https", "two.example", 443⟩ 0 :: .get ⟨"https", "one.example", 443⟩ 0 ::
      waiting (2 ^ 64))
  rw [EvictsLeastRecent, cacheAfter, cacheAfter, hcache] at hevicts
  have hless := hevicts (imageHost "three.example" 3) 3 0 (imageHost "two.example" 2)
    ⟨2, 600, U64.max⟩ rfl (by decide) (by decide) (imageHost "one.example" 1) ⟨1, 600, U64.max⟩ rfl
    (by decide) (by decide)
  rw [show sinceUse (_ :: _) (imageHost "two.example" 2).origin = 0 from
    sinceUse_cons_of_eq rfl] at hless
  exact Nat.not_lt_zero _ hless

end Jellyrin.RemoteImage
