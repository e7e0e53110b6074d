import Jellyrin.Defs.Api.ApiError
import Jellyrin.Defs.Data.HashMap
import Jellyrin.Defs.Transcode.HlsLayout
import Mathlib.Data.List.Sort

/-! The bounded registry of live HLS sessions. -/

namespace Jellyrin.LiveTv.Hls

open Api Transcode

abbrev StartId := Nat

inductive Status where | starting | running | completed | failed | stopped
  deriving DecidableEq

/-- `start` names the start that inserted the entry; nothing in the code reads it. -/
structure LiveHlsSessionEntry where
  playSessionId : String
  dedupeKey : String
  channelId : String
  subtitleStreamIndex : Option Int
  outputPath : Path
  userId : Nat
  status : Status
  updatedAt : Int
  start : StartId
  deriving DecidableEq

abbrev Sessions := HashMap String LiveHlsSessionEntry

def liveHlsSessionRegistryMaxEntries : Nat := 4096

def liveHlsSessionIsActive (entry : LiveHlsSessionEntry) : Bool :=
  entry.status == .starting || entry.status == .running

def LiveHlsSessionEntry.isKept (entry : LiveHlsSessionEntry) : Bool :=
  entry.status == .starting || entry.status == .running || entry.status == .completed

def LiveHlsSessionEntry.sessionDir (entry : LiveHlsSessionEntry) : Path :=
  (HlsTranscodeLayout.fromMediaPlaylistPath entry.outputPath).sessionDir

def terminalByAge (registry : Sessions) : List String :=
  let terminal := (registry.entries.map Sigma.snd).filter fun candidate =>
    !liveHlsSessionIsActive candidate
  (terminal.insertionSort fun a b => a.updatedAt ≤ b.updatedAt).map (·.playSessionId)

def evict : List String → Sessions → List LiveHlsSessionEntry × Sessions
  | [], registry => ([], registry)
  | playSessionId :: rest, registry =>
    let (evicted, remaining) := evict rest (registry.erase playSessionId)
    ((registry.lookup playSessionId).toList ++ evicted, remaining)

def requiredEvictions (registry : Sessions) (maxEntries : Nat) : Nat :=
  registry.size + 1 - maxEntries

def evictions (registry : Sessions) (maxEntries : Nat) : List String :=
  (terminalByAge registry).take (requiredEvictions registry maxEntries)

def insertBoundedLiveHlsSession (registry : Sessions) (entry : LiveHlsSessionEntry)
    (maxEntries : Nat) : Except String (List LiveHlsSessionEntry × Sessions) :=
  if maxEntries = 0 then .error "Live HLS session registry is disabled"
  else
    match registry.lookup entry.playSessionId with
    | some existing =>
      if liveHlsSessionIsActive existing then .error "Live HLS session id is already active"
      else .ok ([], registry.insert entry.playSessionId entry)
    | none =>
      if (terminalByAge registry).length < requiredEvictions registry maxEntries then
        .error "Live HLS session registry is full"
      else
        let (evicted, remaining) := evict (evictions registry maxEntries) registry
        .ok (evicted, remaining.insert entry.playSessionId entry)

def registerLiveHlsSession (registry : Sessions) (entry : LiveHlsSessionEntry) :
    Except ApiError (List LiveHlsSessionEntry × Sessions) :=
  match insertBoundedLiveHlsSession registry entry liveHlsSessionRegistryMaxEntries with
  | .error message => .error (.serviceUnavailable message)
  | .ok inserted => .ok inserted

def updateEntry (playSessionId : String) (f : LiveHlsSessionEntry → LiveHlsSessionEntry)
    (registry : Sessions) : Sessions :=
  match registry.lookup playSessionId with
  | some entry => registry.insert playSessionId (f entry)
  | none => registry

theorem lookup_evict {ids : List String} {registry : Sessions} {playSessionId : String}
    {entry : LiveHlsSessionEntry}
    (h : (evict ids registry).2.lookup playSessionId = some entry) :
    playSessionId ∉ ids ∧ registry.lookup playSessionId = some entry := by
  induction ids generalizing registry with
  | nil => exact ⟨List.not_mem_nil, h⟩
  | cons id rest ih =>
    obtain ⟨hrest, herase⟩ := ih h
    obtain ⟨hne, hlookup⟩ := HashMap.lookup_erase_eq_some.mp herase
    refine ⟨?_, hlookup⟩
    intro hmem
    obtain hid | hmem := List.mem_cons.mp hmem
    · exact hne hid
    · exact hrest hmem

theorem mem_evict {ids : List String} {registry : Sessions} {entry : LiveHlsSessionEntry}
    (h : entry ∈ (evict ids registry).1) :
    ∃ playSessionId ∈ ids, registry.lookup playSessionId = some entry := by
  induction ids generalizing registry with
  | nil => cases h
  | cons id rest ih =>
    obtain hid | hrest := List.mem_append.mp h
    · exact ⟨id, .head _, Option.mem_toList.mp hid⟩
    · obtain ⟨key, hkey, herase⟩ := ih hrest
      exact ⟨key, .tail _ hkey, (HashMap.lookup_erase_eq_some.mp herase).2⟩

section

variable {registry registry' : Sessions} {entry : LiveHlsSessionEntry} {maxEntries : Nat}
  {evicted : List LiveHlsSessionEntry}

inductive Registered (registry : Sessions) (entry : LiveHlsSessionEntry) (maxEntries : Nat) :
    List LiveHlsSessionEntry → Sessions → Prop
  | replaced {existing : LiveHlsSessionEntry} :
      registry.lookup entry.playSessionId = some existing →
      liveHlsSessionIsActive existing = false →
      Registered registry entry maxEntries [] (registry.insert entry.playSessionId entry)
  | added : entry.playSessionId ∉ registry →
      Registered registry entry maxEntries (evict (evictions registry maxEntries) registry).1
        ((evict (evictions registry maxEntries) registry).2.insert entry.playSessionId entry)

theorem Registered.of_insert
    (h : insertBoundedLiveHlsSession registry entry maxEntries = .ok (evicted, registry')) :
    Registered registry entry maxEntries evicted registry' := by
  unfold insertBoundedLiveHlsSession at h
  split at h
  · cases h
  · split at h
    · rename_i hlookup
      split at h <;> cases h
      rename_i hactive
      exact .replaced hlookup (Bool.not_eq_true _ ▸ hactive)
    · rename_i hlookup
      dsimp only at h
      split at h <;> cases h
      exact .added (AList.lookup_eq_none.mp hlookup)

theorem Registered.of_register
    (h : registerLiveHlsSession registry entry = .ok (evicted, registry')) :
    Registered registry entry liveHlsSessionRegistryMaxEntries evicted registry' := by
  apply Registered.of_insert
  simp only [registerLiveHlsSession] at h
  split at h
  · cases h
  · rename_i hinsert
    cases h
    exact hinsert

theorem Registered.lookup (h : Registered registry entry maxEntries evicted registry')
    {key : String} {found : LiveHlsSessionEntry} (hlookup : registry'.lookup key = some found) :
    (key = entry.playSessionId ∧ found = entry) ∨
      (key ≠ entry.playSessionId ∧ registry.lookup key = some found ∧
        (evicted ≠ [] → key ∉ evictions registry maxEntries)) := by
  cases h with
  | replaced =>
    obtain ⟨hkey, rfl⟩ | ⟨hne, hfound⟩ := HashMap.lookup_insert_eq_some.mp hlookup
    · exact .inl ⟨hkey, rfl⟩
    · exact .inr ⟨hne, hfound, fun h => absurd rfl h⟩
  | added =>
    obtain ⟨hkey, rfl⟩ | ⟨hne, hremaining⟩ := HashMap.lookup_insert_eq_some.mp hlookup
    · exact .inl ⟨hkey, rfl⟩
    · obtain ⟨hnotin, hfound⟩ := lookup_evict hremaining
      exact .inr ⟨hne, hfound, fun _ => hnotin⟩

theorem Registered.of_mem (h : Registered registry entry maxEntries evicted registry')
    {candidate : LiveHlsSessionEntry} (hmem : candidate ∈ evicted) :
    entry.playSessionId ∉ registry ∧
      ∃ key ∈ evictions registry maxEntries, registry.lookup key = some candidate := by
  cases h with
  | replaced => cases hmem
  | added hnew => exact ⟨hnew, mem_evict hmem⟩

end

theorem lookup_updateEntry {playSessionId key : String}
    {f : LiveHlsSessionEntry → LiveHlsSessionEntry} {registry : Sessions}
    {entry : LiveHlsSessionEntry}
    (h : (updateEntry playSessionId f registry).lookup key = some entry) :
    (key = playSessionId ∧ ∃ before, registry.lookup key = some before ∧ entry = f before) ∨
      (key ≠ playSessionId ∧ registry.lookup key = some entry) := by
  simp only [updateEntry] at h
  split at h
  · rename_i before hbefore
    obtain ⟨hkey, hset⟩ | ⟨hne, hlookup⟩ := HashMap.lookup_insert_eq_some.mp h
    · exact .inl ⟨hkey, before, hkey ▸ hbefore, hset.symm⟩
    · exact .inr ⟨hne, hlookup⟩
  · rename_i hnone
    refine .inr ⟨?_, h⟩
    rintro rfl
    rw [hnone] at h
    cases h

theorem lookup_updateEntry_of_ne {playSessionId key : String} (h : key ≠ playSessionId)
    {f : LiveHlsSessionEntry → LiveHlsSessionEntry} {registry : Sessions} :
    (updateEntry playSessionId f registry).lookup key = registry.lookup key := by
  simp only [updateEntry]
  split
  · exact AList.lookup_insert_ne h
  · rfl

end Jellyrin.LiveTv.Hls
