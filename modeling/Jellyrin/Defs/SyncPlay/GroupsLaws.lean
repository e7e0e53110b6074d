import Jellyrin.Defs.SyncPlay.Groups

/-! What every reachable map of SyncPlay groups satisfies. -/

namespace Jellyrin.SyncPlay

open Api Transition

variable {timeout : Int} {userOf : String → Uuid}

variable {session : String} {participant : SyncPlayParticipant}

namespace SyncPlayGroup

def HasOwner (group : SyncPlayGroup) : Prop :=
  ∃ session participant, group.participants.lookup session = some participant ∧
    participant.userId = group.ownerUserId

variable (isRemoved : String → SyncPlayParticipant → Bool) (now : Int) (group : SyncPlayGroup)

def remaining : BTreeMap String SyncPlayParticipant :=
  group.participants.retain fun session participant => !isRemoved session participant

theorem lookup_remaining :
    (group.remaining isRemoved).lookup session = some participant ↔
      group.participants.lookup session = some participant ∧
        isRemoved session participant = false := by
  rw [remaining, HashMap.lookup_retain, Bool.not_eq_true']

@[simp] theorem removeParticipants_id :
    (group.removeParticipants isRemoved now).1.id = group.id := by
  simp only [removeParticipants]
  split
  · split <;> rfl
  · rfl

@[simp] theorem removeParticipants_state :
    (group.removeParticipants isRemoved now).1.state = group.state := by
  simp only [removeParticipants]
  split
  · split <;> rfl
  · rfl

@[simp] theorem removeParticipants_commandSequence :
    (group.removeParticipants isRemoved now).1.commandSequence = group.commandSequence := by
  simp only [removeParticipants]
  split
  · split <;> rfl
  · rfl

theorem any_eq_false_iff {p : String → SyncPlayParticipant → Bool} :
    group.participants.any p = false ↔
      ∀ session participant, group.participants.lookup session = some participant →
        p session participant = false := by
  rw [← Bool.not_eq_true, HashMap.any_eq_true]
  constructor
  · intro h session participant hp
    rw [← Bool.not_eq_true]
    exact fun hremoved => h ⟨session, participant, hp, hremoved⟩
  · rintro h ⟨session, participant, hp, hremoved⟩
    rw [h session participant hp] at hremoved
    cases hremoved

theorem lookup_removeParticipants :
    (group.removeParticipants isRemoved now).1.participants.lookup session = some participant ↔
      group.participants.lookup session = some participant ∧
        isRemoved session participant = false := by
  rw [← lookup_remaining]
  simp only [removeParticipants]
  split
  · split <;> rfl
  · rename_i hnone
    rw [lookup_remaining]
    have hall := (group.any_eq_false_iff).mp (by simpa using hnone)
    exact ⟨fun h => ⟨h, hall session participant h⟩, fun h => h.1⟩

theorem removeParticipants_kept (h : group.participants.lookup session = some participant)
    (hkept : isRemoved session participant = false) :
    (group.removeParticipants isRemoved now).2 = false := by
  simp only [removeParticipants]
  split
  · rw [if_neg]
    intro hempty
    have hmem := HashMap.mem_of_lookup ((group.lookup_remaining isRemoved).mpr ⟨h, hkept⟩)
    exact HashMap.isEmpty_iff.mp hempty session hmem
  · rfl

theorem removeParticipants_owner (hkept : (group.removeParticipants isRemoved now).2 = false) :
    (∀ session participant, group.participants.lookup session = some participant →
        isRemoved session participant = true → participant.userId ≠ group.ownerUserId) ∧
      (group.removeParticipants isRemoved now).1.ownerUserId = group.ownerUserId ∨
    (∃ session participant, group.participants.lookup session = some participant ∧
        isRemoved session participant = true ∧ participant.userId = group.ownerUserId) ∧
      ∃ next, BTreeMap.first (group.remaining isRemoved) = some next ∧
        (group.removeParticipants isRemoved now).1.ownerUserId = next.userId := by
  simp only [removeParticipants] at hkept ⊢
  split at hkept <;> rename_i hany
  · rw [if_pos hany]
    split at hkept <;> rename_i hempty
    · cases hkept
    · rw [if_neg hempty]
      obtain ⟨next, hnext⟩ := BTreeMap.exists_first (by simpa using hempty)
      split <;> rename_i howner
      · obtain ⟨session, participant, hp, hboth⟩ := HashMap.any_eq_true.mp howner
        rw [Bool.and_eq_true, beq_iff_eq] at hboth
        refine .inr ⟨⟨session, participant, hp, hboth⟩, next, hnext, ?_⟩
        rw [hnext]
        rfl
      · refine .inl ⟨fun session participant hp hremoved hsame => howner ?_, rfl⟩
        refine HashMap.any_eq_true.mpr ⟨session, participant, hp, ?_⟩
        rw [hremoved, hsame, beq_self_eq_true, Bool.and_self]
  · rw [if_neg hany]
    refine .inl ⟨fun session participant hp hremoved => ?_, rfl⟩
    exact absurd (HashMap.any_eq_true.mpr ⟨session, participant, hp, hremoved⟩) hany

theorem hasOwner_removeParticipants (h : group.HasOwner)
    (hkept : (group.removeParticipants isRemoved now).2 = false) :
    (group.removeParticipants isRemoved now).1.HasOwner := by
  obtain ⟨session, participant, hp, howner⟩ := h
  obtain ⟨hnone, hsame⟩ | ⟨_, next, hnext, hsame⟩ := group.removeParticipants_owner _ _ hkept
  · refine ⟨session, participant, ?_, by rw [hsame]; exact howner⟩
    rw [lookup_removeParticipants]
    refine ⟨hp, ?_⟩
    rw [← Bool.not_eq_true]
    exact fun hremoved => hnone session participant hp hremoved howner
  · obtain ⟨other, hother⟩ := BTreeMap.exists_lookup_of_first hnext
    refine ⟨other, next, ?_, hsame.symm⟩
    rw [lookup_removeParticipants, ← lookup_remaining]
    exact hother

end SyncPlayGroup

def Keyed (groups : SyncPlayGroups) : Prop :=
  ∀ id group, groups.lookup id = some group → group.id = id

theorem lookup_updateGroups {f : SyncPlayGroup → SyncPlayGroup × Bool} {groups : SyncPlayGroups}
    (hkeyed : Keyed groups) (hid : ∀ group, (f group).1.id = group.id) {id : String}
    {group : SyncPlayGroup} :
    (updateGroups f groups).lookup id = some group ↔
      ∃ old, groups.lookup id = some old ∧ f old = (group, false) := by
  have hempty : ∀ old, groups.lookup id = some old →
      ((id ∈ groups.entries.filterMap fun entry =>
        if (f entry.2).2 then some (f entry.2).1.id else none) ↔ (f old).2 = true) := by
    intro old hold
    rw [List.mem_filterMap]
    constructor
    · rintro ⟨entry, hentry, hsome⟩
      split at hsome
      · rename_i hleft
        cases hsome
        have hlookup := HashMap.mem_entries_iff.mp hentry
        rw [hid, hkeyed _ _ hlookup] at hold
        rw [Option.some.inj (hold.symm.trans hlookup)]
        exact hleft
      · cases hsome
    · intro hleft
      refine ⟨⟨id, old⟩, HashMap.mem_entries_iff.mpr hold, ?_⟩
      rw [if_pos hleft, hid, hkeyed id old hold]
  rw [updateGroups, HashMap.lookup_eraseAll_eq_some, HashMap.lookup_mapValues,
    Option.map_eq_some_iff]
  constructor
  · rintro ⟨hnot, old, hold, hnew⟩
    rw [hempty old hold, Bool.not_eq_true] at hnot
    exact ⟨old, hold, Prod.ext hnew hnot⟩
  · rintro ⟨old, hold, hnew⟩
    refine ⟨?_, old, hold, congrArg Prod.fst hnew⟩
    rw [hempty old hold, hnew]
    exact Bool.false_ne_true

/-- A session belongs to the user of its access token and to one group at most, and
every group has a participant of its owner. -/
structure Invariant (userOf : String → Uuid) (groups : SyncPlayGroups) : Prop where
  keyed : Keyed groups
  session : ∀ id group session participant, groups.lookup id = some group →
    group.participants.lookup session = some participant →
    participant.sessionId = session ∧ participant.userId = userOf session
  unique : ∀ id id' group group' session, groups.lookup id = some group →
    groups.lookup id' = some group' → session ∈ group.participants →
    session ∈ group'.participants → id = id'
  owner : ∀ id group, groups.lookup id = some group → group.HasOwner

structure Derives (group group' : SyncPlayGroup) : Prop where
  id : group'.id = group.id
  participants : ∀ session participant',
    group'.participants.lookup session = some participant' →
    ∃ participant, group.participants.lookup session = some participant ∧
      participant'.userId = participant.userId ∧ participant'.sessionId = participant.sessionId
  owner : group.HasOwner → group'.HasOwner

theorem Derives.refl (group : SyncPlayGroup) : Derives group group :=
  ⟨rfl, fun _ participant h => ⟨participant, h, rfl, rfl⟩, fun h => h⟩

theorem Derives.mem {group group' : SyncPlayGroup} (h : Derives group group')
    (hmem : session ∈ group'.participants) : session ∈ group.participants := by
  obtain ⟨participant', hp'⟩ := HashMap.exists_lookup_of_mem hmem
  obtain ⟨participant, hp, _⟩ := h.participants session participant' hp'
  exact HashMap.mem_of_lookup hp

namespace Invariant

variable {groups groups' : SyncPlayGroups}

theorem derive (h : Invariant userOf groups)
    (hgroups : ∀ id group', groups'.lookup id = some group' →
      ∃ group, groups.lookup id = some group ∧ Derives group group') :
    Invariant userOf groups' where
  keyed id group' hgroup' := by
    obtain ⟨group, hgroup, hderives⟩ := hgroups id group' hgroup'
    rw [hderives.id]
    exact h.keyed id group hgroup
  session id group' session participant' hgroup' hp' := by
    obtain ⟨group, hgroup, hderives⟩ := hgroups id group' hgroup'
    obtain ⟨participant, hp, huser, hsession⟩ := hderives.participants session participant' hp'
    rw [huser, hsession]
    exact h.session id group session participant hgroup hp
  unique id id' group' other' session hgroup' hother' hmem hmem' := by
    obtain ⟨group, hgroup, hderives⟩ := hgroups id group' hgroup'
    obtain ⟨other, hother, hderives'⟩ := hgroups id' other' hother'
    exact h.unique id id' group other session hgroup hother (hderives.mem hmem)
      (hderives'.mem hmem')
  owner id group' hgroup' := by
    obtain ⟨group, hgroup, hderives⟩ := hgroups id group' hgroup'
    exact hderives.owner (h.owner id group hgroup)

theorem insert (h : Invariant userOf groups) {group : SyncPlayGroup}
    (hsession : ∀ session participant, group.participants.lookup session = some participant →
      participant.sessionId = session ∧ participant.userId = userOf session)
    (hunique : ∀ id other session, groups.lookup id = some other → id ≠ group.id →
      session ∈ group.participants → session ∉ other.participants)
    (howner : group.HasOwner) : Invariant userOf (groups.insert group.id group) where
  keyed id other hother := by
    obtain ⟨rfl, rfl⟩ | ⟨_, hother⟩ := HashMap.lookup_insert_eq_some.mp hother
    · rfl
    · exact h.keyed id other hother
  session id other session participant hother hp := by
    obtain ⟨_, rfl⟩ | ⟨_, hother⟩ := HashMap.lookup_insert_eq_some.mp hother
    · exact hsession session participant hp
    · exact h.session id other session participant hother hp
  unique id id' other other' session hother hother' hmem hmem' := by
    obtain ⟨rfl, rfl⟩ | ⟨hne, hother⟩ := HashMap.lookup_insert_eq_some.mp hother
    · obtain ⟨rfl, _⟩ | ⟨hne', hother'⟩ := HashMap.lookup_insert_eq_some.mp hother'
      · rfl
      · exact absurd hmem' (hunique id' other' session hother' hne' hmem)
    · obtain ⟨rfl, rfl⟩ | ⟨_, hother'⟩ := HashMap.lookup_insert_eq_some.mp hother'
      · exact absurd hmem (hunique id other session hother hne hmem')
      · exact h.unique id id' other other' session hother hother' hmem hmem'
  owner id other hother := by
    obtain ⟨_, rfl⟩ | ⟨_, hother⟩ := HashMap.lookup_insert_eq_some.mp hother
    · exact howner
    · exact h.owner id other hother

end Invariant

theorem derives_removeParticipants (isRemoved : String → SyncPlayParticipant → Bool) (now : Int)
    (group : SyncPlayGroup) (hkept : (group.removeParticipants isRemoved now).2 = false) :
    Derives group (group.removeParticipants isRemoved now).1 where
  id := group.removeParticipants_id isRemoved now
  participants _ participant h :=
    ⟨participant, ((group.lookup_removeParticipants isRemoved now).mp h).1, rfl, rfl⟩
  owner h := group.hasOwner_removeParticipants isRemoved now h hkept

theorem detachGroup_id (sessionId : String) (exceptGroupId : Option String) (now : Int)
    (group : SyncPlayGroup) :
    (detachGroup sessionId exceptGroupId now group).1.id = group.id := by
  simp only [detachGroup]
  split
  · rfl
  · exact group.removeParticipants_id _ _

theorem derives_detachGroup (sessionId : String) (exceptGroupId : Option String) (now : Int)
    (group : SyncPlayGroup)
    (hkept : (detachGroup sessionId exceptGroupId now group).2 = false) :
    Derives group (detachGroup sessionId exceptGroupId now group).1 := by
  simp only [detachGroup] at hkept ⊢
  split
  · exact Derives.refl group
  · rename_i hother
    rw [if_neg hother] at hkept
    exact derives_removeParticipants _ _ _ hkept

theorem mem_insertParticipant {participants : BTreeMap String SyncPlayParticipant}
    {other : SyncPlayParticipant} :
    (syncplayInsertParticipant participants participant).lookup session = some other ↔
      session = participant.sessionId ∧ participant = other ∨
      session ≠ participant.sessionId ∧ participants.lookup session = some other ∧
        (other.userId ≠ participant.userId ∨ other.deviceId ≠ participant.deviceId) := by
  rw [syncplayInsertParticipant, HashMap.lookup_insert_eq_some]
  refine or_congr_right (and_congr_right fun hne => ?_)
  rw [HashMap.lookup_retain]
  simp [hne]

namespace Invariant

variable {groups : SyncPlayGroups}

theorem update (h : Invariant userOf groups) {f : SyncPlayGroup → SyncPlayGroup × Bool}
    (hid : ∀ group, (f group).1.id = group.id)
    (hderives : ∀ group, (f group).2 = false → Derives group (f group).1) :
    Invariant userOf (updateGroups f groups) := by
  refine h.derive fun id group' hgroup' => ?_
  obtain ⟨group, hgroup, hf⟩ := (lookup_updateGroups h.keyed hid).mp hgroup'
  have hkept : Derives group (f group).1 := hderives group (by rw [hf])
  rw [hf] at hkept
  exact ⟨group, hgroup, hkept⟩

theorem cleanup (h : Invariant userOf groups) (timeout now : Int) :
    Invariant userOf (syncplayCleanupStaleParticipants timeout groups now) :=
  h.update (fun group => group.removeParticipants_id _ _)
    fun group => derives_removeParticipants _ _ group

theorem detach (h : Invariant userOf groups) (sessionId : String)
    (exceptGroupId : Option String) (now : Int) :
    Invariant userOf (syncplayDetachSessionFromGroups groups sessionId exceptGroupId now) :=
  h.update (detachGroup_id sessionId exceptGroupId now)
    (derives_detachGroup sessionId exceptGroupId now)

theorem notMem_of_detach (h : Invariant userOf groups) {sessionId : String}
    {exceptGroupId : Option String} {now : Int} {id : String} {group : SyncPlayGroup}
    (hgroup : (syncplayDetachSessionFromGroups groups sessionId exceptGroupId now).lookup id =
      some group) (hid : ∀ excepted, exceptGroupId = some excepted → id ≠ excepted) :
    sessionId ∉ group.participants := by
  obtain ⟨old, hold, hf⟩ := (lookup_updateGroups h.keyed
    (detachGroup_id sessionId exceptGroupId now)).mp hgroup
  have hother : exceptGroupId.any (old.id == ·) = false := by
    rw [h.keyed id old hold]
    cases hexcept : exceptGroupId with
    | none => rfl
    | some excepted => simpa using hid excepted hexcept
  simp only [detachGroup, hother, Bool.false_eq_true, if_false] at hf
  intro hmem
  obtain ⟨participant, hp⟩ := HashMap.exists_lookup_of_mem hmem
  have hgone : (old.removeParticipants (isSession sessionId) now).1.participants.lookup sessionId =
      some participant := by
    rw [hf]
    exact hp
  have hnot := ((old.lookup_removeParticipants _ _).mp hgone).2
  simp [isSession] at hnot

theorem new (h : Invariant userOf groups) {user : User} {token : DeviceToken}
    (huser : user.id = userOf token.accessToken) (payload : Json) (freshId : String) (now : Int) :
    Invariant userOf (syncplayNew groups user token payload freshId now).2 := by
  simp only [syncplayNew]
  split
  · have hdetached := h.detach token.accessToken none now
    have hparticipants : ∀ session participant,
        (syncplayNewGroup user token payload freshId now).participants.lookup session =
          some participant →
        session = token.accessToken ∧ syncplayParticipant user token now = participant := by
      intro session participant hp
      obtain hnew | ⟨_, hold, _⟩ := mem_insertParticipant.mp hp
      · exact hnew
      · cases hold
    refine hdetached.insert ?_ ?_ ?_
    · intro session participant hp
      obtain ⟨rfl, rfl⟩ := hparticipants session participant hp
      exact ⟨rfl, huser⟩
    · intro id other session hother _ hmem
      obtain ⟨participant, hp⟩ := HashMap.exists_lookup_of_mem hmem
      rw [(hparticipants session participant hp).1]
      exact h.notMem_of_detach hother fun _ hnone => by cases hnone
    · refine ⟨token.accessToken, syncplayParticipant user token now, ?_, rfl⟩
      exact mem_insertParticipant.mpr (.inl ⟨rfl, rfl⟩)
  · exact h

theorem hasOwner_join (h : Invariant userOf groups) {user : User} {token : DeviceToken}
    (huser : user.id = userOf token.accessToken) {id : String} {group : SyncPlayGroup}
    (hgroup : groups.lookup id = some group) (now : Int) :
    (group.join user token now).HasOwner := by
  obtain ⟨session, participant, hp, howner⟩ := h.owner id group hgroup
  by_cases hsame : participant.userId = user.id
  · refine ⟨token.accessToken, syncplayParticipant user token now, ?_, ?_⟩
    · exact mem_insertParticipant.mpr (.inl ⟨rfl, rfl⟩)
    · exact hsame.symm.trans howner
  · refine ⟨session, participant, ?_, howner⟩
    refine mem_insertParticipant.mpr (.inr ⟨?_, hp, .inl hsame⟩)
    rintro rfl
    exact hsame ((h.session id group _ participant hgroup hp).2.trans huser.symm)

theorem lookup_detach_except (h : Invariant userOf groups) (sessionId id : String) (now : Int) :
    (syncplayDetachSessionFromGroups groups sessionId (some id) now).lookup id =
      groups.lookup id := by
  have hsame : ∀ group, groups.lookup id = some group →
      detachGroup sessionId (some id) now group = (group, false) := by
    intro group hgroup
    simp [detachGroup, h.keyed id group hgroup]
  apply Option.ext
  intro group
  rw [syncplayDetachSessionFromGroups, lookup_updateGroups h.keyed
    (detachGroup_id sessionId (some id) now)]
  constructor
  · rintro ⟨old, hold, hf⟩
    have hself := (hsame old hold).symm.trans hf
    cases hself
    exact hold
  · exact fun hgroup => ⟨group, hgroup, hsame group hgroup⟩

theorem syncplayJoin_cases (h : Invariant userOf groups) (user : User) (token : DeviceToken)
    (payload : Json) (now : Int) :
    (syncplayJoin groups user token payload now).2 = groups ∨
      ∃ groupId group, groups.lookup groupId = some group ∧
        (syncplayJoin groups user token payload now).2 =
          (syncplayDetachSessionFromGroups groups token.accessToken (some groupId) now).insert
            groupId (group.join user token now) := by
  simp only [syncplayJoin]
  split
  · split
    · exact .inl rfl
    · rename_i groupId _
      have hkept := h.lookup_detach_except token.accessToken (Json.trim groupId) now
      split
      · rename_i hmem
        obtain ⟨group, hgroup⟩ := HashMap.exists_lookup_of_mem hmem
        rw [hkept, hgroup]
        exact .inr ⟨Json.trim groupId, group, hgroup, rfl⟩
      · exact .inl rfl
  · exact .inl rfl

theorem joinGroup (h : Invariant userOf groups) {user : User} {token : DeviceToken}
    (huser : user.id = userOf token.accessToken) {groupId : String} {group : SyncPlayGroup}
    (hgroup : groups.lookup groupId = some group) (now : Int) :
    Invariant userOf
      ((syncplayDetachSessionFromGroups groups token.accessToken (some groupId) now).insert
        groupId (group.join user token now)) := by
  obtain rfl : group.id = groupId := h.keyed groupId group hgroup
  have hdetached := h.detach token.accessToken (some group.id) now
  have hkept := h.lookup_detach_except token.accessToken group.id now
  refine hdetached.insert ?_ ?_ (h.hasOwner_join huser hgroup now)
  · intro session participant hp
    obtain ⟨rfl, rfl⟩ | ⟨_, hold, _⟩ := mem_insertParticipant.mp hp
    · exact ⟨rfl, huser⟩
    · exact h.session _ group session participant hgroup hold
  · intro id other session hother hne hmem hmem'
    obtain ⟨participant, hp⟩ := HashMap.exists_lookup_of_mem hmem
    obtain ⟨rfl, _⟩ | ⟨_, hold, _⟩ := mem_insertParticipant.mp hp
    · refine h.notMem_of_detach hother ?_ hmem'
      intro excepted hexcepted
      rw [← Option.some.inj hexcepted]
      exact hne
    · have hjoined := hkept.trans hgroup
      exact hne (hdetached.unique id group.id other group session hother hjoined hmem'
        (HashMap.mem_of_lookup hold))

theorem join (h : Invariant userOf groups) {user : User} {token : DeviceToken}
    (huser : user.id = userOf token.accessToken) (payload : Json) (now : Int) :
    Invariant userOf (syncplayJoin groups user token payload now).2 := by
  obtain hrefused | ⟨groupId, group, hgroup, hjoined⟩ :=
    h.syncplayJoin_cases user token payload now
  · rw [hrefused]
    exact h
  · rw [hjoined]
    exact h.joinGroup huser hgroup now

end Invariant

theorem derives_of_replace {group group' : SyncPlayGroup} {sessionId : String}
    (participant' : SyncPlayParticipant) (hid : group'.id = group.id)
    (howner : group'.ownerUserId = group.ownerUserId)
    (hp : group.participants.lookup sessionId = some participant)
    (huser : participant'.userId = participant.userId)
    (hsession : participant'.sessionId = participant.sessionId)
    (hparticipants : group'.participants = group.participants.insert sessionId participant') :
    Derives group group' where
  id := hid
  participants session other hother := by
    rw [hparticipants] at hother
    obtain ⟨rfl, rfl⟩ | ⟨_, hother⟩ := HashMap.lookup_insert_eq_some.mp hother
    · exact ⟨participant, hp, huser, hsession⟩
    · exact ⟨other, hother, rfl, rfl⟩
  owner := by
    rintro ⟨session, other, hother, hsame⟩
    by_cases hsession : session = sessionId
    · subst hsession
      refine ⟨session, participant', ?_, ?_⟩
      · rw [hparticipants]
        exact AList.lookup_insert _
      · rw [howner, huser, Option.some.inj (hp.symm.trans hother)]
        exact hsame
    · refine ⟨session, other, ?_, by rw [howner]; exact hsame⟩
      rw [hparticipants, AList.lookup_insert_ne hsession]
      exact hother

theorem syncplayApplyParticipantCommand_same (participant : SyncPlayParticipant)
    (command : String) (payload : Json) (now : Int) :
    (syncplayApplyParticipantCommand participant command payload now).userId =
        participant.userId ∧
      (syncplayApplyParticipantCommand participant command payload now).sessionId =
        participant.sessionId := by
  simp only [syncplayApplyParticipantCommand]
  split <;> exact ⟨rfl, rfl⟩

namespace Invariant

variable {groups groups' : SyncPlayGroups}

theorem ping (h : Invariant userOf groups) (sessionId : String) (now : Int) :
    Invariant userOf (syncplayPing groups sessionId now) := by
  refine h.derive fun id group' hgroup' => ?_
  rw [syncplayPing, HashMap.lookup_mapValues, Option.map_eq_some_iff] at hgroup'
  obtain ⟨group, hgroup, rfl⟩ := hgroup'
  refine ⟨group, hgroup, ?_⟩
  split
  · rename_i participant hp
    exact derives_of_replace { participant with lastSeenAt := now } rfl rfl hp rfl rfl rfl
  · exact Derives.refl group

theorem command (h : Invariant userOf groups) {groupId sessionId : String} {group : SyncPlayGroup}
    (hgroup : groups.lookup groupId = some group)
    (hp : group.participants.lookup sessionId = some participant) (command : String)
    (payload state : Json) (now : Int) :
    Invariant userOf
      (groups.insert groupId (group.command sessionId participant command payload state now)) := by
  have hsame := syncplayApplyParticipantCommand_same participant command payload now
  have hderives : Derives group (group.command sessionId participant command payload state now) :=
    derives_of_replace _ rfl rfl hp hsame.1 hsame.2 rfl
  refine h.derive fun id other hother => ?_
  obtain ⟨rfl, rfl⟩ | ⟨_, hother⟩ := HashMap.lookup_insert_eq_some.mp hother
  · exact ⟨group, hgroup, hderives⟩
  · exact ⟨other, hother, Derives.refl other⟩

theorem apply (h : Invariant userOf groups) {request : Membership}
    (hauth : request.authenticated userOf = true) :
    Invariant userOf (request.apply timeout groups) := by
  cases request with
  | new user token payload freshId now => exact h.new (beq_iff_eq.mp hauth) payload freshId now
  | join user token payload now => exact h.join (beq_iff_eq.mp hauth) payload now
  | removeSession sessionId now => exact h.detach sessionId none now
  | cleanupStale now => exact h.cleanup timeout now

theorem step (h : Invariant userOf groups) {action : Action}
    (ha : step timeout userOf groups action = some groups') : Invariant userOf groups' := by
  cases action with
  | membership request =>
    simp only [SyncPlay.step] at ha
    split at ha
    · cases ha
      exact h.apply ‹_›
    · cases ha
  | ping sessionId now =>
    cases ha
    exact h.ping sessionId now
  | command groupId sessionId command payload state now =>
    simp only [SyncPlay.step] at ha
    split at ha
    · rename_i group hgroup
      split at ha
      · rename_i participant hp
        cases ha
        exact h.command hgroup hp command payload state now
      · cases ha
    · cases ha

end Invariant

theorem invariant_of_reachable {groups : SyncPlayGroups}
    (h : (syncplay timeout userOf).Reachable groups) : Invariant userOf groups := by
  refine h.invariant ?_ fun groups action groups' hs ha => hs.step ha
  constructor
  · intro id group hgroup
    cases hgroup
  · intro id group session participant hgroup
    cases hgroup
  · intro id id' group group' session hgroup
    cases hgroup
  · intro id group hgroup
    cases hgroup

/-- In every reachable state a session takes part in at most one group, no group is
empty, every group is stored under its own id, and the owner of a group is the user of
one of its participants. -/
theorem syncplay_groups_wellFormed (timeout : Int) (userOf : String → Uuid)
    {groups : SyncPlayGroups} (h : (syncplay timeout userOf).Reachable groups) :
    (∀ id id' group group' session, groups.lookup id = some group →
      groups.lookup id' = some group' → session ∈ group.participants →
      session ∈ group'.participants → id = id') ∧
    (∀ id group, groups.lookup id = some group → group.participants.isEmpty = false) ∧
    (∀ id group, groups.lookup id = some group → group.id = id) ∧
    ∀ id group, groups.lookup id = some group →
      ∃ session participant, group.participants.lookup session = some participant ∧
        participant.userId = group.ownerUserId := by
  have hinv := invariant_of_reachable h
  refine ⟨hinv.unique, fun id group hgroup => ?_, hinv.keyed, hinv.owner⟩
  obtain ⟨session, participant, hp, _⟩ := hinv.owner id group hgroup
  exact HashMap.isEmpty_eq_false_of_mem (HashMap.mem_of_lookup hp)

def twoUsers (session : String) : Uuid := if session = "s2" then 2 else 1

def alice : User := ⟨1, "alice", "CreateAndJoinGroups"⟩

def bob : User := ⟨2, "bob", "createandjoingroups"⟩

def moviesPayload : Json := .object [("GroupId", .string " movies ")]

/-- The owner leaves, and the group passes to the participant that remains. -/
theorem syncplay_groups_wellFormed_handOver :
    ∃ groups, (syncplay 120 twoUsers).Reachable groups ∧
      (groups.lookup "movies").any (fun group => group.ownerUserId == 2) = true ∧
      ∀ id group, groups.lookup id = some group →
        ∃ session participant, group.participants.lookup session = some participant ∧
          participant.userId = group.ownerUserId := by
  obtain ⟨groups, hreachable, howner⟩ := Machine.exists_of_run (M := syncplay 120 twoUsers)
    (P := fun groups => (groups.lookup "movies").any (fun group => group.ownerUserId == 2) = true)
    [.membership (.new alice ⟨"s1", "tv"⟩ moviesPayload "g1" 0),
      .membership (.join bob ⟨"s2", "phone"⟩ moviesPayload 1),
      .membership (.removeSession "s1" 2)] (by decide)
  exact ⟨groups, hreachable, howner,
    (syncplay_groups_wellFormed 120 twoUsers hreachable).2.2.2⟩

end Jellyrin.SyncPlay
