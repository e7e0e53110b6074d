import Jellyrin.Defs.SyncPlay.GroupsLaws

/-! What a request does to the groups and participants of others. -/

namespace Jellyrin.SyncPlay

open Transition

variable {timeout : Int} {userOf : String → Uuid} {groups : SyncPlayGroups}

namespace Membership

def now : Membership → Int
  | .new _ _ _ _ now | .join _ _ _ now | .removeSession _ now | .cleanupStale now => now

def requester (userOf : String → Uuid) : Membership → Option Uuid
  | .new user .. | .join user .. => some user.id
  | .removeSession sessionId _ => some (userOf sessionId)
  | .cleanupStale _ => none

def removes (timeout : Int) : Membership → String → SyncPlayParticipant → Bool
  | .new _ token .. | .join _ token .. => isSession token.accessToken
  | .removeSession sessionId _ => isSession sessionId
  | .cleanupStale now => isStale timeout now

end Membership

/-- What a request may not do to a group, given what is under the group's id afterwards:
take out a live participant of another user, drop the state while somebody stays, or
pass the group on while a participant of the owner stays. -/
structure GroupIsolated (timeout : Int) (userOf : String → Uuid) (request : Membership)
    (group : SyncPlayGroup) (after : Option SyncPlayGroup) : Prop where
  participants : ∀ session participant,
    group.participants.lookup session = some participant →
    isStale timeout request.now session participant = false →
    request.requester userOf ≠ some participant.userId →
    ∃ group', after = some group' ∧ group'.participants.lookup session = some participant
  content : ∀ session participant,
    group.participants.lookup session = some participant →
    request.removes timeout session participant = false →
    ∃ group', after = some group' ∧ group'.state = group.state ∧
      group'.commandSequence = group.commandSequence
  owner : ∀ session participant group',
    group.participants.lookup session = some participant →
    request.removes timeout session participant = false →
    participant.userId = group.ownerUserId → after = some group' →
    session ∈ group'.participants → group'.ownerUserId = group.ownerUserId

def Isolated (timeout : Int) (userOf : String → Uuid) (groups : SyncPlayGroups)
    (request : Membership) : Prop :=
  ∀ id group, groups.lookup id = some group →
    GroupIsolated timeout userOf request group ((request.apply timeout groups).lookup id)

/-- If one session of the owner goes and another stays, the participant with the least
session id among those that stay is the owner's. -/
def HandsOver (isRemoved : String → SyncPlayParticipant → Bool) (group : SyncPlayGroup) : Prop :=
  ∀ gone participant stays participant',
    group.participants.lookup gone = some participant → isRemoved gone participant = true →
    participant.userId = group.ownerUserId →
    group.participants.lookup stays = some participant' →
    isRemoved stays participant' = false → participant'.userId = group.ownerUserId →
    ∃ next, BTreeMap.first (group.remaining isRemoved) = some next ∧
      next.userId = group.ownerUserId

/-- Nobody else is in the group but stale participants and sessions of the same user,
and if anybody is, the group is as new. -/
def Overwritable (timeout : Int) (user : User) (token : DeviceToken) (now : Int)
    (group : SyncPlayGroup) : Prop :=
  (∀ session participant, group.participants.lookup session = some participant →
    isStale timeout now session participant = true ∨ participant.userId = user.id) ∧
  ((∃ session ∈ group.participants, session ≠ token.accessToken) →
    group.state = newGroupState ∧ group.commandSequence = 0)

def Harmless (timeout : Int) (groups : SyncPlayGroups) : Membership → Prop
  | .new user token payload freshId now =>
    userCanCreateSyncplayGroup user = true →
      ∀ id group, groups.lookup id = some group →
        if id = syncplayGroupId payload freshId then Overwritable timeout user token now group
        else HandsOver (isSession token.accessToken) group
  | .join user token payload _ =>
    userCanJoinSyncplayGroup user = true →
      ∀ target, (jsonStringAnyField payload ["GroupId", "Id"]).map Json.trim = some target →
        target ∈ groups → ∀ id group, groups.lookup id = some group → id ≠ target →
          HandsOver (isSession token.accessToken) group
  | .removeSession sessionId _ =>
    ∀ id group, groups.lookup id = some group → HandsOver (isSession sessionId) group
  | .cleanupStale now =>
    ∀ id group, groups.lookup id = some group → HandsOver (isStale timeout now) group

theorem GroupIsolated.refl (request : Membership) (group : SyncPlayGroup) :
    GroupIsolated timeout userOf request group (some group) where
  participants _ _ hp _ _ := ⟨group, rfl, hp⟩
  content _ _ _ _ := ⟨group, rfl, rfl, rfl⟩
  owner _ _ group' _ _ _ hafter _ := by rw [Option.some.inj hafter]

theorem removes_eq_false {request : Membership} {session : String}
    {participant : SyncPlayParticipant}
    (hauth : request.authenticated userOf = true) (hsession : participant.userId = userOf session)
    (hlive : isStale timeout request.now session participant = false)
    (hother : request.requester userOf ≠ some participant.userId) :
    request.removes timeout session participant = false := by
  have hne : ∀ sessionId, request.requester userOf = some (userOf sessionId) →
      isSession sessionId session participant = false := by
    intro sessionId hrequester
    simp only [isSession, beq_eq_false_iff_ne]
    rintro rfl
    rw [hsession] at hother
    exact hother hrequester
  cases request with
  | new user token payload freshId now =>
    exact hne token.accessToken (congrArg some (beq_iff_eq.mp hauth))
  | join user token payload now =>
    exact hne token.accessToken (congrArg some (beq_iff_eq.mp hauth))
  | removeSession sessionId now => exact hne sessionId rfl
  | cleanupStale now => exact hlive

variable {group : SyncPlayGroup}

theorem groupIsolated_removeParticipants_iff {request : Membership} {after : Option SyncPlayGroup}
    (now : Int) (hauth : request.authenticated userOf = true)
    (hsession : ∀ session participant, group.participants.lookup session = some participant →
      participant.userId = userOf session) (hafter : ∀ group', after = some group' ↔
      group.removeParticipants (request.removes timeout) now = (group', false)) :
    GroupIsolated timeout userOf request group after ↔
      HandsOver (request.removes timeout) group := by
  have hkept : ∀ session participant, group.participants.lookup session = some participant →
      request.removes timeout session participant = false →
      after = some (group.removeParticipants (request.removes timeout) now).1 := by
    intro session participant hp hstays
    exact (hafter _).mpr (Prod.ext rfl (group.removeParticipants_kept _ _ hp hstays))
  constructor
  · intro h gone participant stays participant' hp hgone howner hp' hstays howner'
    have hsome := hkept stays participant' hp' hstays
    have hmem := (group.lookup_removeParticipants (request.removes timeout) now).mpr ⟨hp', hstays⟩
    have hsame := h.owner stays participant' _ hp' hstays howner' hsome
      (HashMap.mem_of_lookup hmem)
    obtain ⟨hnone, _⟩ | ⟨_, next, hnext, hnew⟩ := group.removeParticipants_owner
      (request.removes timeout) now (group.removeParticipants_kept _ _ hp' hstays)
    · exact absurd howner (hnone gone participant hp hgone)
    · exact ⟨next, hnext, hnew.symm.trans hsame⟩
  · intro h
    refine ⟨fun session participant hp hlive hother => ?_, fun session participant hp hstays => ?_,
      fun session participant group' hp hstays howner hsome _ => ?_⟩
    · have hstays := removes_eq_false hauth (hsession session participant hp) hlive hother
      exact ⟨_, hkept session participant hp hstays,
        (group.lookup_removeParticipants _ _).mpr ⟨hp, hstays⟩⟩
    · exact ⟨_, hkept session participant hp hstays, group.removeParticipants_state _ _,
        group.removeParticipants_commandSequence _ _⟩
    · rw [Option.some.inj (hsome.symm.trans (hkept session participant hp hstays))]
      obtain ⟨_, hsame⟩ | ⟨⟨gone, other, hgone, hremoved, howner'⟩, next, hnext, hnew⟩ :=
        group.removeParticipants_owner (request.removes timeout) now
          (group.removeParticipants_kept _ _ hp hstays)
      · exact hsame
      · obtain ⟨next', hnext', hsame⟩ :=
          h gone other session participant hgone hremoved howner' hp hstays howner
        rw [hnew, Option.some.inj (hnext.symm.trans hnext')]
        exact hsame

variable {token : DeviceToken}

theorem groupIsolated_join {user : User} {payload : Json} {now : Int}
    (huser : user.id = userOf token.accessToken)
    (hsession : ∀ session participant, group.participants.lookup session = some participant →
      participant.userId = userOf session) :
    GroupIsolated timeout userOf (.join user token payload now) group
      (some (group.join user token now)) where
  participants session participant hp _ hother := by
    have hne : participant.userId ≠ user.id := fun hsame => hother (congrArg some hsame.symm)
    refine ⟨_, rfl, mem_insertParticipant.mpr (.inr ⟨?_, hp, .inl hne⟩)⟩
    rintro rfl
    exact hne ((hsession _ participant hp).trans huser.symm)
  content _ _ _ _ := ⟨_, rfl, rfl, rfl⟩
  owner _ _ group' _ _ _ hafter _ := by
    rw [← Option.some.inj hafter]
    rfl

theorem lookup_newGroup {user : User} {payload : Json} {freshId : String} {now : Int}
    {session : String} {participant : SyncPlayParticipant}
    (hp : (syncplayNewGroup user token payload freshId now).participants.lookup session =
      some participant) :
    session = token.accessToken ∧ syncplayParticipant user token now = participant := by
  obtain hnew | ⟨_, hold, _⟩ := mem_insertParticipant.mp hp
  · exact hnew
  · cases hold

theorem groupIsolated_new_iff {user : User} {payload : Json} {freshId : String} {now : Int}
    (huser : user.id = userOf token.accessToken)
    (hsession : ∀ session participant, group.participants.lookup session = some participant →
      participant.userId = userOf session) :
    GroupIsolated timeout userOf (.new user token payload freshId now) group
        (some (syncplayNewGroup user token payload freshId now)) ↔
      Overwritable timeout user token now group := by
  constructor
  · intro h
    refine ⟨fun session participant hp => ?_, fun hothers => ?_⟩
    · by_contra hneither
      rw [not_or, Bool.not_eq_true] at hneither
      have hother : (some user.id : Option Uuid) ≠ some participant.userId :=
        fun hsame => hneither.2 (Option.some.inj hsame).symm
      obtain ⟨group', hgroup', hp'⟩ := h.participants session participant hp hneither.1 hother
      rw [← Option.some.inj hgroup'] at hp'
      obtain ⟨rfl, _⟩ := lookup_newGroup hp'
      exact hneither.2 ((hsession _ participant hp).trans huser.symm)
    · obtain ⟨session, hmem, hne⟩ := hothers
      obtain ⟨participant, hp⟩ := HashMap.exists_lookup_of_mem hmem
      obtain ⟨group', hgroup', hstate, hsequence⟩ :=
        h.content session participant hp (beq_eq_false_iff_ne.mpr hne)
      rw [← Option.some.inj hgroup'] at hstate hsequence
      exact ⟨hstate.symm, hsequence.symm⟩
  · rintro ⟨hparticipants, hcontent⟩
    refine ⟨fun session participant hp hlive hother => ?_, fun session participant hp hstays => ?_,
      fun session participant group' hp hstays _ hafter hmem => ?_⟩
    · obtain hstale | hsame := hparticipants session participant hp
      · rw [show isStale timeout now session participant = false from hlive] at hstale
        cases hstale
      · exact absurd (congrArg some hsame.symm) hother
    · obtain ⟨hstate, hsequence⟩ :=
        hcontent ⟨session, HashMap.mem_of_lookup hp, beq_eq_false_iff_ne.mp hstays⟩
      exact ⟨_, rfl, hstate.symm, hsequence.symm⟩
    · rw [← Option.some.inj hafter] at hmem
      obtain ⟨participant', hp'⟩ := HashMap.exists_lookup_of_mem hmem
      exact absurd (lookup_newGroup hp').1 (beq_eq_false_iff_ne.mp hstays)

namespace Invariant

theorem user_of_lookup (h : Invariant userOf groups) {id : String}
    (hgroup : groups.lookup id = some group) (session : String)
    (participant : SyncPlayParticipant)
    (hp : group.participants.lookup session = some participant) :
    participant.userId = userOf session :=
  (h.session id group session participant hgroup hp).2

theorem lookup_update (h : Invariant userOf groups) {f : SyncPlayGroup → SyncPlayGroup × Bool}
    (hid : ∀ group, (f group).1.id = group.id) {id : String}
    (hgroup : groups.lookup id = some group) (group' : SyncPlayGroup) :
    (updateGroups f groups).lookup id = some group' ↔ f group = (group', false) := by
  rw [lookup_updateGroups h.keyed hid]
  constructor
  · rintro ⟨old, hold, hf⟩
    rw [Option.some.inj (hgroup.symm.trans hold)]
    exact hf
  · exact fun hf => ⟨group, hgroup, hf⟩

theorem lookup_detach (h : Invariant userOf groups) {sessionId : String}
    {exceptGroupId : Option String} {now : Int} {id : String}
    (hgroup : groups.lookup id = some group)
    (hid : ∀ excepted, exceptGroupId = some excepted → id ≠ excepted) (group' : SyncPlayGroup) :
    (syncplayDetachSessionFromGroups groups sessionId exceptGroupId now).lookup id =
        some group' ↔
      group.removeParticipants (isSession sessionId) now = (group', false) := by
  have hother : exceptGroupId.any (group.id == ·) = false := by
    rw [h.keyed id group hgroup]
    cases hexcept : exceptGroupId with
    | none => rfl
    | some excepted => simpa using hid excepted hexcept
  rw [syncplayDetachSessionFromGroups, h.lookup_update (detachGroup_id _ _ _) hgroup, detachGroup,
    hother, if_neg Bool.false_ne_true]

theorem isolated_new_iff (h : Invariant userOf groups) {user : User}
    (huser : user.id = userOf token.accessToken) (payload : Json) (freshId : String) (now : Int) :
    Isolated timeout userOf groups (.new user token payload freshId now) ↔
      Harmless timeout groups (.new user token payload freshId now) := by
  simp only [Isolated, Harmless, Membership.apply, syncplayNew]
  split <;> rename_i haccess
  · simp only [haccess, forall_const]
    refine forall_congr' fun id => forall_congr' fun group => imp_congr_right fun hgroup => ?_
    have hsession := h.user_of_lookup hgroup
    have hkey : (syncplayNewGroup user token payload freshId now).id =
        syncplayGroupId payload freshId := rfl
    rw [hkey]
    split <;> rename_i hid
    · rw [hid, AList.lookup_insert]
      exact groupIsolated_new_iff huser hsession
    · rw [AList.lookup_insert_ne hid]
      refine groupIsolated_removeParticipants_iff now (beq_iff_eq.mpr huser) hsession ?_
      exact h.lookup_detach hgroup fun _ hnone => by cases hnone
  · refine ⟨fun _ hgranted => absurd hgranted haccess, fun _ id group hgroup => ?_⟩
    rw [hgroup]
    exact GroupIsolated.refl _ _

theorem isolated_of_same {request : Membership} (hsame : request.apply timeout groups = groups) :
    Isolated timeout userOf groups request := by
  intro id group hgroup
  rw [hsame, hgroup]
  exact GroupIsolated.refl _ _

theorem isolated_join_iff (h : Invariant userOf groups) {user : User}
    (huser : user.id = userOf token.accessToken) (payload : Json) (now : Int) :
    Isolated timeout userOf groups (.join user token payload now) ↔
      Harmless timeout groups (.join user token payload now) := by
  cases haccess : userCanJoinSyncplayGroup user with
  | false =>
    refine ⟨fun _ hgranted => ?_, fun _ => isolated_of_same ?_⟩
    · rw [haccess] at hgranted
      cases hgranted
    · simp only [Membership.apply, syncplayJoin, haccess, Bool.false_eq_true, if_false]
  | true =>
    simp only [Harmless, haccess, forall_const]
    cases hpayload : jsonStringAnyField payload ["GroupId", "Id"] with
    | none =>
      refine ⟨fun _ target hnone => (by cases hnone), fun _ => isolated_of_same ?_⟩
      simp only [Membership.apply, syncplayJoin, haccess, if_true, hpayload]
    | some groupId =>
      simp only [Option.map_some, Option.some.injEq, forall_eq']
      by_cases hmem : Json.trim groupId ∈ groups
      · obtain ⟨joined, hjoined⟩ := HashMap.exists_lookup_of_mem hmem
        have hkept := h.lookup_detach_except token.accessToken (Json.trim groupId) now
        have happly : (Membership.join user token payload now).apply timeout groups =
            (syncplayDetachSessionFromGroups groups token.accessToken
              (some (Json.trim groupId)) now).insert (Json.trim groupId)
                (joined.join user token now) := by
          simp only [Membership.apply, syncplayJoin, haccess, if_true, hpayload, hmem, hkept,
            hjoined]
        simp only [hmem, forall_const, Isolated, happly]
        refine forall_congr' fun id => forall_congr' fun group => imp_congr_right fun hgroup => ?_
        have hsession := h.user_of_lookup hgroup
        by_cases hid : id = Json.trim groupId
        · subst hid
          rw [AList.lookup_insert, Option.some.inj (hjoined.symm.trans hgroup)]
          exact ⟨fun _ hne => absurd rfl hne, fun _ => groupIsolated_join huser hsession⟩
        · rw [AList.lookup_insert_ne hid]
          simp only [hid, ne_eq, not_false_eq_true, forall_const]
          refine groupIsolated_removeParticipants_iff now (beq_iff_eq.mpr huser)
            hsession ?_
          refine h.lookup_detach hgroup fun excepted hexcepted => ?_
          rw [← Option.some.inj hexcepted]
          exact hid
      · refine ⟨fun _ hfound => absurd hfound hmem, fun _ => isolated_of_same ?_⟩
        simp only [Membership.apply, syncplayJoin, haccess, if_true, hpayload, hmem, if_false]

theorem isolated_iff (h : Invariant userOf groups) {request : Membership}
    (hauth : request.authenticated userOf = true) :
    Isolated timeout userOf groups request ↔ Harmless timeout groups request := by
  cases request with
  | new user token payload freshId now =>
    exact h.isolated_new_iff (beq_iff_eq.mp hauth) payload freshId now
  | join user token payload now => exact h.isolated_join_iff (beq_iff_eq.mp hauth) payload now
  | removeSession sessionId now =>
    refine forall_congr' fun id => forall_congr' fun group => imp_congr_right fun hgroup => ?_
    refine groupIsolated_removeParticipants_iff now rfl (h.user_of_lookup hgroup) ?_
    exact h.lookup_detach hgroup fun _ hnone => by cases hnone
  | cleanupStale now =>
    refine forall_congr' fun id => forall_congr' fun group => imp_congr_right fun hgroup => ?_
    refine groupIsolated_removeParticipants_iff now rfl (h.user_of_lookup hgroup) ?_
    exact h.lookup_update (fun group => group.removeParticipants_id _ _) hgroup

end Invariant

/-- In every reachable state a request leaves the groups and participants of others
alone exactly when it meets the condition. -/
theorem membership_isolated_iff (timeout : Int) (userOf : String → Uuid)
    (h : (syncplay timeout userOf).Reachable groups) (request : Membership)
    (hauth : request.authenticated userOf = true) :
    Isolated timeout userOf groups request ↔ Harmless timeout groups request :=
  (invariant_of_reachable h).isolated_iff hauth

theorem membership_isolated_iff_leave :
    ∃ groups, (syncplay 120 twoUsers).Reachable groups ∧
      (groups.lookup "movies").isSome = true ∧
      (Isolated 120 twoUsers groups (.removeSession "s1" 5) ↔
        Harmless 120 groups (.removeSession "s1" 5)) := by
  obtain ⟨groups, hreachable, hsome⟩ := Machine.exists_of_run (M := syncplay 120 twoUsers)
    (P := fun groups => (groups.lookup "movies").isSome = true)
    [.membership (.new alice ⟨"s1", "tv"⟩ moviesPayload "g1" 0),
      .membership (.join bob ⟨"s2", "phone"⟩ moviesPayload 1)] (by decide)
  exact ⟨groups, hreachable, hsome,
    membership_isolated_iff 120 twoUsers hreachable (.removeSession "s1" 5) rfl⟩

def alicesGroup : SyncPlayGroup := syncplayNewGroup alice ⟨"s1", "tv"⟩ moviesPayload "g1" 0

def sharedGroup : SyncPlayGroup :=
  (alicesGroup.join bob ⟨"s2", "phone"⟩ 1).join alice ⟨"s3", "pc"⟩ 2

/-- Bob creates a group under the id of Alice's, whose participant is gone then; and the
shared group passes from Alice to Bob although her second session stays. -/
theorem membership_not_isolated :
    (∃ groups request, (syncplay 120 twoUsers).Reachable groups ∧
      request.authenticated twoUsers = true ∧ ¬Isolated 120 twoUsers groups request) ∧
    ∃ groups, (syncplay 120 twoUsers).Reachable groups ∧
      ¬Isolated 120 twoUsers groups (.removeSession "s1" 5) := by
  constructor
  · have hreachable : (syncplay 120 twoUsers).Reachable
        ((∅ : SyncPlayGroups).insert "movies" alicesGroup) :=
      Machine.reachable_of_run [.membership (.new alice ⟨"s1", "tv"⟩ moviesPayload "g1" 0)] rfl
    refine ⟨_, .new bob ⟨"s2", "phone"⟩ moviesPayload "g2" 1, hreachable, rfl, fun h => ?_⟩
    obtain ⟨group', hgroup', hp⟩ := (h "movies" alicesGroup rfl).participants "s1"
      (syncplayParticipant alice ⟨"s1", "tv"⟩ 0) rfl rfl (by decide)
    have hafter : some (syncplayNewGroup bob ⟨"s2", "phone"⟩ moviesPayload "g2" 1) =
        some group' := hgroup'
    rw [← Option.some.inj hafter] at hp
    exact absurd hp (by decide)
  · have hreachable : (syncplay 120 twoUsers).Reachable
        ((∅ : SyncPlayGroups).insert "movies" sharedGroup) :=
      Machine.reachable_of_run [.membership (.new alice ⟨"s1", "tv"⟩ moviesPayload "g1" 0),
        .membership (.join bob ⟨"s2", "phone"⟩ moviesPayload 1),
        .membership (.join alice ⟨"s3", "pc"⟩ moviesPayload 2)] rfl
    refine ⟨_, hreachable, fun h => ?_⟩
    have howner := (h "movies" sharedGroup rfl).owner "s3"
      (syncplayParticipant alice ⟨"s3", "pc"⟩ 2)
      (sharedGroup.removeParticipants (isSession "s1") 5).1 rfl rfl rfl rfl (by decide)
    exact absurd howner (by decide)

end Jellyrin.SyncPlay
