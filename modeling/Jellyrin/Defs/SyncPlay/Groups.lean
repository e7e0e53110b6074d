import Jellyrin.Defs.Api.ApiError
import Jellyrin.Defs.Data.BTreeMap
import Jellyrin.Defs.Data.FixedWidth
import Jellyrin.Defs.Data.EntityId
import Jellyrin.Defs.Transition.Machine

/-! SyncPlay groups.  Every request changes the map of groups in one section of its
mutex; the clean-up that precedes a request is a section of its own. -/

namespace Jellyrin.SyncPlay

open Api Ascii Transition

structure User where
  id : Uuid
  name : String
  syncPlayAccess : String
  deriving DecidableEq

structure DeviceToken where
  accessToken : String
  deviceId : String
  deriving DecidableEq

structure SyncPlayParticipant where
  userId : Uuid
  userName : String
  sessionId : String
  deviceId : String
  isReady : Bool
  isBuffering : Bool
  lastSeenAt : Int
  deriving DecidableEq

structure SyncPlayGroup where
  id : String
  name : String
  ownerUserId : Uuid
  participants : BTreeMap String SyncPlayParticipant
  state : Json
  commandSequence : UInt64
  updatedAt : Int
  deriving DecidableEq

abbrev SyncPlayGroups := HashMap String SyncPlayGroup

def jsonStringAnyField (payload : Json) (keys : List String) : Option String :=
  keys.findSome? fun key =>
    (((payload.get key).bind Json.asStr).map Json.trim).filter fun value => value != ""

def syncplayParticipant (user : User) (token : DeviceToken) (now : Int) : SyncPlayParticipant where
  userId := user.id
  userName := user.name
  sessionId := token.accessToken
  deviceId := token.deviceId
  isReady := false
  isBuffering := false
  lastSeenAt := now

def userCanCreateSyncplayGroup (user : User) : Bool :=
  eqIgnoreAsciiCase user.syncPlayAccess "CreateAndJoinGroups"

def userCanJoinSyncplayGroup (user : User) : Bool :=
  ["createandjoingroups", "joingroups"].contains (toAsciiLowercase user.syncPlayAccess)

def syncplayInsertParticipant (participants : BTreeMap String SyncPlayParticipant)
    (participant : SyncPlayParticipant) : BTreeMap String SyncPlayParticipant :=
  (participants.retain fun sessionId existing =>
    sessionId == participant.sessionId || existing.userId != participant.userId ||
      existing.deviceId != participant.deviceId).insert participant.sessionId participant

def newGroupState : Json :=
  .ofFields [("PlayState", .string "Idle"), ("PositionTicks", .number 0),
    ("IsPaused", .bool false), ("CommandSequence", .number 0), ("Queue", .array [])]

/-- The participants that go, and the owner's rights if one of them was the owner's.
The second component tells whether the group is left empty. -/
def SyncPlayGroup.removeParticipants (isRemoved : String → SyncPlayParticipant → Bool)
    (now : Int) (group : SyncPlayGroup) : SyncPlayGroup × Bool :=
  if group.participants.any isRemoved then
    let ownerRemoved := group.participants.any fun sessionId participant =>
      isRemoved sessionId participant && participant.userId == group.ownerUserId
    let participants :=
      group.participants.retain fun sessionId participant => !isRemoved sessionId participant
    if participants.isEmpty then ({ group with participants, updatedAt := now }, true)
    else
      let ownerUserId :=
        if ownerRemoved then ((BTreeMap.first participants).map (·.userId)).getD group.ownerUserId
        else group.ownerUserId
      ({ group with participants, updatedAt := now, ownerUserId }, false)
  else (group, false)

def updateGroups (f : SyncPlayGroup → SyncPlayGroup × Bool) (groups : SyncPlayGroups) :
    SyncPlayGroups :=
  let emptyGroups := groups.entries.filterMap fun entry =>
    if (f entry.2).2 then some (f entry.2).1.id else none
  (groups.mapValues fun group => (f group).1).eraseAll emptyGroups

def isSession (sessionId : String) (session : String) (_ : SyncPlayParticipant) : Bool :=
  session == sessionId

def detachGroup (sessionId : String) (exceptGroupId : Option String) (now : Int)
    (group : SyncPlayGroup) : SyncPlayGroup × Bool :=
  if exceptGroupId.any (group.id == ·) then (group, false)
  else group.removeParticipants (isSession sessionId) now

def syncplayDetachSessionFromGroups (groups : SyncPlayGroups) (sessionId : String)
    (exceptGroupId : Option String) (now : Int) : SyncPlayGroups :=
  groups |> updateGroups (detachGroup sessionId exceptGroupId now)

def isStale (timeout now : Int) (_ : String) (participant : SyncPlayParticipant) : Bool :=
  timeout < now - participant.lastSeenAt

def syncplayCleanupStaleParticipants (timeout : Int) (groups : SyncPlayGroups) (now : Int) :
    SyncPlayGroups :=
  groups |> updateGroups fun group => group.removeParticipants (isStale timeout now) now

def syncplayGroupId (payload : Json) (freshId : String) : String :=
  (jsonStringAnyField payload ["GroupId", "Id"]).getD freshId

def syncplayNewGroup (user : User) (token : DeviceToken) (payload : Json) (freshId : String)
    (now : Int) : SyncPlayGroup where
  id := syncplayGroupId payload freshId
  name := (jsonStringAnyField payload ["Name", "GroupName"]).getD (user.name ++ "'s group")
  ownerUserId := user.id
  participants := syncplayInsertParticipant ∅ (syncplayParticipant user token now)
  state := newGroupState
  commandSequence := 0
  updatedAt := now

def syncplayNew (groups : SyncPlayGroups) (user : User) (token : DeviceToken) (payload : Json)
    (freshId : String) (now : Int) : Except ApiError SyncPlayGroup × SyncPlayGroups :=
  if userCanCreateSyncplayGroup user then
    let group := syncplayNewGroup user token payload freshId now
    let groups := syncplayDetachSessionFromGroups groups token.accessToken none now
    (.ok group, groups.insert group.id group)
  else (.error (.forbidden "User cannot create SyncPlay groups"), groups)

def SyncPlayGroup.join (group : SyncPlayGroup) (user : User) (token : DeviceToken) (now : Int) :
    SyncPlayGroup :=
  { group with
    participants := syncplayInsertParticipant group.participants (syncplayParticipant user token now)
    updatedAt := now }

def syncplayJoin (groups : SyncPlayGroups) (user : User) (token : DeviceToken) (payload : Json)
    (now : Int) : Except ApiError SyncPlayGroup × SyncPlayGroups :=
  if userCanJoinSyncplayGroup user then
    match jsonStringAnyField payload ["GroupId", "Id"] with
    | none => (.error (.badRequest "SyncPlay group id is required"), groups)
    | some groupId =>
      if Json.trim groupId ∈ groups then
        let groups := syncplayDetachSessionFromGroups groups token.accessToken
          (some (Json.trim groupId)) now
        match groups.lookup (Json.trim groupId) with
        | some group =>
          let group := group.join user token now
          (.ok group, groups.insert (Json.trim groupId) group)
        -- the group was checked before the session was detached
        | none => (.error (.notFound "SyncPlay group not found"), groups)
      else (.error (.notFound "SyncPlay group not found"), groups)
  else (.error (.forbidden "User cannot join SyncPlay groups"), groups)

def syncplayRemoveSession (groups : SyncPlayGroups) (sessionId : String) (now : Int) :
    SyncPlayGroups := syncplayDetachSessionFromGroups groups sessionId none now

def syncplayPing (groups : SyncPlayGroups) (sessionId : String) (now : Int) : SyncPlayGroups :=
  groups.mapValues fun group =>
    match group.participants.lookup sessionId with
    | some participant =>
      { group with
        participants := group.participants.insert sessionId { participant with lastSeenAt := now }
        updatedAt := now }
    | none => group

def syncplayApplyParticipantCommand (participant : SyncPlayParticipant) (command : String)
    (payload : Json) (now : Int) : SyncPlayParticipant :=
  let participant := { participant with lastSeenAt := now }
  match toAsciiLowercase command with
  | "ready" =>
    { participant with
      isReady := (((payload.get "IsReady").or (payload.get "Ready")).bind Json.asBool).getD true
      isBuffering := false }
  | "buffering" =>
    let isBuffering :=
      (((payload.get "IsBuffering").or (payload.get "Buffering")).bind Json.asBool).getD true
    { participant with
      isBuffering
      isReady := if isBuffering then false else participant.isReady }
  | "pause" | "unpause" | "seek" | "stop" => { participant with isBuffering := false }
  | _ => participant

/-- A command to one of the groups of the session.  `state` is the group's state after
the command, whatever it is. -/
def SyncPlayGroup.command (group : SyncPlayGroup) (sessionId : String)
    (participant : SyncPlayParticipant) (command : String) (payload state : Json) (now : Int) :
    SyncPlayGroup :=
  { group with
    participants := group.participants.insert sessionId
      (syncplayApplyParticipantCommand participant command payload now)
    commandSequence := U64.saturatingAdd group.commandSequence 1
    state
    updatedAt := now }

inductive Membership where
  | new (user : User) (token : DeviceToken) (payload : Json) (freshId : String) (now : Int)
  | join (user : User) (token : DeviceToken) (payload : Json) (now : Int)
  | removeSession (sessionId : String) (now : Int)
  | cleanupStale (now : Int)

inductive Action where
  | membership (request : Membership)
  | ping (sessionId : String) (now : Int)
  | command (groupId sessionId command : String) (payload state : Json) (now : Int)

variable (timeout : Int) (userOf : String → Uuid)

def Membership.apply (groups : SyncPlayGroups) : Membership → SyncPlayGroups
  | .new user token payload freshId now =>
    (syncplayNew groups user token payload freshId now).2
  | .join user token payload now => (syncplayJoin groups user token payload now).2
  | .removeSession sessionId now => syncplayRemoveSession groups sessionId now
  | .cleanupStale now => syncplayCleanupStaleParticipants timeout groups now

def Membership.authenticated : Membership → Bool
  | .new user token .. | .join user token .. => user.id == userOf token.accessToken
  | .removeSession .. | .cleanupStale .. => true

def step (groups : SyncPlayGroups) : Action → Option SyncPlayGroups
  | .membership request =>
    if request.authenticated userOf then some (request.apply timeout groups) else none
  | .ping sessionId now => some (syncplayPing groups sessionId now)
  | .command groupId sessionId command payload state now =>
    match groups.lookup groupId with
    | some group =>
      match group.participants.lookup sessionId with
      | some participant =>
        some (groups.insert groupId
          (group.command sessionId participant command payload state now))
      | none => none
    | none => none

def syncplay : Machine SyncPlayGroups Action where
  init := ∅
  step := step timeout userOf

end Jellyrin.SyncPlay
