import Jellyrin.Defs.Data.HashMap
import Jellyrin.Defs.Data.IpAddress
import Jellyrin.Defs.Data.Separated
import Jellyrin.Defs.PluginVod.ManifestProbe
import Jellyrin.Defs.Transition.Machine

/-! Eventing of the DLNA server: the subscriptions of renderers, and the notifications that
are numbered for them. -/

namespace Jellyrin.Dlna

open Api Ascii PluginVod Text Transition

inductive DlnaEventService where
  | contentDirectory
  | connectionManager
  | mediaReceiverRegistrar
  deriving DecidableEq

structure DlnaEventSubscription where
  service : DlnaEventService
  peerIp : IpAddr
  expiresAt : Nat
  callbackUrls : List String
  nextSeq : UInt32
  deriving DecidableEq

abbrev Subscriptions := HashMap String DlnaEventSubscription

structure Url where
  scheme : String
  username : String
  password : Option String
  hostStr : Option String
  portOrKnownDefault : Option Nat
  fragment : Option String
  text : String

def upnpEventDefaultTimeoutSeconds : Nat := 1800
def upnpEventMaxTimeoutSeconds : Nat := 7200
def upnpEventMaxSubscriptions : Nat := 256
def upnpEventMaxCallbackUrls : Nat := 4
def upnpEventMaxCallbackUrlBytes : Nat := 2 * 1024

def normalizeEventPeerIp : IpAddr → IpAddr
  | .v6 address => (address.toIpv4Mapped.map IpAddr.v4).getD (.v6 address)
  | peerIp => peerIp

def eventHeader (headers : HeaderMap) (name : String) : Option String :=
  (((headers.get name).bind toStr).map Json.trim).filter fun value => !value.isEmpty

def eventExpiresAt (now timeout : Nat) : Nat := now + timeout * 10 ^ 9

def requestedEventTimeout (headers : HeaderMap) : Nat :=
  match (eventHeader headers "timeout").bind fun value =>
      (stripPrefix value "Second-").bind (parseUnsigned (2 ^ 64 - 1)) with
  | some seconds => max 1 (min seconds upnpEventMaxTimeoutSeconds)
  | none => upnpEventDefaultTimeoutSeconds

def eventSid (uuid : Uuid) : String := "uuid:" ++ uuid.hyphenated

def normalizeEventSid (sid : String) : Except ApiError String :=
  let sid := Json.trim sid
  match ((stripPrefix sid "uuid:").or (stripPrefix sid "UUID:")).bind Uuid.parseStr with
  | some uuid => .ok (eventSid uuid)
  | none => .error (.badRequest "Invalid DLNA event SID")

/-! Callback URLs. -/

section

variable (parseUrl : String → Option Url) (peerIp : IpAddr)

def eventCallbackUrl (candidate : String) : Option String :=
  if candidate.isEmpty || upnpEventMaxCallbackUrlBytes < candidate.utf8ByteSize then none
  else (parseUrl candidate).bind fun url =>
    if url.scheme != "http" || !url.username.isEmpty || url.password.isSome ||
        url.fragment.isSome || url.hostStr.isNone || url.portOrKnownDefault.isNone then none
    else (url.hostStr.bind IpAddr.parse).bind fun callbackIp =>
      if normalizeEventPeerIp callbackIp ≠ peerIp then none else some url.text

def eventCallbackUrlsFrom : Nat → List Char → List String → List String
  | _, [], urls => urls
  | fuel + 1, '<' :: afterOpen, urls =>
    match splitOnce (· == '>') afterOpen with
    | none => []
    | some (candidate, remaining) =>
      match eventCallbackUrl parseUrl peerIp (Json.trim (String.ofList candidate)) with
      | none => []
      | some url =>
        if upnpEventMaxCallbackUrls < (urls ++ [url]).length then []
        else eventCallbackUrlsFrom fuel (remaining.dropWhile Json.isWhitespace) (urls ++ [url])
  | _, _, _ => []

def eventCallbackUrls (callback : String) : List String :=
  let callback := (Json.trim callback).toList
  eventCallbackUrlsFrom parseUrl (normalizeEventPeerIp peerIp) callback.length callback []

end

/-! Requests. -/

structure DlnaEventNotification where
  sid : String
  callbackUrls : List String
  seq : UInt32
  deriving DecidableEq

inductive EventResponse where
  | status (code : Nat)
  | subscribed (sid : String) (timeout : Nat)
  deriving DecidableEq

def methodNotAllowed : Nat := 405
def preconditionFailed : Nat := 412
def serviceUnavailable : Nat := 503

/-- A response, the subscriptions after it, and the initial notification that it starts. -/
structure Answer where
  response : EventResponse
  subscriptions : Subscriptions
  initial : Option DlnaEventNotification := none

structure EventRequest where
  service : DlnaEventService
  method : String
  headers : HeaderMap
  peerIp : IpAddr
  /-- What `Instant::now` and `Uuid::new_v4` return. -/
  now : Nat
  newId : Uuid

def cleanupExpiredEventSubscriptions (now : Nat) (subscriptions : Subscriptions) : Subscriptions :=
  HashMap.retain (fun _ subscription => now < subscription.expiresAt) subscriptions

section

variable (parseUrl : String → Option Url) (subscriptions : Subscriptions) (request : EventRequest)

def subscribeEventResponse : Except ApiError Answer :=
  let peerIp := normalizeEventPeerIp request.peerIp
  let timeout := requestedEventTimeout request.headers
  let refused : Answer := { response := .status preconditionFailed, subscriptions }
  let callback := eventHeader request.headers "callback"
  let nt := eventHeader request.headers "nt"
  match eventHeader request.headers "sid" with
  | some sid =>
    if callback.isSome || nt.isSome then
      .error (.badRequest "DLNA event renewal cannot include CALLBACK or NT")
    else (normalizeEventSid sid).map fun sid =>
      match subscriptions.lookup sid with
      | none => refused
      | some subscription =>
        if subscription.service ≠ request.service then refused
        else if subscription.peerIp ≠ peerIp then refused
        else {
          response := .subscribed sid timeout
          subscriptions := subscriptions.insert sid
            { subscription with expiresAt := eventExpiresAt request.now timeout } }
  | none =>
    let callbackUrls := eventCallbackUrls parseUrl peerIp (callback.getD "")
    if (callback.all fun callback => (eventCallbackUrls parseUrl peerIp callback).isEmpty) ||
        nt.all fun nt => !eqIgnoreAsciiCase nt "upnp:event" then .ok refused
    else if callbackUrls.isEmpty then .ok refused
    else if upnpEventMaxSubscriptions ≤ subscriptions.size then
      .ok { response := .status serviceUnavailable, subscriptions }
    else
      let sid := eventSid request.newId
      .ok {
        response := .subscribed sid timeout
        subscriptions := subscriptions.insert sid {
          service := request.service
          peerIp
          expiresAt := eventExpiresAt request.now timeout
          callbackUrls
          nextSeq := 1 }
        initial := some ⟨sid, callbackUrls, 0⟩ }

def unsubscribeEventResponse : Except ApiError Answer :=
  let refused : Answer := { response := .status preconditionFailed, subscriptions }
  match eventHeader request.headers "sid" with
  | none => .ok refused
  | some sid => (normalizeEventSid sid).map fun sid =>
    match subscriptions.lookup sid with
    | none => refused
    | some subscription =>
      if subscription.service ≠ request.service then refused
      else if subscription.peerIp ≠ normalizeEventPeerIp request.peerIp then refused
      else { response := .status statusOk, subscriptions := subscriptions.erase sid }

/-- `event_subscription_response` after its cleanup, which takes the lock by itself. -/
def eventSubscriptionResponse : Except ApiError Answer :=
  match request.method with
  | "SUBSCRIBE" => subscribeEventResponse parseUrl subscriptions request
  | "UNSUBSCRIBE" => unsubscribeEventResponse subscriptions request
  | _ => .ok { response := .status methodNotAllowed, subscriptions }

end

/-! Notifications. -/

structure Numbered where
  service : DlnaEventService
  peerIp : IpAddr
  notification : DlnaEventNotification
  deriving DecidableEq

def notificationOf (sid : String) (subscription : DlnaEventSubscription) : Numbered :=
  ⟨subscription.service, subscription.peerIp, sid, subscription.callbackUrls, subscription.nextSeq⟩

def countNotification (service : DlnaEventService) (subscription : DlnaEventSubscription) :
    DlnaEventSubscription :=
  if subscription.service = service then { subscription with nextSeq := subscription.nextSeq + 1 }
  else subscription

def eventNotificationsForService (service : DlnaEventService) (now : Nat)
    (subscriptions : Subscriptions) : List Numbered × Subscriptions :=
  let subscriptions := cleanupExpiredEventSubscriptions now subscriptions
  ((subscriptions.entries.filter fun entry => entry.2.service = service).map fun entry =>
    notificationOf entry.1 entry.2, HashMap.mapValues (countNotification service) subscriptions)

structure EventState where
  subscriptions : Subscriptions
  /-- The notifications in the order of their numbers; they are sent concurrently. -/
  numbered : List Numbered

def EventState.numberedFor (s : EventState) (sid : String) : List Numbered :=
  s.numbered.filter fun numbered => numbered.notification.sid = sid

inductive EventAction where
  | cleanup (now : Nat)
  | request (request : EventRequest)
  /-- `notify_event_subscribers`. -/
  | notify (service : DlnaEventService) (now : Nat)

variable (parseUrl : String → Option Url)

def eventStep (s : EventState) : EventAction → Option EventState
  | .cleanup now =>
    some { s with subscriptions := cleanupExpiredEventSubscriptions now s.subscriptions }
  | .request request =>
    if s.numberedFor (eventSid request.newId) ≠ [] then none
    else match eventSubscriptionResponse parseUrl s.subscriptions request with
      | .error _ => some s
      | .ok answer => some {
        subscriptions := answer.subscriptions
        numbered := s.numbered ++ answer.initial.toList.map fun initial =>
          ⟨request.service, normalizeEventPeerIp request.peerIp, initial⟩ }
  | .notify service now =>
    let (numbered, subscriptions) := eventNotificationsForService service now s.subscriptions
    some { subscriptions, numbered := s.numbered ++ numbered }

def eventMachine : Machine EventState EventAction where
  init := ⟨∅, []⟩
  step := eventStep parseUrl

end Jellyrin.Dlna
