import Jellyrin.Defs.Api.ApiError
import Jellyrin.Defs.Auth.AuthFailures
import Jellyrin.Defs.Data.Json

/-! Concurrent login requests.  The test for a lockout, the check of the password and
the record of its outcome are steps of their own; the registry's mutex is held within
the first and the last only. -/

namespace Jellyrin.Auth

open Api Ascii Transition

def authLockoutKey (kind value : String) : String :=
  kind ++ ":" ++ toAsciiLowercase (Json.trim value)

inductive LoginRequest where
  | byName (username : String)
  | byId (userId : String)
  deriving DecidableEq

def LoginRequest.lockoutKey : LoginRequest → String
  | .byName username => authLockoutKey "name" username
  | .byId userId => authLockoutKey "id" userId

inductive LoginPhase where
  | received
  | admitted
  /-- The password was checked; the outcome is not recorded yet. -/
  | verified (correct : Bool)
  | accepted
  | refused (error : ApiError)
  deriving DecidableEq

structure Login where
  request : LoginRequest
  phase : LoginPhase
  deriving DecidableEq

def Login.isUnrecorded (key : String) (login : Login) : Bool :=
  login.request.lockoutKey == key && login.phase == .verified false

/-- History of a key.  A failure is recorded until the entry that counts it is gone:
expired, cleared, or never made for want of room. -/
structure FailureHistory where
  checked : Nat
  recorded : Nat
  forgotten : Nat
  deriving DecidableEq

def FailureHistory.forget (history : FailureHistory) : FailureHistory :=
  { history with recorded := 0, forgotten := history.forgotten + history.recorded }

structure LoginState where
  registry : AuthFailureRegistry
  now : UInt64
  logins : List Login
  history : String → FailureHistory

inductive LoginAction where
  | tick (now : UInt64)
  | receive (request : LoginRequest)
  | ensureAuthNotLocked (login : Nat)
  | verifyPassword (login : Nat) (correct : Bool)
  | recordOutcome (login : Nat)

def liveEntry (entries : HashMap String AuthFailureState) (key : String) (now : UInt64) :
    Option AuthFailureState :=
  (entries.lookup key).filter fun state => !authFailureExpired state now

namespace LoginState

variable (maxEntries : Nat)

def isLocked (s : LoginState) (key : String) : Bool := isLockedAt s.registry.entries key s.now

def unrecorded (s : LoginState) (key : String) : Nat := s.logins.countP (Login.isUnrecorded key)

def setPhase (s : LoginState) (i : Nat) (request : LoginRequest) (phase : LoginPhase) :
    LoginState :=
  { s with logins := s.logins.set i ⟨request, phase⟩ }

def updateHistory (s : LoginState) (key : String) (f : FailureHistory → FailureHistory) :
    LoginState :=
  { s with history := fun k => if k = key then f (s.history k) else s.history k }

def forget (s : LoginState) : LoginState :=
  { s with
    history := fun key =>
      if (liveEntry s.registry.entries key s.now).isSome then s.history key
      else (s.history key).forget }

def ensureAuthNotLocked (s : LoginState) (i : Nat) (request : LoginRequest) : LoginState :=
  if request = .byName "" then
    s.setPhase i request (.refused (.badRequest "Username must not be empty"))
  else
    let (registry, limited) :=
      authAttemptIsLimited s.registry request.lockoutKey s.now maxEntries
    let phase :=
      if limited then .refused ⟨.tooManyRequests, "Too many failed login attempts"⟩
      else .admitted
    { s.setPhase i request phase with registry }

def verifyPassword (s : LoginState) (i : Nat) (request : LoginRequest) (correct : Bool) :
    LoginState :=
  let s := s.setPhase i request (.verified correct)
  if correct then s
  else s.updateHistory request.lockoutKey fun history =>
    { history with checked := history.checked + 1 }

def recordAuthFailure (s : LoginState) (i : Nat) (request : LoginRequest) : LoginState :=
  let registry :=
    (recordAuthFailureInRegistry s.registry request.lockoutKey s.now maxEntries).1
  let s := s.setPhase i request (.refused (.unauthorized "Invalid username or password"))
  { s.updateHistory request.lockoutKey fun history =>
      { history with recorded := history.recorded + 1 } with registry }.forget

def acceptLogin (s : LoginState) (i : Nat) (request : LoginRequest) : LoginState :=
  { s.setPhase i request .accepted with
    registry := clearAuthFailure s.registry request.lockoutKey }.forget

def step (s : LoginState) : LoginAction → Option LoginState
  | .tick now => if s.now ≤ now then some { s with now }.forget else none
  | .receive request => some { s with logins := s.logins ++ [⟨request, .received⟩] }
  | .ensureAuthNotLocked i =>
    match s.logins[i]? with
    | some ⟨request, .received⟩ => some (s.ensureAuthNotLocked maxEntries i request)
    | _ => none
  | .verifyPassword i correct =>
    match s.logins[i]? with
    | some ⟨request, .admitted⟩ => some (s.verifyPassword i request correct)
    | _ => none
  | .recordOutcome i =>
    match s.logins[i]? with
    | some ⟨request, .verified false⟩ => some (s.recordAuthFailure maxEntries i request)
    | some ⟨request, .verified true⟩ => some (s.acceptLogin i request)
    | _ => none

end LoginState

def loginServer (maxEntries : Nat) (start : UInt64) : Machine LoginState LoginAction where
  init := ⟨.default, start, [], fun _ => ⟨0, 0, 0⟩⟩
  step := LoginState.step maxEntries

end Jellyrin.Auth
