import Jellyrin.Defs.PluginRpc.JsonLine
import Jellyrin.Defs.Transition.Machine
import Mathlib.Algebra.Group.Nat.Defs

/-! The client of a plugin host: one exchange after the other over the pipes of a process, with
every way in which an exchange ends. -/

namespace Jellyrin.PluginRpc

open Transition

def defaultPluginRpcMaxMessageBytes : Nat := 1024 * 1024

inductive PluginRpcMethod where
  | handshake
  | loadPlugin
  | unloadPlugin
  | getManifest
  | getConfiguration
  | updateConfiguration
  | listWebPages
  | getEmbeddedImage
  | listCapabilities
  | invokeCapability
  | health
  | shutdown
  deriving DecidableEq

inductive PluginRpcErrorCode where
  | invalidRequest
  | protocolVersionMismatch
  | unsupportedMethod
  | pluginNotFound
  | pluginNotLoaded
  | capabilityNotFound
  | permissionDenied
  | timeout
  | hostUnavailable
  | hostFailed
  deriving DecidableEq

structure PluginRpcError where
  code : PluginRpcErrorCode
  message : String
  details : List String
  deriving DecidableEq

structure PluginRpcEnvelope (Payload : Type) where
  protocolVersion : UInt16
  correlationId : String
  method : PluginRpcMethod
  payload : Payload

structure PluginRpcResponse (Result : Type) where
  protocolVersion : UInt16
  correlationId : String
  ok : Bool
  result : Option Result
  error : Option PluginRpcError
  deriving DecidableEq

inductive PluginRpcTransportError (JsonError : Type) where
  | codec (error : PluginRpcCodecError JsonError)
  | io (error : String)
  | timeout (timeoutMs : Nat)
  | correlationMismatch (expected actual : String)
  deriving DecidableEq

variable {Payload Result JsonError : Type}

structure Request (Payload Result JsonError : Type) where
  envelope : PluginRpcEnvelope Payload
  /-- In nanoseconds. -/
  timeout : Nat
  requests : MessageCodec (PluginRpcEnvelope Payload) JsonError
  responses : MessageCodec (PluginRpcResponse Result) JsonError

def readChunk (maxBytes : Nat) (available line : List UInt8) : Option (List UInt8 × Bool) :=
  let newlineAt := available.findIdx? (· == newline)
  if maxBytes < line.length + newlineAt.getD available.length then none
  else some (line ++ available.take (consumedBytes available), newlineAt.isSome)

def received (request : Request Payload Result JsonError) (line : List UInt8) :
    Except (PluginRpcTransportError JsonError) (PluginRpcResponse Result) := do
  let response ← (decodeJsonLine request.responses line
    defaultPluginRpcMaxMessageBytes).mapError .codec
  if response.correlationId ≠ request.envelope.correlationId then
    .error (.correlationMismatch request.envelope.correlationId response.correlationId)
  else .ok response

inductive Outcome (Result JsonError : Type) where
  | result (result : Except (PluginRpcTransportError JsonError) (PluginRpcResponse Result))
  /-- The future was dropped at an await point. -/
  | cancelled

def Outcome.unavailable : Outcome Result JsonError :=
  .result (.error (.io "plugin host process is no longer available"))

structure Call (Payload Result JsonError : Type) where
  request : Request Payload Result JsonError
  deadline : Nat

/-- Where the client stands.  The requests that were written whole are counted, and a call that
waits for its response knows the number of its own. -/
inductive Phase (Payload Result JsonError : Type) where
  | idle
  | writing (call : Call Payload Result JsonError) (remaining : List UInt8)
  | reading (call : Call Payload Result JsonError) (own : Nat) (line : List UInt8)
  | terminating (call : Call Payload Result JsonError) (own : Option Nat)

/-- A call that has ended: the number of its request, if that was written whole, and whether the
client still has a child. -/
structure Exchange (Payload Result JsonError : Type) where
  call : Call Payload Result JsonError
  outcome : Outcome Result JsonError
  own : Option Nat
  hasChild : Bool

structure PluginHostStdioClient (Payload Result JsonError : Type) where
  child : Bool
  phase : Phase Payload Result JsonError
  /-- What the host wrote and the client has not consumed. -/
  unread : List UInt8
  /-- The requests that were written to their newline; one that is cut off before only spoils the
  line of the next. -/
  sent : Nat
  /-- The responses of the host, in order, with the times at which it wrote them. -/
  answers : List (Nat × List UInt8)
  /-- The host writes no more. -/
  closed : Bool
  ended : List (Exchange Payload Result JsonError)
  now : Nat

inductive Action (Payload Result JsonError : Type) where
  | call (request : Request Payload Result JsonError)
  | written (count : Nat)
  | writeFails (error : String)
  /-- `fill_buf` has so many bytes beyond the first one, if there are as many. -/
  | filled (size : Nat)
  /-- The end of the stream, or an error of it. -/
  | streamEnds (error : Option String)
  | timeout
  | terminated (succeeds : Bool)
  | cancel
  /-- The host responds to the oldest request that it has not responded to. -/
  | answer (payload : List UInt8)
  | close
  | elapse (nanoseconds : Nat)

namespace PluginHostStdioClient

def spawn : PluginHostStdioClient Payload Result JsonError where
  child := true
  phase := .idle
  unread := []
  sent := 0
  answers := []
  closed := false
  ended := []
  now := 0

variable (client : PluginHostStdioClient Payload Result JsonError)

def finish (call : Call Payload Result JsonError) (own : Option Nat)
    (outcome : Outcome Result JsonError) : PluginHostStdioClient Payload Result JsonError :=
  { client with
    phase := .idle
    ended := client.ended ++ [⟨call, outcome, own, client.child⟩] }

def step : Action Payload Result JsonError → Option (PluginHostStdioClient Payload Result JsonError)
  | .call request =>
    let call := ⟨request, client.now + request.timeout⟩
    match client.phase with
    | .idle =>
      if client.child then
        match encodeJsonLine request.requests request.envelope
            defaultPluginRpcMaxMessageBytes with
        | .ok bytes => some { client with phase := .writing call bytes }
        | .error error => some (client.finish call none (.result (.error (.codec error))))
      else some (client.finish call none .unavailable)
    | _ => none
  | .written count =>
    match client.phase with
    | .writing call remaining =>
      if remaining.drop (count + 1) = [] then
        some { client with phase := .reading call client.sent [], sent := client.sent + 1 }
      else some { client with phase := .writing call (remaining.drop (count + 1)) }
    | _ => none
  | .writeFails error =>
    match client.phase with
    | .writing call _ => some (client.finish call none (.result (.error (.io error))))
    | _ => none
  | .filled size =>
    match client.phase with
    | .reading call own line =>
      let available := client.unread.take (size + 1)
      if available = [] then none
      else
        match readChunk defaultPluginRpcMaxMessageBytes available line with
        | none =>
          some (client.finish call (some own)
            (.result (.error (.codec (.messageTooLarge defaultPluginRpcMaxMessageBytes)))))
        | some (line, whole) =>
          let client := { client with unread := client.unread.drop (consumedBytes available) }
          if whole then
            some (client.finish call (some own) (.result (received call.request line)))
          else some { client with phase := .reading call own line }
    | _ => none
  | .streamEnds error =>
    match client.phase with
    | .reading call own _ =>
      if client.closed ∧ client.unread = [] then
        some (client.finish call (some own)
          (.result (.error (error.elim (.codec .unexpectedEof) .io))))
      else none
    | _ => none
  | .timeout =>
    -- The timer is looked at only when the exchange itself cannot go on.
    match client.phase with
    | .writing call _ =>
      if call.deadline ≤ client.now then some { client with phase := .terminating call none }
      else none
    | .reading call own _ =>
      if call.deadline ≤ client.now ∧ client.unread = [] then
        some { client with phase := .terminating call (some own) }
      else none
    | _ => none
  | .terminated succeeds =>
    match client.phase with
    | .terminating call own =>
      some ({ client with child := !succeeds }.finish call own
        (.result (.error (.timeout (min (call.request.timeout / 10 ^ 6) (2 ^ 64 - 1))))))
    | _ => none
  | .cancel =>
    match client.phase with
    | .idle => none
    | .writing call _ => some (client.finish call none .cancelled)
    | .reading call own _ => some (client.finish call (some own) .cancelled)
    | .terminating call own => some (client.finish call own .cancelled)
  | .answer payload =>
    if client.closed = false ∧ client.answers.length < client.sent ∧ newline ∉ payload then
      some { client with
        answers := client.answers ++ [(client.now, payload)]
        unread := client.unread ++ (payload ++ [newline]) }
    else none
  | .close => some { client with closed := true }
  | .elapse nanoseconds => some { client with now := client.now + nanoseconds }

end PluginHostStdioClient

variable (Payload Result JsonError) in
/-- A client and its host.  What a host that is killed still had to say stays in the pipe. -/
def stdioMachine : Machine (PluginHostStdioClient Payload Result JsonError)
    (Action Payload Result JsonError) where
  init := .spawn
  step := PluginHostStdioClient.step

end Jellyrin.PluginRpc
