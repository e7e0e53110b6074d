import Jellyrin.Defs.Data.Slices

/-! Errors of the HTTP surface: a status and a text.  A handler that panics sends nothing. -/

namespace Jellyrin.Api

inductive StatusCode where
  | badRequest
  | unauthorized
  | forbidden
  | notFound
  | tooManyRequests
  | internalServerError
  | serviceUnavailable
  deriving DecidableEq

structure ApiError where
  status : StatusCode
  error : String
  deriving DecidableEq

def ApiError.badRequest (message : String) : ApiError := ⟨.badRequest, message⟩

def ApiError.unauthorized (message : String) : ApiError := ⟨.unauthorized, message⟩

def ApiError.forbidden (message : String) : ApiError := ⟨.forbidden, message⟩

def ApiError.notFound (message : String) : ApiError := ⟨.notFound, message⟩

def ApiError.internal (message : String) : ApiError := ⟨.internalServerError, message⟩

def ApiError.serviceUnavailable (message : String) : ApiError :=
  ⟨.serviceUnavailable, message⟩

inductive Failure where
  | refused (error : ApiError)
  | panicked (panic : Panic)
  deriving DecidableEq

def Failure.badRequest (message : String) : Failure := .refused (.badRequest message)

def Failure.notFound (message : String) : Failure := .refused (.notFound message)

def handled {α : Type} : Except Panic (Except ApiError α) → Except Failure α
  | .error panic => .error (.panicked panic)
  | .ok (.error error) => .error (.refused error)
  | .ok (.ok a) => .ok a

instance : MonadLift (Except Panic) (Except Failure) where
  monadLift := Except.mapError .panicked

theorem lift_ok {α : Type} (a : α) :
    (monadLift (.ok a : Except Panic α) : Except Failure α) = .ok a := rfl

theorem of_lift_eq_ok {α : Type} {x : Except Panic α} {a : α}
    (h : (monadLift x : Except Failure α) = .ok a) : x = .ok a := by
  cases x with
  | error panic => cases h
  | ok b => exact congrArg Except.ok (Except.ok.inj h)

end Jellyrin.Api
