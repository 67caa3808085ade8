import Mathlib.Init

namespace ScarcityRouter

/-!
# Errors of the execution surface

`gateway_contracts.py`: the typed failures a client sees.

* `GatewayError` — one failure: its status, its type, its message, its code and the parameter.
* `GatewayError.invalidRequest`, `GatewayError.notFound`, … — the constructors of each type.
* `ExecutionException` — what can leave a step of the coordinator.
-/

/-- `ERROR_TYPES`. -/
inductive ErrorType where
  | invalidRequest | authentication | permission | notFound | rateLimit | timeout | api | conflict
  deriving DecidableEq, Repr

/-- One typed execution-surface failure. -/
structure GatewayError where
  httpStatus : Nat
  errorType : ErrorType
  message : String
  code : Option String := none
  param : Option String := none
  deriving DecidableEq, Repr

namespace GatewayError

def invalidRequest (message : String) (code param : Option String := none) : GatewayError :=
  ⟨400, .invalidRequest, message, code, param⟩

def permission (message : String) (code : Option String := none) : GatewayError :=
  ⟨403, .permission, message, code, none⟩

def notFound (message : String) (code : Option String := none) : GatewayError :=
  ⟨404, .notFound, message, code, none⟩

def rateLimit (message : String) (code : Option String := none) : GatewayError :=
  ⟨429, .rateLimit, message, code, none⟩

def conflict (message : String) (code : Option String := none) : GatewayError :=
  ⟨409, .conflict, message, code, none⟩

def timeout (message : String) (code : Option String := none) : GatewayError :=
  ⟨408, .timeout, message, code, none⟩

/-- `GatewayError.api`; its status is a server error in every use. -/
def api (message : String) (code : Option String := none) (httpStatus : Nat := 500) :
    GatewayError :=
  ⟨httpStatus, .api, message, code, none⟩

end GatewayError

/-- What a step of the coordinator can raise: the exceptions that some `except` clause names, and
    every other one. -/
inductive ExecutionException where
  | gateway (error : GatewayError)
  | clientDisconnected
  | outputRejected
  | adapterTimeout
  | adapterAmbiguous
  | adapterPermanent
  | continuationLost
  | unexpected
  deriving DecidableEq, Repr

end ScarcityRouter
