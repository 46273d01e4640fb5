import ResourceStubs.Model.Document

/-! The waiter model: how the service is polled until a state is reached. -/

namespace ResourceStubs

open Json

/-- A waiter: the operation it polls, how often, and when it stops. -/
structure WaiterConfig where
  operation : String
  delay : Nat
  maxAttempts : Nat
  description : Option String
  acceptors : List Json
  deriving Inhabited

/-- The waiter that a JSON value stands for. -/
def WaiterConfig.ofJson? (json : Json) : Option WaiterConfig := do
  let fields ← json.fields? ["operation", "delay", "maxAttempts", "description", "acceptors"]
  some {
    operation := ← fields.required "operation" text?
    delay := ← fields.required "delay" word32?
    maxAttempts := ← fields.required "maxAttempts" word32?
    description := ← fields.optional "description" text?
    acceptors := ← fields.withDefault "acceptors" [] (list? free?) }

/-- The waiters of a service. -/
structure WaiterModel where
  version : Nat
  waiters : Dict WaiterConfig
  deriving Inhabited

namespace WaiterModel

/-- The waiter model that a JSON value stands for. -/
def ofJson? (json : Json) : Option WaiterModel := do
  let fields ← json.fields? ["version", "waiters"]
  some {
    version := ← fields.withDefault "version" 0 word32?
    waiters := ← fields.withDefault "waiters" Dict.empty (dict? WaiterConfig.ofJson?) }

/-- The waiter model in a text. -/
def read (text : String) : Except Error WaiterModel :=
  readDocument "waiter model JSON" ofJson? text

end WaiterModel

end ResourceStubs
