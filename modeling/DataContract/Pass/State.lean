import DataContract.Host

/-!
# The states of a pass

A pass is started, visits candidates and is finished, after which it can be started again.
`PassOperation.allowedIn` says which of these operations a state allows; every other one is refused
and changes nothing.
-/

namespace DataContract

/-- Where a pass stands. -/
inductive PassState
  | idle
  | initialized
  | collecting
  | emitting
  deriving DecidableEq, Repr

/-- The name of a state in messages. -/
def PassState.name : PassState → String
  | idle => "idle"
  | initialized => "initialized"
  | collecting => "collecting"
  | emitting => "emitting"

/-- What can be done with a pass. -/
inductive PassOperation
  | start
  | visit
  | finish
  deriving DecidableEq, Repr

namespace PassOperation

/-- The name of an operation in messages. -/
def name : PassOperation → String
  | start => "initialize"
  | visit => "visit"
  | finish => "finish"

/-- Whether a state allows an operation. -/
def allowedIn : PassOperation → PassState → Bool
  | start, .idle => true
  | visit, .initialized => true
  | visit, .collecting => true
  | finish, .initialized => true
  | finish, .collecting => true
  | _, _ => false

end PassOperation

/-- Why an operation on a pass fails. -/
inductive PassError
  /-- The host has refused something. -/
  | host (error : HostError)
  | outOfOrder (operation : PassOperation) (state : PassState)
  deriving DecidableEq, Repr

/-- The words for an error, where there are any. -/
def PassError.message? : PassError → Option String
  | host error => error.message?
  | outOfOrder operation state => some s!"cannot {operation.name} a pass that is {state.name}"

end DataContract
