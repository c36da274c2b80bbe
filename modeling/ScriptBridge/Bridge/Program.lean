import ScriptBridge.Bridge.Request

/-!
# Programs of the host

What a host does, and what each of its callbacks does, is a program: a sequence of requests, each
of which may depend on the answers before it. Errors that a program receives stay alive until it
drops them or ends, unless it leaves them to the host.
-/

namespace ScriptBridge

inductive HostProgram where
  /-- Ends with a result; `none` leaves it empty. -/
  | finish (result : Option String)
  | fail (message : String)
  /-- Makes a request and goes on with the answer. -/
  | request (request : Request) (next : Except Failure request.Value → HostProgram)
  /-- Registers a callback and goes on with the name of its command. -/
  | register
      (session : SessionId)
      (callback : List String → HostProgram)
      (next : Except Failure String → HostProgram)
  /-- Drops one of the errors received so far, by its number among those that are left. -/
  | dropError (index : Nat) (next : HostProgram)
  /-- Goes on with one of them in a form that does not keep its session in error. -/
  | detachError (index : Nat) (next : HostProgram)
  /-- Leaves one of them to the host, which keeps it when the program ends. -/
  | keepError (index : Nat) (next : HostProgram)
  /-- Takes over one of the errors that the host keeps, by its number among them. -/
  | takeError (index : Nat) (next : Option Failure → HostProgram)

/-- What a callback does with the words of a call. -/
abbrev Callback := Parameters → HostProgram

namespace HostProgram

def give {α : Type} [ToResult α] (value : α) : HostProgram :=
  .finish (toResult value)

/-- Ends with a value or with the message of an error. -/
def giveOrFail {α : Type} [ToResult α] : Except Failure α → HostProgram
  | .ok value => .give value
  | .error failure => .fail failure.message

/-- Goes on with the value that a request is answered with, or ends with its failure. -/
def ask (request : Request) (next : request.Value → HostProgram) : HostProgram :=
  .request request fun
    | .ok value => next value
    | .error failure => .fail failure.message

/-- Makes a command of a script and gives it up at once, so that it is submitted unread. -/
def defer (session : SessionId) (script : String) (next : HostProgram) : HostProgram :=
  .ask (.newCommand (some session) script "") fun command =>
    .ask (.release command) fun _ => next

def withArgument
    {α : Type}
    [FromText α]
    (parameters : Parameters)
    (index : Nat)
    (next : α → HostProgram) : HostProgram :=
  match parameters.get α index with
  | .ok value => next value
  | .error failure => .fail failure.message

end HostProgram

/-! ## Callbacks with typed parameters -/

namespace Callback

variable {α β γ δ : Type} [FromText α] [FromText β] [FromText γ] [FromText δ]

def of0 (body : HostProgram) : Callback :=
  fun _ => body

/-- A callback with one parameter. Arguments that are left over are ignored. -/
def of1 (body : α → HostProgram) : Callback :=
  fun parameters => .withArgument parameters 1 body

def of2 (body : α → β → HostProgram) : Callback :=
  fun parameters =>
    .withArgument parameters 1 fun first =>
      .withArgument parameters 2 fun second => body first second

def of3 (body : α → β → γ → HostProgram) : Callback :=
  fun parameters =>
    .withArgument parameters 1 fun first =>
      .withArgument parameters 2 fun second =>
        .withArgument parameters 3 fun third => body first second third

def of4 (body : α → β → γ → δ → HostProgram) : Callback :=
  fun parameters =>
    .withArgument parameters 1 fun first =>
      .withArgument parameters 2 fun second =>
        .withArgument parameters 3 fun third =>
          .withArgument parameters 4 fun fourth => body first second third fourth

end Callback

end ScriptBridge
