import ScriptBridge.FromText
import ScriptBridge.Settings

/-!
# Requests of the host

What a host can ask for, as data: of its sessions, of the commands that it puts together, and of
the variables that it shares with interpreters. Every request is answered with a value of its own
type or with a failure.
-/

namespace ScriptBridge

/-! ## What requests are about -/

inductive HostVariable where
  | int (id : Nat)
  | float (id : Nat)
  | text (id : Nat)
  deriving Repr, DecidableEq

/-- What a session allows of its interpreter. -/
inductive InterpAccess where
  | open
  | closed
  /-- Evaluation only; commands and links of the host are refused. -/
  | refusing
  deriving Repr, DecidableEq

inductive DumpStream where
  | none
  /-- A stream of the host that keeps what is written. -/
  | captured
  /-- A stream on which all writing fails, which nobody notices. -/
  | broken
  | errorStream
  deriving Repr, DecidableEq

/-- A registration that ends with its handle. -/
structure CallbackHandle where
  session : SessionId
  name : String
  deriving Repr, DecidableEq

/-- A link that ends with its guard, if the guard has made it. -/
structure LinkGuard where
  session : SessionId
  target : HostVariable
  name : String
  owned : Bool
  deriving Repr, DecidableEq

abbrev BufferId := Nat

/-- A pending command, which it shares with its clones, or a fragment of text. -/
inductive Expression where
  | starter (buffer : BufferId)
  | literal (text : String)
  deriving Repr, DecidableEq

/-! ## Requests -/

inductive Request where
  | openSession (access : InterpAccess) (settings : Settings)
  /-- Makes a session the current one; the answer is the one before it. -/
  | install (session : SessionId)
  /-- The current session, which is opened if there is none. -/
  | currentSession
  | evaluate (session : SessionId) (script : String)
  | lastResult (session : SessionId)
  | setResult (session : SessionId) (value : String)
  | takeDeferred (session : SessionId)
  | takeOutput (session : SessionId)
  | setDump (session : SessionId) (dump : DumpStream)
  | inError (session : SessionId)
  | runLoop (session : SessionId)
  /-- Makes a command, for the current session if it is bound to none. -/
  | newCommand (session : Option SessionId) (text suffix : String)
  | append (command : BufferId) (text : String)
  | prepend (command : BufferId) (text : String)
  | absorb (command other : BufferId)
  | commandText (command : BufferId)
  | isInvoked (command : BufferId)
  | evaluateOnce (command : BufferId)
  | evaluateText (command : BufferId)
  | share (command : BufferId)
  | release (command : BufferId)
  /-- Merges two expressions, which are used up. -/
  | combine (left right : Expression)
  /-- Puts a word in front of an expression, which is used up. -/
  | prefixed (word : String) (expression : Expression)
  | unregister (session : SessionId) (name : String)
  | unregisterHandle (handle : CallbackHandle)
  | dropHandle (handle : CallbackHandle)
  | link (session : SessionId) (target : HostVariable)
  | linkScoped (session : SessionId) (target : HostVariable)
  | unlink (session : SessionId) (target : HostVariable)
  | dropGuard (linkGuard : LinkGuard)
  | syncToHost (session : SessionId)
  | syncToInterpreter (session : SessionId)
  | getInt (id : Nat)
  | setInt (id : Nat) (value : Int64)
  | getFloat (id : Nat)
  | setFloat (id : Nat) (value : Float)
  | getText (id : Nat)
  | setText (id : Nat) (value : String)

/-- What a request is answered with, unless it fails. -/
abbrev Request.Value : Request → Type
  | .openSession _ _ | .currentSession => SessionId
  | .install _ => Option SessionId
  | .evaluate _ _ | .lastResult _ => String
  | .takeDeferred _ => Option Failure
  | .takeOutput _ => Array String
  | .inError _ | .isInvoked _ => Bool
  | .newCommand _ _ _ => BufferId
  | .commandText _ | .evaluateText _ => String
  | .combine _ _ | .prefixed _ _ => Expression
  | .link _ _ => String
  | .linkScoped _ _ => LinkGuard
  | .getInt _ => Int64
  | .getFloat _ => Float
  | .getText _ => String
  | _ => Unit

end ScriptBridge
