import ServiceRouting.Service.Signature
import ServiceRouting.Service.Topology

/-!
# Failures of calls

A transport reports a `DispatchError`; the caller of a proxy sees an `InvocationError`. Errors from
outside carry a chain of causes, which a short text cuts after the outermost one. A failure is
retryable if it says that the service or its node has gone.
-/

namespace ServiceRouting

/-- An error and its causes, the outermost first. -/
structure ErrorChain where
  outermost : String
  causes : List String := []
deriving DecidableEq

/-- The error and its causes, joined by colons. -/
def ErrorChain.fullText (e : ErrorChain) : String :=
  String.intercalate ": " (e.outermost :: e.causes)

/-- Why a transport could not deliver the result of a call. -/
inductive DispatchError where
  | serviceNotFound (service : ServiceName) (node : NodeId)
  | methodNotFound (service : ServiceName) (method : Signature)
  | topologyChanged (node : NodeId)
  /-- The method ran and failed. -/
  | failed (message : String)
  | transport (source : ErrorChain)
deriving DecidableEq

/-- Why an invocation failed. -/
inductive InvocationError where
  /-- No node in the projection hosts the service. -/
  | serviceUnavailable (service : ServiceName)
  /-- The node no longer hosts the service. -/
  | serviceNotFound (service : ServiceName) (node : NodeId)
  /-- The node cannot be reached any more. -/
  | topologyChanged (node : NodeId)
  | methodNotFound (service : ServiceName) (method : Signature)
  /-- The proxy was cancelled while it waited to retry. -/
  | interrupted
  /-- The method itself failed. -/
  | failed (source : ErrorChain)
  /-- Any other failure of the transport. -/
  | dispatch (source : ErrorChain)
deriving DecidableEq

/-- The text of a missing service. -/
def serviceNotFoundText (service : ServiceName) (node : NodeId) : String :=
  "service " ++ service ++ " is not deployed on node " ++ node

/-- The text of a missing method. -/
def methodNotFoundText (service : ServiceName) (method : Signature) : String :=
  "service " ++ service ++ " has no method matching " ++ method.text

/-- The text of the error. -/
def DispatchError.message : DispatchError → String
  | serviceNotFound service node => serviceNotFoundText service node
  | methodNotFound service method => methodNotFoundText service method
  | topologyChanged node => "node " ++ node ++ " is not reachable"
  | failed message => "remote method failed: " ++ message
  | transport source => "transport failure: " ++ source.outermost

namespace InvocationError

/-- The short text of the error: of a failure of the method, the outermost error alone. -/
def message : InvocationError → String
  | serviceUnavailable service => "failed to find deployed service: " ++ service
  | serviceNotFound service node => serviceNotFoundText service node
  | topologyChanged node => "node " ++ node ++ " is no longer part of the topology"
  | methodNotFound service method => methodNotFoundText service method
  | interrupted => "service invocation interrupted"
  | failed source => source.outermost
  | dispatch source => "service dispatch failed: " ++ source.outermost

/-- The full text of the error: of a failure of the method, with all its causes. -/
def fullText : InvocationError → String
  | failed source => source.fullText
  | e => e.message

/-- Whether the proxy tries again after this failure. -/
def isRetryable : InvocationError → Bool
  | serviceNotFound .. | topologyChanged .. => true
  | _ => false

/-- The HTTP status of an answer that reports the error. -/
def status : InvocationError → Nat
  | serviceUnavailable _ | methodNotFound .. => 404
  | interrupted => 503
  | dispatch _ => 502
  | serviceNotFound .. | topologyChanged _ | failed _ => 500

/-- What a failure of the transport means to the caller. -/
def ofDispatch : DispatchError → InvocationError
  | .serviceNotFound service node => serviceNotFound service node
  | .methodNotFound service method => methodNotFound service method
  | .topologyChanged node => topologyChanged node
  | .failed message => failed ⟨message, []⟩
  | .transport source => dispatch source

/-- What a result of the transport means to the caller. -/
def ofResult {α : Type} : Except DispatchError α → Except InvocationError α
  | .ok value => .ok value
  | .error e => .error (ofDispatch e)

end InvocationError

end ServiceRouting
