import ServiceRouting.Transport.Http

/-!
# Traffic

What a node does on the network for a call that it submits, written down in order. Nothing is
assumed of the network: what comes of a request, and which number is drawn for a jitter, may depend
in any way on all that was done before.
-/

namespace ServiceRouting

namespace Http

/-- What is done on a network. -/
inductive Act where
  /-- A request was sent to an address, and this came of it. -/
  | posted (address : SocketAddress) (request : InvokeRequest) (sending : Sending)
  | waited (ms : Nat)

/-- What was done, in order. -/
abbrev Traffic := List Act

/-- What becomes of requests, and the numbers drawn, after anything that was done. -/
structure Line where
  sending : Traffic → SocketAddress → InvokeRequest → Sending
  draw : Traffic → Nat

/-- The network of a line, with what is done on it written down. -/
def Line.network (line : Line) : Network (StateM Traffic) where
  send address request := fun past =>
    let sending := line.sending past address request
    (sending, past ++ [.posted address request sending])
  draw := fun past => (line.draw past, past)
  wait ms := fun past => ((), past ++ [.waited ms])

/-- What came of a request, if one was sent. -/
def Act.sending? : Act → Option Sending
  | posted _ _ sending => some sending
  | waited _ => none

/-- What came of the requests that were sent. -/
def sendings (done : Traffic) : List Sending := done.filterMap Act.sending?

end Http

end ServiceRouting
