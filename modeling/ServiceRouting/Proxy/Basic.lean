import ServiceRouting.Proxy.Backoff
import ServiceRouting.Proxy.Cancellation
import ServiceRouting.Routing.Selector

/-!
# Proxies

A proxy calls the methods of one service wherever in its projection the service runs. What its
callers share is the sticky slot and the token that ends their waiting. All proxies of a process
are kept in one pool and named by their number in it, so that two names of one proxy are told from
two proxies that look alike.
-/

namespace ServiceRouting

/-- What a proxy is made with. -/
structure ProxyOptions where
  selector : SelectorOptions := {}
  backoff : Backoff := .standard
deriving DecidableEq

/-- The number of a registry among those of the process. -/
abbrev RegistryNumber := Nat

/-- A proxy of a service. -/
structure Proxy where
  name : ServiceName
  selector : Selector
  /-- The registry that it asks for topologies and local instances. -/
  registry : RegistryNumber
  backoff : Backoff
  /-- The token that ends its pauses. -/
  token : Token
  slot : StickySlot

namespace Proxy

/-- A proxy that has not been used. -/
def make (c : Cluster) (name : ServiceName) (projection : Projection) (registry : RegistryNumber)
    (options : ProxyOptions) (token : Token) : Proxy :=
  { name, registry, token
    selector := .ofProjection c projection options.selector
    backoff := options.backoff
    slot := .empty }

/-- Whether the proxy keeps to the node it found first. -/
def isSticky (p : Proxy) : Bool := p.selector.options.sticky

/-- The proxy as a diagnostic text. -/
def text (p : Proxy) (c : Cluster) : String :=
  "ServiceProxy \x7b name: " ++ Text.quoted p.name ++ ", projection: "
    ++ p.selector.projection.text c ++ ", sticky: " ++ toString p.isSticky ++ ", backoff: "
    ++ p.backoff.text ++ " \x7d"

end Proxy

/-- The number of a proxy in its pool. -/
abbrev ProxyNumber := Nat

/-- All proxies of a process and the tokens issued to them. -/
structure ProxyPool where
  tokens : Tokens
  /-- The proxies in the order of their making. -/
  proxies : List Proxy

namespace ProxyPool

/-- The pool without proxies. -/
def empty : ProxyPool := ⟨{}, []⟩

/-- The proxy with this number. -/
def get? (pool : ProxyPool) (number : ProxyNumber) : Option Proxy := pool.proxies[number]?

/-- Adds a proxy and gives its number. -/
def add (pool : ProxyPool) (p : Proxy) : ProxyPool × ProxyNumber :=
  ({ pool with proxies := pool.proxies ++ [p] }, pool.proxies.length)

/-- Sets the slot of a proxy. -/
def setSlot (pool : ProxyPool) (number : ProxyNumber) (slot : StickySlot) : ProxyPool :=
  { pool with proxies := pool.proxies.modify number fun p => { p with slot } }

/-- Cancels the token of a proxy. -/
def cancel (pool : ProxyPool) (number : ProxyNumber) : ProxyPool :=
  match pool.get? number with
  | some p => { pool with tokens := pool.tokens.cancel p.token }
  | none => pool

/-- Whether the token of a proxy counts as cancelled. -/
def isCancelled (pool : ProxyPool) (number : ProxyNumber) : Bool :=
  (pool.get? number).any fun p => pool.tokens.isCancelled p.token

/-- Adds a proxy whose token lies below no other. -/
def addSeparate (pool : ProxyPool) (c : Cluster) (name : ServiceName) (projection : Projection)
    (registry : RegistryNumber) (options : ProxyOptions) : ProxyPool × ProxyNumber :=
  let issued := pool.tokens.root
  add { pool with tokens := issued.1 } (.make c name projection registry options issued.2)

/-- Adds a proxy whose token lies below another. -/
def addBelow (pool : ProxyPool) (parent : Token) (c : Cluster) (name : ServiceName)
    (projection : Projection) (registry : RegistryNumber) (options : ProxyOptions) :
    ProxyPool × ProxyNumber :=
  let issued := pool.tokens.child parent
  add { pool with tokens := issued.1 } (.make c name projection registry options issued.2)

end ProxyPool

end ServiceRouting
