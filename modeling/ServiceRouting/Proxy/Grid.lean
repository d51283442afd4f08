import ServiceRouting.Proxy.Basic

/-!
# The grid of a node

The proxies that a node makes for itself. A proxy for the whole cluster is made once for each
service and shared from then on; a proxy for a part of it is made anew each time. The tokens of all
of them lie below one token, and shutting the node down cancels that one.
-/

namespace ServiceRouting

/-- The proxies of a node. -/
structure Grid where
  /-- The registry of the node. -/
  registry : RegistryNumber
  options : ProxyOptions
  /-- The token that shutting down cancels. -/
  shutdownToken : Token
  /-- The shared proxies by service. -/
  shared : Table ProxyNumber
  pool : ProxyPool

namespace Grid

/-- A grid without proxies. -/
def make (registry : RegistryNumber) (options : ProxyOptions) : Grid :=
  let issued := ProxyPool.empty.tokens.root
  { registry, options
    shutdownToken := issued.2
    shared := Table.empty
    pool := { ProxyPool.empty with tokens := issued.1 } }

/-- Makes a proxy for a projection, with a token below the one for shutting down. -/
def proxyFor (g : Grid) (c : Cluster) (name : ServiceName) (projection : Projection)
    (options : ProxyOptions) : Grid × ProxyNumber :=
  let added := g.pool.addBelow g.shutdownToken c name projection g.registry options
  ({ g with pool := added.1 }, added.2)

/-- The shared proxy of a service, made on its first use. -/
def serviceProxy (g : Grid) (c : Cluster) (name : ServiceName) : Grid × ProxyNumber :=
  match g.shared.get? name with
  | some number => (g, number)
  | none =>
    let made := g.proxyFor c name (.all []) g.options
    ({ made.1 with shared := g.shared.insert name made.2 }, made.2)

/-- The number of shared proxies. -/
def sharedCount (g : Grid) : Nat := g.shared.size

/-- Cancels all proxies that the grid has made or will make. -/
def shutdown (g : Grid) : Grid :=
  { g with pool := { g.pool with tokens := g.pool.tokens.cancel g.shutdownToken } }

/-- Whether the grid was shut down. -/
def isShutDown (g : Grid) : Bool := g.pool.tokens.isCancelled g.shutdownToken

end Grid

end ServiceRouting
