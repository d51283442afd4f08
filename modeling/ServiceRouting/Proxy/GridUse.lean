import ServiceRouting.Proxy.Grid

/-!
# The use of a grid

The tasks of a node that use its grid, as one machine. A request for the shared proxy of a service
looks for it and, if there is none, comes back to take the one made meanwhile or to make it, which
nothing can come between. Each step is one of these or another use of the grid or of one of its
proxies, so that a sequence of steps is an interleaving of the tasks.
-/

namespace ServiceRouting

namespace GridUse

/-- A request for the shared proxy of a service. -/
structure Request where
  name : ServiceName
  /-- The proxy that was given. A request that has found none is still under way. -/
  given : Option ProxyNumber
deriving DecidableEq

/-- A use of the grid or of one of its proxies. -/
inductive Move where
  /-- A request begins and looks for the shared proxy. -/
  | look (name : ServiceName)
  /-- A request under way takes the shared proxy or makes it, with the cluster as it is. -/
  | enter (request : Nat) (c : Cluster)
  /-- A proxy for a part of the cluster is made. -/
  | separate (c : Cluster) (name : ServiceName) (projection : Projection) (options : ProxyOptions)
  /-- A caller of a proxy sets its slot. -/
  | fill (number : ProxyNumber) (slot : StickySlot)
  /-- The token of a proxy is cancelled. -/
  | cancel (number : ProxyNumber)
  | shutdown

end GridUse

/-- A grid and what was asked of it. -/
structure GridUse where
  grid : Grid
  /-- The requests for shared proxies in the order in which they began. -/
  requests : List GridUse.Request
  /-- The proxies made for parts of the cluster. -/
  separate : List ProxyNumber

namespace GridUse

/-- Nothing was asked of the grid. -/
def unused (registry : RegistryNumber) (options : ProxyOptions) : GridUse :=
  { grid := .make registry options, requests := [], separate := [] }

/-- One step, if it can be taken. -/
def step (s : GridUse) : Move → Option GridUse
  | .look name => some { s with requests := s.requests ++ [⟨name, s.grid.shared.get? name⟩] }
  | .enter request c =>
    match s.requests[request]? with
    | some ⟨name, none⟩ =>
      let found := s.grid.serviceProxy c name
      some { s with grid := found.1, requests := s.requests.set request ⟨name, some found.2⟩ }
    | _ => none
  | .separate c name projection options =>
    let made := s.grid.proxyFor c name projection options
    some { s with grid := made.1, separate := s.separate ++ [made.2] }
  | .fill number slot =>
    (s.grid.pool.get? number).map fun _ =>
      { s with grid := { s.grid with pool := s.grid.pool.setSlot number slot } }
  | .cancel number =>
    (s.grid.pool.get? number).map fun _ =>
      { s with grid := { s.grid with pool := s.grid.pool.cancel number } }
  | .shutdown => some { s with grid := s.grid.shutdown }

/-- Several steps, if they can all be taken. -/
def run (s : GridUse) : List Move → Option GridUse
  | [] => some s
  | move :: moves => (s.step move).bind (run · moves)

end GridUse

end ServiceRouting
