/-!
# Socket addresses

An address of version 4 or 6 of the Internet Protocol with a port. Octets, segments, ports and
scopes are bounded numbers.
-/

namespace ServiceRouting

/-- An address and a port to reach a node at. -/
inductive SocketAddress where
  /-- Four octets. -/
  | v4 (a b c d : Fin 256) (port : Fin 65536)
  /-- Eight segments, and the scope of the address, 0 if it has none. -/
  | v6 (segments : Vector (Fin 65536) 8) (scope : Fin 4294967296) (port : Fin 65536)
deriving DecidableEq

namespace SocketAddress

/-- The port of the address. -/
def port : SocketAddress → Nat
  | v4 _ _ _ _ port => port
  | v6 _ _ port => port

/-- Whether the address has a scope, so that no URL can hold it. -/
def isScoped : SocketAddress → Bool
  | v4 .. => false
  | v6 _ scope _ => scope ≠ 0

end SocketAddress

end ServiceRouting
