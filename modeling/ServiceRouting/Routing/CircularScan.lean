import ServiceRouting.Service.Topology

/-!
# Circular scans

The pick among the entries of a topology from a start: the first entry from there on that counts an
instance, or else the first such entry from the front on. Entries without an instance thereby pass
their turn to the entry with instances that follows them in the circle.
-/

namespace ServiceRouting

/-- Whether an entry counts an instance. -/
def isHosting (entry : NodeId × Nat) : Bool := 0 < entry.2

/-- The node of the first entry that counts an instance, scanned in a circle from a start. -/
def circularScan (entries : List (NodeId × Nat)) (start : Nat) : Option NodeId :=
  match (entries.drop start).find? isHosting with
  | some entry => some entry.1
  | none => ((entries.take (start + 1)).find? isHosting).map (·.1)

/-- The picks for all starts from the front to just behind the last entry. -/
def circularScans (entries : List (NodeId × Nat)) : List (Option NodeId) :=
  (List.range (entries.length + 1)).map (circularScan entries)

end ServiceRouting
