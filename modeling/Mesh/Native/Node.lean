import Mathlib.Data.List.AList
import Mesh.ForStd.Bytes

/-!
# Node identity and neighbour table (`mesh/node.rs`)

The neighbour table is a hash map keyed by node id. An association list with
distinct keys models it; its order stands for the map's unspecified iteration
order.
-/

namespace Mesh

/-- Information about a mesh node. -/
structure NodeInfo where
  nodeId : UInt32
  shortName : String
  longName : String
  /-- Last-heard RSSI in dBm, if available. -/
  lastRssi : Option Int16
deriving DecidableEq

/-- This node's persistent identity. -/
structure LocalNode where
  nodeId : UInt32
  shortName : String
  longName : String
deriving DecidableEq

namespace LocalNode

/-- A node with a freshly drawn id. -/
def new (random : UInt32) (shortName longName : String) : LocalNode :=
  { nodeId := random, shortName, longName }

/-- Reconstruct a node from a previously persisted id. -/
def withId (nodeId : UInt32) (shortName longName : String) : LocalNode :=
  { nodeId, shortName, longName }

/-- How the node introduces itself. -/
def nodeInfo (self : LocalNode) : NodeInfo :=
  { nodeId := self.nodeId, shortName := self.shortName, longName := self.longName,
    lastRssi := none }

end LocalNode

/-- Live view of neighbouring nodes. -/
structure NeighbourTable where
  nodes : AList (fun _ : UInt32 => NodeInfo)
deriving DecidableEq

namespace NeighbourTable

def default : NeighbourTable := ⟨∅⟩

/-- Put a neighbour in, in place of what was known of it. -/
def update (self : NeighbourTable) (info : NodeInfo) : NeighbourTable :=
  ⟨self.nodes.insert info.nodeId info⟩

/-- All neighbours. -/
def all (self : NeighbourTable) : List NodeInfo := self.nodes.entries.map (·.2)

/-- The neighbour of this id. -/
def get (self : NeighbourTable) (nodeId : UInt32) : Option NodeInfo := self.nodes.lookup nodeId

@[simp] theorem get_default (n : UInt32) : default.get n = none := rfl

/-- An update is found under its id. -/
@[simp] theorem get_update_self (self : NeighbourTable) (info : NodeInfo) :
    (self.update info).get info.nodeId = some info :=
  AList.lookup_insert _

/-- An update leaves the other ids alone. -/
theorem get_update_of_ne (self : NeighbourTable) (info : NodeInfo) {n : UInt32}
    (h : n ≠ info.nodeId) : (self.update info).get n = self.get n :=
  AList.lookup_insert_ne h

end NeighbourTable

end Mesh
