import Mesh.Native.Packet
import Mesh.ForStd.Fifo

/-!
# Flood router (`mesh/router.rs`)

The router drops packets whose `(from, id)` it has seen recently, delivers what
is addressed to this node or to everyone, and relays whatever still has hops
left. `DedupCache` carries its two invariants, so a cache with a repeated or a
fifty-first entry cannot be built.
-/

namespace Mesh

/-- Capacity of the packet deduplication ring buffer. -/
def dedupCapacity : Nat := 50

/-- What the cache remembers of a packet: its sender and its id. -/
abbrev Key : Type := UInt32 × UInt32

instance : LawfulBEq Key := inferInstance

/-- The key of a header. -/
def MeshHeader.key (h : MeshHeader) : Key := (h.fromNode, h.id)

/-- Ring buffer of recently seen `(from_node, packet_id)` pairs, oldest first. -/
structure DedupCache where
  entries : List Key
  length_le : entries.length ≤ dedupCapacity
  nodup : entries.Nodup

namespace DedupCache

/-- An empty cache. -/
def new : DedupCache := ⟨[], by decide, List.nodup_nil⟩

/-- The ring buffer after `push_back`, with `pop_front` first when it is full. -/
def push (entries : List Key) (key : Key) : List Key :=
  (if entries.length = dedupCapacity then entries.tail else entries) ++ [key]

/-- On a miss the cache is a bounded FIFO set. -/
theorem push_eq_insert {entries : List Key} {key : Key} (h : key ∉ entries) :
    push entries key = Fifo.insert dedupCapacity key entries :=
  (Fifo.insert_of_not_mem h).symm

/-- Returns `true` if the packet was already seen; inserts the entry on a miss. -/
def checkAndInsert (self : DedupCache) (fromNode id : UInt32) : Bool × DedupCache :=
  if h : (fromNode, id) ∈ self.entries then
    (true, self)
  else
    (false, {
      entries := push self.entries (fromNode, id)
      length_le := by
        rw [push_eq_insert h]
        exact Fifo.length_insert_le (by decide) _ self.length_le
      nodup := by
        rw [push_eq_insert h]
        exact Fifo.nodup_insert _ _ self.nodup })

@[ext] theorem ext {c c' : DedupCache} (h : c.entries = c'.entries) : c = c' := by
  cases c; cases c'; cases h; rfl

instance : DecidableEq DedupCache := fun c c' =>
  decidable_of_iff (c.entries = c'.entries) ⟨DedupCache.ext, fun h => h ▸ rfl⟩

/-- The first component is membership, the second a `Fifo.insert`. -/
@[simp] theorem checkAndInsert_fst (self : DedupCache) (fromNode id : UInt32) :
    (self.checkAndInsert fromNode id).1 = decide ((fromNode, id) ∈ self.entries) := by
  unfold checkAndInsert
  split <;> simp_all

/-- Hit or miss, the cache is a bounded FIFO set. -/
@[simp] theorem entries_checkAndInsert (self : DedupCache) (fromNode id : UInt32) :
    (self.checkAndInsert fromNode id).2.entries =
      Fifo.insert dedupCapacity (fromNode, id) self.entries := by
  unfold checkAndInsert
  split
  · rename_i h; exact (Fifo.insert_of_mem h).symm
  · rename_i h; exact push_eq_insert h

/-- A duplicate leaves the cache as it is. -/
theorem checkAndInsert_of_mem {self : DedupCache} {fromNode id : UInt32}
    (h : (fromNode, id) ∈ self.entries) : self.checkAndInsert fromNode id = (true, self) :=
  dif_pos h

end DedupCache

/-- Decision returned by the router for each received frame. -/
inductive RouteDecision
  /-- Deliver the plaintext body to the application layer. -/
  | deliver (plaintext : List UInt8)
  /-- Re-broadcast with decremented hop limit. -/
  | forward (frame : MeshFrame)
  /-- Deliver and forward. -/
  | deliverAndForward (plaintext : List UInt8) (frame : MeshFrame)
  /-- Drop silently. -/
  | drop
deriving DecidableEq

/-- A copy with one hop less. -/
def MeshFrame.fwd (frame : MeshFrame) : MeshFrame :=
  { header := { frame.header with hopLimit := frame.header.hopLimit - 1 },
    payload := frame.payload }

/-- Addressed to this node or to everyone. -/
def MeshHeader.forUs (h : MeshHeader) (nodeId : UInt32) : Prop :=
  h.toNode = nodeId ∨ h.toNode = broadcast

instance (h : MeshHeader) (nodeId : UInt32) : Decidable (h.forUs nodeId) :=
  inferInstanceAs (Decidable (_ ∨ _))

/-- Stateless routing function, returned with the cache it was lent. -/
def route (frame : MeshFrame) (nodeId : UInt32) (plaintext : List UInt8) (dedup : DedupCache) :
    RouteDecision × DedupCache :=
  let h := frame.header
  -- the key is inserted before the body is looked at
  let (seen, dedup) := dedup.checkAndInsert h.fromNode h.id
  if seen then
    (.drop, dedup)
  else if h.hopLimit = 0 then
    -- no hop left: deliver, but do not relay
    (if h.forUs nodeId then .deliver plaintext else .drop, dedup)
  else if h.forUs nodeId then
    (.deliverAndForward plaintext frame.fwd, dedup)
  else
    (.forward frame.fwd, dedup)

end Mesh
