import EventFormation.Proofs.PoolRuns

/-!
# Look-ups of pools

Clusters, slots and positions are looked up by number.  Here the operations of a
pool are told again such that they give nothing if at any moment a number is out
of range.  What uses numbers itself is guarded, and all else is made of the
checked forms of its parts.  A well-formed pool never meets such a number, and so
a checked operation gives what the operation gives.
-/

namespace EventFormation

namespace Pool

/-- The free slot that is used next, if any, has to exist. -/
def startCluster? (pool : Pool) (readout : Readout) : Option Pool := do
  guard (∀ slot ∈ pool.free.head?, slot < pool.size)
  return pool.startCluster readout

def mergeInto? (target position : Nat) (pool : Pool) : Option Pool := do
  let slot ← pool.active[position]?
  guard (slot < pool.size ∧ target < pool.size)
  return mergeInto target position pool

def insert? (pool : Pool) (readout : Readout) : Option Pool := do
  guard (∀ slot ∈ pool.active, slot < pool.size)
  match pool.admitting readout with
  | [] => pool.startCluster? readout
  | first :: others =>
    let target ← pool.active[first]?
    let merged ← others.foldrM (mergeInto? target) pool
    guard (target < merged.size)
    return { merged with
      slots := merged.slots.modify target (·.insert readout)
      tally.added := merged.tally.added + 1 }

def close? (pool : Pool) (start stop : Nat) : Option (Pool × Nat) := do
  guard (∀ slot ∈ pool.active, slot < pool.size)
  return pool.close start stop

def flush? (pool : Pool) : Option (Pool × List Cluster) := do
  guard (∀ slot ∈ pool.closed, slot < pool.size)
  return pool.flush

def receive? (pool : Pool) (cluster : Cluster) : Option Pool := do
  guard (∀ slot ∈ pool.free.head?, slot < pool.size)
  return pool.receive cluster

def moveActive? (receiver giver : Pool) : Option (Pool × Pool × Nat) := do
  guard (∀ slot ∈ giver.active, slot < giver.size)
  let received ← giver.activeClusters.foldlM receive? receiver
  return (received, giver.clearActive.1, received.tally.transferred - receiver.tally.transferred)

section

variable {pool : Pool} (wellFormed : pool.WellFormed)
include wellFormed

theorem WellFormed.head_lt : ∀ slot ∈ pool.free.head?, slot < pool.size := by
  intro slot first
  have member : slot ∈ pool.free := List.mem_of_mem_head? first
  exact wellFormed.lt_size (by simp [member])

theorem startCluster?_eq (readout : Readout) :
    pool.startCluster? readout = some (pool.startCluster readout) := by
  rw [startCluster?, guard, if_pos wellFormed.head_lt]
  rfl

theorem receive?_eq (cluster : Cluster) : pool.receive? cluster = some (pool.receive cluster) := by
  rw [receive?, guard, if_pos wellFormed.head_lt]
  rfl

theorem close?_eq (start stop : Nat) : pool.close? start stop = some (pool.close start stop) := by
  have inside : ∀ slot ∈ pool.active, slot < pool.size := fun _ => wellFormed.active_lt
  rw [close?, guard, if_pos inside]
  rfl

theorem flush?_eq : pool.flush? = some pool.flush := by
  have inside : ∀ slot ∈ pool.closed, slot < pool.size :=
    fun _ member => wellFormed.lt_size (List.mem_append_right _ member)
  rw [flush?, guard, if_pos inside]
  rfl

/-- Positions are merged from the highest one down, so the lower ones stay valid. -/
theorem foldrM_mergeInto?_eq {target : Nat} {positions : List Nat}
    (ascending : positions.Pairwise (· < ·))
    (inside : ∀ position ∈ positions, position < pool.active.length)
    (targetInside : target < pool.size) (fresh : target ∉ pool.slotsAt positions) :
    positions.foldrM (mergeInto? target) pool = some (positions.foldr (mergeInto target) pool) := by
  induction positions with
  | nil => rfl
  | cons position positions induction =>
      obtain ⟨below, ascendingRest⟩ := List.pairwise_cons.mp ascending
      have restInside : ∀ other ∈ positions, other < pool.active.length :=
        fun other member => inside other (List.mem_cons_of_mem _ member)
      have restFresh : target ∉ pool.slotsAt positions :=
        fun member => fresh (List.mem_cons_of_mem _ member)
      have merged := merged_foldr ascendingRest restInside wellFormed.nodup_active targetInside
        restFresh
      have found := List.getElem?_eq_getElem (inside position List.mem_cons_self)
      have slotInside := wellFormed.active_lt (List.mem_of_getElem? found)
      rw [List.foldrM_cons, induction ascendingRest restInside restFresh]
      simp only [Option.bind_eq_bind, Option.bind_some, List.foldr_cons, mergeInto?,
        merged.active_below position below, found, merged.size, guard, slotInside, targetInside,
        and_self, if_true]
      rfl

theorem insert?_eq (readout : Readout) : pool.insert? readout = some (pool.insert readout) := by
  have active : ∀ slot ∈ pool.active, slot < pool.size := fun _ => wellFormed.active_lt
  rw [insert?, guard, if_pos active]
  cases positions : pool.admitting readout with
  | nil =>
      simp only [Pool.insert, positions]
      exact startCluster?_eq wellFormed readout
  | cons first others =>
      obtain ⟨ascending, inside, member, fresh⟩ := wellFormed.admitting_cons positions
      have othersInside : ∀ position ∈ others, position < pool.active.length :=
        fun position later => inside position (List.mem_cons_of_mem _ later)
      have found : pool.active[first]? = some (pool.active.getD first 0) := by
        simp [List.getD_eq_getElem?_getD, inside first List.mem_cons_self]
      have targetInside := wellFormed.active_lt member
      have merged := merged_foldr ascending othersInside wellFormed.nodup_active targetInside fresh
      have checked := foldrM_mergeInto?_eq wellFormed ascending othersInside targetInside fresh
      simp only [Pool.insert, positions, found, checked, Option.bind_eq_bind, Option.bind_some,
        merged.size, guard, targetInside, if_true]
      rfl

theorem foldlM_insert?_eq (readouts : List Readout) :
    readouts.foldlM insert? pool = some (pool.insertAll readouts) := by
  induction readouts generalizing pool with
  | nil => rfl
  | cons readout readouts induction =>
      rw [List.foldlM_cons, insert?_eq wellFormed]
      exact induction (wellFormed.insert readout)

theorem foldlM_receive?_eq {clusters : List Cluster}
    (settled : ∀ cluster ∈ clusters, cluster.Settled) :
    clusters.foldlM receive? pool = some (clusters.foldl receive pool) := by
  induction clusters generalizing pool with
  | nil => rfl
  | cons cluster clusters induction =>
      rw [List.foldlM_cons, receive?_eq wellFormed]
      exact induction (wellFormed.receive (settled cluster List.mem_cons_self))
        (fun other member => settled other (List.mem_cons_of_mem _ member))

theorem moveActive?_eq {giver : Pool} (giving : giver.WellFormed) :
    pool.moveActive? giver = some (pool.moveActive giver) := by
  have inside : ∀ slot ∈ giver.active, slot < giver.size := fun _ => giving.active_lt
  have received := foldlM_receive?_eq wellFormed (activeClusters_settled giving)
  rw [moveActive?, guard, if_pos inside, received]
  rfl

end

end Pool

end EventFormation
