import EventFormation.Proofs.PoolGrouping

/-!
# Pools in use

Any number of pools are made, changed one at a time, and have clusters moved
between two of them, in any order.  Whatever is asked of them, each pool shares
out its slots among its three lists, has a hit in every cluster, and keeps the
number of slots that it was made with.
-/

namespace EventFormation

/-- What can be asked of one pool. -/
inductive PoolChange where
  | setLimits (limits : Limits)
  | insert (readout : Readout)
  | close (start stop : Nat)
  | clearActive
  | clearClosed
  | flush
  deriving DecidableEq

/-- What can be asked of several pools, which are numbered as they are made. -/
inductive PoolStep where
  | create (limits : Limits) (size : Nat)
  | apply (number : Nat) (change : PoolChange)
  /-- Clusters are moved between two different pools. -/
  | moveActive (receiver giver : Nat)
  deriving DecidableEq

namespace Pool

def change (pool : Pool) : PoolChange → Pool
  | .setLimits limits => { pool with limits }
  | .insert readout => pool.insert readout
  | .close start stop => (pool.close start stop).1
  | .clearActive => pool.clearActive.1
  | .clearClosed => pool.clearClosed.1
  | .flush => pool.flush.1

end Pool

namespace PoolStep

/-- Performs a step.  What is asked of a pool that does not exist is not done. -/
def perform (pools : List Pool) : PoolStep → List Pool
  | .create limits size => pools ++ [.ofSize limits size]
  | .apply number change =>
    match pools[number]? with
    | some pool => pools.set number (pool.change change)
    | none => pools
  | .moveActive receiver giver =>
    match pools[receiver]?, pools[giver]? with
    | some taking, some giving =>
      if receiver = giver then pools
      else
        let (taken, given, _) := taking.moveActive giving
        (pools.set receiver taken).set giver given
    | _, _ => pools

/-- Performs steps one after the other, with no pool at first. -/
def run (steps : List PoolStep) : List Pool :=
  steps.foldl perform []

theorem run_concat (steps : List PoolStep) (step : PoolStep) :
    run (steps ++ [step]) = perform (run steps) step :=
  List.foldl_concat ..

theorem getD_mem_run {steps : List PoolStep} {number : Nat} (made : number < (run steps).length) :
    (run steps).getD number default ∈ run steps := by
  rw [List.getD_eq_getElem _ _ made]
  exact List.getElem_mem made

/-- The number of slots of the pool that a step makes. -/
def size? : PoolStep → Option Nat
  | .create _ size => some size
  | _ => none

end PoolStep

namespace Pool

variable {pool : Pool}

theorem WellFormed.change (wellFormed : pool.WellFormed) (change : PoolChange) :
    (pool.change change).WellFormed := by
  cases change with
  | setLimits limits => exact ⟨wellFormed.partition, wellFormed.settled⟩
  | insert readout => exact wellFormed.insert readout
  | close start stop => exact wellFormed.close start stop
  | clearActive => exact wellFormed.clearActive
  | clearClosed => exact wellFormed.clearClosed
  | flush => exact wellFormed.flush

theorem size_startCluster (pool : Pool) (readout : Readout) :
    (pool.startCluster readout).size = pool.size := by
  cases found : pool.free with
  | nil => simp only [startCluster, found, size]
  | cons slot free => simp only [startCluster, found, size, Array.size_setIfInBounds]

theorem size_receive (pool : Pool) (cluster : Cluster) :
    (pool.receive cluster).size = pool.size := by
  cases found : pool.free with
  | nil => simp only [receive, found, size]
  | cons slot free => simp only [receive, found, size, Array.size_setIfInBounds]

theorem size_change (wellFormed : pool.WellFormed) (change : PoolChange) :
    (pool.change change).size = pool.size := by
  cases change with
  | setLimits limits => rfl
  | insert readout =>
      rcases wellFormed.insert_cases readout with ⟨-, started⟩ | ⟨target, others, joined⟩
      · exact (congrArg size started).trans (size_startCluster pool readout)
      · exact joined.size
  | close start stop => rfl
  | clearActive => rfl
  | clearClosed => rfl
  | flush => rfl

theorem size_foldl_receive (pool : Pool) (clusters : List Cluster) :
    (clusters.foldl receive pool).size = pool.size := by
  induction clusters generalizing pool with
  | nil => rfl
  | cons cluster clusters induction =>
      exact (induction (pool.receive cluster)).trans (size_receive pool cluster)

theorem WellFormed.moveActive {receiver giver : Pool} (receiving : receiver.WellFormed)
    (giving : giver.WellFormed) :
    (receiver.moveActive giver).1.WellFormed ∧ (receiver.moveActive giver).2.1.WellFormed :=
  ⟨(received_foldl receiving (activeClusters_settled giving)).wellFormed, giving.clearActive⟩

end Pool

namespace PoolStep

/-- All that a step can do to pools: make one, nothing, change one, or move
clusters between two. -/
theorem perform_cases (pools : List Pool) (step : PoolStep) :
    (∃ limits size, step.size? = some size ∧ perform pools step = pools ++ [.ofSize limits size]) ∨
      step.size? = none ∧ (perform pools step = pools ∨
        (∃ (number : Nat) (pool : Pool) (change : PoolChange), pools[number]? = some pool ∧
          perform pools step = pools.set number (pool.change change)) ∨
        ∃ (receiver giver : Nat) (taking giving : Pool), receiver ≠ giver ∧
          pools[receiver]? = some taking ∧ pools[giver]? = some giving ∧
          perform pools step = (pools.set receiver (taking.moveActive giving).1).set giver
            (taking.moveActive giving).2.1) := by
  cases step with
  | create limits size => exact .inl ⟨limits, size, rfl, rfl⟩
  | apply number change =>
      refine .inr ⟨rfl, ?_⟩
      cases found : pools[number]? with
      | none => exact .inl (by simp only [perform, found])
      | some pool =>
          exact .inr (.inl ⟨number, pool, change, found, by simp only [perform, found]⟩)
  | moveActive receiver giver =>
      refine .inr ⟨rfl, ?_⟩
      cases foundReceiver : pools[receiver]? with
      | none => exact .inl (by simp only [perform, foundReceiver])
      | some taking =>
          cases foundGiver : pools[giver]? with
          | none => exact .inl (by simp only [perform, foundReceiver, foundGiver])
          | some giving =>
              by_cases same : receiver = giver
              · exact .inl (by simp only [perform, foundReceiver, foundGiver, if_pos same])
              · exact .inr (.inr ⟨receiver, giver, taking, giving, same, foundReceiver, foundGiver,
                  by simp only [perform, foundReceiver, foundGiver, if_neg same]⟩)

theorem map_size_set {pools : List Pool} {number : Nat} {pool after : Pool}
    (found : pools[number]? = some pool) (same : after.size = pool.size) :
    (pools.set number after).map Pool.size = pools.map Pool.size := by
  obtain ⟨inside, stored⟩ := List.getElem?_eq_some_iff.mp found
  have within : number < (pools.map Pool.size).length := by rwa [List.length_map]
  have kept : after.size = (pools.map Pool.size)[number] := by
    rw [List.getElem_map, stored, same]
  rw [List.map_set, kept, List.set_getElem_self]

section

variable {pools : List Pool} (wellFormed : ∀ pool ∈ pools, pool.WellFormed)
include wellFormed

theorem wellFormed_set {after : Pool} (wellFormedAfter : after.WellFormed) (number : Nat) :
    ∀ pool ∈ pools.set number after, pool.WellFormed := by
  intro pool member
  rcases List.mem_or_eq_of_mem_set member with old | rfl
  · exact wellFormed pool old
  · exact wellFormedAfter

theorem map_size_perform (step : PoolStep) :
    (perform pools step).map Pool.size = pools.map Pool.size ++ step.size?.toList := by
  rcases perform_cases pools step with ⟨limits, size, making, made⟩ | ⟨none, done⟩
  · have fresh : (Pool.ofSize limits size).size = size := Array.size_replicate
    rw [made, making, List.map_append, List.map_singleton, fresh, Option.toList_some]
  · rw [none, Option.toList_none, List.append_nil]
    rcases done with same | ⟨number, pool, change, found, changed⟩ |
      ⟨receiver, giver, taking, giving, different, foundReceiver, foundGiver, moved⟩
    · rw [same]
    · rw [changed]
      apply map_size_set found
      exact Pool.size_change (wellFormed pool (List.mem_of_getElem? found)) change
    · have stillThere :
          (pools.set receiver (taking.moveActive giving).1)[giver]? = some giving := by
        rw [List.getElem?_set_ne different, foundGiver]
      have given : (taking.moveActive giving).2.1.size = giving.size := rfl
      have taken : (taking.moveActive giving).1.size = taking.size :=
        Pool.size_foldl_receive taking giving.activeClusters
      rw [moved]
      exact (map_size_set stillThere given).trans (map_size_set foundReceiver taken)

theorem wellFormed_perform (step : PoolStep) :
    ∀ pool ∈ perform pools step, pool.WellFormed := by
  rcases perform_cases pools step with ⟨limits, size, -, made⟩ | ⟨-, done⟩
  · rw [made]
    intro pool member
    rcases List.mem_append.mp member with old | new
    · exact wellFormed pool old
    · rw [List.mem_singleton.mp new]
      exact Pool.wellFormed_ofSize limits size
  · rcases done with same | ⟨number, pool, change, found, changed⟩ |
      ⟨receiver, giver, taking, giving, -, foundReceiver, foundGiver, moved⟩
    · rwa [same]
    · have before := wellFormed pool (List.mem_of_getElem? found)
      rw [changed]
      exact wellFormed_set wellFormed (before.change change) number
    · have receiving := wellFormed taking (List.mem_of_getElem? foundReceiver)
      have given := wellFormed giving (List.mem_of_getElem? foundGiver)
      obtain ⟨taken, left⟩ := receiving.moveActive given
      rw [moved]
      exact wellFormed_set (wellFormed_set wellFormed taken receiver) left giver

end

theorem wellFormed_run (steps : List PoolStep) :
    (run steps).map Pool.size = steps.filterMap size? ∧
      ∀ pool ∈ run steps, pool.WellFormed := by
  induction steps using List.reverseRecOn with
  | nil => exact ⟨rfl, fun _ member => absurd member List.not_mem_nil⟩
  | append_singleton steps step induction =>
      obtain ⟨sizes, wellFormed⟩ := induction
      rw [run_concat]
      constructor
      · rw [map_size_perform wellFormed, sizes, List.filterMap_append]
        cases made : step.size? with
        | none => simp [made]
        | some size => simp [made]
      · exact wellFormed_perform wellFormed step

/-- Whatever is asked of pools, in each of them the free, the active and the
closed slots are all of its slots, each once, there are as many slots as it was
made with, and the clusters in active and closed slots have hits. -/
theorem run_shares_out_slots (steps : List PoolStep) :
    (run steps).map Pool.size = steps.filterMap size? ∧
      ∀ pool ∈ run steps,
        (pool.free ++ pool.active ++ pool.closed).Perm (List.range pool.size) ∧
          pool.active.length + pool.closed.length + pool.free.length = pool.size ∧
          ∀ slot ∈ pool.active ++ pool.closed, (pool.cluster slot).hits ≠ [] := by
  obtain ⟨sizes, wellFormed⟩ := wellFormed_run steps
  refine ⟨sizes, ?_⟩
  intro pool member
  have shared := (wellFormed pool member).partition
  have count := shared.length_eq
  rw [List.length_append, List.length_append, List.length_range] at count
  refine ⟨shared, by omega, ?_⟩
  intro slot inUse
  exact ((wellFormed pool member).settled slot inUse).occupied

/-- Two clusters become one, and of the two that are then moved one finds no slot. -/
theorem crowded_move_shares_out_slots :
    let limits : Limits := { span := 100, gap := 10 }
    let steps : List PoolStep :=
      [.create limits 1, .create limits 4, .apply 1 (.insert (.neutron 10 5 5 1)),
        .apply 1 (.insert (.neutron 30 5 5 1)), .apply 1 (.insert (.neutron 50 9 9 1)),
        .apply 1 (.insert (.neutron 20 5 5 1)), .moveActive 0 1]
    let receiver := (run steps).getD 0 default
    receiver ∈ run steps ∧ receiver.tally.dropped = 1 ∧
      (run steps).map Pool.size = [1, 4] ∧
      (receiver.free ++ receiver.active ++ receiver.closed).Perm (List.range receiver.size) ∧
      receiver.active.length + receiver.closed.length + receiver.free.length = receiver.size ∧
      ∀ slot ∈ receiver.active ++ receiver.closed, (receiver.cluster slot).hits ≠ [] := by
  intro limits steps receiver
  have inside : 0 < (run steps).length := by decide +kernel
  have member : receiver ∈ run steps := by
    have stored : receiver = (run steps)[0] := List.getD_eq_getElem _ _ inside
    rw [stored]
    exact List.getElem_mem inside
  have dropped : receiver.tally.dropped = 1 := by decide +kernel
  obtain ⟨sizes, shared⟩ := run_shares_out_slots steps
  exact ⟨member, dropped, sizes, shared receiver member⟩

end PoolStep

end EventFormation
