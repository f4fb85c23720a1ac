import EventFormation.Proofs.LaneLedger
import EventFormation.Proofs.PoolRuns

/-!
# The ledger of a pool

What is asked of pools brings readouts and clusters to a pool and takes them
away from it.  Recorded call by call, they explain its tally: every cluster
that came is still there or has left in one of the known ways, and so has every
hit, exactly once.

The entry of a call is read off the pools as they are before it.  Clusters that
are moved find slots in the order in which they come, so the first ones are
received and the others are refused.
-/

namespace EventFormation

namespace Cluster

def allHits (clusters : List Cluster) : Hits :=
  (groups clusters).sum

@[simp] theorem allHits_nil : allHits [] = 0 := rfl

theorem allHits_cons (cluster : Cluster) (clusters : List Cluster) :
    allHits (cluster :: clusters) = cluster.group + allHits clusters := by
  simp [allHits, groups]

@[simp] theorem allHits_append (first second : List Cluster) :
    allHits (first ++ second) = allHits first + allHits second := by
  rw [allHits, groups_append, Multiset.sum_add]
  rfl

theorem card_group (cluster : Cluster) : cluster.group.card = cluster.size := rfl

theorem allHits_filter_add (chosen : Cluster → Bool) (clusters : List Cluster) :
    allHits (clusters.filter chosen) + allHits (clusters.filter fun cluster => !chosen cluster) =
      allHits clusters := by
  have parted : (clusters.filter chosen ++ clusters.filter fun cluster => !chosen cluster).Perm
      clusters := List.filter_append_perm _ _
  have same : groups (clusters.filter chosen ++ clusters.filter fun cluster => !chosen cluster) =
      groups clusters := Multiset.coe_eq_coe.mpr (parted.map Cluster.group)
  rw [← allHits_append, allHits, same]
  rfl

end Cluster

/-- What has come to a pool, and what has left it. -/
structure PoolLedger where
  /-- Readouts that the pool was asked to take in. -/
  offered : List Readout := []
  /-- Those of them that joined or started a cluster. -/
  taken : List Readout := []
  /-- Clusters that were moved into the pool. -/
  received : List Cluster := []
  /-- Clusters that found no slot when they were moved into the pool. -/
  refused : List Cluster := []
  discarded : List Cluster := []
  /-- Clusters that were handed out. -/
  reported : List Cluster := []
  /-- Clusters that were freed without being reported. -/
  cleared : List Cluster := []
  /-- What the calls that freed them have said. -/
  clearings : List Nat := []
  /-- Clusters that were taken from the pool to be moved into another one. -/
  given : List Cluster := []

namespace PoolLedger

/-- Adds an entry. -/
@[simps]
def record (ledger entry : PoolLedger) : PoolLedger where
  offered := ledger.offered ++ entry.offered
  taken := ledger.taken ++ entry.taken
  received := ledger.received ++ entry.received
  refused := ledger.refused ++ entry.refused
  discarded := ledger.discarded ++ entry.discarded
  reported := ledger.reported ++ entry.reported
  cleared := ledger.cleared ++ entry.cleared
  clearings := ledger.clearings ++ entry.clearings
  given := ledger.given ++ entry.given

@[simp] theorem record_empty (ledger : PoolLedger) : ledger.record {} = ledger := by
  simp [record]

@[simp] theorem empty_record (entry : PoolLedger) : record {} entry = entry := by
  simp [record]

theorem record_record (ledger first second : PoolLedger) :
    (ledger.record first).record second = ledger.record (first.record second) := by
  simp [record]

end PoolLedger

namespace Pool

/-- The entry of what is asked of one pool. -/
def entry (pool : Pool) : PoolChange → PoolLedger
  | .setLimits _ => {}
  | .insert readout =>
    { offered := [readout]
      taken := if pool.admitting readout = [] ∧ pool.free = [] then [] else [readout] }
  | .close start _ =>
    { discarded := pool.activeClusters.filter fun cluster => decide (cluster.start < start) }
  | .clearActive => { cleared := pool.activeClusters, clearings := [pool.clearActive.2] }
  | .clearClosed => { cleared := pool.closedClusters, clearings := [pool.clearClosed.2] }
  | .flush => { reported := pool.flush.2 }

/-- The entry of a pool that clusters are moved into. -/
def receipt (pool : Pool) (clusters : List Cluster) : PoolLedger where
  received := clusters.take pool.free.length
  refused := clusters.drop pool.free.length

/-- The hits of the clusters of a pool, in no order. -/
def heldHits (pool : Pool) : Hits :=
  Cluster.allHits pool.activeClusters + Cluster.allHits pool.closedClusters

end Pool

namespace PoolLedger

/-- Clusters that have left the pool, in one way or another. -/
def left (ledger : PoolLedger) : List Cluster :=
  ledger.discarded ++ ledger.reported ++ ledger.cleared ++ ledger.given

/-- What has come to a pool and has left it explains what has become of it. -/
structure Explains (ledger : PoolLedger) (pool after : Pool) : Prop where
  wellFormed : after.WellFormed
  clusters : ∀ freed, pool.Balanced freed →
    after.Balanced (freed + ledger.clearings.sum + ledger.given.length)
  hits : (ledger.taken : Hits) + Cluster.allHits ledger.received + pool.heldHits =
    after.heldHits + Cluster.allHits ledger.left
  added : after.tally.added = pool.tally.added + ledger.taken.length
  dropped : after.tally.added + after.tally.dropped =
    pool.tally.added + pool.tally.dropped + ledger.offered.length +
      (Cluster.allHits ledger.refused).card
  transferred : after.tally.transferred = pool.tally.transferred + ledger.received.length
  discarded : after.tally.discarded = pool.tally.discarded + ledger.discarded.length
  emitted : after.tally.emitted = pool.tally.emitted + ledger.reported.length
  clearings : ledger.clearings.sum = ledger.cleared.length

theorem explains_empty {pool : Pool} (wellFormed : pool.WellFormed) :
    Explains {} pool pool where
  wellFormed := wellFormed
  clusters := fun _ balanced => balanced
  hits := by simp [left]
  added := rfl
  dropped := rfl
  transferred := rfl
  discarded := rfl
  emitted := rfl
  clearings := rfl

theorem allHits_left_record (ledger entry : PoolLedger) :
    Cluster.allHits (ledger.record entry).left =
      Cluster.allHits ledger.left + Cluster.allHits entry.left := by
  simp only [left, record, Cluster.allHits_append]
  abel

theorem Explains.record {ledger entry : PoolLedger} {pool middle after : Pool}
    (first : ledger.Explains pool middle) (second : entry.Explains middle after) :
    (ledger.record entry).Explains pool after where
  wellFormed := second.wellFormed
  clusters := by
    intro freed balanced
    have all := second.clusters _ (first.clusters freed balanced)
    unfold Pool.Balanced at all ⊢
    simp only [record_clearings, record_given, List.sum_append, List.length_append]
    omega
  hits := by
    have taken : ((ledger.taken ++ entry.taken : List Readout) : Hits) =
        (ledger.taken : Hits) + (entry.taken : Hits) := (Multiset.coe_add _ _).symm
    calc
      _ = (entry.taken : Hits) + Cluster.allHits entry.received +
          ((ledger.taken : Hits) + Cluster.allHits ledger.received + pool.heldHits) := by
        rw [record_taken, record_received, taken, Cluster.allHits_append]
        abel
      _ = (entry.taken : Hits) + Cluster.allHits entry.received + middle.heldHits +
          Cluster.allHits ledger.left := by
        rw [first.hits, ← add_assoc]
      _ = after.heldHits + Cluster.allHits (ledger.record entry).left := by
        rw [second.hits, allHits_left_record, add_assoc,
          add_comm (Cluster.allHits entry.left)]
  added := by
    rw [second.added, first.added, record_taken, List.length_append, Nat.add_assoc]
  dropped := by
    rw [second.dropped, first.dropped, record_offered, record_refused, List.length_append,
      Cluster.allHits_append, Multiset.card_add]
    omega
  transferred := by
    rw [second.transferred, first.transferred, record_received, List.length_append,
      Nat.add_assoc]
  discarded := by
    rw [second.discarded, first.discarded, record_discarded, List.length_append, Nat.add_assoc]
  emitted := by
    rw [second.emitted, first.emitted, record_reported, List.length_append, Nat.add_assoc]
  clearings := by
    rw [record_clearings, record_cleared, List.sum_append, List.length_append, first.clearings,
      second.clearings]

end PoolLedger

namespace Pool

variable {pool : Pool} (wellFormed : pool.WellFormed)
include wellFormed

theorem explains_insert_full {readout : Readout} (alone : pool.admitting readout = [])
    (full : pool.free = []) :
    (pool.entry (.insert readout)).Explains pool (pool.insert readout) := by
  have entry : pool.entry (.insert readout) = { offered := [readout] } := by
    simp [Pool.entry, alone, full]
  have held : (pool.insert readout).heldHits = pool.heldHits := by
    simp only [Pool.insert, alone, startCluster, full]
    rfl
  have tally : (pool.insert readout).tally =
      { pool.tally with dropped := pool.tally.dropped + 1 } := by
    simp only [Pool.insert, alone, startCluster, full]
  rw [entry]
  exact
    { wellFormed := wellFormed.insert readout
      clusters := fun freed before => before.insert wellFormed readout
      hits := by simp [held, PoolLedger.left]
      added := by simp [tally]
      dropped := by simp [tally, Nat.add_assoc]
      transferred := by simp [tally]
      discarded := by simp [tally]
      emitted := by simp [tally]
      clearings := rfl }

theorem tally_insert_room {readout : Readout}
    (room : ¬(pool.admitting readout = [] ∧ pool.free = [])) :
    (pool.insert readout).tally.added = pool.tally.added + 1 ∧
      (pool.insert readout).tally.dropped = pool.tally.dropped := by
  rcases wellFormed.insert_cases readout with ⟨alone, started⟩ | ⟨target, others, joined⟩
  · rw [← slotsAt_admitting, slotsAt, List.map_eq_nil_iff] at alone
    rw [started]
    cases found : pool.free with
    | nil => exact absurd ⟨alone, found⟩ room
    | cons slot free => simp only [startCluster, found, and_self]
  · rw [joined.tally]
    exact ⟨rfl, rfl⟩

theorem explains_insert_room {readout : Readout}
    (room : ¬(pool.admitting readout = [] ∧ pool.free = [])) :
    (pool.entry (.insert readout)).Explains pool (pool.insert readout) := by
  have entry : pool.entry (.insert readout) =
      { offered := [readout], taken := [readout] } := by
    rw [Pool.entry, if_neg room]
  have tally := tally_insert_room wellFormed room
  obtain ⟨emitted, transferred⟩ := frame_insert wellFormed readout
  have grown : (pool.insert readout).groups.sum = readout ::ₘ pool.groups.sum := by
    rw [groups_insert wellFormed readout tally.2, Limits.sum_gather]
  rw [entry]
  refine
    { wellFormed := wellFormed.insert readout
      clusters := fun freed before => before.insert wellFormed readout
      hits := ?_
      added := tally.1
      dropped := ?_
      transferred := transferred
      discarded := discarded_insert wellFormed readout
      emitted := emitted
      clearings := rfl }
  · have held : (pool.insert readout).heldHits = readout ::ₘ pool.heldHits := by
      rw [heldHits, closedClusters_insert wellFormed readout, heldHits, ← Multiset.cons_add]
      exact congrArg (· + _) grown
    rw [held, PoolLedger.left, Cluster.allHits_nil, add_zero, Multiset.coe_singleton,
      Multiset.singleton_add]
    exact (add_zero _).symm
  · rw [tally.1, tally.2, Cluster.allHits_nil, Multiset.card_zero, List.length_singleton]
    omega

theorem explains_insert (readout : Readout) :
    (pool.entry (.insert readout)).Explains pool (pool.insert readout) := by
  by_cases full : pool.admitting readout = [] ∧ pool.free = []
  · exact explains_insert_full wellFormed full.1 full.2
  · exact explains_insert_room wellFormed full

omit wellFormed in
/-- It explains what becomes of a pool that clusters leave it and all others stay. -/
theorem explains_leaving {after : Pool} {discarded reported cleared given : List Cluster}
    {clearings : List Nat} (wellFormed : after.WellFormed)
    (counted : clearings.sum = cleared.length)
    (clusters : ∀ freed, pool.Balanced freed →
      after.Balanced (freed + clearings.sum + given.length))
    (hits : pool.heldHits =
      after.heldHits + Cluster.allHits (discarded ++ reported ++ cleared ++ given))
    (tally : after.tally = { pool.tally with
      discarded := pool.tally.discarded + discarded.length
      emitted := pool.tally.emitted + reported.length }) :
    PoolLedger.Explains { discarded, reported, cleared, clearings, given } pool after where
  wellFormed := wellFormed
  clusters := clusters
  hits := by
    rw [PoolLedger.left, ← hits, Multiset.coe_nil, Cluster.allHits_nil, add_zero, zero_add]
  added := by
    rw [tally]
    rfl
  dropped := by
    rw [tally]
    rfl
  transferred := by
    rw [tally]
    rfl
  discarded := by rw [tally]
  emitted := by rw [tally]
  clearings := counted

theorem explains_close (start stop : Nat) :
    (pool.entry (.close start stop)).Explains pool (pool.close start stop).1 := by
  let early := fun cluster : Cluster => decide (cluster.start < start)
  let closing := fun cluster : Cluster => decide (cluster.start < stop)
  let kept := pool.activeClusters.filter fun cluster => !early cluster
  have active : (pool.close start stop).1.activeClusters =
      kept.filter fun cluster => !closing cluster := pool.activeClusters_close start stop
  have closed : (pool.close start stop).1.closedClusters =
      pool.closedClusters ++ kept.filter closing := pool.closedClusters_close_eq_append start stop
  have discarded : (pool.activeClusters.filter early).length = (pool.close start stop).2 := by
    rw [activeClusters, List.filter_map, List.length_map]
    rfl
  have parted : Cluster.allHits pool.activeClusters =
      Cluster.allHits (pool.activeClusters.filter early) +
        (Cluster.allHits (kept.filter closing) +
          Cluster.allHits (kept.filter fun cluster => !closing cluster)) := by
    rw [Cluster.allHits_filter_add, Cluster.allHits_filter_add]
  refine explains_leaving (wellFormed.close start stop) rfl
    (fun freed before => before.close start stop) ?_ ?_
  · rw [heldHits, heldHits, active, closed, parted]
    simp only [Cluster.allHits_append, Cluster.allHits_nil, add_zero]
    abel
  · rw [discarded]
    rfl

omit wellFormed in
theorem Balanced.clearActive {freed : Nat} (balanced : pool.Balanced freed) :
    pool.clearActive.1.Balanced (freed + pool.active.length) := by
  unfold Balanced at balanced ⊢
  simp only [Pool.clearActive, List.length_nil]
  omega

omit wellFormed in
theorem heldHits_clearActive (pool : Pool) :
    pool.heldHits = pool.clearActive.1.heldHits + Cluster.allHits pool.activeClusters := by
  change _ = 0 + Cluster.allHits pool.closedClusters + _
  rw [zero_add, add_comm]
  rfl

omit wellFormed in
theorem heldHits_of_closed_eq_nil {after : Pool}
    (active : after.activeClusters = pool.activeClusters) (none : after.closedClusters = []) :
    pool.heldHits = after.heldHits + Cluster.allHits pool.closedClusters := by
  rw [heldHits, heldHits, active, none, Cluster.allHits_nil, add_zero]

/-- Active clusters that are freed may be given away or merely cleared. -/
theorem explains_clearActive :
    (pool.entry .clearActive).Explains pool pool.clearActive.1 ∧
      PoolLedger.Explains { given := pool.activeClusters } pool pool.clearActive.1 := by
  have count : pool.active.length = pool.activeClusters.length := (List.length_map _).symm
  constructor
  · refine explains_leaving wellFormed.clearActive (by simpa [Pool.clearActive] using count)
      (fun freed before => by simpa [Pool.clearActive] using before.clearActive) ?_ rfl
    simpa using pool.heldHits_clearActive
  · refine explains_leaving wellFormed.clearActive rfl (fun freed before => ?_) ?_ rfl
    · rw [← count]
      exact before.clearActive
    · simpa using pool.heldHits_clearActive

theorem explains_clearClosed :
    (pool.entry .clearClosed).Explains pool pool.clearClosed.1 := by
  have held : pool.heldHits =
      pool.clearClosed.1.heldHits + Cluster.allHits pool.closedClusters :=
    heldHits_of_closed_eq_nil rfl rfl
  refine explains_leaving wellFormed.clearClosed (by simp [Pool.clearClosed, closedClusters])
    ?_ (by simpa using held) rfl
  intro freed before
  unfold Balanced at before ⊢
  simp only [Pool.clearClosed, List.length_nil, List.sum_singleton]
  omega

theorem explains_flush : (pool.entry .flush).Explains pool pool.flush.1 := by
  have held : pool.heldHits = pool.flush.1.heldHits + Cluster.allHits pool.flush.2 :=
    heldHits_of_closed_eq_nil rfl rfl
  have count : pool.closed.length = pool.flush.2.length := (List.length_map _).symm
  refine explains_leaving wellFormed.flush rfl (fun freed before => before.flush)
    (by simpa using held) ?_
  rw [← count]
  rfl

/-- Whatever is asked of a pool, its entry explains what becomes of it. -/
theorem explains_change (change : PoolChange) :
    (pool.entry change).Explains pool (pool.change change) := by
  cases change with
  | setLimits limits =>
      have same := PoolLedger.explains_empty (wellFormed.change (.setLimits limits))
      exact { same with }
  | insert readout => exact explains_insert wellFormed readout
  | close start stop => exact explains_close wellFormed start stop
  | clearActive => exact (explains_clearActive wellFormed).1
  | clearClosed => exact explains_clearClosed wellFormed
  | flush => exact explains_flush wellFormed

theorem explains_receive_slot {slot : Nat} {free : List Nat} (found : pool.free = slot :: free)
    {cluster : Cluster} (settled : cluster.Settled) :
    PoolLedger.Explains { received := [cluster] } pool (pool.receive cluster) := by
  have occupied := occupied_receive cluster found
  have tally : (pool.receive cluster).tally =
      { pool.tally with transferred := pool.tally.transferred + 1 } := by
    simp only [receive, found]
  have active : (pool.receive cluster).active = pool.active ++ [slot] := occupied.active
  exact
    { wellFormed := wellFormed.receive settled
      clusters := by
        intro freed before
        unfold Balanced at before ⊢
        rw [tally, active, occupied.closed]
        simp only [List.length_append, List.length_cons, List.length_nil, List.sum_nil]
        omega
      hits := by
        have grown : (pool.receive cluster).groups.sum = cluster.group + pool.groups.sum := by
          rw [occupied.groups wellFormed, Multiset.sum_cons]
        have held : (pool.receive cluster).heldHits = cluster.group + pool.heldHits := by
          rw [heldHits, occupied.closedClusters wellFormed, heldHits, ← add_assoc]
          exact congrArg (· + _) grown
        simp [held, PoolLedger.left, Cluster.allHits_cons]
      added := by simp [tally]
      dropped := by simp [tally]
      transferred := by simp [tally]
      discarded := by simp [tally]
      emitted := by simp [tally]
      clearings := rfl }

theorem explains_receive_full (full : pool.free = []) {cluster : Cluster}
    (settled : cluster.Settled) :
    PoolLedger.Explains { refused := [cluster] } pool (pool.receive cluster) := by
  have same : pool.receive cluster =
      { pool with tally.dropped := pool.tally.dropped + cluster.size } := by
    simp only [receive, full]
  exact
    { wellFormed := wellFormed.receive settled
      clusters := by
        intro freed before
        rw [same]
        exact before
      hits := by
        have held : (pool.receive cluster).heldHits = pool.heldHits := by
          rw [same]
          rfl
        simp [held, PoolLedger.left]
      added := by simp [same]
      dropped := by
        rw [same, Cluster.allHits_cons, Cluster.allHits_nil, add_zero, Cluster.card_group]
        exact (Nat.add_assoc _ _ _).symm
      transferred := by simp [same]
      discarded := by simp [same]
      emitted := by simp [same]
      clearings := rfl }

/-- Clusters are received as long as slots are free, and refused from then on. -/
theorem explains_receipt {clusters : List Cluster}
    (settled : ∀ cluster ∈ clusters, cluster.Settled) :
    (pool.receipt clusters).Explains pool (clusters.foldl receive pool) := by
  induction clusters generalizing pool with
  | nil =>
      have nothing : pool.receipt [] = {} := by simp [receipt]
      rw [nothing]
      exact PoolLedger.explains_empty wellFormed
  | cons cluster clusters induction =>
      have settledFirst := settled cluster List.mem_cons_self
      have rest := induction (wellFormed.receive settledFirst)
        (fun other member => settled other (List.mem_cons_of_mem _ member))
      cases found : pool.free with
      | nil =>
          have parted : pool.receipt (cluster :: clusters) =
              PoolLedger.record { refused := [cluster] }
                ((pool.receive cluster).receipt clusters) := by
            simp [receipt, PoolLedger.record, receive, found]
          rw [parted]
          exact (explains_receive_full wellFormed found settledFirst).record rest
      | cons slot free =>
          have parted : pool.receipt (cluster :: clusters) =
              PoolLedger.record { received := [cluster] }
                ((pool.receive cluster).receipt clusters) := by
            simp [receipt, PoolLedger.record, receive, found]
          rw [parted]
          exact (explains_receive_slot wellFormed found settledFirst).record rest

end Pool

namespace PoolStep

/-- The entry that a step makes in the ledger of the pool of that number. -/
def entry (pools : List Pool) (number : Nat) : PoolStep → PoolLedger
  | .create _ _ => {}
  | .apply changed change =>
    match pools[changed]? with
    | some pool => if number = changed then pool.entry change else {}
    | none => {}
  | .moveActive receiver giver =>
    match pools[receiver]?, pools[giver]? with
    | some taking, some giving =>
      if receiver = giver then {}
      else if number = receiver then taking.receipt giving.activeClusters
      else if number = giver then { given := giving.activeClusters }
      else {}
    | _, _ => {}

/-- The ledger of the pool of that number over steps, from given pools on. -/
def ledgerFrom (pools : List Pool) (number : Nat) : List PoolStep → PoolLedger
  | [] => {}
  | step :: steps => (entry pools number step).record (ledgerFrom (perform pools step) number steps)

/-- The ledger of the pool of that number over steps, with no pool at first. -/
def ledger (number : Nat) (steps : List PoolStep) : PoolLedger :=
  ledgerFrom [] number steps

theorem ledgerFrom_append (pools : List Pool) (number : Nat) (earlier later : List PoolStep) :
    ledgerFrom pools number (earlier ++ later) =
      (ledgerFrom pools number earlier).record
        (ledgerFrom (earlier.foldl perform pools) number later) := by
  induction earlier generalizing pools with
  | nil => exact (PoolLedger.empty_record _).symm
  | cons step earlier induction =>
      rw [List.cons_append, ledgerFrom, induction, ledgerFrom, PoolLedger.record_record]
      rfl

theorem ledger_concat (number : Nat) (steps : List PoolStep) (step : PoolStep) :
    ledger number (steps ++ [step]) =
      (ledger number steps).record (entry (run steps) number step) := by
  rw [ledger, ledgerFrom_append, ledgerFrom, ledgerFrom, PoolLedger.record_empty]
  rfl

theorem entry_of_missing {pools : List Pool} {number : Nat} (missing : pools[number]? = none)
    (step : PoolStep) : entry pools number step = {} := by
  cases step with
  | create limits size => rfl
  | apply changed change =>
      cases found : pools[changed]? with
      | none => simp only [entry, found]
      | some pool =>
          have different : number ≠ changed := by
            rintro rfl
            rw [missing] at found
            contradiction
          simp only [entry, found, if_neg different]
  | moveActive receiver giver =>
      cases foundReceiver : pools[receiver]? with
      | none => simp only [entry, foundReceiver]
      | some taking =>
          cases foundGiver : pools[giver]? with
          | none => simp only [entry, foundReceiver, foundGiver]
          | some giving =>
              have notReceiver : number ≠ receiver := by
                rintro rfl
                rw [missing] at foundReceiver
                contradiction
              have notGiver : number ≠ giver := by
                rintro rfl
                rw [missing] at foundGiver
                contradiction
              simp only [entry, foundReceiver, foundGiver, if_neg notReceiver, if_neg notGiver,
                ite_self]

section

variable {pools : List Pool} (wellFormed : ∀ pool ∈ pools, pool.WellFormed) {number : Nat}
  {pool : Pool} (found : pools[number]? = some pool)
include wellFormed found

theorem explains_entry_apply (changed : Nat) (change : PoolChange) :
    ∃ after, (perform pools (.apply changed change))[number]? = some after ∧
      (entry pools number (.apply changed change)).Explains pool after := by
  have own := wellFormed pool (List.mem_of_getElem? found)
  have inside : number < pools.length := (List.getElem?_eq_some_iff.mp found).1
  by_cases same : number = changed
  · subst changed
    simp only [perform, entry, found, if_true]
    exact ⟨pool.change change, by simp [inside], Pool.explains_change own change⟩
  · refine ⟨pool, ?_, ?_⟩
    · cases foundChanged : pools[changed]? with
      | none => simp only [perform, foundChanged, found]
      | some other =>
          simp only [perform, foundChanged, List.getElem?_set_ne (Ne.symm same), found]
    · have nothing : entry pools number (.apply changed change) = {} := by
        cases foundChanged : pools[changed]? with
        | none => simp only [entry, foundChanged]
        | some other => simp only [entry, foundChanged, if_neg same]
      rw [nothing]
      exact PoolLedger.explains_empty own

theorem explains_entry_move (receiver giver : Nat) :
    ∃ after, (perform pools (.moveActive receiver giver))[number]? = some after ∧
      (entry pools number (.moveActive receiver giver)).Explains pool after := by
  have own := wellFormed pool (List.mem_of_getElem? found)
  have unchanged := PoolLedger.explains_empty own
  have inside : number < pools.length := (List.getElem?_eq_some_iff.mp found).1
  cases foundReceiver : pools[receiver]? with
  | none =>
      simp only [perform, entry, foundReceiver]
      exact ⟨pool, found, unchanged⟩
  | some taking =>
      cases foundGiver : pools[giver]? with
      | none =>
          simp only [perform, entry, foundReceiver, foundGiver]
          exact ⟨pool, found, unchanged⟩
      | some giving =>
          have giverWellFormed := wellFormed giving (List.mem_of_getElem? foundGiver)
          simp only [perform, entry, foundReceiver, foundGiver]
          by_cases same : receiver = giver
          · simp only [if_pos same]
            exact ⟨pool, found, unchanged⟩
          · simp only [if_neg same]
            by_cases taker : number = receiver
            · subst receiver
              obtain rfl : pool = taking := Option.some.inj (found.symm.trans foundReceiver)
              refine ⟨(pool.moveActive giving).1, ?_, ?_⟩
              · rw [List.getElem?_set_ne (Ne.symm same), List.getElem?_set_self inside]
              · rw [if_pos rfl]
                exact Pool.explains_receipt own (Pool.activeClusters_settled giverWellFormed)
            · rw [if_neg taker]
              by_cases source : number = giver
              · subst giver
                obtain rfl : pool = giving := Option.some.inj (found.symm.trans foundGiver)
                refine ⟨pool.clearActive.1, ?_, ?_⟩
                · rw [List.getElem?_set_self (by rwa [List.length_set])]
                  rfl
                · rw [if_pos rfl]
                  exact (Pool.explains_clearActive own).2
              · rw [if_neg source, List.getElem?_set_ne (Ne.symm source),
                  List.getElem?_set_ne (Ne.symm taker)]
                exact ⟨pool, found, unchanged⟩

/-- A pool that exists before a step exists after it, and the entry of the
step explains what has become of it. -/
theorem explains_entry (step : PoolStep) :
    ∃ after, (perform pools step)[number]? = some after ∧
      (entry pools number step).Explains pool after := by
  cases step with
  | create limits size =>
      have inside : number < pools.length := (List.getElem?_eq_some_iff.mp found).1
      refine ⟨pool, ?_, ?_⟩
      · rw [perform, List.getElem?_append_left inside, found]
      · exact PoolLedger.explains_empty (wellFormed pool (List.mem_of_getElem? found))
  | apply changed change => exact explains_entry_apply wellFormed found changed change
  | moveActive receiver giver => exact explains_entry_move wellFormed found receiver giver

end

theorem fresh_of_missing {pools : List Pool} {number : Nat} {after : Pool}
    (missing : pools[number]? = none) {step : PoolStep}
    (found : (perform pools step)[number]? = some after) :
    ∃ limits size, after = .ofSize limits size := by
  have outside : pools.length ≤ number := List.getElem?_eq_none_iff.mp missing
  rcases perform_cases pools step with ⟨limits, size, -, made⟩ | ⟨-, done⟩
  · rw [made, List.getElem?_append_right outside] at found
    have only : after ∈ [Pool.ofSize limits size] := List.mem_of_getElem? found
    exact ⟨limits, size, List.mem_singleton.mp only⟩
  · have kept : (perform pools step).length = pools.length := by
      rcases done with same | ⟨changed, pool, change, -, made⟩ |
        ⟨receiver, giver, taking, giving, -, -, -, made⟩
      · rw [same]
      · rw [made, List.length_set]
      · rw [made, List.length_set, List.length_set]
    rw [List.getElem?_eq_none (by rwa [kept])] at found
    contradiction

/-- The ledger of a pool explains what has become of it since it was made. -/
theorem explains_ledger (steps : List PoolStep) (number : Nat) :
    ((run steps)[number]? = none → ledger number steps = {}) ∧
      ∀ pool, (run steps)[number]? = some pool →
        ∃ limits size, (ledger number steps).Explains (.ofSize limits size) pool := by
  induction steps using List.reverseRecOn with
  | nil => exact ⟨fun _ => rfl, fun pool found => absurd found (by simp [run])⟩
  | append_singleton steps step induction =>
      obtain ⟨missing, explained⟩ := induction
      have wellFormed := (wellFormed_run steps).2
      rw [run_concat, ledger_concat]
      cases before : (run steps)[number]? with
      | none =>
          rw [missing before, entry_of_missing before, PoolLedger.record_empty]
          refine ⟨fun _ => rfl, ?_⟩
          intro pool found
          obtain ⟨limits, size, rfl⟩ := fresh_of_missing before found
          exact ⟨limits, size, PoolLedger.explains_empty (Pool.wellFormed_ofSize limits size)⟩
      | some pool =>
          obtain ⟨limits, size, sofar⟩ := explained pool before
          obtain ⟨after, found, entered⟩ := explains_entry wellFormed before step
          rw [found]
          refine ⟨fun none => absurd none (Option.some_ne_none after), ?_⟩
          rintro _ ⟨rfl⟩
          exact ⟨limits, size, sofar.record entered⟩

/-- Whatever is asked of pools, the tally of each of them agrees with its
ledger: every cluster that came is there or has left, every hit that came is
in a cluster that is there or in one that has left, exactly once, and every
readout and every moved cluster that did not come has been counted as dropped. -/
theorem run_balances_ledger (steps : List PoolStep) (number : Nat) (pool : Pool)
    (found : (run steps)[number]? = some pool) :
    let ledger := ledger number steps
    (pool.tally.created + pool.tally.transferred =
        pool.active.length + pool.closed.length + pool.tally.merged + pool.tally.discarded +
          pool.tally.emitted + ledger.clearings.sum + ledger.given.length ∧
      ledger.clearings.sum = ledger.cleared.length ∧
      pool.tally.transferred = ledger.received.length ∧
      pool.tally.discarded = ledger.discarded.length ∧
      pool.tally.emitted = ledger.reported.length) ∧
    (pool.tally.added + (Cluster.allHits ledger.received).card =
        (Cluster.allHits pool.activeClusters).card + (Cluster.allHits pool.closedClusters).card +
          (Cluster.allHits ledger.left).card ∧
      (ledger.taken : Hits) + Cluster.allHits ledger.received =
        Cluster.allHits pool.activeClusters + Cluster.allHits pool.closedClusters +
          Cluster.allHits ledger.left ∧
      ledger.taken.length = pool.tally.added) ∧
    pool.tally.added + pool.tally.dropped =
      ledger.offered.length + (Cluster.allHits ledger.refused).card := by
  intro ledger
  obtain ⟨limits, size, explained⟩ := (explains_ledger steps number).2 pool found
  have clusters := explained.clusters 0 (Pool.balanced_ofSize limits size)
  have hits := explained.hits
  have added := explained.added
  have dropped := explained.dropped
  have held : (Pool.ofSize limits size).heldHits = 0 := rfl
  rw [held, add_zero] at hits
  have count := congrArg Multiset.card hits
  rw [Multiset.card_add, Multiset.card_add, Multiset.coe_card, Pool.heldHits,
    Multiset.card_add] at count
  have none : (Pool.ofSize limits size).tally = {} := rfl
  rw [none, Nat.zero_add] at added
  rw [none, Nat.zero_add, Nat.zero_add] at dropped
  unfold Pool.Balanced at clusters
  rw [Nat.zero_add] at clusters
  refine ⟨⟨?_, explained.clearings, ?_, ?_, ?_⟩, ⟨?_, hits, added.symm⟩, dropped⟩
  · exact clusters.trans (Nat.add_assoc _ _ _).symm
  · rw [explained.transferred, none, Nat.zero_add]
  · rw [explained.discarded, none, Nat.zero_add]
  · rw [explained.emitted, none, Nat.zero_add]
  · rw [added, count]

/-- Two clusters become one, which is discarded, another one is reported, and
of two that are then moved one finds no slot.  The other one is cleared. -/
theorem crowded_move_balances_ledger :
    let limits : Limits := { span := 100, gap := 10 }
    let steps : List PoolStep :=
      [.create limits 1, .create limits 4, .apply 1 (.insert (.neutron 10 5 5 1)),
        .apply 1 (.insert (.neutron 30 5 5 1)), .apply 1 (.insert (.neutron 20 5 5 1)),
        .apply 1 (.insert (.neutron 50 9 9 1)), .apply 1 (.close 20 60), .apply 1 .flush,
        .apply 1 (.insert (.neutron 70 9 9 1)), .apply 1 (.insert (.neutron 90 9 9 1)),
        .moveActive 0 1, .apply 0 .clearActive]
    let receiver := (run steps).getD 0 default
    let giver := (run steps).getD 1 default
    (run steps)[0]? = some receiver ∧ (run steps)[1]? = some giver ∧
      receiver.tally.dropped = 1 ∧ giver.tally.merged = 1 ∧ giver.tally.discarded = 1 ∧
      giver.tally.emitted = 1 ∧ (ledger 0 steps).clearings = [1] ∧
      receiver.tally.created + receiver.tally.transferred =
        receiver.active.length + receiver.closed.length + receiver.tally.merged +
          receiver.tally.discarded + receiver.tally.emitted +
          (ledger 0 steps).clearings.sum + (ledger 0 steps).given.length ∧
      receiver.tally.added + receiver.tally.dropped =
        (ledger 0 steps).offered.length + (Cluster.allHits (ledger 0 steps).refused).card ∧
      giver.tally.added + (Cluster.allHits (ledger 1 steps).received).card =
        (Cluster.allHits giver.activeClusters).card +
          (Cluster.allHits giver.closedClusters).card +
          (Cluster.allHits (ledger 1 steps).left).card := by
  intro limits steps receiver giver
  have inside : 1 < (run steps).length := by decide +kernel
  have receiving : (run steps)[0]? = some receiver := by
    simp only [receiver, List.getD_eq_getElem?_getD]
    rw [List.getElem?_eq_getElem (by omega), Option.getD_some]
  have giving : (run steps)[1]? = some giver := by
    simp only [giver, List.getD_eq_getElem?_getD]
    rw [List.getElem?_eq_getElem inside, Option.getD_some]
  have counts : receiver.tally.dropped = 1 ∧ giver.tally.merged = 1 ∧
      giver.tally.discarded = 1 ∧ giver.tally.emitted = 1 := by decide +kernel
  obtain ⟨dropped, merged, discarded, emitted⟩ := counts
  have cleared : (ledger 0 steps).clearings = [1] := by decide +kernel
  obtain ⟨⟨clusters, -⟩, -, offered⟩ := run_balances_ledger steps 0 receiver receiving
  obtain ⟨-, ⟨hits, -⟩, -⟩ := run_balances_ledger steps 1 giver giving
  exact ⟨receiving, giving, dropped, merged, discarded, emitted, cleared, clusters, offered, hits⟩

end PoolStep

end EventFormation
