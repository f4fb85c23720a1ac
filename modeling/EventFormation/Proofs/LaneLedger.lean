import EventFormation.Proofs.LaneBorders
import EventFormation.Proofs.LaneComponents
import EventFormation.Proofs.LaneHits
import EventFormation.Proofs.OneLane

/-!
# The ledger of a lane

Clusters do not vanish from a pool: those that were created are in use, or have
been merged, discarded or reported.  One lane that drops nothing and ends on
quiet bins has reported every neutron in one cluster, and has passed on every
other readout as it came.
-/

namespace EventFormation

namespace Pool

/-- Clusters that were created or received are in use, or have been merged,
discarded or reported, or are among those that were `freed` without being
counted. -/
def Balanced (pool : Pool) (freed : Nat) : Prop :=
  pool.tally.created + pool.tally.transferred =
    pool.active.length + pool.closed.length + pool.tally.merged + pool.tally.discarded +
      pool.tally.emitted + freed

variable {pool : Pool} {freed : Nat}

theorem balanced_ofSize (limits : Limits) (size : Nat) : (ofSize limits size).Balanced 0 := rfl

section

variable (wellFormed : pool.WellFormed)
include wellFormed

theorem Balanced.insert (balanced : pool.Balanced freed) (readout : Readout) :
    (pool.insert readout).Balanced freed := by
  unfold Balanced at balanced ⊢
  rcases wellFormed.insert_cases readout with ⟨-, started⟩ | ⟨target, others, joined⟩
  · rw [started]
    cases found : pool.free with
    | nil => simpa only [startCluster, found] using balanced
    | cons slot free =>
        simp only [startCluster, found, List.length_append, List.length_singleton]
        omega
  · have active := joined.active_perm.length_eq
    rw [List.length_append] at active
    rw [joined.tally, joined.closed]
    dsimp only
    omega

theorem frame_insert (readout : Readout) :
    (pool.insert readout).tally.emitted = pool.tally.emitted ∧
      (pool.insert readout).tally.transferred = pool.tally.transferred := by
  rcases wellFormed.insert_cases readout with ⟨-, started⟩ | ⟨target, others, joined⟩
  · rw [started]
    cases found : pool.free with
    | nil => simp only [startCluster, found, and_self]
    | cons slot free => simp only [startCluster, found, and_self]
  · rw [joined.tally]
    exact ⟨rfl, rfl⟩

theorem Balanced.insertAll (balanced : pool.Balanced freed) (readouts : List Readout) :
    (pool.insertAll readouts).Balanced freed ∧
      (pool.insertAll readouts).tally.emitted = pool.tally.emitted ∧
      (pool.insertAll readouts).tally.transferred = pool.tally.transferred := by
  induction readouts generalizing pool with
  | nil => exact ⟨balanced, rfl, rfl⟩
  | cons readout readouts induction =>
      obtain ⟨emitted, transferred⟩ := frame_insert wellFormed readout
      obtain ⟨rest, restEmitted, restTransferred⟩ :=
        induction (wellFormed.insert readout) (balanced.insert wellFormed readout)
      exact ⟨rest, restEmitted.trans emitted, restTransferred.trans transferred⟩

end

theorem Balanced.close (balanced : pool.Balanced freed) (start stop : Nat) :
    (pool.close start stop).1.Balanced freed := by
  unfold Balanced at balanced ⊢
  let early := fun slot => decide ((pool.cluster slot).start < start)
  let closing := fun slot => decide ((pool.cluster slot).start < stop)
  let kept := pool.active.filter fun slot => !early slot
  have all : pool.active.length = (pool.active.filter early).length + kept.length :=
    List.length_eq_length_filter_add early
  have rest : kept.length =
      (kept.filter closing).length + (kept.filter fun slot => !closing slot).length :=
    List.length_eq_length_filter_add closing
  change pool.tally.created + pool.tally.transferred =
    (kept.filter fun slot => !closing slot).length + (pool.closed ++ kept.filter closing).length +
      pool.tally.merged + (pool.tally.discarded + (pool.active.filter early).length) +
      pool.tally.emitted + freed
  rw [List.length_append]
  omega

theorem Balanced.flush (balanced : pool.Balanced freed) : pool.flush.1.Balanced freed := by
  unfold Balanced at balanced ⊢
  simp only [Pool.flush, List.length_nil]
  omega

end Pool

namespace Product

/-- The readout of a product that was passed on. -/
def passed? : Product → Option Readout
  | passed readout => some readout
  | formed _ => none

/-- The readouts among products that were passed on, in their order. -/
def passings (products : List Product) : List Readout :=
  products.filterMap passed?

theorem passings_append (first second : List Product) :
    passings (first ++ second) = passings first ++ passings second :=
  List.filterMap_append

theorem passings_map_passed (readouts : List Readout) :
    passings (readouts.map passed) = readouts := by
  rw [passings, List.filterMap_map]
  exact List.filterMap_some

theorem passings_map_formed (clusters : List Cluster) : passings (clusters.map formed) = [] := by
  rw [passings, List.filterMap_map]
  exact List.filterMap_eq_nil_iff.mpr fun _ _ => rfl

theorem others_readouts {products : List Product} (proper : ∀ product ∈ products, product.Proper)
    (neutral : ∀ cluster ∈ clusters products, ∀ hit ∈ cluster.hits, hit.isNeutron = true) :
    ((readouts products).filter fun readout => !readout.isNeutron) = passings products := by
  induction products with
  | nil => rfl
  | cons product products induction =>
      have properRest : ∀ other ∈ products, other.Proper :=
        fun other member => proper other (List.mem_cons_of_mem _ member)
      have own := proper product List.mem_cons_self
      cases product with
      | passed readout =>
          have other : readout.isNeutron = false := own
          rw [Lanes.clusters_cons_passed] at neutral
          have rest := induction properRest neutral
          simpa [readouts, passings, passed?, Product.readout, other] using rest
      | formed cluster =>
          have settled : cluster.Settled := own
          rw [Lanes.clusters_cons_formed] at neutral
          have first := Cluster.isNeutron_reduce settled.occupied
            (neutral cluster List.mem_cons_self)
          have rest := induction properRest
            (fun other member => neutral other (List.mem_cons_of_mem _ member))
          have skipped : passings (formed cluster :: products) = passings products := rfl
          rw [skipped, ← rest]
          simp [readouts, Product.readout, first]

end Product

namespace Lane

/-- A lane whose pool is balanced and has neither received nor lost clusters, and
that has kept in its buffer what it has reported. -/
structure Ledger (lane : Lane) : Prop where
  wellFormed : lane.pool.WellFormed
  balanced : lane.pool.Balanced 0
  alone : lane.pool.tally.transferred = 0
  emitted : (Product.clusters lane.buffer.toList).length = lane.pool.tally.emitted

variable {lane : Lane}

theorem ledger_fresh (limits : Limits) (slots : Nat) :
    Ledger { pool := .ofSize limits slots } :=
  ⟨Pool.wellFormed_ofSize limits slots, rfl, rfl, rfl⟩

theorem Ledger.take (ledger : lane.Ledger) (bin : List Readout) :
    (bin.foldl take lane).Ledger := by
  have gathered := Pool.gathered_insertAll ledger.wellFormed (neutrons bin)
  obtain ⟨balanced, emitted, transferred⟩ :=
    ledger.balanced.insertAll ledger.wellFormed (neutrons bin)
  rw [← pool_foldl_take] at gathered balanced emitted transferred
  constructor
  · exact gathered.wellFormed
  · exact balanced
  · exact transferred.trans ledger.alone
  · rw [buffer_foldl_take, Product.clusters_append, clusters_map_passed, List.append_nil, emitted]
    exact ledger.emitted

theorem Ledger.close (ledger : lane.Ledger) (start stop : Nat) :
    Ledger { lane with pool := (lane.pool.close start stop).1 } :=
  ⟨ledger.wellFormed.close start stop, ledger.balanced.close start stop, ledger.alone,
    ledger.emitted⟩

theorem Ledger.flush (ledger : lane.Ledger) : lane.flush.1.Ledger := by
  constructor
  · exact ledger.wellFormed.flush
  · exact ledger.balanced.flush
  · exact ledger.alone
  · have emitted : lane.flush.1.pool.tally.emitted =
        lane.pool.tally.emitted + lane.pool.closed.length := rfl
    rw [buffer_flush, Product.clusters_append, clusters_map_formed, List.length_append,
      ledger.emitted, emitted, Pool.closedClusters, List.length_map]

theorem Ledger.workAll (ledger : lane.Ledger) (start : Nat → Nat) (width number : Nat)
    (bins : List (List Readout)) : (lane.workAll start width number bins).1.Ledger := by
  induction bins generalizing lane number with
  | nil => exact ledger.flush
  | cons bin rest induction =>
      have worked : (lane.work width (start number) bin).1.Ledger :=
        ((ledger.take bin).close _ _).flush
      exact induction worked (number + 1)

theorem Ledger.created (ledger : lane.Ledger) (active : lane.pool.active = [])
    (closed : lane.pool.closed = []) :
    lane.pool.tally.created =
      lane.pool.tally.emitted + lane.pool.tally.merged + lane.pool.tally.discarded := by
  have balanced := ledger.balanced
  unfold Pool.Balanced at balanced
  rw [ledger.alone, active, closed] at balanced
  simp only [List.length_nil] at balanced
  omega

theorem passings_workAll (lane : Lane) (start : Nat → Nat) (width number : Nat)
    (bins : List (List Readout)) :
    Product.passings (lane.workAll start width number bins).1.buffer.toList =
      Product.passings lane.buffer.toList ++
        bins.flatten.filter fun readout => !readout.isNeutron := by
  have flushed : ∀ lane : Lane, Product.passings lane.flush.1.buffer.toList =
      Product.passings lane.buffer.toList := by
    intro lane
    rw [buffer_flush, Product.passings_append, Product.passings_map_formed, List.append_nil]
  induction bins generalizing lane number with
  | nil => exact (flushed lane).trans (List.append_nil _).symm
  | cons bin rest induction =>
      have worked : Product.passings
          (lane.work width (start number) bin).1.buffer.toList =
            Product.passings lane.buffer.toList ++
              bin.filter fun readout => !readout.isNeutron := by
        rw [work, flushed, buffer_foldl_take, Product.passings_append,
          Product.passings_map_passed]
      rw [List.flatten_cons, List.filter_append, ← List.append_assoc, ← worked]
      exact induction _ (number + 1)

end Lane

namespace Lanes

theorem settled_open {limits : Limits} {lanes : Lanes} (resting : Resting limits lanes) :
    ∀ cluster ∈ lanes.openClusters, cluster.Settled := by
  intro cluster member
  rw [openClusters, list_eq, List.flatMap_map] at member
  obtain ⟨number, numberMember, inLane⟩ := List.mem_flatMap.mp member
  have inside := List.mem_range.mp numberMember
  exact Pool.activeClusters_settled (resting.wellFormed number inside) cluster inLane

/-- A call without neutrons closes every cluster that has hits from before it
only. -/
theorem openClusters_quiet {limits : Limits} {lanes : Lanes} {width base : Nat}
    {bins : List (List Readout)} (resting : Resting limits lanes)
    (enough : 2 * lanes.count ≤ bins.length) (spanLe : limits.span ≤ width)
    (quiet : ∀ bin ∈ bins, bin = []) (past : lanes.Holds fun hit => hit.time.toNat < base)
    (out : List Product) : (lanes.process base width bins out).1.openClusters = [] := by
  have silent : bins.flatten = [] := List.flatten_eq_nil_iff.mpr quiet
  have placed : Placed width base bins := by
    intro index bin found readout member
    rw [quiet bin (List.mem_of_getElem? found)] at member
    contradiction
  have late : (lanes.process base width bins out).1.Holds fun hit => base ≤ hit.time.toNat :=
    late_process resting enough out
  obtain ⟨early, -⟩ : (lanes.process base width bins []).1.Holds
      (fun hit => hit.time.toNat < base) ∧ _ :=
    holds_process resting enough past (by simp [silent, neutrons]) (by simp)
  have settled := settled_open (resting_process resting enough spanLe placed out)
  -- A cluster that is open would have a hit, both before the call and not before it.
  apply List.eq_nil_iff_forall_not_mem.mpr
  intro cluster member
  obtain ⟨hit, hitMember⟩ := List.exists_mem_of_ne_nil _ (settled cluster member).occupied
  exact Nat.not_lt_of_le (late cluster member hit hitMember) (early cluster member hit hitMember)

end Lanes

/-- What it means that nothing has been lost between the readouts supplied and
the products put out.  Every neutron is a hit of exactly one reported cluster,
every cluster has hits and has been reported or is part of one that has, and the
other readouts have been passed on. -/
structure Conserved (supplied : List Readout) (tally : Tally) (out : List Product) : Prop where
  proper : ∀ product ∈ out, product.Proper
  hits : ((Product.clusters out).flatMap Cluster.hits).Perm (neutrons supplied)
  reduced : neutrons (Product.readouts out) = (Product.clusters out).map Cluster.reduce
  emitted : (neutrons (Product.readouts out)).length = tally.emitted
  created : tally.created = tally.emitted + tally.merged
  discarded : tally.discarded = 0
  others : ((Product.readouts out).filter fun readout => !readout.isNeutron).Perm
    (supplied.filter fun readout => !readout.isNeutron)

theorem Conserved.perm {supplied other : List Readout} {tally : Tally} {out : List Product}
    (conserved : Conserved supplied tally out) (same : supplied.Perm other) :
    Conserved other tally out :=
  { conserved with
    hits := conserved.hits.trans (same.filter _)
    others := conserved.others.trans (same.filter _) }

namespace Lanes

section

variable {limits : Limits} {slots width base : Nat} {bins : List (List Readout)}
  (spanLe : limits.span ≤ width) (placed : Placed width base bins)
  (kept : (stream width base [bins] (ofCount 1 limits slots) []).1.tally.dropped = 0)
  (shut : (stream width base [bins] (ofCount 1 limits slots) []).1.openClusters = [])
include spanLe placed kept shut

theorem hits_shut :
    ((Product.clusters (stream width base [bins] (ofCount 1 limits slots) []).2).flatMap
      Cluster.hits).Perm (neutrons bins.flatten) := by
  have told := stream_fresh spanLe placed kept
  generalize stream width base [bins] (ofCount 1 limits slots) [] = result at told shut
  obtain ⟨lanes, out⟩ := result
  obtain ⟨groups, reported, -, -⟩ := told
  rw [Lanes.groups, shut, Cluster.groups_nil] at groups
  have split := Multiset.filter_add_not (Hits.StartBefore (horizon base width bins.length))
    (limits.gatherAll 0 (neutrons bins.flatten))
  rw [← groups, add_zero, ← reported] at split
  rw [← Multiset.coe_eq_coe, ← sum_groups, split, Limits.sum_gatherAll, Multiset.sum_zero,
    zero_add]

/-- A fresh lane that drops nothing and leaves no cluster open conserves what it
is supplied with. -/
theorem conserved_shut :
    let (lanes, out) := stream width base [bins] (ofCount 1 limits slots) []
    Conserved bins.flatten lanes.tally out := by
  let lane : Lane := { pool := .ofSize limits slots }
  let worked := (lane.workAll (fineStart base width) width 0 bins).1
  have hits := hits_shut spanLe placed kept shut
  have told := stream_fresh spanLe placed kept
  have result : stream width base [bins] (ofCount 1 limits slots) [] =
      (only { worked with buffer := #[] }, worked.buffer.toList) := by
    obtain ⟨lanesAfter, outAfter⟩ :=
      process_only (show lane.pool.closed = [] from rfl) base width bins []
    exact Prod.ext lanesAfter outAfter
  rw [result] at hits told shut ⊢
  dsimp only at hits shut ⊢
  obtain ⟨-, -, discarded, proper⟩ := told
  rw [tally_only] at discarded ⊢
  have neutral : ∀ cluster ∈ Product.clusters worked.buffer.toList,
      ∀ hit ∈ cluster.hits, hit.isNeutron = true := by
    intro cluster member hit hitMember
    have supplied := hits.mem_iff.mp (List.mem_flatMap.mpr ⟨cluster, member, hitMember⟩)
    exact (List.mem_filter.mp supplied).2
  have ledger : worked.Ledger :=
    (Lane.ledger_fresh limits slots).workAll (fineStart base width) width 0 bins
  have reduced := neutrons_readouts proper neutral
  constructor
  · exact proper
  · exact hits
  · exact reduced
  · rw [reduced, List.length_map]
    exact ledger.emitted
  · have active : worked.pool.active = [] := by
      have none : worked.pool.activeClusters = [] := by simpa [openClusters, only] using shut
      exact List.map_eq_nil_iff.mp none
    have closed := Lane.closed_workAll lane (fineStart base width) width 0 bins
    have created := ledger.created active closed
    rwa [discarded, add_zero] at created
  · exact discarded
  · rw [Product.others_readouts proper neutral]
    exact List.Perm.of_eq (Lane.passings_workAll lane (fineStart base width) width 0 bins)

end

section

variable {limits : Limits} {slots width base : Nat} {blocks : List (List (List Readout))}
  {idle : List (List Readout)} (spanLe : limits.span ≤ width)
  (enough : ∀ bins ∈ blocks ++ [idle], 2 ≤ bins.length) (quiet : ∀ bin ∈ idle, bin = [])
  (placed : Placed width base (blocks ++ [idle]).flatten)
include spanLe enough quiet placed

theorem openClusters_stream_quiet :
    (stream width base (blocks ++ [idle]) (ofCount 1 limits slots) []).1.openClusters = [] := by
  have resting : Resting limits (ofCount 1 limits slots) :=
    resting_ofCount Nat.one_pos limits slots
  have enoughBlocks : ∀ bins ∈ blocks, 2 * (ofCount 1 limits slots).count ≤ bins.length :=
    fun bins member => enough bins (List.mem_append_left _ member)
  rw [List.flatten_append] at placed
  obtain ⟨restingBefore, count⟩ : Resting limits
      (stream width base blocks (ofCount 1 limits slots) []).1 ∧ _ :=
    resting_stream resting enoughBlocks spanLe placed.append_left
  have nothing : (ofCount 1 limits slots).Holds
      fun hit => hit.time.toNat < base + blocks.flatten.length * width := by
    intro cluster member
    contradiction
  obtain ⟨past, -⟩ := holds_stream resting enoughBlocks spanLe placed.append_left nothing
    fun readout member => (placed.append_left.bounds member).2
  have long := enough idle (List.mem_append_right _ (List.mem_singleton_self idle))
  rw [stream_concat]
  refine openClusters_quiet restingBefore ?_ spanLe quiet past
    (stream width base blocks (ofCount 1 limits slots) []).2
  rw [count]
  exact long

/-- One lane that drops nothing and ends on quiet bins conserves what it is
supplied with. -/
theorem conserved_stream (kept :
    (stream width base (blocks ++ [idle]) (ofCount 1 limits slots) []).1.tally.dropped = 0) :
    let (lanes, out) := stream width base (blocks ++ [idle]) (ofCount 1 limits slots) []
    Conserved (blocks ++ [idle]).flatten.flatten lanes.tally out := by
  let lane : Lane := { pool := .ofSize limits slots }
  have shut : (stream width base (blocks ++ [idle]) (ofCount 1 limits slots) []).1.openClusters =
      [] :=
    openClusters_stream_quiet spanLe enough quiet placed
  have fresh : ofCount 1 limits slots = only lane := rfl
  -- One lane does not see the borders of calls, so all blocks are one call.
  rw [fresh, stream_only_flatten (show lane.pool.closed = [] from rfl) rfl, ← fresh] at kept shut ⊢
  exact conserved_shut spanLe placed kept shut

end

end Lanes

end EventFormation
