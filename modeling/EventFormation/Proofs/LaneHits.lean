import EventFormation.Proofs.LaneStream

/-!
# Where hits come from

Every hit of a cluster is a neutron that was read, whether or not a pool had to
drop some on the way.  So a property that neutrons have is one that hits have.
When lanes have read the bins of a call, the clusters that they leave open have
hits of the time of these bins only.
-/

namespace EventFormation

namespace Pool

variable {property : Readout → Prop} {pool after : Pool}

/-- Every hit of the clusters in use has the property. -/
def Holds (property : Readout → Prop) (pool : Pool) : Prop :=
  ∀ slot ∈ pool.active ++ pool.closed, ∀ hit ∈ (pool.cluster slot).hits, property hit

theorem Holds.mono {other : Readout → Prop} (holds : pool.Holds property)
    (implies : ∀ hit, property hit → other hit) : pool.Holds other :=
  fun slot member hit hitMember => implies hit (holds slot member hit hitMember)

theorem Holds.regroup (holds : pool.Holds property) (slots : after.slots = pool.slots)
    (inUse : ∀ slot ∈ after.active ++ after.closed, slot ∈ pool.active ++ pool.closed) :
    after.Holds property := by
  intro slot member
  unfold Pool.cluster
  rw [slots]
  exact holds slot (inUse slot member)

theorem Holds.occupied {cluster : Cluster} {slot : Nat} (holds : pool.Holds property)
    (wellFormed : pool.WellFormed) (occupied : Occupied cluster slot pool after)
    (fresh : ∀ hit ∈ cluster.hits, property hit) : after.Holds property := by
  intro other member
  rw [occupied.active, occupied.closed, List.append_assoc, List.mem_append] at member
  by_cases same : other = slot
  · rw [same, occupied.cluster_self wellFormed]
    exact fresh
  · have inUse : other ∈ pool.active ++ pool.closed := by
      simpa [same] using member
    rw [occupied.cluster_inUse wellFormed inUse]
    exact holds other inUse

theorem Holds.joined {readout : Readout} {target : Nat} {others : List Nat}
    (holds : pool.Holds property) (wellFormed : pool.WellFormed)
    (joined : Joined readout target others pool after) (fresh : property readout) :
    after.Holds property := by
  have admitted : ∀ slot ∈ target :: others, ∀ hit ∈ (pool.cluster slot).hits, property hit := by
    intro slot member
    rw [← joined.admitting] at member
    exact holds slot (List.mem_append_left _ (List.mem_of_mem_filter member))
  intro slot member hit hitMember
  by_cases here : slot = target
  · rw [here, joined.hits, List.append_assoc] at hitMember
    rcases List.mem_append.mp hitMember with own | joining
    · exact admitted target List.mem_cons_self hit own
    · rcases List.mem_append.mp joining with merged | new
      · obtain ⟨other, otherMember, inOther⟩ := List.mem_flatMap.mp merged
        have listed := List.mem_cons_of_mem target (List.mem_reverse.mp otherMember)
        exact admitted other listed hit inOther
      · rw [List.mem_singleton.mp new]
        exact fresh
  · obtain ⟨inUse, same⟩ := joined.untouched wellFormed member here
    rw [same] at hitMember
    exact holds slot inUse hit hitMember

theorem Holds.insert (holds : pool.Holds property) (wellFormed : pool.WellFormed)
    {readout : Readout} (fresh : property readout) : (pool.insert readout).Holds property := by
  rcases wellFormed.insert_cases readout with ⟨-, started⟩ | ⟨target, others, joined⟩
  · rw [started]
    cases found : pool.free with
    | nil =>
        simp only [startCluster, found]
        exact holds.regroup rfl (fun _ member => member)
    | cons slot free =>
        apply holds.occupied wellFormed (occupied_startCluster readout found)
        simpa using fresh
  · exact holds.joined wellFormed joined fresh

theorem Holds.insertAll (holds : pool.Holds property) (wellFormed : pool.WellFormed)
    {readouts : List Readout} (fresh : ∀ readout ∈ readouts, property readout) :
    (pool.insertAll readouts).Holds property := by
  induction readouts generalizing pool with
  | nil => exact holds
  | cons readout readouts induction =>
      have first := holds.insert wellFormed (fresh readout List.mem_cons_self)
      exact induction first (wellFormed.insert readout)
        (fun other member => fresh other (List.mem_cons_of_mem _ member))

theorem Holds.close (holds : pool.Holds property) (start stop : Nat) :
    (pool.close start stop).1.Holds property := by
  refine holds.regroup rfl ?_
  intro slot member
  have cases : slot ∈ pool.active ∨ slot ∈ pool.closed := by
    simp only [Pool.close, List.mem_append, List.mem_filter] at member
    tauto
  exact List.mem_append.mpr cases

theorem Holds.clearActive (holds : pool.Holds property) : pool.clearActive.1.Holds property := by
  refine holds.regroup rfl ?_
  intro slot member
  exact List.mem_append_right _ member

theorem Holds.flush (holds : pool.Holds property) : pool.flush.1.Holds property := by
  refine holds.regroup rfl ?_
  intro slot member
  exact List.mem_append_left _ (by simpa [Pool.flush] using member)

theorem Holds.closedClusters (holds : pool.Holds property) :
    ∀ cluster ∈ pool.closedClusters, ∀ hit ∈ cluster.hits, property hit := by
  intro cluster member
  obtain ⟨slot, slotMember, rfl⟩ := List.mem_map.mp member
  exact holds slot (List.mem_append_right _ slotMember)

theorem Holds.activeClusters (holds : pool.Holds property) :
    ∀ cluster ∈ pool.activeClusters, ∀ hit ∈ cluster.hits, property hit := by
  intro cluster member
  obtain ⟨slot, slotMember, rfl⟩ := List.mem_map.mp member
  exact holds slot (List.mem_append_left _ slotMember)

theorem Holds.receive (holds : pool.Holds property) (wellFormed : pool.WellFormed)
    {cluster : Cluster} (fresh : ∀ hit ∈ cluster.hits, property hit) :
    (pool.receive cluster).Holds property := by
  cases found : pool.free with
  | nil =>
      simp only [Pool.receive, found]
      exact holds.regroup rfl (fun _ member => member)
  | cons slot free => exact holds.occupied wellFormed (occupied_receive cluster found) fresh

theorem Holds.foldl_receive (holds : pool.Holds property) (wellFormed : pool.WellFormed)
    {clusters : List Cluster} (settled : ∀ cluster ∈ clusters, cluster.Settled)
    (fresh : ∀ cluster ∈ clusters, ∀ hit ∈ cluster.hits, property hit) :
    (clusters.foldl Pool.receive pool).Holds property := by
  induction clusters generalizing pool with
  | nil => exact holds
  | cons cluster clusters induction =>
      have first := holds.receive wellFormed (fresh cluster List.mem_cons_self)
      exact induction first (wellFormed.receive (settled cluster List.mem_cons_self))
        (fun other member => settled other (List.mem_cons_of_mem _ member))
        (fun other member => fresh other (List.mem_cons_of_mem _ member))

theorem holds_close (wellFormed : pool.WellFormed) (start stop : Nat) :
    (pool.close start stop).1.flush.1.Holds fun hit => stop ≤ hit.time.toNat := by
  intro slot member
  have growing : slot ∈ pool.active ∧ ¬(pool.cluster slot).start < stop := by
    have inActive : slot ∈ (pool.close start stop).1.active := by
      simpa [Pool.flush] using member
    obtain ⟨kept, late⟩ := List.mem_filter.mp inActive
    exact ⟨List.mem_of_mem_filter kept, by simpa using late⟩
  have settled := wellFormed.settled_active growing.1
  rw [settled.start_lt_iff] at growing
  intro hit hitMember
  apply Nat.le_of_not_lt
  intro before
  exact growing.2 ⟨hit, hitMember, before⟩

end Pool

/-- If the product is a cluster, its hits have the property. -/
def Product.Holds (property : Readout → Prop) : Product → Prop
  | .passed _ => True
  | .formed cluster => ∀ hit ∈ cluster.hits, property hit

namespace Lane

/-- A lane whose pool is in order and whose clusters have hits with the
property, those in the buffer included. -/
structure Holds (property : Readout → Prop) (lane : Lane) : Prop where
  wellFormed : lane.pool.WellFormed
  pool : lane.pool.Holds property
  buffer : ∀ product ∈ lane.buffer.toList, product.Holds property

variable {property : Readout → Prop} {lane : Lane}

theorem Holds.flush (holds : lane.Holds property) : lane.flush.1.Holds property := by
  constructor
  · exact holds.wellFormed.flush
  · exact holds.pool.flush
  · intro product member
    rw [buffer_flush] at member
    rcases List.mem_append.mp member with old | formed
    · exact holds.buffer product old
    · obtain ⟨cluster, clusterMember, rfl⟩ := List.mem_map.mp formed
      exact holds.pool.closedClusters cluster clusterMember

theorem Holds.take (holds : lane.Holds property) {bin : List Readout}
    (fresh : ∀ readout ∈ neutrons bin, property readout) :
    (bin.foldl take lane).Holds property := by
  have gathered := Pool.gathered_insertAll holds.wellFormed (neutrons bin)
  constructor
  · rw [pool_foldl_take]
    exact gathered.wellFormed
  · rw [pool_foldl_take]
    exact holds.pool.insertAll holds.wellFormed fresh
  · intro product member
    rw [buffer_foldl_take] at member
    rcases List.mem_append.mp member with old | passed
    · exact holds.buffer product old
    · obtain ⟨readout, _, rfl⟩ := List.mem_map.mp passed
      exact trivial

theorem Holds.close (holds : lane.Holds property) (start stop : Nat) :
    ({ lane with pool := (lane.pool.close start stop).1 } : Lane).Holds property :=
  ⟨holds.wellFormed.close start stop, holds.pool.close start stop, holds.buffer⟩

theorem Holds.work (holds : lane.Holds property) (width binStart : Nat) {bin : List Readout}
    (fresh : ∀ readout ∈ neutrons bin, property readout) :
    (lane.work width binStart bin).1.Holds property :=
  ((holds.take fresh).close (binStart - width) binStart).flush

theorem Holds.workAll (holds : lane.Holds property) (start : Nat → Nat) (width number : Nat)
    {bins : List (List Readout)} (fresh : ∀ readout ∈ neutrons bins.flatten, property readout) :
    (lane.workAll start width number bins).1.Holds property := by
  induction bins generalizing lane number with
  | nil => exact holds.flush
  | cons bin rest induction =>
      rw [List.flatten_cons, neutrons_append] at fresh
      have worked := holds.work width (start number)
        (fun readout member => fresh readout (List.mem_append_left _ member))
      exact induction worked (number + 1)
        (fun readout member => fresh readout (List.mem_append_right _ member))

/-- When bins have been worked off, what is open starts in or after the last of
them. -/
theorem last_workAll (wellFormed : lane.pool.WellFormed) (base width number : Nat)
    {bins : List (List Readout)} (some : bins ≠ []) :
    (lane.workAll (fineStart base width) width number bins).1.pool.Holds
      fun hit => base + width * (number + bins.length) ≤ hit.time.toNat + width := by
  induction bins generalizing lane number with
  | nil => contradiction
  | cons bin rest induction =>
      have taken : (bin.foldl Lane.take lane).pool.WellFormed := by
        rw [pool_foldl_take]
        exact (Pool.gathered_insertAll wellFormed (neutrons bin)).wellFormed
      cases rest with
      | nil =>
          have closed := Pool.holds_close taken (base + width * number - width)
            (base + width * number)
          refine closed.flush.mono ?_
          intro hit late
          rw [List.length_singleton, Nat.mul_succ]
          omega
      | cons second later =>
          have worked : (lane.work width (base + width * number) bin).1.pool.WellFormed :=
            (taken.close _ _).flush
          -- The last bin decides, as closing it reports what starts before it.
          have onward := induction worked (number + 1) (List.cons_ne_nil second later)
          have count : number + (bin :: second :: later).length =
              number + 1 + (second :: later).length := by
            simp only [List.length_cons]
            omega
          rw [count]
          exact onward

theorem Holds.replay (holds : lane.Holds property) {bins : List (List Readout)}
    (fresh : ∀ readout ∈ neutrons bins.flatten, property readout) :
    (lane.replay bins).Holds property :=
  { wellFormed := (Pool.gathered_insertAll holds.wellFormed (neutrons bins.flatten)).wellFormed
    pool := holds.pool.insertAll holds.wellFormed fresh
    buffer := holds.buffer }

theorem mem_neutrons_binsBetween {first stop : Nat} {bins : List (List Readout)}
    {readout : Readout} (member : readout ∈ neutrons (binsBetween first stop bins).flatten) :
    readout ∈ neutrons bins.flatten := by
  obtain ⟨inBins, neutron⟩ := List.mem_filter.mp member
  obtain ⟨bin, binMember, inBin⟩ := List.mem_flatten.mp inBins
  have inAll : bin ∈ bins := List.mem_of_mem_drop (List.mem_of_mem_take binMember)
  exact List.mem_filter.mpr ⟨List.mem_flatten.mpr ⟨bin, inAll, inBin⟩, neutron⟩

theorem Holds.run (holds : lane.Holds property) (start : Nat → Nat) (width first stop : Nat)
    (replays : Bool) {bins : List (List Readout)}
    (fresh : ∀ readout ∈ neutrons bins.flatten, property readout) :
    (lane.run start width bins first stop replays).1.Holds property := by
  have between : ∀ first stop, ∀ readout ∈ neutrons (binsBetween first stop bins).flatten,
      property readout :=
    fun _ _ readout member => fresh readout (mem_neutrons_binsBetween member)
  unfold Lane.run
  split
  · exact holds
  · cases replays with
    | false => exact holds.workAll start width first (between first stop)
    | true =>
        have replayed := holds.replay (between (first - lookback) first)
        exact replayed.workAll start width first (between first stop)

theorem last_run (wellFormed : lane.pool.WellFormed) (base width : Nat) {first stop : Nat}
    (replays : Bool) {bins : List (List Readout)} (share : first < stop)
    (inside : stop ≤ bins.length) :
    (lane.run (fineStart base width) width bins first stop replays).1.pool.Holds
      fun hit => base + width * stop ≤ hit.time.toNat + width := by
  have length : (binsBetween first stop bins).length = stop - first := length_binsBetween inside
  have some : binsBetween first stop bins ≠ [] := by
    apply List.ne_nil_of_length_pos
    rw [length]
    omega
  have count : first + (binsBetween first stop bins).length = stop := by
    rw [length]
    omega
  unfold Lane.run
  rw [if_neg (Nat.not_le.mpr share)]
  cases replays with
  | false =>
      have last := last_workAll wellFormed base width first some
      rw [count] at last
      exact last
  | true =>
      have replayed : (lane.replay (binsBetween (first - lookback) first bins)).pool.WellFormed :=
        (Pool.gathered_insertAll wellFormed _).wellFormed
      have last := last_workAll replayed base width first some
      rw [count] at last
      exact last

end Lane

namespace Lanes

/-- Every hit of the open clusters has the property. -/
def Holds (property : Readout → Prop) (lanes : Lanes) : Prop :=
  ∀ cluster ∈ lanes.openClusters, ∀ hit ∈ cluster.hits, property hit

variable {property : Readout → Prop}

theorem holds_iff (lanes : Lanes) : lanes.Holds property ↔ ∀ number < lanes.count,
    ∀ cluster ∈ (lanes.lane number).pool.activeClusters, ∀ hit ∈ cluster.hits, property hit := by
  unfold Holds openClusters
  rw [list_eq]
  constructor
  · intro holds number inside cluster member
    apply holds cluster
    rw [List.flatMap_map]
    exact List.mem_flatMap.mpr ⟨number, List.mem_range.mpr inside, member⟩
  · intro holds cluster member
    rw [List.flatMap_map] at member
    obtain ⟨number, inside, inLane⟩ := List.mem_flatMap.mp member
    exact holds number (List.mem_range.mp inside) cluster inLane

theorem holds_handed {count : Nat} {lane : Nat → Lane} (inhabited : 0 < count)
    (wellFormed : ∀ number < count, (lane number).pool.WellFormed)
    (holds : ∀ number < count, (lane number).pool.Holds property)
    {number : Nat} (inside : number < count) :
    (handed count lane number).pool.Holds property := by
  have first := holds 0 inhabited
  have last : count - 1 < count := Nat.sub_lt inhabited Nat.one_pos
  unfold handed
  split
  · exact holds number inside
  · split
    · exact first.clearActive.foldl_receive (wellFormed 0 inhabited).clearActive
        (Pool.activeClusters_settled (wellFormed _ last)) (holds _ last).activeClusters
    · exact (holds number inside).clearActive

section

variable {limits : Limits} {lanes : Lanes} {width base : Nat} {bins : List (List Readout)}
  (resting : Resting limits lanes)
include resting

theorem holds_lane (holds : lanes.Holds property) {number : Nat} (inside : number < lanes.count) :
    (lanes.lane number).Holds property := by
  constructor
  · exact resting.wellFormed number inside
  · intro slot member
    rw [resting.closed number inside, List.append_nil] at member
    exact (holds_iff lanes).mp holds number inside _ (List.mem_map_of_mem member)
  · intro product member
    rw [resting.buffer number inside] at member
    contradiction

theorem holds_ran (holds : lanes.Holds property)
    (fresh : ∀ readout ∈ neutrons bins.flatten, property readout)
    {number : Nat} (inside : number < lanes.count) :
    (lanes.ran base width bins number).Holds property :=
  (holds_lane resting holds inside).run (fineStart base width) width _ _ _ fresh

variable (enough : 2 * lanes.count ≤ bins.length)
include enough

theorem holds_process_of_ran (out : List Product)
    (wellFormed : ∀ number < lanes.count, (lanes.ran base width bins number).pool.WellFormed)
    (holds : ∀ number < lanes.count, (lanes.ran base width bins number).pool.Holds property) :
    (lanes.process base width bins out).1.Holds property := by
  rw [holds_iff, count_process resting enough]
  intro number inside
  have emptied : ∀ number < lanes.count, (lanes.emptied base width bins number).pool.WellFormed :=
    wellFormed
  rw [lane_process resting enough out inside]
  exact (holds_handed resting.inhabited emptied holds inside).activeClusters

/-- A property of the hits that are open and of the neutrons of a call is one of
the hits that it reports and leaves open. -/
theorem holds_process (holds : lanes.Holds property)
    (fresh : ∀ readout ∈ neutrons bins.flatten, property readout) {out : List Product}
    (produced : ∀ product ∈ out, product.Holds property) :
    (lanes.process base width bins out).1.Holds property ∧
      ∀ product ∈ (lanes.process base width bins out).2.1, product.Holds property := by
  have ran : ∀ number < lanes.count, (lanes.ran base width bins number).Holds property :=
    fun _ inside => holds_ran resting holds fresh inside
  constructor
  · exact holds_process_of_ran resting enough out
      (fun number inside => (ran number inside).wellFormed)
      (fun number inside => (ran number inside).pool)
  · intro product member
    rw [products_process enough] at member
    rcases List.mem_append.mp member with old | new
    · exact produced product old
    · obtain ⟨number, numberMember, inLane⟩ := List.mem_flatMap.mp new
      exact (ran number (List.mem_range.mp numberMember)).buffer product inLane

theorem late_process (out : List Product) :
    (lanes.process base width bins out).1.Holds fun hit => base ≤ hit.time.toNat := by
  have any : lanes.Holds fun _ => True := fun _ _ _ _ => trivial
  refine holds_process_of_ran resting enough out ?_ ?_
  · intro number inside
    exact (holds_ran resting any (fun _ _ => trivial) inside).wellFormed
  · intro number inside
    have share := border_add_two_le enough inside
    have last := Lane.last_run (resting.wellFormed number inside) base width (0 < number)
      (by omega : border lanes.count bins.length number <
        border lanes.count bins.length (number + 1)) (border_le inside)
    refine last.mono ?_
    intro hit late
    have one := Nat.mul_le_mul_left width
      (by omega : 1 ≤ border lanes.count bins.length (number + 1))
    omega

end

section

variable {limits : Limits} {lanes : Lanes} {width base : Nat}
  {blocks : List (List (List Readout))} (resting : Resting limits lanes)
  (enough : ∀ bins ∈ blocks, 2 * lanes.count ≤ bins.length) (spanLe : limits.span ≤ width)
  (placed : Placed width base blocks.flatten)
include resting enough spanLe placed

/-- A property of the hits that are open and of all neutrons is one of the hits
that are reported and left open. -/
theorem holds_stream (holds : lanes.Holds property)
    (fresh : ∀ readout ∈ neutrons blocks.flatten.flatten, property readout) :
    (stream width base blocks lanes []).1.Holds property ∧
      ∀ product ∈ (stream width base blocks lanes []).2, product.Holds property := by
  induction blocks using List.reverseRecOn with
  | nil => exact ⟨holds, fun product member => absurd member List.not_mem_nil⟩
  | append_singleton blocks bins induction =>
      rw [List.flatten_append, List.flatten_singleton] at placed fresh
      rw [List.flatten_append, neutrons_append] at fresh
      have enoughBefore : ∀ other ∈ blocks, 2 * lanes.count ≤ other.length :=
        fun other member => enough other (List.mem_append_left _ member)
      obtain ⟨restingBefore, count⟩ : Resting limits (stream width base blocks lanes []).1 ∧
          (stream width base blocks lanes []).1.count = lanes.count :=
        resting_stream resting enoughBefore spanLe placed.append_left
      have enoughBins := enough bins (List.mem_append_right _ (List.mem_singleton_self bins))
      rw [← count] at enoughBins
      obtain ⟨holdsBefore, producedBefore⟩ := induction enoughBefore placed.append_left
        (fun readout member => fresh readout (List.mem_append_left _ member))
      rw [stream_concat]
      exact holds_process restingBefore enoughBins holdsBefore
        (fun readout member => fresh readout (List.mem_append_right _ member)) producedBefore

theorem late_stream (some : blocks ≠ []) :
    (stream width base blocks lanes []).1.Holds fun hit => base ≤ hit.time.toNat := by
  refine stream_induction (motive := fun earlier after _ => earlier ≠ [] →
      after.Holds fun hit => base ≤ hit.time.toNat)
    resting enough spanLe placed (fun nothing => absurd rfl nothing) ?_ some
  intro earlier bins ready _ _
  rw [stream_concat]
  intro cluster member hit hitMember
  have late : base + earlier.flatten.length * width ≤ hit.time.toNat :=
    late_process ready.resting ready.enough (stream width base earlier lanes []).2
      cluster member hit hitMember
  exact Nat.le_trans (Nat.le_add_right _ _) late

end

end Lanes

end EventFormation
