import EventFormation.Lanes
import EventFormation.Proofs.PoolGrouping

/-!
# What a lane makes of the bins it reads

A lane closes clusters bin by bin while it reads, and closed clusters leave its
pool.  As long as the span of a cluster fits into a bin this has no influence
on the groups: what the lane reports and what it leaves open are the groups
that would come of all it has read without ever closing anything, told apart
by their start alone.
-/

namespace EventFormation

/-- Every neutron lies in its bin, where the first bin starts at `start` and
each bin is `width` long. -/
def Placed (width start : Nat) (bins : List (List Readout)) : Prop :=
  ∀ index bin, bins[index]? = some bin → ∀ readout ∈ bin, readout.isNeutron = true →
    start + index * width ≤ readout.time.toNat ∧
      readout.time.toNat < start + (index + 1) * width

theorem placed_iff_zipIdx {width start : Nat} {bins : List (List Readout)} :
    Placed width start bins ↔ ∀ entry ∈ bins.zipIdx, ∀ readout ∈ entry.1,
      readout.isNeutron = true → start + entry.2 * width ≤ readout.time.toNat ∧
        readout.time.toNat < start + (entry.2 + 1) * width := by
  constructor
  · intro placed entry member
    exact placed entry.2 entry.1 (List.mem_zipIdx_iff_getElem?.mp member)
  · intro placed index bin found
    exact placed (bin, index) (List.mem_zipIdx_iff_getElem?.mpr found)

instance (width start : Nat) (bins : List (List Readout)) : Decidable (Placed width start bins) :=
  decidable_of_iff _ placed_iff_zipIdx.symm

theorem placed_cons {width start : Nat} {bin : List Readout} {rest : List (List Readout)}
    (placed : Placed width start (bin :: rest)) :
    (∀ readout ∈ neutrons bin,
      start ≤ readout.time.toNat ∧ readout.time.toNat < start + width) ∧
      Placed width (start + width) rest := by
  constructor
  · intro readout member
    obtain ⟨inBin, neutron⟩ := List.mem_filter.mp member
    simpa using placed 0 bin rfl readout inBin neutron
  · intro index other found readout member neutron
    have bounds := placed (index + 1) other found readout member neutron
    have next : start + (index + 1) * width = start + width + index * width := by ring
    have after : start + (index + 1 + 1) * width = start + width + (index + 1) * width := by ring
    rwa [next, after] at bounds

/-- Neutrons lie between the start of the first bin and the end of the last. -/
theorem Placed.bounds {width start : Nat} {bins : List (List Readout)}
    (placed : Placed width start bins) {readout : Readout}
    (member : readout ∈ neutrons bins.flatten) :
    start ≤ readout.time.toNat ∧ readout.time.toNat < start + bins.length * width := by
  obtain ⟨inBins, neutron⟩ := List.mem_filter.mp member
  obtain ⟨bin, binMember, inBin⟩ := List.mem_flatten.mp inBins
  obtain ⟨index, inside, found⟩ := List.mem_iff_getElem.mp binMember
  have bounds := placed index bin (by rw [List.getElem?_eq_getElem inside, found])
    readout inBin neutron
  have ends : (index + 1) * width ≤ bins.length * width :=
    Nat.mul_le_mul_right width inside
  exact ⟨by omega, by omega⟩

theorem Placed.drop {width start : Nat} {bins : List (List Readout)}
    (placed : Placed width start bins) (count : Nat) :
    Placed width (start + count * width) (bins.drop count) := by
  intro index bin found readout member neutron
  rw [List.getElem?_drop] at found
  have bounds := placed (count + index) bin found readout member neutron
  have first : start + (count + index) * width = start + count * width + index * width := by ring
  have last : start + (count + index + 1) * width =
      start + count * width + (index + 1) * width := by ring
  rwa [first, last] at bounds

theorem Placed.take {width start : Nat} {bins : List (List Readout)}
    (placed : Placed width start bins) (count : Nat) :
    Placed width start (bins.take count) := by
  intro index bin found
  rw [List.getElem?_take] at found
  split at found
  · exact placed index bin found
  · contradiction

/-- The bins from number `first` up to but not including `stop`. -/
def binsBetween (first stop : Nat) (bins : List (List Readout)) : List (List Readout) :=
  (bins.drop first).take (stop - first)

theorem length_binsBetween {first stop : Nat} {bins : List (List Readout)}
    (inside : stop ≤ bins.length) : (binsBetween first stop bins).length = stop - first := by
  simp only [binsBetween, List.length_take, List.length_drop]
  omega

theorem binsBetween_append {first middle stop : Nat} (bins : List (List Readout))
    (firstLe : first ≤ middle) (middleLe : middle ≤ stop) :
    binsBetween first middle bins ++ binsBetween middle stop bins =
      binsBetween first stop bins := by
  have onward : bins.drop middle = (bins.drop first).drop (middle - first) := by
    rw [List.drop_drop]
    congr 1
    omega
  have parts : stop - first = (middle - first) + (stop - middle) := by omega
  unfold binsBetween
  rw [onward, parts, List.take_add]

theorem Placed.binsBetween {width start : Nat} {bins : List (List Readout)}
    (placed : Placed width start bins) (first stop : Nat) :
    Placed width (start + first * width) (EventFormation.binsBetween first stop bins) :=
  (placed.drop first).take (stop - first)

theorem Placed.bounds_binsBetween {width start first stop : Nat} {bins : List (List Readout)}
    (placed : Placed width start bins) (ordered : first ≤ stop) {readout : Readout}
    (member : readout ∈ neutrons (EventFormation.binsBetween first stop bins).flatten) :
    start + first * width ≤ readout.time.toNat ∧
      readout.time.toNat < start + stop * width := by
  have bounds := (placed.binsBetween first stop).bounds member
  have length : (EventFormation.binsBetween first stop bins).length ≤ stop - first :=
    List.length_take_le _ _
  have grown := Nat.mul_le_mul_right width length
  have ends : start + first * width + (stop - first) * width = start + stop * width := by
    rw [Nat.add_assoc, ← Nat.add_mul, Nat.add_sub_cancel' ordered]
  exact ⟨bounds.1, by omega⟩

/-- When a bin is read, clusters that start before the bin before it can no
longer grow. -/
def horizon (base width number : Nat) : Nat :=
  base + width * number - width

theorem horizon_mono (base width : Nat) {first second : Nat} (ordered : first ≤ second) :
    horizon base width first ≤ horizon base width second :=
  Nat.sub_le_sub_right (Nat.add_le_add_left (Nat.mul_le_mul_left width ordered) base) width

theorem horizon_succ (base width number : Nat) :
    horizon base width (number + 1) = base + width * number := by
  unfold horizon
  rw [Nat.mul_succ, ← Nat.add_assoc, Nat.add_sub_cancel]

/-- The product is a readout that is no neutron, or a settled cluster. -/
def Product.Proper : Product → Prop
  | .passed readout => readout.isNeutron = false
  | .formed cluster => cluster.Settled

namespace Lane

/-- The groups of the clusters in the buffer. -/
def formed (lane : Lane) : Grouping :=
  Cluster.groups (Product.clusters lane.buffer.toList)

/-- What a lane has become after readouts were heard.  If none was dropped,
consider the groups that come of them all: those that start before `first` have
been discarded, those that start before `last` reported, and the others are
open. -/
structure Swept (heard : List Readout) (first last : Nat) (lane after : Lane) : Prop where
  wellFormed : after.pool.WellFormed
  closed : after.pool.closed = []
  limits : after.pool.limits = lane.pool.limits
  proper : (∀ product ∈ lane.buffer.toList, product.Proper) →
    ∀ product ∈ after.buffer.toList, product.Proper
  dropped_le : lane.pool.tally.dropped ≤ after.pool.tally.dropped
  groups : after.pool.tally.dropped = lane.pool.tally.dropped →
    after.pool.groups =
      (lane.pool.limits.gatherAll lane.pool.groups heard).filter
        fun group => ¬group.StartBefore last
  formed : after.pool.tally.dropped = lane.pool.tally.dropped →
    after.formed = lane.formed +
      (lane.pool.limits.gatherAll lane.pool.groups heard).filter
        fun group => ¬group.StartBefore first ∧ group.StartBefore last
  discarded : after.pool.tally.dropped = lane.pool.tally.dropped →
    after.pool.tally.discarded = lane.pool.tally.discarded +
      ((lane.pool.limits.gatherAll lane.pool.groups heard).filter
        (Hits.StartBefore first)).card

theorem pool_foldl_take (lane : Lane) (bin : List Readout) :
    (bin.foldl take lane).pool = lane.pool.insertAll (neutrons bin) := by
  induction bin generalizing lane with
  | nil => rfl
  | cons readout bin induction =>
      rw [List.foldl_cons, induction]
      by_cases neutron : readout.isNeutron = true
      · simp [take, neutrons, neutron, Pool.insertAll]
      · simp [take, neutrons, neutron]

theorem buffer_foldl_take (lane : Lane) (bin : List Readout) :
    (bin.foldl take lane).buffer.toList = lane.buffer.toList ++
      (bin.filter fun readout => !readout.isNeutron).map Product.passed := by
  induction bin generalizing lane with
  | nil => simp
  | cons readout bin induction =>
      rw [List.foldl_cons, induction]
      by_cases neutron : readout.isNeutron = true
      · simp [take, neutron]
      · simp [take, neutron]

theorem clusters_map_passed (readouts : List Readout) :
    Product.clusters (readouts.map Product.passed) = [] := by
  induction readouts with
  | nil => rfl
  | cons readout readouts induction => simp [Product.clusters, Product.cluster?]

theorem clusters_map_formed (clusters : List Cluster) :
    Product.clusters (clusters.map Product.formed) = clusters := by
  induction clusters with
  | nil => rfl
  | cons cluster clusters induction =>
      simpa [Product.clusters, Product.cluster?] using induction

theorem formed_foldl_take (lane : Lane) (bin : List Readout) :
    (bin.foldl take lane).formed = lane.formed := by
  unfold formed
  rw [buffer_foldl_take, Product.clusters_append, clusters_map_passed, List.append_nil]

theorem buffer_flush (lane : Lane) :
    lane.flush.1.buffer.toList =
      lane.buffer.toList ++ lane.pool.closedClusters.map Product.formed := by
  simp only [flush, Pool.flush, Array.toList_appendList]

theorem flush_of_closed {lane : Lane} (closed : lane.pool.closed = []) : lane.flush.1 = lane := by
  obtain ⟨pool, buffer⟩ := lane
  obtain ⟨limits, slots, free, active, waiting, tally, exhausted, shortages⟩ := pool
  obtain rfl : waiting = [] := closed
  simp [flush, Pool.flush, Pool.closedClusters]

theorem formed_flush (lane : Lane) :
    lane.flush.1.formed = lane.formed + Cluster.groups lane.pool.closedClusters := by
  unfold formed
  rw [buffer_flush, Product.clusters_append, clusters_map_formed, Cluster.groups_append]

variable {lane middle after : Lane} {heard more : List Readout} {first between last : Nat}

/-- Sweeping on where an earlier sweep has ended. -/
theorem Swept.trans (earlier : Swept heard first between lane middle)
    (later : Swept more between last middle after) (firstLe : first ≤ between)
    (betweenLe : between ≤ last)
    (late : ∀ readout ∈ more, between + lane.pool.limits.span ≤ readout.time.toNat) :
    Swept (heard ++ more) first last lane after := by
  have keptBoth (kept : after.pool.tally.dropped = lane.pool.tally.dropped) :
      middle.pool.tally.dropped = lane.pool.tally.dropped ∧
        after.pool.tally.dropped = middle.pool.tally.dropped := by
    have one := earlier.dropped_le
    have two := later.dropped_le
    omega
  let all := lane.pool.limits.gatherAll lane.pool.groups (heard ++ more)
  have split : all = lane.pool.limits.gatherAll
      (lane.pool.limits.gatherAll lane.pool.groups heard) more :=
    Limits.gatherAll_append heard more
  have early : (lane.pool.limits.gatherAll lane.pool.groups heard).filter
      (Hits.StartBefore between) = all.filter (Hits.StartBefore between) := by
    rw [split]
    exact (Limits.filter_startBefore_gatherAll late).symm
  have stillOpen (kept : middle.pool.tally.dropped = lane.pool.tally.dropped) :
      middle.pool.limits.gatherAll middle.pool.groups more =
        all.filter fun group => ¬group.StartBefore between := by
    rw [earlier.limits, earlier.groups kept, split]
    exact (Limits.filter_not_startBefore_gatherAll late).symm
  constructor
  · exact later.wellFormed
  · exact later.closed
  · exact later.limits.trans earlier.limits
  · exact fun proper => later.proper (earlier.proper proper)
  · exact Nat.le_trans earlier.dropped_le later.dropped_le
  · intro kept
    obtain ⟨keptEarlier, keptLater⟩ := keptBoth kept
    rw [later.groups keptLater, stillOpen keptEarlier, Multiset.filter_filter]
    refine Multiset.filter_congr ?_
    intro group _
    exact ⟨And.left, fun notLast => ⟨notLast, fun start => notLast (start.mono betweenLe)⟩⟩
  · intro kept
    obtain ⟨keptEarlier, keptLater⟩ := keptBoth kept
    have reported : (lane.pool.limits.gatherAll lane.pool.groups heard).filter
        (fun group => ¬group.StartBefore first ∧ group.StartBefore between) =
          all.filter fun group => ¬group.StartBefore first ∧ group.StartBefore between := by
      rw [← Multiset.filter_filter, early, Multiset.filter_filter]
    rw [later.formed keptLater, earlier.formed keptEarlier, stillOpen keptEarlier, reported,
      Multiset.filter_filter, add_assoc, ← Grouping.filter_window_add firstLe betweenLe]
    congr 2
    refine Multiset.filter_congr ?_
    intro group _
    tauto
  · intro kept
    obtain ⟨keptEarlier, keptLater⟩ := keptBoth kept
    have again : (all.filter fun group => ¬group.StartBefore between).filter
        (Hits.StartBefore between) = 0 := by
      refine Multiset.filter_eq_nil.mpr ?_
      intro group member
      exact (Multiset.mem_filter.mp member).2
    have discarded : (lane.pool.limits.gatherAll lane.pool.groups heard).filter
        (Hits.StartBefore first) = all.filter (Hits.StartBefore first) := by
      have within : ∀ group : Hits, group.StartBefore first ↔
          group.StartBefore first ∧ group.StartBefore between :=
        fun group => ⟨fun start => ⟨start, start.mono firstLe⟩, And.left⟩
      rw [Multiset.filter_congr (fun group _ => within group), ← Multiset.filter_filter, early,
        Multiset.filter_filter, ← Multiset.filter_congr (fun group _ => within group)]
    rw [later.discarded keptLater, earlier.discarded keptEarlier, stillOpen keptEarlier, again,
      discarded, Multiset.card_zero, Nat.add_zero]

theorem Swept.flush (swept : Swept heard first last lane after) :
    Swept heard first last lane after.flush.1 := by
  have nothing : after.pool.closedClusters = [] :=
    Pool.closedClusters_eq_nil_iff.mpr swept.closed
  have formed : after.flush.1.formed = after.formed := by
    rw [formed_flush, nothing, Cluster.groups_nil, add_zero]
  exact
    { wellFormed := swept.wellFormed.flush
      closed := rfl
      limits := swept.limits
      proper := by
        intro proper product member
        rw [buffer_flush, nothing, List.map_nil, List.append_nil] at member
        exact swept.proper proper product member
      dropped_le := swept.dropped_le
      groups := swept.groups
      formed := fun kept => formed.trans (swept.formed kept)
      discarded := swept.discarded }

/-- Readouts that were taken in before a sweep count as heard. -/
theorem Swept.after_gathered {lane middle after : Lane} {heard more : List Readout}
    {first last : Nat} (swept : Swept more first last middle after)
    (gathered : Pool.Gathered heard lane.pool middle.pool)
    (buffer : middle.buffer = lane.buffer) :
    Swept (heard ++ more) first last lane after := by
  have keptBoth (kept : after.pool.tally.dropped = lane.pool.tally.dropped) :
      middle.pool.tally.dropped = lane.pool.tally.dropped ∧
        after.pool.tally.dropped = middle.pool.tally.dropped := by
    have one := gathered.dropped_le
    have two := swept.dropped_le
    omega
  have all (kept : middle.pool.tally.dropped = lane.pool.tally.dropped) :
      middle.pool.limits.gatherAll middle.pool.groups more =
        lane.pool.limits.gatherAll lane.pool.groups (heard ++ more) := by
    rw [gathered.limits, gathered.groups kept, Limits.gatherAll_append]
  have formed : middle.formed = lane.formed := by
    unfold Lane.formed
    rw [buffer]
  constructor
  · exact swept.wellFormed
  · exact swept.closed
  · exact swept.limits.trans gathered.limits
  · rw [← buffer]
    exact swept.proper
  · exact Nat.le_trans gathered.dropped_le swept.dropped_le
  · intro kept
    obtain ⟨keptBefore, keptAfter⟩ := keptBoth kept
    rw [← all keptBefore]
    exact swept.groups keptAfter
  · intro kept
    obtain ⟨keptBefore, keptAfter⟩ := keptBoth kept
    rw [← all keptBefore, ← formed]
    exact swept.formed keptAfter
  · intro kept
    obtain ⟨keptBefore, keptAfter⟩ := keptBoth kept
    rw [← all keptBefore, ← gathered.discarded]
    exact swept.discarded keptAfter

section

variable {lane : Lane} (wellFormed : lane.pool.WellFormed) (closed : lane.pool.closed = [])
include wellFormed closed

/-- One bin worked off.  The window that is closed ends where the bin starts. -/
theorem swept_work (width binStart : Nat) (bin : List Readout) :
    Swept (neutrons bin) (binStart - width) binStart lane (lane.work width binStart bin).1 := by
  let taken := bin.foldl take lane
  have gathered := Pool.gathered_insertAll wellFormed (neutrons bin)
  rw [← pool_foldl_take] at gathered
  have nothingClosed : taken.pool.closedClusters = [] :=
    Pool.closedClusters_eq_nil_iff.mpr (gathered.closed closed)
  have window : ∀ group : Hits, (¬group.StartBefore (binStart - width) ∧
      ¬group.StartBefore binStart) ↔ ¬group.StartBefore binStart := by
    intro group
    constructor
    · exact And.right
    · intro late
      exact ⟨fun early => late (early.mono (Nat.sub_le _ _)), late⟩
  constructor
  · exact (gathered.wellFormed.close _ _).flush
  · rfl
  · exact gathered.limits
  · intro proper product member
    rw [work, buffer_flush, buffer_foldl_take, List.append_assoc] at member
    rcases List.mem_append.mp member with old | fresh
    · exact proper product old
    · rcases List.mem_append.mp fresh with passed | formed
      · obtain ⟨readout, readoutMember, rfl⟩ := List.mem_map.mp passed
        simpa [Product.Proper] using List.of_mem_filter readoutMember
      · obtain ⟨cluster, clusterMember, rfl⟩ := List.mem_map.mp formed
        exact (gathered.wellFormed.close _ _).settled_closed clusterMember
  · exact gathered.dropped_le
  · intro kept
    have groups := gathered.groups kept
    rw [← groups, ← Multiset.filter_congr (fun group _ => window group)]
    exact Pool.groups_close gathered.wellFormed (binStart - width) binStart
  · intro kept
    have groups := gathered.groups kept
    rw [← groups]
    have reported := Pool.closedClusters_close gathered.wellFormed (binStart - width) binStart
    rw [nothingClosed, Cluster.groups_nil, zero_add] at reported
    rw [← reported, ← formed_foldl_take lane bin]
    exact formed_flush _
  · intro kept
    have groups := gathered.groups kept
    rw [← groups, ← gathered.discarded]
    exact Pool.discarded_close gathered.wellFormed (binStart - width) binStart

/-- Bins worked off one after the other. -/
theorem swept_workAll {base width number : Nat} {bins : List (List Readout)}
    (spanLe : lane.pool.limits.span ≤ width) (occupied : bins ≠ [])
    (placed : Placed width (base + width * number) bins) :
    Swept (neutrons bins.flatten) (horizon base width number)
      (horizon base width (number + bins.length)) lane
      (lane.workAll (fineStart base width) width number bins).1 := by
  induction bins generalizing number lane with
  | nil => contradiction
  | cons bin rest induction =>
      have worked : Swept (neutrons bin) (horizon base width number)
          (horizon base width (number + 1)) lane
          (lane.work width (base + width * number) bin).1 := by
        rw [horizon_succ]
        exact swept_work wellFormed closed width (base + width * number) bin
      obtain ⟨-, placedRest⟩ := placed_cons placed
      have next : base + width * number + width = base + width * (number + 1) := by ring
      rw [next] at placedRest
      cases rest with
      | nil =>
          rw [List.flatten_cons, List.flatten_nil, List.append_nil, List.length_singleton]
          exact worked.flush
      | cons second later =>
          have limits := worked.limits
          have onward := induction worked.wellFormed worked.closed (limits ▸ spanLe)
            (List.cons_ne_nil second later) placedRest
          have late : ∀ readout ∈ neutrons (second :: later).flatten,
              horizon base width (number + 1) + lane.pool.limits.span ≤
                readout.time.toNat := by
            intro readout member
            have bounds := placedRest.bounds member
            rw [horizon_succ]
            omega
          have whole := worked.trans onward (horizon_mono base width (Nat.le_succ number))
            (horizon_mono base width (Nat.le_add_right _ _)) late
          have count : number + 1 + (second :: later).length =
              number + (bin :: second :: later).length := by
            simp only [List.length_cons]
            omega
          rw [← neutrons_append, ← List.flatten_cons, count] at whole
          exact whole

theorem swept_run_own {base width first stop : Nat} {bins : List (List Readout)}
    (spanLe : lane.pool.limits.span ≤ width) (placed : Placed width base bins)
    (share : first < stop) (inside : stop ≤ bins.length) :
    Swept (neutrons (binsBetween first stop bins).flatten) (horizon base width first)
      (horizon base width stop) lane
      (lane.run (fineStart base width) width bins first stop false).1 := by
  have own : Placed width (base + width * first) (binsBetween first stop bins) := by
    rw [Nat.mul_comm width first]
    exact placed.binsBetween first stop
  have length : (binsBetween first stop bins).length = stop - first :=
    length_binsBetween inside
  have occupied : binsBetween first stop bins ≠ [] := by
    intro empty
    rw [empty, List.length_nil] at length
    omega
  have ends : first + (binsBetween first stop bins).length = stop := by omega
  have swept := swept_workAll wellFormed closed spanLe occupied own
  rw [ends] at swept
  unfold run
  rw [if_neg (Nat.not_le.mpr share)]
  exact swept

theorem gathered_replay (bins : List (List Readout)) :
    Pool.Gathered (neutrons bins.flatten) lane.pool (lane.replay bins).pool ∧
      (lane.replay bins).pool.closed = [] := by
  have gathered : Pool.Gathered (neutrons bins.flatten) lane.pool (lane.replay bins).pool :=
    Pool.gathered_insertAll wellFormed (neutrons bins.flatten)
  exact ⟨gathered, gathered.closed closed⟩

theorem swept_run_replayed {base width first stop : Nat} {bins : List (List Readout)}
    (spanLe : lane.pool.limits.span ≤ width) (placed : Placed width base bins)
    (share : first < stop) (inside : stop ≤ bins.length) :
    Swept (neutrons (binsBetween first stop bins).flatten) (horizon base width first)
      (horizon base width stop) (lane.replay (binsBetween (first - lookback) first bins))
      (lane.run (fineStart base width) width bins first stop true).1 := by
  obtain ⟨gathered, closedReplayed⟩ :=
    gathered_replay wellFormed closed (binsBetween (first - lookback) first bins)
  have spanReplayed :
      (lane.replay (binsBetween (first - lookback) first bins)).pool.limits.span ≤ width := by
    rwa [gathered.limits]
  have swept := swept_run_own gathered.wellFormed closedReplayed spanReplayed placed share inside
  unfold run at swept ⊢
  rw [if_neg (Nat.not_le.mpr share)] at swept ⊢
  exact swept

/-- A lane that has a share, with the bins that it replays before. -/
theorem swept_run {base width first stop : Nat} {bins : List (List Readout)}
    (spanLe : lane.pool.limits.span ≤ width) (placed : Placed width base bins)
    (share : first < stop) (inside : stop ≤ bins.length) (replays : Bool) :
    Swept
      (neutrons (binsBetween (if replays then first - lookback else first) stop bins).flatten)
      (horizon base width first) (horizon base width stop) lane
      (lane.run (fineStart base width) width bins first stop replays).1 := by
  cases replays with
  | false => exact swept_run_own wellFormed closed spanLe placed share inside
  | true =>
      have swept := swept_run_replayed wellFormed closed spanLe placed share inside
      obtain ⟨gathered, -⟩ :=
        gathered_replay wellFormed closed (binsBetween (first - lookback) first bins)
      have whole := swept.after_gathered gathered rfl
      rwa [← neutrons_append, ← List.flatten_append,
        binsBetween_append bins (Nat.sub_le _ _) (Nat.le_of_lt share)] at whole

end

end Lane

end EventFormation
