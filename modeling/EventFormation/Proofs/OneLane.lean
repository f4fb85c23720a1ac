import EventFormation.Proofs.LaneStream

/-!
# Streaming on one lane

On one lane clustering does not notice where a stream of bins is cut into
blocks, and what it has reported and still holds open are the clusters that
one pool makes of all the neutrons without ever closing anything.
-/

namespace EventFormation

namespace Lane

private theorem flush_frame (pool : Pool) :
    ∃ after : Pool, ∃ emission : Array Product, ∀ buffer,
      (flush { pool, buffer }).1 = { pool := after, buffer := buffer ++ emission } :=
  ⟨pool.flush.1, (pool.flush.2.map Product.formed).toArray, fun buffer => by
    simp only [flush, Lane.mk.injEq, true_and]
    exact Array.toList_inj.mp (by simp)⟩

private theorem foldl_take_frame (pool : Pool) (bin : List Readout) :
    ∃ after : Pool, ∃ emission : Array Product, ∀ buffer,
      bin.foldl take { pool, buffer } = { pool := after, buffer := buffer ++ emission } := by
  induction bin generalizing pool with
  | nil => exact ⟨pool, #[], fun buffer => by simp⟩
  | cons readout bin induction =>
      by_cases neutron : readout.isNeutron = true
      · obtain ⟨after, emission, rest⟩ := induction (pool.insert readout)
        refine ⟨after, emission, fun buffer => ?_⟩
        rw [List.foldl_cons, ← rest buffer]
        simp only [take, neutron, if_true]
      · obtain ⟨after, emission, rest⟩ := induction pool
        refine ⟨after, #[.passed readout] ++ emission, fun buffer => ?_⟩
        rw [List.foldl_cons, ← Array.append_assoc, ← rest]
        simp [take, neutron]

private theorem work_frame (pool : Pool) (width binStart : Nat) (bin : List Readout) :
    ∃ after : Pool, ∃ emission : Array Product, ∀ buffer,
      (work { pool, buffer } width binStart bin).1 =
        { pool := after, buffer := buffer ++ emission } := by
  obtain ⟨taken, passed, first⟩ := foldl_take_frame pool bin
  obtain ⟨after, formed, second⟩ := flush_frame (taken.close (binStart - width) binStart).1
  refine ⟨after, passed ++ formed, fun buffer => ?_⟩
  rw [← Array.append_assoc, ← second]
  simp only [work, first]

/-- What bins add to the buffer does not depend on what is in it. -/
theorem workAll_frame (pool : Pool) (start : Nat → Nat) (width number : Nat)
    (bins : List (List Readout)) :
    ∃ after : Pool, ∃ emission : Array Product, ∀ buffer,
      (workAll start width number bins { pool, buffer }).1 =
        { pool := after, buffer := buffer ++ emission } := by
  induction bins generalizing pool number with
  | nil => exact flush_frame pool
  | cons bin rest induction =>
      obtain ⟨worked, first, work⟩ := work_frame pool width (start number) bin
      obtain ⟨after, more, finish⟩ := induction worked (number + 1)
      refine ⟨after, first ++ more, fun buffer => ?_⟩
      rw [← Array.append_assoc, ← finish]
      simp only [workAll, work]

theorem workAll_append {lane : Lane} (closed : lane.pool.closed = []) (start : Nat → Nat)
    (width number : Nat) (earlier later : List (List Readout)) :
    (lane.workAll start width number (earlier ++ later)).1 =
      ((lane.workAll start width number earlier).1.workAll start width
        (number + earlier.length) later).1 := by
  induction earlier generalizing lane number with
  | nil =>
      rw [List.nil_append, List.length_nil, Nat.add_zero, workAll, flush_of_closed closed]
  | cons bin rest induction =>
      have next : number + (bin :: rest).length = number + 1 + rest.length := by
        rw [List.length_cons]
        omega
      have worked : (lane.work width (start number) bin).1.pool.closed = [] := rfl
      rw [next]
      exact induction worked (number + 1)

theorem workAll_shift (lane : Lane) (base width passed number : Nat)
    (bins : List (List Readout)) :
    (lane.workAll (fineStart base width) width (passed + number) bins).1 =
      (lane.workAll (fineStart (base + passed * width) width) width number bins).1 := by
  induction bins generalizing lane number with
  | nil => rfl
  | cons bin rest induction =>
      have start : base + width * (passed + number) = base + passed * width + width * number := by
        ring
      have step := induction (lane.work width (base + passed * width + width * number) bin).1
        (number + 1)
      simp only [workAll, fineStart, start]
      exact step

theorem closed_workAll (lane : Lane) (start : Nat → Nat) (width number : Nat)
    (bins : List (List Readout)) :
    (lane.workAll start width number bins).1.pool.closed = [] := by
  induction bins generalizing lane number with
  | nil => rfl
  | cons bin rest induction => exact induction _ (number + 1)

theorem run_whole {lane : Lane} (closed : lane.pool.closed = []) (start : Nat → Nat)
    (width : Nat) (bins : List (List Readout)) :
    (lane.run start width bins 0 bins.length false).1 =
      (lane.workAll start width 0 bins).1 := by
  cases bins with
  | nil => exact (flush_of_closed closed).symm
  | cons bin rest => simp [run]

end Lane

namespace Lanes

def only (lane : Lane) : Lanes :=
  { list := [lane] }

section

variable {lane : Lane} (closed : lane.pool.closed = []) (base width : Nat)
  (bins : List (List Readout)) (out : List Product)
include closed

theorem process_only :
    let worked := (lane.workAll (fineStart base width) width 0 bins).1
    ((only lane).process base width bins out).1 = only { worked with buffer := #[] } ∧
      ((only lane).process base width bins out).2.1 = out ++ worked.buffer.toList := by
  rw [← Lane.run_whole closed]
  have alone : used 1 bins.length = 1 := by
    unfold used
    omega
  have share : share 1 bins.length 0 = (0, bins.length) := by
    simp [Lanes.share, alone]
  simp [process, processAt, only, count, alone, runAll, share, handOver]

/-- One call may be cut in two. -/
theorem process_only_append (more : List (List Readout)) :
    let first := (only lane).process base width bins out
    let second := first.1.process (base + bins.length * width) width more first.2.1
    ((only lane).process base width (bins ++ more) out).1 = second.1 ∧
      ((only lane).process base width (bins ++ more) out).2.1 = second.2.1 := by
  intro first second
  let worked := (lane.workAll (fineStart base width) width 0 bins).1
  obtain ⟨after, emission, frame⟩ :=
    Lane.workAll_frame worked.pool (fineStart (base + bins.length * width) width) width 0 more
  have onward : (lane.workAll (fineStart base width) width 0 (bins ++ more)).1 =
      { pool := after, buffer := worked.buffer ++ emission } := by
    rw [Lane.workAll_append closed, Nat.zero_add, ← frame]
    exact Lane.workAll_shift worked base width bins.length 0 more
  have afresh : (Lane.workAll (fineStart (base + bins.length * width) width) width 0 more
      { worked with buffer := #[] }).1 = { pool := after, buffer := emission } := by
    rw [frame, Array.empty_append]
  obtain ⟨lanesFirst, outFirst⟩ := process_only closed base width bins out
  obtain ⟨lanesWhole, outWhole⟩ := process_only closed base width (bins ++ more) out
  have closedAfresh : ({ worked with buffer := #[] } : Lane).pool.closed = [] :=
    Lane.closed_workAll lane (fineStart base width) width 0 bins
  obtain ⟨lanesSecond, outSecond⟩ := process_only closedAfresh
    (base + bins.length * width) width more (out ++ worked.buffer.toList)
  simp only [afresh] at lanesSecond outSecond
  simp only [onward] at lanesWhole outWhole
  have resumed : second = (only { worked with buffer := #[] }).process
      (base + bins.length * width) width more (out ++ worked.buffer.toList) := by
    simp only [second, first, lanesFirst, outFirst, worked]
  rw [resumed, lanesWhole, lanesSecond, outWhole, outSecond]
  constructor
  · rfl
  · rw [Array.toList_append, List.append_assoc]

end

/-- Where a stream is cut into blocks has no influence. -/
theorem stream_only_flatten {lane : Lane} (closed : lane.pool.closed = [])
    (empty : lane.buffer = #[]) (width base : Nat) (out : List Product)
    (blocks : List (List (List Readout))) :
    stream width base blocks (only lane) out =
      stream width base [blocks.flatten] (only lane) out := by
  induction blocks generalizing lane base out with
  | nil =>
      obtain ⟨lanes, products⟩ := process_only closed base width [] out
      rw [Lane.workAll, Lane.flush_of_closed closed] at lanes products
      obtain ⟨pool, buffer⟩ := lane
      obtain rfl : buffer = #[] := empty
      rw [List.flatten_nil, stream_cons, lanes, products]
      simp
  | cons bins rest induction =>
      obtain ⟨lanes, products⟩ := process_only closed base width bins out
      have whole := process_only_append closed base width bins out rest.flatten
      have closedNext :
          ({ (lane.workAll (fineStart base width) width 0 bins).1 with buffer := #[] } :
            Lane).pool.closed = [] := Lane.closed_workAll lane (fineStart base width) width 0 bins
      rw [stream_cons, lanes, induction closedNext rfl, ← lanes, List.flatten_cons, stream_cons,
        stream_cons, stream_nil, stream_nil]
      exact Prod.ext whole.1.symm whole.2.symm

theorem tally_only (lane : Lane) : (only lane).tally = lane.pool.tally := by
  change Tally.sum {} lane.pool.tally = lane.pool.tally
  simp [Tally.sum]

theorem groups_only (lane : Lane) : (only lane).groups = lane.pool.groups := by
  simp [groups, openClusters, only, Pool.groups]

theorem swept_fresh {limits : Limits} {slots width base : Nat} {bins : List (List Readout)}
    (spanLe : limits.span ≤ width) (placed : Placed width base bins) :
    let lane : Lane := { pool := .ofSize limits slots }
    Lane.Swept (neutrons bins.flatten) (horizon base width 0) (horizon base width bins.length) lane
      (lane.workAll (fineStart base width) width 0 bins).1 := by
  intro lane
  have wellFormed : lane.pool.WellFormed := Pool.wellFormed_ofSize limits slots
  cases bins with
  | nil =>
      have unchanged : (lane.workAll (fineStart base width) width 0 []).1 = lane :=
        Lane.flush_of_closed rfl
      rw [unchanged]
      exact
        { wellFormed, closed := rfl, limits := rfl, dropped_le := Nat.le_refl _
          proper := fun proper => proper
          groups := fun _ => rfl
          formed := fun _ => rfl
          discarded := fun _ => rfl }
  | cons bin rest =>
      have placedFirst : Placed width (base + width * 0) (bin :: rest) := by simpa using placed
      have swept := Lane.swept_workAll wellFormed rfl spanLe (List.cons_ne_nil bin rest) placedFirst
      rwa [Nat.zero_add] at swept

section

variable {limits : Limits} {slots width base : Nat} {bins : List (List Readout)}
  (spanLe : limits.span ≤ width) (placed : Placed width base bins)
include spanLe placed

/-- A fresh lane that drops nothing reports the groups that start early enough,
keeps the others open, and discards none. -/
theorem stream_fresh
    (kept : (stream width base [bins] (ofCount 1 limits slots) []).1.tally.dropped = 0) :
    let all := limits.gatherAll 0 (neutrons bins.flatten)
    let (lanes, out) := stream width base [bins] (ofCount 1 limits slots) []
    lanes.groups = all.filter (fun group =>
        ¬group.StartBefore (horizon base width bins.length)) ∧
      Cluster.groups (Product.clusters out) =
        all.filter (Hits.StartBefore (horizon base width bins.length)) ∧
      lanes.tally.discarded = 0 ∧ ∀ product ∈ out, product.Proper := by
  intro all
  let lane : Lane := { pool := .ofSize limits slots }
  have swept : Lane.Swept (neutrons bins.flatten) (horizon base width 0)
      (horizon base width bins.length) lane (lane.workAll (fineStart base width) width 0 bins).1 :=
    swept_fresh spanLe placed
  obtain ⟨lanesAfter, outAfter⟩ :=
    process_only (show lane.pool.closed = [] from rfl) base width bins []
  have fresh : ofCount 1 limits slots = only lane := rfl
  rw [fresh, stream_cons, stream_nil, lanesAfter, tally_only] at kept
  rw [fresh, stream_cons, stream_nil, lanesAfter, outAfter, List.nil_append]
  simp only [tally_only, groups_only]
  have late : ∀ group ∈ all, ¬group.StartBefore (horizon base width 0) := by
    refine Limits.not_startBefore_gatherAll ?_ (by simp)
    intro readout member
    have bounds := placed.bounds member
    unfold horizon
    omega
  refine ⟨swept.groups kept, ?_, ?_, ?_⟩
  · have reported := swept.formed kept
    have nothing : lane.formed = 0 := rfl
    rw [nothing, zero_add] at reported
    refine reported.trans (Multiset.filter_congr ?_)
    intro group member
    exact ⟨And.right, fun early => ⟨late group member, early⟩⟩
  · have early : all.filter (Hits.StartBefore (horizon base width 0)) = 0 :=
      Multiset.filter_eq_nil.mpr late
    have discarded := swept.discarded kept
    change _ = 0 + (all.filter (Hits.StartBefore (horizon base width 0))).card at discarded
    rwa [early, Multiset.card_zero] at discarded
  · exact swept.proper (by simp [lane])

/-- A cluster that has been reported admits no later neutron. -/
theorem not_admits_of_reported {later : List (List Readout)}
    (placedLater : Placed width (base + bins.length * width) later)
    (kept : (stream width base [bins] (ofCount 1 limits slots) []).1.tally.dropped = 0) :
    ∀ cluster ∈ Product.clusters (stream width base [bins] (ofCount 1 limits slots) []).2,
      ∀ readout ∈ neutrons later.flatten, ¬limits.Admits cluster readout := by
  intro cluster clusterMember readout readoutMember admits
  obtain ⟨-, reported, -, proper⟩ := stream_fresh spanLe placed kept
  obtain ⟨product, productMember, isCluster⟩ := List.mem_filterMap.mp clusterMember
  have settled : cluster.Settled := by
    cases product with
    | passed readout => contradiction
    | formed formed =>
        obtain rfl : formed = cluster := Option.some.inj isCluster
        exact proper _ productMember
  have member : cluster.group ∈ (limits.gatherAll 0 (neutrons bins.flatten)).filter
      (Hits.StartBefore (horizon base width bins.length)) := by
    rw [← reported]
    exact Multiset.mem_coe.mpr (List.mem_map_of_mem clusterMember)
  obtain ⟨gathered, early⟩ := Multiset.mem_filter.mp member
  obtain ⟨hit, hitMember, before⟩ := early
  have placedHit : base ≤ hit.time.toNat := by
    by_contra earlier
    have early : cluster.group.StartBefore base := ⟨hit, hitMember, by omega⟩
    refine Limits.not_startBefore_gatherAll ?_ (by simp) cluster.group gathered early
    exact fun other otherMember => (placed.bounds otherMember).1
  have lateReadout := (placedLater.bounds readoutMember).1
  refine Limits.not_joins_of_startBefore ⟨hit, hitMember, before⟩ ?_
    ((limits.admits_iff_joins settled readout).mp admits)
  unfold horizon at before ⊢
  rw [Nat.mul_comm width] at before ⊢
  omega

end

/-- What a lane has dropped after some bins it has not dropped less after more. -/
theorem dropped_le_stream_fresh {limits : Limits} {slots width base : Nat}
    {earlier later : List (List Readout)} (spanLe : limits.span ≤ width)
    (placed : Placed width base (earlier ++ later)) :
    (stream width base [earlier] (ofCount 1 limits slots) []).1.tally.dropped ≤
      (stream width base [earlier ++ later] (ofCount 1 limits slots) []).1.tally.dropped := by
  let lane : Lane := { pool := .ofSize limits slots }
  have fresh : ofCount 1 limits slots = only lane := rfl
  have swept : Lane.Swept (neutrons earlier.flatten) (horizon base width 0)
      (horizon base width earlier.length) lane
      (lane.workAll (fineStart base width) width 0 earlier).1 :=
    swept_fresh spanLe placed.append_left
  have closed : lane.pool.closed = [] := rfl
  rw [fresh, stream_cons, stream_cons, stream_nil, stream_nil,
    (process_only closed base width earlier []).1,
    (process_only closed base width (earlier ++ later) []).1, tally_only, tally_only]
  simp only
  rw [Lane.workAll_append closed]
  cases later with
  | nil => exact Nat.le_refl _
  | cons bin rest =>
      have start : base + earlier.length * width = base + width * (0 + earlier.length) := by ring
      have spanAfter :
          (lane.workAll (fineStart base width) width 0 earlier).1.pool.limits.span ≤ width := by
        rw [swept.limits]
        exact spanLe
      exact (Lane.swept_workAll swept.wellFormed swept.closed spanAfter
        (List.cons_ne_nil bin rest) (start ▸ placed.append_right)).dropped_le

/-- Streaming on one lane is clustering offline.  However the bins are cut into
blocks, what the lane has reported and what it holds open are together the
groups of hits that one pool with enough slots makes of the same neutrons
without closing anything.  Nothing is discarded, and no cluster is reported
before the last neutron that it could admit. -/
theorem stream_one_lane_eq_offline {limits : Limits} {slots width base : Nat}
    {blocks : List (List (List Readout))} (spanLe : limits.span ≤ width)
    (placed : Placed width base blocks.flatten)
    (kept : (stream width base blocks (ofCount 1 limits slots) []).1.tally.dropped = 0) :
    let supplied := neutrons blocks.flatten.flatten
    let (lanes, out) := stream width base blocks (ofCount 1 limits slots) []
    (∀ large, let offline := (Pool.ofSize limits large).insertAll supplied
      (supplied.length ≤ large → offline.tally.dropped = 0) ∧
        (offline.tally.dropped = 0 →
          Cluster.groups (Product.clusters out ++ lanes.openClusters) = offline.groups)) ∧
      lanes.tally.discarded = 0 ∧
      ∀ earlier later, blocks.flatten = earlier ++ later →
        let before := (stream width base [earlier] (ofCount 1 limits slots) []).2
        (∃ after, out = before ++ after) ∧
          ∀ cluster ∈ Product.clusters before, ∀ readout ∈ neutrons later.flatten,
            ¬limits.Admits cluster readout := by
  intro supplied
  have cut := fun cutBlocks : List (List (List Readout)) =>
    stream_only_flatten (show (Lane.mk (.ofSize limits slots) #[]).pool.closed = [] from rfl) rfl
      width base [] cutBlocks
  have whole : stream width base blocks (ofCount 1 limits slots) [] =
      stream width base [blocks.flatten] (ofCount 1 limits slots) [] := cut blocks
  rw [whole] at kept ⊢
  obtain ⟨stillOpen, reported, discarded, -⟩ := stream_fresh spanLe placed kept
  refine ⟨?_, discarded, ?_⟩
  · intro large offline
    have fresh : (Pool.ofSize limits large).WellFormed := Pool.wellFormed_ofSize limits large
    constructor
    · intro enough
      refine Pool.dropped_insertAll fresh ?_
      simpa [Pool.ofSize] using enough
    · intro keptOffline
      have offlineGroups := (Pool.gathered_insertAll fresh supplied).groups keptOffline
      rw [offlineGroups, Cluster.groups_append, reported]
      change _ + groups _ = _
      rw [stillOpen]
      exact Multiset.filter_add_not _ _
  · intro earlier later split before
    rw [split] at placed kept
    have twice : stream width base [blocks.flatten] (ofCount 1 limits slots) [] =
        stream width base [earlier, later] (ofCount 1 limits slots) [] := by
      have two : [earlier, later].flatten = blocks.flatten := by simp [split]
      rw [← two]
      exact (cut [earlier, later]).symm
    have keptBefore : (stream width base [earlier] (ofCount 1 limits slots) []).1.tally.dropped ≤
        (stream width base [earlier ++ later] (ofCount 1 limits slots) []).1.tally.dropped :=
      dropped_le_stream_fresh spanLe placed
    have produced : ∃ after,
        (stream width base [blocks.flatten] (ofCount 1 limits slots) []).2 = before ++ after := by
      rw [twice]
      exact ⟨_, congrArg Prod.snd (stream_out [later])⟩
    constructor
    · exact produced
    · exact not_admits_of_reported spanLe placed.append_left placed.append_right (by omega)

/-- A streak that is longer than the span, cut into two blocks. -/
theorem stream_streak_eq_offline :
    let limits : Limits := { span := 16, gap := 16 }
    let blocks : List (List (List Readout)) :=
      [[[], [.neutron 24 5 5 1]], [[.neutron 36 5 5 1], [.neutron 52 5 5 1]]]
    let after := stream 16 0 blocks (ofCount 1 limits 8) []
    limits.span ≤ 16 ∧ Placed 16 0 blocks.flatten ∧ after.1.tally.dropped = 0 ∧
      Cluster.groups (Product.clusters after.2 ++ after.1.openClusters) =
        ((Pool.ofSize limits 3).insertAll (neutrons blocks.flatten.flatten)).groups ∧
      after.1.tally.discarded = 0 := by
  intro limits blocks after
  have spanLe : limits.span ≤ 16 := by decide
  have placed : Placed 16 0 blocks.flatten := by decide
  have kept : after.1.tally.dropped = 0 := by decide +kernel
  obtain ⟨offline, discarded, -⟩ := stream_one_lane_eq_offline spanLe placed kept
  obtain ⟨roomy, same⟩ := offline 3
  exact ⟨spanLe, placed, kept, same (roomy (by decide)), discarded⟩

end Lanes

end EventFormation
