import EventFormation.Proofs.Components
import EventFormation.Proofs.LaneStream

/-!
# Lanes report connected components

If no connected component of the neutrons is longer than the span, then a lane
that starts at its two replayed bins rebuilds every component that starts in
the last of them or later, and what it rebuilds of others is discarded.  So the
lanes together report every component once, whatever their number.
-/

namespace EventFormation

section

variable {width base : Nat} {bins : List (List Readout)} (placed : Placed width base bins)
include placed

/-- The neutrons of some bins are those that lie in their time. -/
theorem neutrons_binsBetween {first stop : Nat} (ordered : first ≤ stop)
    (inside : stop ≤ bins.length) :
    neutrons (binsBetween first stop bins).flatten = (neutrons bins.flatten).filter fun readout =>
      base + first * width ≤ readout.time.toNat ∧ readout.time.toNat < base + stop * width := by
  have whole : binsBetween 0 first bins ++ (binsBetween first stop bins ++
      binsBetween stop bins.length bins) = bins := by
    rw [binsBetween_append bins ordered inside,
      binsBetween_append bins (Nat.zero_le first) (Nat.le_trans ordered inside)]
    simp [binsBetween]
  have before : Placed width base (binsBetween 0 first bins) := by
    simpa using placed.binsBetween 0 first
  have within := placed.binsBetween first stop
  have after := placed.binsBetween stop bins.length
  have lengthBefore : (binsBetween 0 first bins).length = first :=
    length_binsBetween (Nat.le_trans ordered inside)
  have lengthWithin : (binsBetween first stop bins).length = stop - first :=
    length_binsBetween inside
  have ends : base + first * width + (stop - first) * width = base + stop * width := by
    rw [Nat.add_assoc, ← Nat.add_mul, Nat.add_sub_cancel' ordered]
  conv_rhs => rw [← whole, List.flatten_append, List.flatten_append, neutrons_append,
    neutrons_append, List.filter_append, List.filter_append]
  have none : (neutrons (binsBetween 0 first bins).flatten).filter (fun readout =>
      base + first * width ≤ readout.time.toNat ∧
        readout.time.toNat < base + stop * width) = [] := by
    refine List.filter_eq_nil_iff.mpr ?_
    intro readout member
    have bounds := before.bounds member
    rw [lengthBefore] at bounds
    simp only [decide_eq_true_eq]
    omega
  have all : (neutrons (binsBetween first stop bins).flatten).filter (fun readout =>
      base + first * width ≤ readout.time.toNat ∧
        readout.time.toNat < base + stop * width) =
          neutrons (binsBetween first stop bins).flatten := by
    refine List.filter_eq_self.mpr ?_
    intro readout member
    have bounds := within.bounds member
    rw [lengthWithin, ends] at bounds
    simp only [decide_eq_true_eq]
    exact bounds
  have noneAfter : (neutrons (binsBetween stop bins.length bins).flatten).filter (fun readout =>
      base + first * width ≤ readout.time.toNat ∧
        readout.time.toNat < base + stop * width) = [] := by
    refine List.filter_eq_nil_iff.mpr ?_
    intro readout member
    have bounds := after.bounds member
    simp only [decide_eq_true_eq]
    omega
  rw [none, all, noneAfter, List.nil_append, List.append_nil]

variable {limits : Limits} (compact : limits.Compact (neutrons bins.flatten : Hits))
include compact

omit placed in
theorem compact_binsBetween (first stop : Nat) :
    limits.Compact (neutrons (binsBetween first stop bins).flatten : Hits) := by
  refine compact.mono ?_
  intro readout member
  obtain ⟨inBins, neutron⟩ := List.mem_filter.mp (Multiset.mem_coe.mp member)
  obtain ⟨bin, binMember, inBin⟩ := List.mem_flatten.mp inBins
  have old : bin ∈ bins := List.mem_of_mem_drop (List.mem_of_mem_take binMember)
  exact Multiset.mem_coe.mpr
    (List.mem_filter.mpr ⟨List.mem_flatten.mpr ⟨bin, old, inBin⟩, neutron⟩)

/-- Components with a hit that is by the span away from both ends of some bins
are the same among the neutrons of these bins and among all. -/
theorem components_binsBetween {first stop : Nat} (ordered : first ≤ stop)
    (inside : stop ≤ bins.length) (interest : Hits → Prop) [DecidablePred interest]
    (reach : ∀ group, interest group → group ≠ 0 → ∃ hit ∈ group,
      (first = 0 ∨ base + first * width + limits.span ≤ hit.time.toNat) ∧
        (stop = bins.length ∨ hit.time.toNat + limits.span < base + stop * width)) :
    (limits.components (neutrons (binsBetween first stop bins).flatten : Hits)).filter interest =
      (limits.components (neutrons bins.flatten : Hits)).filter interest := by
  rw [neutrons_binsBetween placed ordered inside, ← Multiset.filter_coe]
  refine Limits.components_filter compact ?_
  intro group interesting occupied
  obtain ⟨hit, hitMember, low, high⟩ := reach group interesting occupied
  refine ⟨hit, hitMember, ?_⟩
  intro other otherMember notEarlier notLater
  have bounds := placed.bounds (Multiset.mem_coe.mp otherMember)
  constructor
  · rcases low with rfl | low
    · omega
    · omega
  · rcases high with rfl | high
    · exact bounds.2
    · omega

end

theorem binsBetween_append_right (past bins : List (List Readout)) (first stop : Nat) :
    binsBetween (past.length + first) (past.length + stop) (past ++ bins) =
      binsBetween first stop bins := by
  unfold binsBetween
  rw [List.drop_length_add_append, Nat.add_sub_add_left]

theorem binsBetween_append_left (past bins : List (List Readout)) (stop : Nat) :
    binsBetween 0 (past.length + stop) (past ++ bins) = past ++ binsBetween 0 stop bins := by
  simp [binsBetween, List.take_append]

theorem horizon_add (base width passed number : Nat) :
    horizon (base + passed * width) width number = horizon base width (passed + number) := by
  unfold horizon
  rw [Nat.mul_add, Nat.mul_comm width passed, Nat.add_assoc]

theorem Hits.not_startBefore_zero (group : Hits) : ¬group.StartBefore 0 := by
  rintro ⟨hit, -, before⟩
  exact Nat.not_lt_zero _ before

namespace Lanes

/-- What lanes hold open and have reported of the bins so far: the components
that start late and those that start early. -/
structure Told (limits : Limits) (width base : Nat) (bins : List (List Readout))
    (lanes : Lanes) (out : List Product) : Prop where
  groups : lanes.groups = (limits.components (neutrons bins.flatten : Hits)).filter
    fun group => ¬group.StartBefore (horizon base width bins.length)
  reported : Cluster.groups (Product.clusters out) =
    (limits.components (neutrons bins.flatten : Hits)).filter
      (Hits.StartBefore (horizon base width bins.length))

theorem told_nil (limits : Limits) (width base count slots : Nat) :
    Told limits width base [] (ofCount count limits slots) [] := by
  constructor
  · rw [groups_ofCount]
    rfl
  · rfl

/-- The number of the first bin that a lane hears, counted from the start of
the stream.  The first lane has heard all that came before. -/
def heardFrom (passed count bins number : Nat) : Nat :=
  if 0 < number then passed + border count bins number - lookback else 0

section

variable {limits : Limits} {lanes : Lanes} {width base : Nat} {past bins : List (List Readout)}
  {out : List Product} (resting : Resting limits lanes)
  (enough : 2 * lanes.count ≤ bins.length) (spanLe : limits.span ≤ width)
  (placed : Placed width base (past ++ bins)) (wide : 0 < limits.dx.toNat)
  (high : 0 < limits.dy.toNat)
  (compact : limits.Compact (neutrons (past ++ bins).flatten : Hits))
  (told : Told limits width base past lanes out)

include resting in
theorem groups_later {number : Nat} (inside : number < lanes.count) (later : 0 < number) :
    (lanes.lane number).pool.groups = 0 :=
  Pool.groups_of_idle (resting.idle number inside later)

include resting in
theorem groups_first : (lanes.lane 0).pool.groups = lanes.groups := by
  have others : ∀ number ∈ Finset.range lanes.count, number ≠ 0 →
      (lanes.lane number).pool.groups = 0 := fun number member later =>
    groups_later resting (Finset.mem_range.mp member) (Nat.pos_of_ne_zero later)
  rw [groups_eq_sum, Finset.sum_eq_single_of_mem 0 (Finset.mem_range.mpr resting.inhabited) others]

include enough in
theorem two_le_border {number : Nat} (later : 0 < number) (inside : number ≤ lanes.count) :
    2 ≤ border lanes.count bins.length number := by
  have first : border lanes.count bins.length 0 + 2 ≤ border lanes.count bins.length (0 + 1) :=
    border_add_two_le enough (Nat.lt_of_lt_of_le later inside)
  have rest : border lanes.count bins.length (0 + 1) ≤ border lanes.count bins.length number :=
    border_mono later inside
  omega

include resting spanLe placed wide high compact told in
/-- The first lane gathers on what was carried over. -/
theorem gathered_first :
    (gathered limits lanes bins 0).filter
        (fun group => ¬group.StartBefore (horizon base width past.length)) =
      (limits.components (neutrons (binsBetween 0
        (past.length + border lanes.count bins.length 1) (past ++ bins)).flatten : Hits)).filter
          fun group => ¬group.StartBefore (horizon base width past.length) := by
  have compactHere := compact_binsBetween compact 0
    (past.length + border lanes.count bins.length 1)
  have compactPast : limits.Compact (neutrons past.flatten : Hits) := by
    have before := compact_binsBetween compact 0 (past.length + 0)
    rwa [binsBetween_append_left, binsBetween, List.take_zero, List.append_nil] at before
  have heardHere : heard lanes.count bins 0 =
      neutrons (binsBetween 0 (border lanes.count bins.length 1) bins).flatten := by
    rw [heard, if_neg (Nat.lt_irrefl 0), border_zero resting.inhabited]
  rw [binsBetween_append_left, List.flatten_append, neutrons_append, ← heardHere] at compactHere ⊢
  rw [← Limits.gatherAll_components wide high _ compactHere, Limits.gatherAll_append,
    Limits.gatherAll_components wide high _ compactPast, gathered, groups_first resting,
    told.groups]
  by_cases early : horizon base width past.length = 0
  · rw [early]
    simp only [Hits.not_startBefore_zero, not_false_eq_true, Multiset.filter_true]
  · have late : ∀ readout ∈ heard lanes.count bins 0,
        horizon base width past.length + limits.span ≤ readout.time.toNat := by
      intro readout member
      rw [heardHere] at member
      have bounds := (placed.append_right.binsBetween 0 _).bounds member
      unfold horizon at early ⊢
      rw [Nat.mul_comm] at early ⊢
      omega
    rw [← Limits.filter_not_startBefore_gatherAll late, Multiset.filter_filter]
    simp only [and_self]

include resting enough compact wide high in
/-- A later lane gathers what it hears, which starts two bins before its share. -/
theorem gathered_later {number : Nat} (inside : number < lanes.count) (later : 0 < number) :
    gathered limits lanes bins number =
      limits.components (neutrons (binsBetween
        (past.length + border lanes.count bins.length number - lookback)
        (past.length + border lanes.count bins.length (number + 1))
        (past ++ bins)).flatten : Hits) := by
  have atLeast := two_le_border enough later (Nat.le_of_lt inside)
  have start : past.length + border lanes.count bins.length number - lookback =
      past.length + (border lanes.count bins.length number - lookback) := by
    unfold lookback
    omega
  have compactHere := compact_binsBetween compact
    (past.length + border lanes.count bins.length number - lookback)
    (past.length + border lanes.count bins.length (number + 1))
  rw [gathered, groups_later resting inside later, heard, if_pos later]
  rw [start, binsBetween_append_right] at compactHere ⊢
  exact Limits.gatherAll_components wide high _ compactHere

include resting enough spanLe placed wide high compact told in
theorem gathered_eq {number : Nat} (inside : number < lanes.count) :
    (gathered limits lanes bins number).filter (fun group => ¬group.StartBefore
        (horizon base width (past.length + border lanes.count bins.length number))) =
      (limits.components (neutrons (binsBetween
        (heardFrom past.length lanes.count bins.length number)
        (past.length + border lanes.count bins.length (number + 1))
        (past ++ bins)).flatten : Hits)).filter fun group => ¬group.StartBefore
          (horizon base width (past.length + border lanes.count bins.length number)) := by
  rcases Nat.eq_zero_or_pos number with rfl | later
  · rw [border_zero resting.inhabited, Nat.add_zero, heardFrom, if_neg (Nat.lt_irrefl 0)]
    exact gathered_first resting spanLe placed wide high compact told
  · rw [gathered_later resting enough wide high compact inside later, heardFrom, if_pos later]

include resting enough spanLe placed wide high compact told in
/-- What a lane gathers and what starts in or after its window, and for all but
the last lane also before the end of it, are components of all neutrons. -/
theorem gathered_filter {number : Nat} (inside : number < lanes.count) (interest : Hits → Prop)
    [DecidablePred interest]
    (late : ∀ group, interest group → ¬group.StartBefore
      (horizon base width (past.length + border lanes.count bins.length number)))
    (early : number + 1 = lanes.count ∨ ∀ group, interest group → group.StartBefore
      (horizon base width (past.length + border lanes.count bins.length (number + 1)))) :
    (gathered limits lanes bins number).filter interest =
      (limits.components (neutrons (past ++ bins).flatten : Hits)).filter interest := by
  have through : ∀ grouping : Grouping, grouping.filter interest =
      (grouping.filter fun group => ¬group.StartBefore
        (horizon base width (past.length + border lanes.count bins.length number))).filter
          interest := by
    intro grouping
    rw [Multiset.filter_filter]
    refine Multiset.filter_congr ?_
    intro group _
    exact ⟨fun interesting => ⟨interesting, late group interesting⟩, And.left⟩
  have stop : border lanes.count bins.length (number + 1) ≤ bins.length :=
    border_le inside
  have share := border_add_two_le enough inside
  rw [through, gathered_eq resting enough spanLe placed wide high compact told inside, ← through]
  refine components_binsBetween placed compact ?_ ?_ interest ?_
  · unfold heardFrom
    split <;> omega
  · rw [List.length_append]
    omega
  · intro group interesting occupied
    have low : ∀ hit ∈ group, heardFrom past.length lanes.count bins.length number = 0 ∨
        base + heardFrom past.length lanes.count bins.length number * width + limits.span ≤
          hit.time.toNat := by
      intro hit member
      rcases Nat.eq_zero_or_pos number with rfl | later
      · exact .inl (if_neg (Nat.lt_irrefl 0))
      · have notBefore : ¬hit.time.toNat < horizon base width
            (past.length + border lanes.count bins.length number) :=
          fun before => late group interesting ⟨hit, member, before⟩
        have atLeast := two_le_border enough later (Nat.le_of_lt inside)
        obtain ⟨rest, start⟩ : ∃ rest, past.length + border lanes.count bins.length number =
            rest + 2 := ⟨_, (Nat.sub_add_cancel (by omega)).symm⟩
        rw [heardFrom, if_pos later, start, lookback, Nat.add_sub_cancel]
        rw [start, horizon_succ, Nat.mul_succ, Nat.mul_comm] at notBefore
        exact .inr (by omega)
    rcases early with last | early
    · obtain ⟨hit, member⟩ := Multiset.exists_mem_of_ne_zero occupied
      refine ⟨hit, member, low hit member, .inl ?_⟩
      rw [last, border_last, List.length_append]
    · obtain ⟨hit, member, before⟩ := early group interesting
      refine ⟨hit, member, low hit member, .inr ?_⟩
      unfold horizon at before
      rw [Nat.mul_comm] at before
      omega

include resting enough spanLe placed wide high compact told in
/-- A call in which nothing is dropped leaves lanes so that the story goes on. -/
theorem told_process
    (kept : (lanes.process (base + past.length * width) width bins out).1.tally.dropped =
      lanes.tally.dropped) :
    Told limits width base (past ++ bins)
      (lanes.process (base + past.length * width) width bins out).1
      (lanes.process (base + past.length * width) width bins out).2.1 := by
  let edge : Nat → Nat := fun number =>
    horizon base width (past.length + border lanes.count bins.length number)
  have mono : ∀ first second, first ≤ second → second ≤ lanes.count → edge first ≤ edge second :=
    fun first second ordered inside => horizon_mono base width
      (Nat.add_le_add_left (border_mono ordered inside) past.length)
  have start : edge 0 = horizon base width past.length := by
    simp only [edge, border_zero resting.inhabited, Nat.add_zero]
  have finish : edge lanes.count = horizon base width (past ++ bins).length := by
    simp only [edge, border_last, List.length_append]
  let all := limits.components (neutrons (past ++ bins).flatten : Hits)
  have windows : ∀ count ≤ lanes.count, ∑ number ∈ Finset.range count,
      (gathered limits lanes bins number).filter (fun group =>
        ¬group.StartBefore (edge number) ∧ group.StartBefore (edge (number + 1))) =
      all.filter fun group => ¬group.StartBefore (edge 0) ∧ group.StartBefore (edge count) := by
    intro count inside
    induction count with
    | zero => simp
    | succ count induction =>
        rw [Finset.sum_range_succ, induction (Nat.le_of_succ_le inside),
          gathered_filter resting enough spanLe placed wide high compact told inside _
            (fun _ window => window.1) (.inr fun _ window => window.2)]
        exact Grouping.filter_window_add
          (mono 0 count (Nat.zero_le count) (Nat.le_of_succ_le inside))
          (mono count (count + 1) (Nat.le_succ count) inside)
  have windowsAll := windows lanes.count (Nat.le_refl _)
  have before : (limits.components (neutrons past.flatten : Hits)).filter
      (Hits.StartBefore (edge 0)) = all.filter (Hits.StartBefore (edge 0)) := by
    have whole : binsBetween 0 past.length (past ++ bins) = past := by simp [binsBetween]
    have inside : past.length ≤ (past ++ bins).length := by simp
    conv_lhs => rw [← whole]
    refine components_binsBetween placed compact (Nat.zero_le past.length) inside _ ?_
    rintro group ⟨hit, member, early⟩ _
    refine ⟨hit, member, .inl rfl, .inr ?_⟩
    rw [start] at early
    unfold horizon at early
    rw [Nat.mul_comm] at early
    omega
  have placedBins := placed.append_right
  constructor
  · have stillOpen := groups_process resting enough spanLe placedBins kept
    have last : lanes.count - 1 + 1 = lanes.count := Nat.sub_add_cancel resting.inhabited
    rw [stillOpen, horizon_add, ← List.length_append, ← finish]
    refine gathered_filter resting enough spanLe placed wide high compact told
      (Nat.lt_of_succ_le (Nat.le_of_eq last))
      (fun group => ¬group.StartBefore (edge lanes.count)) ?_ (.inl last)
    intro group notLast early
    exact notLast (early.mono (mono _ _ (Nat.sub_le _ _) (Nat.le_refl _)))
  · have reported := formed_process resting enough spanLe placedBins kept
    simp only [horizon_add] at reported
    rw [reported, told.reported, ← start, before, windowsAll, ← finish]
    exact Grouping.filter_before_add (mono 0 lanes.count (Nat.zero_le _) (Nat.le_refl _))

end

section

variable {limits : Limits} {count slots width base : Nat} {blocks : List (List (List Readout))}
  (inhabited : 0 < count) (wide : 0 < limits.dx.toNat) (high : 0 < limits.dy.toNat)
  (spanLe : limits.span ≤ width) (enough : ∀ bins ∈ blocks, 2 * count ≤ bins.length)
  (placed : Placed width base blocks.flatten)
include inhabited spanLe enough placed

theorem proper_fresh :
    ∀ product ∈ (stream width base blocks (ofCount count limits slots) []).2, product.Proper := by
  have all : (ofCount count limits slots).count = count := List.length_replicate
  refine proper_stream (resting_ofCount inhabited limits slots) ?_ spanLe placed (by simp)
  rwa [all]

include wide high

/-- After any number of calls in which nothing was dropped, fresh lanes have
reported the components that start early and hold the others open. -/
theorem told_stream (compact : limits.Compact (neutrons blocks.flatten.flatten : Hits))
    (kept : (stream width base blocks (ofCount count limits slots) []).1.tally.dropped = 0) :
    Told limits width base blocks.flatten
      (stream width base blocks (ofCount count limits slots) []).1
      (stream width base blocks (ofCount count limits slots) []).2 := by
  have all : (ofCount count limits slots).count = count := List.length_replicate
  refine stream_induction (motive := fun earlier lanes out =>
      Placed width base earlier.flatten →
        limits.Compact (neutrons earlier.flatten.flatten : Hits) → lanes.tally.dropped = 0 →
          Told limits width base earlier.flatten lanes out)
    (resting_ofCount inhabited limits slots) (by rwa [all]) spanLe placed
    (fun _ _ _ => told_nil limits width base count slots) ?_ placed compact kept
  intro earlier bins ready induction placedHere compactHere keptHere
  rw [List.flatten_append, List.flatten_singleton] at placedHere compactHere ⊢
  rw [stream_concat] at keptHere ⊢
  have grown := dropped_le_process ready.resting ready.enough spanLe ready.placed
    (stream width base earlier (ofCount count limits slots) []).2
  simp only at keptHere
  have keptBefore : (stream width base earlier
      (ofCount count limits slots) []).1.tally.dropped = 0 := by omega
  have compactBefore : limits.Compact (neutrons earlier.flatten.flatten : Hits) := by
    have before := compact_binsBetween compactHere 0 (earlier.flatten.length + 0)
    rwa [binsBetween_append_left, binsBetween, List.take_zero, List.append_nil] at before
  have told := induction placedHere.append_left compactBefore keptBefore
  exact told_process ready.resting ready.enough spanLe placedHere wide high compactHere told
    (keptHere.trans keptBefore.symm)

end

theorem clusters_cons_passed (readout : Readout) (out : List Product) :
    Product.clusters (.passed readout :: out) = Product.clusters out := rfl

theorem clusters_cons_formed (cluster : Cluster) (out : List Product) :
    Product.clusters (.formed cluster :: out) = cluster :: Product.clusters out := rfl

theorem neutrons_readouts {out : List Product} (proper : ∀ product ∈ out, product.Proper)
    (neutral : ∀ cluster ∈ Product.clusters out, ∀ hit ∈ cluster.hits, hit.isNeutron = true) :
    neutrons (Product.readouts out) = (Product.clusters out).map Cluster.reduce := by
  induction out with
  | nil => rfl
  | cons product out induction =>
      have properRest : ∀ other ∈ out, other.Proper :=
        fun other member => proper other (List.mem_cons_of_mem _ member)
      have own := proper product List.mem_cons_self
      cases product with
      | passed readout =>
          have passed : readout.isNeutron = false := own
          rw [clusters_cons_passed] at neutral ⊢
          rw [← induction properRest neutral]
          simp [neutrons, Product.readouts, Product.readout, passed]
      | formed cluster =>
          have settled : cluster.Settled := own
          rw [clusters_cons_formed] at neutral ⊢
          have first := Cluster.isNeutron_reduce settled.occupied (neutral cluster List.mem_cons_self)
          rw [List.map_cons, ← induction properRest
            (fun other member => neutral other (List.mem_cons_of_mem _ member))]
          simp [neutrons, Product.readouts, Product.readout, first]

theorem startBefore_of_quiet {limits : Limits} {width base : Nat}
    {blocks : List (List (List Readout))} {idle : List (List Readout)} (long : 2 ≤ idle.length)
    (quiet : ∀ bin ∈ idle, bin = []) (placed : Placed width base (blocks.flatten ++ idle)) :
    ∀ group ∈ limits.components (neutrons (blocks.flatten ++ idle).flatten : Hits),
      group.StartBefore (horizon base width (blocks.flatten ++ idle).length) := by
  intro group member
  obtain ⟨hit, hitMember, rfl⟩ := Limits.mem_components.mp member
  have silent : idle.flatten = [] := List.flatten_eq_nil_iff.mpr quiet
  have inBlocks : hit ∈ neutrons blocks.flatten.flatten := by
    rwa [List.flatten_append, silent, List.append_nil, Multiset.mem_coe] at hitMember
  have bounds := placed.append_left.bounds inBlocks
  refine ⟨hit, Limits.self_mem_component hitMember, ?_⟩
  obtain ⟨more, count⟩ : ∃ more, (blocks.flatten ++ idle).length =
      blocks.flatten.length + more + 1 := ⟨idle.length - 1, by rw [List.length_append]; omega⟩
  have grown : blocks.flatten.length * width ≤ (blocks.flatten.length + more) * width :=
    Nat.mul_le_mul_right width (Nat.le_add_right _ _)
  rw [count, horizon_succ, Nat.mul_comm]
  omega

/-- Whatever their number, lanes report the connected components of all
neutrons, each once, if no component is longer than the span and the stream
ends with empty bins.  If every bin starts on the clock, it makes no difference
that starts are told in 64 bits. -/
theorem stream_eq_components {limits : Limits} {count slots width base : Nat}
    {blocks : List (List (List Readout))} {idle : List (List Readout)} (inhabited : 0 < count)
    (wide : 0 < limits.dx.toNat) (high : 0 < limits.dy.toNat) (spanLe : limits.span ≤ width)
    (enough : ∀ bins ∈ blocks ++ [idle], 2 * count ≤ bins.length)
    (quiet : ∀ bin ∈ idle, bin = []) (placed : Placed width base (blocks ++ [idle]).flatten)
    (compact : limits.Compact (neutrons (blocks ++ [idle]).flatten.flatten : Hits))
    (kept : (stream width base (blocks ++ [idle]) (ofCount count limits slots)
      []).1.tally.dropped = 0) :
    let supplied : Hits := neutrons (blocks ++ [idle]).flatten.flatten
    let out := (stream width base (blocks ++ [idle]) (ofCount count limits slots) []).2
    neutrons (Product.readouts out) = (Product.clusters out).map Cluster.reduce ∧
      Cluster.groups (Product.clusters out) = limits.components supplied ∧
      (Cluster.groups (Product.clusters out)).Nodup ∧
      (∀ others more, 0 < others → (∀ bins ∈ blocks ++ [idle], 2 * others ≤ bins.length) →
        (stream width base (blocks ++ [idle]) (ofCount others limits more) []).1.tally.dropped = 0 →
          Cluster.groups (Product.clusters
            (stream width base (blocks ++ [idle]) (ofCount others limits more) []).2) =
              Cluster.groups (Product.clusters out)) ∧
      ((∀ number < (blocks ++ [idle]).flatten.length, fineStart base width number ≤ clockEnd) →
        wrappedStream width base (blocks ++ [idle]) (ofCount count limits slots) [] =
          stream width base (blocks ++ [idle]) (ofCount count limits slots) []) := by
  intro supplied out
  have whole : ∀ lanes slots, 0 < lanes →
      (∀ bins ∈ blocks ++ [idle], 2 * lanes ≤ bins.length) →
      (stream width base (blocks ++ [idle]) (ofCount lanes limits slots) []).1.tally.dropped = 0 →
        Cluster.groups (Product.clusters
          (stream width base (blocks ++ [idle]) (ofCount lanes limits slots) []).2) =
            limits.components supplied := by
    intro lanes slots inhabitedHere enoughHere keptHere
    have told := told_stream inhabitedHere wide high spanLe enoughHere placed compact keptHere
    rw [told.reported]
    refine Multiset.filter_eq_self.mpr ?_
    have long := enoughHere idle (List.mem_append_right _ (List.mem_singleton_self idle))
    rw [List.flatten_append, List.flatten_singleton] at placed ⊢
    exact startBefore_of_quiet (by omega) quiet placed
  have groups := whole count slots inhabited enough kept
  refine ⟨?_, groups, ?_, ?_, wrappedStream_eq_stream⟩
  · refine neutrons_readouts (proper_fresh inhabited spanLe enough placed) ?_
    intro cluster member hit hitMember
    have group : cluster.group ∈ limits.components supplied := by
      rw [← groups]
      exact Multiset.mem_coe.mpr (List.mem_map_of_mem member)
    obtain ⟨source, -, same⟩ := Limits.mem_components.mp group
    have inGroup : hit ∈ limits.component supplied source := by
      rw [same]
      exact Multiset.mem_coe.mpr hitMember
    exact (List.mem_filter.mp (Multiset.mem_coe.mp (Limits.mem_component.mp inGroup).1)).2
  · rw [groups]
    exact Limits.nodup_components
  · intro others more inhabitedHere enoughHere keptHere
    rw [groups]
    exact whole others more inhabitedHere enoughHere keptHere

/-- A component across the border of two lanes, with another one close by. -/
theorem stream_border_eq_components :
    let limits : Limits := { span := 16, gap := 16 }
    let idle : List (List Readout) := [[], [], [], []]
    let blocks : List (List (List Readout)) :=
      [[[], [.neutron 20 5 5 1, .neutron 30 9 9 1], [.neutron 34 9 9 1], []]]
    let after := stream 16 0 (blocks ++ [idle]) (ofCount 2 limits 8) []
    let supplied : Hits := neutrons (blocks ++ [idle]).flatten.flatten
    limits.Compact supplied ∧ after.1.tally.dropped = 0 ∧
      Cluster.groups (Product.clusters after.2) = limits.components supplied ∧
      Cluster.groups (Product.clusters
        (stream 16 0 (blocks ++ [idle]) (ofCount 1 limits 8) []).2) =
          Cluster.groups (Product.clusters after.2) ∧
      wrappedStream 16 0 (blocks ++ [idle]) (ofCount 2 limits 8) [] = after := by
  intro limits idle blocks after supplied
  have near : ∀ first ∈ supplied, ∀ second ∈ supplied,
      second.time.toNat ≤ first.time.toNat + limits.span := by decide
  have compact : limits.Compact supplied :=
    fun first firstMember second secondMember _ => near first firstMember second secondMember
  have kept : after.1.tally.dropped = 0 := by decide +kernel
  obtain ⟨-, groups, -, independent, onClock⟩ :=
    stream_eq_components (by decide) (by decide) (by decide)
    (by decide) (by decide) (by decide) (by decide) compact kept
  exact ⟨compact, kept, groups,
    independent 1 8 (by decide) (by decide) (by decide +kernel), onClock (by decide)⟩

end Lanes

end EventFormation
