import EventFormation.Proofs.EngineInStep
import EventFormation.Proofs.EnginePulses
import EventFormation.Proofs.FrameQueue
import EventFormation.Proofs.LaneTurns

/-!
# Products up to a fine bin

When the bins up to a fine bin have been worked off, the products are those of
the readouts so far: every readout of these bins that is no neutron has been
passed on, in turn and within its bin as it came, and clusters have been put out
with the bin after the one in which they start.  So frames are routed in the order
of time if those of one bin come so, and a neutron is routed after all frames of
the bins before its own.
-/

namespace EventFormation

namespace Layout

variable {layout : Layout}

theorem filter_sorted {readouts : List Readout} {keep : Readout → Bool} {first bins number : Nat}
    (only : ∀ readout ∈ readouts, keep readout = true →
      readout.time.toNat / layout.fineWidth = number)
    (above : first * layout.fineCount ≤ number)
    (below : number < (first + bins) * layout.fineCount) :
    ((layout.sorted readouts first bins).map layout.fineBlock).flatten.flatten.filter keep =
      readouts.filter keep := by
  have coarse : ∀ readout ∈ readouts, keep readout = true →
      readout.coarseNumber layout = number / layout.fineCount := by
    intro readout member kept
    rw [← only readout member kept, Nat.div_div_eq_div_mul, Nat.mul_comm, ← layout.coarseWidth_eq]
    rfl
  have inside : number / layout.fineCount ∈ List.range' first bins := by
    rw [List.mem_range'_1, Nat.le_div_iff_mul_le layout.fineCount_pos,
      Nat.div_lt_iff_lt_mul layout.fineCount_pos]
    exact ⟨above, below⟩
  have blocks : ∀ coarseNumber ∈ List.range' first bins,
      (layout.fineBlock (readouts.filter fun readout =>
          readout.coarseNumber layout = coarseNumber)).flatten.filter keep =
        (readouts.filter fun readout => readout.coarseNumber layout = coarseNumber).filter keep :=
    fun _ _ => filter_fineBlock fun readout member =>
      only readout (List.mem_of_mem_filter member)
  rw [← filter_flatMap_filter coarse List.nodup_range' inside, List.filter_flatMap,
    ← List.flatMap_congr blocks, sorted, List.map_map, List.flatten_flatten, List.map_map,
    ← List.flatMap_def, List.filter_flatMap]
  rfl

end Layout

namespace Product

theorem mem_passings {readout : Readout} {products : List Product} :
    readout ∈ passings products ↔ passed readout ∈ products := by
  rw [passings, List.mem_filterMap]
  constructor
  · rintro ⟨product, member, same⟩
    cases product with
    | passed other =>
        obtain rfl : other = readout := Option.some.inj same
        exact member
    | formed cluster => contradiction
  · exact fun member => ⟨passed readout, member, rfl⟩

theorem due_readout {product : Product} (proper : product.Proper)
    (neutral : product.Holds fun hit => hit.isNeutron = true) (width : Nat) :
    product.readout.due width = product.due width := by
  cases product with
  | passed readout =>
      have other : readout.isNeutron = false := proper
      change readout.due width = readout.time.toNat / width
      rw [Readout.due, if_neg (by simp [other])]
  | formed cluster =>
      have settled : cluster.Settled := proper
      have neutron : cluster.reduce.isNeutron = true :=
        Cluster.isNeutron_reduce settled.occupied neutral
      have time : cluster.reduce.time.toNat = cluster.start :=
        Cluster.time_reduce settled.occupied
      change cluster.reduce.due width = cluster.start / width + 1
      rw [Readout.due, if_pos neutron, time]

end Product

/-- The readout is one of a fine bin that is passed on. -/
def Readout.passesIn (width number : Nat) (readout : Readout) : Bool :=
  !readout.isNeutron && readout.time.toNat / width = number

/-- What it means that products are those of readouts up to a fine bin. -/
structure Emitted (width reached : Nat) (readouts : List Readout) (products : List Product) :
    Prop where
  proper : ∀ product ∈ products, product.Proper
  neutral : ∀ product ∈ products, product.Holds fun hit => hit.isNeutron = true
  ordered : products.Pairwise fun one other => one.due width ≤ other.due width
  within : ∀ product ∈ products, product.due width ≤ reached
  passed : ∀ readout ∈ Product.passings products, readout.time.toNat / width < reached
  complete : ∀ number < reached,
    (Product.passings products).filter (Readout.passesIn width number) =
      readouts.filter (Readout.passesIn width number)

namespace Emitted

variable {width reached : Nat} {readouts : List Readout} {products more : List Product}

theorem start (width reached : Nat) : Emitted width reached [] [] where
  proper := fun _ member => absurd member List.not_mem_nil
  neutral := fun _ member => absurd member List.not_mem_nil
  ordered := List.Pairwise.nil
  within := fun _ member => absurd member List.not_mem_nil
  passed := fun _ member => absurd member List.not_mem_nil
  complete := fun _ _ => rfl

theorem filter_passesIn_eq_nil {others : List Readout} {number : Nat}
    (outside : ∀ readout ∈ others, readout.time.toNat / width ≠ number) :
    others.filter (Readout.passesIn width number) = [] := by
  refine List.filter_eq_nil_iff.mpr ?_
  intro readout member
  simp [Readout.passesIn, outside readout member]

/-- Readouts of bins that have not been reached have no products yet. -/
theorem accept (emitted : Emitted width reached readouts products) {others : List Readout}
    (after : ∀ readout ∈ others, reached ≤ readout.time.toNat / width) :
    Emitted width reached (readouts ++ others) products := by
  refine { emitted with complete := ?_ }
  intro number before
  have none : others.filter (Readout.passesIn width number) = [] := by
    refine filter_passesIn_eq_nil ?_
    intro readout member
    have later := after readout member
    omega
  rw [emitted.complete number before, List.filter_append, none, List.append_nil]

/-- Further products are put out in turn, with all that is passed on of the bins
between. -/
theorem append (emitted : Emitted width reached readouts products) {last : Nat}
    (onward : reached ≤ last) (proper : ∀ product ∈ more, product.Proper)
    (neutral : ∀ product ∈ more, product.Holds fun hit => hit.isNeutron = true)
    (ordered : more.Pairwise fun one other => one.due width ≤ other.due width)
    (within : ∀ product ∈ more, reached ≤ product.due width ∧ product.due width ≤ last)
    (passed : ∀ readout ∈ Product.passings more, readout.time.toNat / width < last)
    (complete : ∀ number, reached ≤ number → number < last →
      (Product.passings more).filter (Readout.passesIn width number) =
        readouts.filter (Readout.passesIn width number)) :
    Emitted width last readouts (products ++ more) := by
  constructor
  · exact List.forall_mem_append.mpr ⟨emitted.proper, proper⟩
  · exact List.forall_mem_append.mpr ⟨emitted.neutral, neutral⟩
  · refine List.pairwise_append.mpr ⟨emitted.ordered, ordered, ?_⟩
    intro one oneMember other otherMember
    exact Nat.le_trans (emitted.within one oneMember) (within other otherMember).1
  · refine List.forall_mem_append.mpr ⟨?_, fun product member => (within product member).2⟩
    exact fun product member => Nat.le_trans (emitted.within product member) onward
  · rw [Product.passings_append]
    refine List.forall_mem_append.mpr ⟨?_, passed⟩
    exact fun readout member => Nat.lt_of_lt_of_le (emitted.passed readout member) onward
  · intro number before
    rw [Product.passings_append, List.filter_append]
    by_cases old : number < reached
    · have none : (Product.passings more).filter (Readout.passesIn width number) = [] := by
        refine filter_passesIn_eq_nil ?_
        intro readout member
        have later := (within _ (Product.mem_passings.mp member)).1
        change reached ≤ readout.time.toNat / width at later
        omega
      rw [none, List.append_nil, emitted.complete number old]
    · have none : (Product.passings products).filter (Readout.passesIn width number) = [] := by
        refine filter_passesIn_eq_nil ?_
        intro readout member
        have earlier := emitted.passed readout member
        omega
      rw [none, List.nil_append, complete number (Nat.le_of_not_lt old) before]

theorem release (emitted : Emitted width reached readouts products)
    {bins : List (List Readout)} (inTurn : Product.InTurn width reached bins more)
    (proper : ∀ product ∈ more, product.Proper)
    (neutral : ∀ product ∈ more, product.Holds fun hit => hit.isNeutron = true)
    (same : ∀ number, reached ≤ number → number < reached + bins.length →
      bins.flatten.filter (Readout.passesIn width number) =
        readouts.filter (Readout.passesIn width number)) :
    Emitted width (reached + bins.length) readouts (products ++ more) := by
  refine emitted.append (Nat.le_add_right _ _) proper neutral inTurn.ordered ?_ ?_ ?_
  · intro product member
    have bounds := inTurn.within product member
    exact ⟨bounds.1, Nat.le_of_lt bounds.2⟩
  · exact fun readout member => (inTurn.within _ (Product.mem_passings.mp member)).2
  · intro number above below
    rw [← same number above below, inTurn.passings, List.filter_filter]
    refine List.filter_congr ?_
    intro readout _
    cases neutron : readout.isNeutron <;> simp [Readout.passesIn, neutron]

theorem carry (emitted : Emitted width reached readouts products)
    {bins : List (List Readout)} (inTurn : Product.InTurn width reached bins more)
    (quiet : bins.flatten = []) (proper : ∀ product ∈ more, product.Proper)
    (neutral : ∀ product ∈ more, product.Holds fun hit => hit.isNeutron = true)
    (past : ∀ product ∈ more, product.due width ≤ reached) :
    Emitted width reached readouts (products ++ more) := by
  have none : Product.passings more = [] := by
    rw [inTurn.passings, quiet]
    rfl
  refine emitted.append (Nat.le_refl _) proper neutral inTurn.ordered ?_ ?_ ?_
  · exact fun product member => ⟨(inTurn.within product member).1, past product member⟩
  · rw [none]
    exact fun readout member => absurd member List.not_mem_nil
  · intro number above below
    exact absurd below (Nat.not_lt.mpr above)

theorem ordered_readouts (emitted : Emitted width reached readouts products) :
    (Product.readouts products).Pairwise fun first second =>
      first.due width ≤ second.due width := by
  rw [Product.readouts, List.pairwise_map]
  refine emitted.ordered.imp_of_mem ?_
  intro one other oneMember otherMember ordered
  rwa [Product.due_readout (emitted.proper one oneMember) (emitted.neutral one oneMember),
    Product.due_readout (emitted.proper other otherMember) (emitted.neutral other otherMember)]

theorem due_le (emitted : Emitted width reached readouts products) {readout : Readout}
    (member : readout ∈ Product.readouts products) : readout.due width ≤ reached := by
  obtain ⟨product, productMember, rfl⟩ := List.mem_map.mp member
  rw [Product.due_readout (emitted.proper product productMember)
    (emitted.neutral product productMember)]
  exact emitted.within product productMember

theorem others_readouts (emitted : Emitted width reached readouts products) :
    ((Product.readouts products).filter fun readout => !readout.isNeutron) =
      Product.passings products := by
  refine Product.others_readouts emitted.proper ?_
  intro cluster member
  obtain ⟨product, productMember, isCluster⟩ := List.mem_filterMap.mp member
  cases product with
  | passed readout => contradiction
  | formed formed =>
      obtain rfl : formed = cluster := Option.some.inj isCluster
      exact emitted.neutral _ productMember

/-- What has been passed on was among the readouts, and of the bins before the one
that has been reached all have been. -/
theorem mem_readouts_iff (emitted : Emitted width reached readouts products) {readout : Readout}
    (other : readout.isNeutron = false) :
    readout ∈ Product.readouts products ↔
      readout ∈ readouts ∧ readout.time.toNat / width < reached := by
  have passings : readout ∈ Product.readouts products ↔ readout ∈ Product.passings products := by
    rw [← emitted.others_readouts, List.mem_filter, other]
    simp
  have here : readout.passesIn width (readout.time.toNat / width) = true := by
    simp [Readout.passesIn, other]
  rw [passings]
  constructor
  · intro member
    have before := emitted.passed readout member
    have found := List.mem_filter.mpr ⟨member, here⟩
    rw [emitted.complete _ before] at found
    exact ⟨List.mem_of_mem_filter found, before⟩
  · rintro ⟨member, before⟩
    have found := List.mem_filter.mpr ⟨member, here⟩
    rw [← emitted.complete _ before] at found
    exact List.mem_of_mem_filter found

theorem not_isNeutron_of_isFrame {readout : Readout} (frame : readout.isFrame = true) :
    readout.isNeutron = false := by
  have kind : readout.kind = .frameStart := by simpa [Readout.isFrame] using frame
  simp [Readout.isNeutron, kind]

/-- Frames are routed in the order of time if those of one fine bin come so. -/
theorem sorted_frames (emitted : Emitted width reached readouts products)
    (inOrder : Readout.FramesInOrder width readouts) :
    (Readout.frames (Product.readouts products)).Pairwise (· ≤ ·) := by
  rw [Readout.frames, List.pairwise_map, List.pairwise_iff_forall_sublist]
  intro first second pair
  have member : ∀ readout ∈ [first, second], readout ∈ Product.readouts products ∧
      readout.isFrame = true :=
    fun readout inPair => List.mem_filter.mp (pair.subset inPair)
  obtain ⟨firstMember, firstFrame⟩ := member first List.mem_cons_self
  obtain ⟨secondMember, secondFrame⟩ := member second (by simp)
  have firstOther := not_isNeutron_of_isFrame firstFrame
  have secondOther := not_isNeutron_of_isFrame secondFrame
  have due : first.due width ≤ second.due width :=
    List.pairwise_iff_forall_sublist.mp emitted.ordered_readouts (pair.trans List.filter_sublist)
  rw [Readout.due, Readout.due, if_neg (by simp [firstOther]),
    if_neg (by simp [secondOther])] at due
  rcases Nat.lt_or_eq_of_le due with before | same
  · exact Nat.le_of_lt (Nat.lt_of_div_lt_div before)
  · -- Within a fine bin the frames have been passed on as they came.
    have reachedFirst := ((emitted.mem_readouts_iff firstOther).mp firstMember).2
    let number := first.time.toNat / width
    have kept : [first, second].filter (Readout.passesIn width number) = [first, second] := by
      refine List.filter_eq_self.mpr ?_
      simp [Readout.passesIn, firstOther, secondOther, number, same]
    have passed : [first, second].Sublist ((Product.passings products).filter
        (Readout.passesIn width number)) := by
      have whole := (pair.trans List.filter_sublist).filter (fun readout => !readout.isNeutron)
      rw [emitted.others_readouts] at whole
      have both : [first, second].filter (fun readout => !readout.isNeutron) = [first, second] := by
        simp [firstOther, secondOther]
      rw [both] at whole
      rw [← kept]
      exact whole.filter _
    rw [emitted.complete number reachedFirst] at passed
    have frames := (passed.trans List.filter_sublist).filter Readout.isFrame
    have both : [first, second].filter Readout.isFrame = [first, second] := by
      simp [firstFrame, secondFrame]
    rw [both] at frames
    exact List.pairwise_iff_forall_sublist.mp inOrder frames same

/-- When a neutron is routed, all frames that lie before its fine bin have been
routed. -/
theorem mem_frames_iff (emitted : Emitted width reached readouts products) (wide : 0 < width)
    {past later : List Readout} {neutron : Readout}
    (split : Product.readouts products = past ++ neutron :: later)
    (isNeutron : neutron.isNeutron = true) {delay frame : Nat} (least : width ≤ delay)
    (early : frame + delay ≤ neutron.time.toNat / width * width) :
    frame ∈ Readout.frames past ↔ frame ∈ Readout.frames readouts := by
  have due : neutron.due width = neutron.time.toNat / width + 1 := if_pos isNeutron
  have ordered := emitted.ordered_readouts
  have routed : neutron ∈ Product.readouts products := by
    rw [split]
    simp
  have bound := emitted.due_le routed
  have before : frame / width < neutron.time.toNat / width := by
    rw [Nat.div_lt_iff_lt_mul wide]
    omega
  rw [split] at ordered
  obtain ⟨-, orderedRest, -⟩ := List.pairwise_append.mp ordered
  have after := (List.pairwise_cons.mp orderedRest).1
  rw [Readout.mem_frames, Readout.mem_frames]
  constructor
  · rintro ⟨readout, member, isFrame, rfl⟩
    have routed : readout ∈ Product.readouts products := by
      rw [split]
      exact List.mem_append_left _ member
    exact ⟨readout, ((emitted.mem_readouts_iff (not_isNeutron_of_isFrame isFrame)).mp routed).1,
      isFrame, rfl⟩
  · -- The bin of the frame has been worked off, and after the neutron the frame would be late.
    rintro ⟨readout, member, isFrame, rfl⟩
    have other := not_isNeutron_of_isFrame isFrame
    have routed := (emitted.mem_readouts_iff other).mpr ⟨member, by omega⟩
    rw [split] at routed
    rcases List.mem_append.mp routed with sooner | notSooner
    · exact ⟨readout, sooner, isFrame, rfl⟩
    · rcases List.mem_cons.mp notSooner with rfl | follows
      · rw [isNeutron] at other
        contradiction
      · have notLater := after readout follows
        rw [due, Readout.due, if_neg (by simp [other])] at notLater
        omega

/-- What is the latest frame when a neutron is routed is so among all frames. -/
theorem latest_eq_frameFor (emitted : Emitted width reached readouts products) (wide : 0 < width)
    (inOrder : Readout.FramesInOrder width readouts)
    {past later : List Readout} {neutron : Readout}
    (split : Product.readouts products = past ++ neutron :: later)
    (isNeutron : neutron.isNeutron = true) {delay : Nat} (least : width ≤ delay) :
    let floor := neutron.time.toNat / width * width
    Router.latest delay floor (Readout.frames past) =
      frameFor delay floor (Readout.frames readouts) (Readout.frames past).head? := by
  have sorted := emitted.sorted_frames inOrder
  rw [split, Readout.frames_append] at sorted
  exact Router.latest_eq_frameFor (List.pairwise_append.mp sorted).1
    fun _ early => emitted.mem_frames_iff wide split isNeutron least early

/-- A router that has forgotten its frames measures every neutron among products
against the latest frame of the readouts that lies far enough before its fine bin
or, if there is none, against the first one that has been routed. -/
theorem flights_routeAll {router : Router}
    (emitted : Emitted router.fineWidth reached readouts products) (wide : 0 < router.fineWidth)
    (frameMode : router.detector.frameMode = true)
    (inOrder : Readout.FramesInOrder router.fineWidth readouts) :
    let routed := router.resetFrames.routeAll (Product.readouts products)
    let entries := withPast [] (Product.readouts products)
    let frame := fun entry : List Readout × Readout =>
      frameFor router.delay (router.floor entry.2.time.toNat) (Readout.frames readouts)
        (Readout.frames entry.1).head?
    SinkCall.flights router.pulse routed.calls = entries.filterMap (fun entry =>
        router.detector.flight? (frame entry) entry.2) ∧
      routed.result.counts.errors = router.counts.errors + entries.countP (fun entry =>
        router.detector.fails (frame entry) entry.2) ∧
      ∀ entry ∈ entries, entry.2.isNeutron = true →
        (frame entry = none ↔ Readout.frames entry.1 = []) := by
  intro routed entries frame
  let latest := fun entry : List Readout × Readout =>
    Router.latest router.delay (router.floor entry.2.time.toNat) (Readout.frames entry.1)
  have same : ∀ entry ∈ entries, entry.2.isNeutron = true → latest entry = frame entry := by
    intro entry member neutron
    obtain ⟨past, later, split, first⟩ := mem_withPast member
    rw [List.nil_append] at first
    subst first
    exact emitted.latest_eq_frameFor wide inOrder split neutron (Nat.le_add_left _ _)
  have forgotten : router.resetFrames.Aligned := fun _ _ inUse => by contradiction
  have measures : router.resetFrames.detector.frameMode = true := frameMode
  have unused : router.resetFrames.InUse (Readout.frames []) := ⟨rfl, rfl⟩
  have sorted : (Readout.frames ([] ++ Product.readouts products)).Pairwise (· ≤ ·) :=
    emitted.sorted_frames inOrder
  obtain ⟨flights, errors⟩ := Router.flights_routeAll measures forgotten unused sorted wide
    emitted.ordered_readouts (fun _ _ => Nat.zero_le _)
  refine ⟨flights.trans (List.filterMap_congr ?_),
    errors.trans (congrArg (_ + ·) (List.countP_congr ?_)), ?_⟩
  · intro entry member
    change router.detector.flight? (latest entry) entry.2 = _
    cases neutron : entry.2.isNeutron with
    | true => rw [same entry member neutron]
    | false => rw [Detector.flight?_of_not_isNeutron _ neutron,
        Detector.flight?_of_not_isNeutron _ neutron]
  · intro entry member
    change router.detector.fails (latest entry) entry.2 = true ↔ _
    cases neutron : entry.2.isNeutron with
    | true => rw [same entry member neutron]
    | false => rw [Detector.fails_of_not_isNeutron _ neutron,
        Detector.fails_of_not_isNeutron _ neutron (frame entry)]
  · intro entry member neutron
    rw [← same entry member neutron]
    exact Router.latest_eq_none_iff

end Emitted

end EventFormation
