import EventFormation.Proofs.LaneLookups

/-!
# What one call puts out

With every bin of its share a lane puts out the readouts that are no neutrons, as
they come, and the clusters that start in the bin before.  The shares adjoin each
other and the lanes hand their products on in turn.  So a call puts its products
out bin by bin, however many lanes there are and however few bins.
-/

namespace EventFormation

namespace Product

/-- Products put out bin by bin, where the first bin has the number that is given.
With a bin come its readouts that are no neutrons, and then clusters that are ripe. -/
inductive BinByBin (ripe : Nat → Cluster → Prop) :
    Nat → List (List Readout) → List Product → Prop where
  | nil (number : Nat) : BinByBin ripe number [] []
  | cons {number : Nat} {bin : List Readout} {bins : List (List Readout)}
      {clusters : List Cluster} {products : List Product} :
      (∀ cluster ∈ clusters, ripe number cluster) →
      BinByBin ripe (number + 1) bins products →
      BinByBin ripe number (bin :: bins)
        ((bin.filter fun readout => !readout.isNeutron).map passed ++ clusters.map formed ++
          products)

namespace BinByBin

variable {ripe other : Nat → Cluster → Prop} {number : Nat} {bins more : List (List Readout)}
  {products later : List Product}

theorem append (earlier : BinByBin ripe number bins products)
    (onward : BinByBin ripe (number + bins.length) more later) :
    BinByBin ripe number (bins ++ more) (products ++ later) := by
  induction earlier with
  | nil number => exact onward
  | @cons number bin bins clusters products due rest induction =>
      have next : number + (bin :: bins).length = number + 1 + bins.length := by
        rw [List.length_cons]
        omega
      rw [next] at onward
      rw [List.append_assoc]
      exact .cons due (induction onward)

theorem mono (put : BinByBin ripe number bins products)
    (also : ∀ number cluster, formed cluster ∈ products → ripe number cluster →
      other number cluster) : BinByBin other number bins products := by
  induction put with
  | nil number => exact .nil number
  | cons due rest induction =>
      constructor
      · intro cluster member
        refine also _ cluster ?_ (due cluster member)
        exact List.mem_append_left _ (List.mem_append_right _ (List.mem_map_of_mem member))
      · exact induction fun number cluster member =>
          also number cluster (List.mem_append_right _ member)

end BinByBin

end Product

/-- The number of the fine bin in which a readout lies, counted from a bin that
starts at `base`. -/
def fineBin (base width : Nat) (readout : Readout) : Int :=
  ((readout.time.toNat : Int) - base) / width

/-- A neutron that lies in the fine bin before the one of the number. -/
structure FromBinBefore (base width number : Nat) (readout : Readout) : Prop where
  neutron : readout.isNeutron = true
  late : base + width * number - width ≤ readout.time.toNat
  early : readout.time.toNat < base + width * number

theorem FromBinBefore.fineBin_eq {base width number : Nat} {readout : Readout}
    (before : FromBinBefore base width number readout) :
    fineBin base width readout = (number : Int) - 1 := by
  have late := before.late
  have early := before.early
  have wide : (0 : Int) < width := by
    apply Int.natCast_pos.mpr
    apply Nat.pos_of_ne_zero
    rintro rfl
    omega
  unfold fineBin
  apply le_antisymm
  · apply Int.le_sub_one_of_lt
    apply Int.ediv_lt_of_lt_mul wide
    have cast : ((number : Int) * width) = ((width * number : Nat) : Int) := by
      rw [Nat.cast_mul, mul_comm]
    rw [cast]
    omega
  · apply Int.le_ediv_of_mul_le wide
    have cast : ((number : Int) - 1) * width = ((width * number : Nat) : Int) - width := by
      rw [Nat.cast_mul]
      ring
    rw [cast]
    omega

namespace Product.BinByBin

variable {base width number : Nat} {bins : List (List Readout)} {products : List Product}

/-- What stands for the products, bin by bin. -/
theorem exists_readouts
    (put : BinByBin (fun number cluster => FromBinBefore base width number cluster.reduce) number
      bins products) :
    ∃ formed : List (List Readout), formed.length = bins.length ∧
      readouts products = (List.zipWith (fun bin neutrons =>
        (bin.filter fun readout => !readout.isNeutron) ++ neutrons) bins formed).flatten ∧
      ∀ index neutrons, formed[index]? = some neutrons →
        ∀ readout ∈ neutrons, FromBinBefore base width (number + index) readout := by
  induction put with
  | nil number => exact ⟨[], rfl, rfl, fun index neutrons found => by simp at found⟩
  | @cons number bin bins clusters products due rest induction =>
      obtain ⟨formed, length, shown, within⟩ := induction
      refine ⟨clusters.map Cluster.reduce :: formed, by simp [length], ?_, ?_⟩
      · rw [readouts_append, readouts_append, readouts_map_passed, readouts_map_formed, shown]
        rfl
      · intro index neutrons found readout member
        cases index with
        | zero =>
            obtain rfl : clusters.map Cluster.reduce = neutrons := by simpa using found
            obtain ⟨cluster, clusterMember, rfl⟩ := List.mem_map.mp member
            exact due cluster clusterMember
        | succ index =>
            have next : number + (index + 1) = number + 1 + index := by omega
            rw [next]
            exact within index neutrons found readout member

section

variable (put : BinByBin (fun number cluster => FromBinBefore base width number cluster.reduce)
  number bins products)
include put

/-- Readouts that are no neutrons come out once, in the order of the bins. -/
theorem others_readouts :
    ((readouts products).filter fun readout => !readout.isNeutron) =
      bins.flatten.filter fun readout => !readout.isNeutron := by
  induction put with
  | nil number => rfl
  | @cons number bin bins clusters products due rest induction =>
      have neutral : ((clusters.map Cluster.reduce).filter fun readout => !readout.isNeutron) =
          [] := by
        refine List.filter_eq_nil_iff.mpr ?_
        intro readout member
        obtain ⟨cluster, clusterMember, rfl⟩ := List.mem_map.mp member
        simp [(due cluster clusterMember).neutron]
      rw [readouts_append, readouts_append, readouts_map_passed, readouts_map_formed,
        List.filter_append, List.filter_append, List.filter_filter, neutral, induction,
        List.flatten_cons, List.filter_append]
      simp

/-- Neutrons come out in the order of their fine bins. -/
theorem sorted_neutrons :
    (∀ readout ∈ neutrons (readouts products),
      (number : Int) - 1 ≤ fineBin base width readout) ∧
      (neutrons (readouts products)).Pairwise fun first second =>
        fineBin base width first ≤ fineBin base width second := by
  induction put with
  | nil number => exact ⟨fun readout member => absurd member List.not_mem_nil, List.Pairwise.nil⟩
  | @cons number bin bins clusters products due rest induction =>
      obtain ⟨late, sorted⟩ := induction
      have shown : neutrons (readouts ((bin.filter fun readout => !readout.isNeutron).map passed ++
          clusters.map formed ++ products)) =
            clusters.map Cluster.reduce ++ neutrons (readouts products) := by
        have others : neutrons (bin.filter fun readout => !readout.isNeutron) = [] := by
          simp [neutrons, List.filter_filter]
        have neutral : neutrons (clusters.map Cluster.reduce) = clusters.map Cluster.reduce := by
          refine List.filter_eq_self.mpr ?_
          intro readout member
          obtain ⟨cluster, clusterMember, rfl⟩ := List.mem_map.mp member
          exact (due cluster clusterMember).neutron
        rw [readouts_append, readouts_append, readouts_map_passed, readouts_map_formed,
          neutrons_append, neutrons_append, others, neutral, List.nil_append]
      have own : ∀ readout ∈ clusters.map Cluster.reduce,
          fineBin base width readout = (number : Int) - 1 := by
        intro readout member
        obtain ⟨cluster, clusterMember, rfl⟩ := List.mem_map.mp member
        exact (due cluster clusterMember).fineBin_eq
      have onward : ∀ readout ∈ neutrons (readouts products),
          (number : Int) ≤ fineBin base width readout := by
        intro readout member
        have after := late readout member
        push_cast at after
        omega
      rw [shown]
      constructor
      · intro readout member
        rcases List.mem_append.mp member with here | after
        · exact (own readout here).ge
        · have late := onward readout after
          omega
      · refine List.pairwise_append.mpr ⟨?_, sorted, ?_⟩
        · refine List.pairwise_of_forall_mem_list ?_
          intro first firstMember second secondMember
          rw [own first firstMember, own second secondMember]
        · intro first here second after
          have late := onward second after
          rw [own first here]
          omega

end

end Product.BinByBin

/-- The cluster has hits, and it starts in the fine bin before the one of the number. -/
structure Cluster.StartsBefore (base width number : Nat) (cluster : Cluster) : Prop where
  occupied : cluster.hits ≠ []
  late : base + width * number - width ≤ cluster.start
  early : cluster.start < base + width * number

namespace Lane

variable {base width number : Nat} {bins more : List (List Readout)} {lane middle after : Lane}
  {emitted extra : Nat}

/-- From a lane on, products have been put into the buffer bin by bin, and counted. -/
def Puts (base width number : Nat) (bins : List (List Readout)) (lane after : Lane)
    (emitted : Nat) : Prop :=
  ∃ products, after.buffer.toList = lane.buffer.toList ++ products ∧
    emitted = products.length ∧
    Product.BinByBin (Cluster.StartsBefore base width) number bins products

theorem puts_nothing (base width number : Nat) (lane : Lane) :
    Puts base width number [] lane lane 0 :=
  ⟨[], (List.append_nil _).symm, rfl, .nil number⟩

theorem Puts.trans (earlier : Puts base width number bins lane middle emitted)
    (later : Puts base width (number + bins.length) more middle after extra) :
    Puts base width number (bins ++ more) lane after (emitted + extra) := by
  obtain ⟨products, buffer, count, put⟩ := earlier
  obtain ⟨others, bufferLater, countLater, putLater⟩ := later
  refine ⟨products ++ others, ?_, ?_, put.append putLater⟩
  · rw [bufferLater, buffer, List.append_assoc]
  · rw [count, countLater, List.length_append]

section

variable (wellFormed : lane.pool.WellFormed) (closed : lane.pool.closed = [])
include wellFormed closed

theorem puts_work (base width number : Nat) (bin : List Readout) :
    Puts base width number [bin] lane (lane.work width (base + width * number) bin).1
      (lane.work width (base + width * number) bin).2 := by
  let start := base + width * number
  let taken := bin.foldl take lane
  have gathered := Pool.gathered_insertAll wellFormed (neutrons bin)
  rw [← pool_foldl_take] at gathered
  have nothingClosed : taken.pool.closedClusters = [] :=
    Pool.closedClusters_eq_nil_iff.mpr (gathered.closed closed)
  have ripe : ∀ cluster ∈ (taken.pool.close (start - width) start).1.closedClusters,
      cluster.StartsBefore base width number := by
    intro cluster member
    have settled := (gathered.wellFormed.close _ _).settled_closed member
    rcases Pool.mem_closedClusters_close member with before | ⟨late, early⟩
    · rw [nothingClosed] at before
      contradiction
    · exact ⟨settled.occupied, late, early⟩
  refine ⟨(bin.filter fun readout => !readout.isNeutron).map .passed ++
    (taken.pool.close (start - width) start).1.closedClusters.map .formed ++ [], ?_, ?_,
    .cons ripe (.nil _)⟩
  · rw [work, buffer_flush, buffer_foldl_take, List.append_nil, List.append_assoc]
  · simp [work, flush, Pool.flush, taken, start]

theorem puts_workAll (base width number : Nat) (bins : List (List Readout)) :
    Puts base width number bins lane (lane.workAll (fineStart base width) width number bins).1
      (lane.workAll (fineStart base width) width number bins).2 := by
  induction bins generalizing lane number with
  | nil =>
      have nothing : lane.workAll (fineStart base width) width number [] = (lane, 0) := by
        have flushed := flush_of_closed closed
        have count : lane.flush.2 = 0 := by simp [flush, Pool.flush, Pool.closedClusters, closed]
        exact Prod.ext flushed count
      rw [nothing]
      exact puts_nothing base width number lane
  | cons bin rest induction =>
      have worked := puts_work wellFormed closed base width number bin
      have wellFormedAfter : (lane.work width (base + width * number) bin).1.pool.WellFormed :=
        (swept_work wellFormed closed width (base + width * number) bin).wellFormed
      exact worked.trans (induction wellFormedAfter rfl (number + 1))

theorem puts_run (base width : Nat) (bins : List (List Readout)) (first stop : Nat)
    (replays : Bool) :
    Puts base width first (binsBetween first stop bins) lane
      (lane.run (fineStart base width) width bins first stop replays).1
      (lane.run (fineStart base width) width bins first stop replays).2 := by
  unfold run
  split
  · rename_i empty
    have none : binsBetween first stop bins = [] := by
      rw [binsBetween, Nat.sub_eq_zero_of_le empty, List.take_zero]
    rw [none]
    exact puts_nothing base width first lane
  · cases replays with
    | false => exact puts_workAll wellFormed closed base width first _
    | true =>
        obtain ⟨gathered, closedReplayed⟩ :=
          gathered_replay wellFormed closed (binsBetween (first - lookback) first bins)
        exact puts_workAll gathered.wellFormed closedReplayed base width first _

end

end Lane

namespace Lanes

variable {limits : Limits} {lanes : Lanes}

theorem puts_process (resting : Resting limits lanes) (base width : Nat)
    (bins : List (List Readout)) :
    ∃ products, Product.BinByBin (Cluster.StartsBefore base width) 0 bins products ∧
      ∀ out, (lanes.process base width bins out).2 = (out ++ products, products.length) := by
  -- The shares of lanes that are not in use are empty and lie at the end, so one
  -- induction goes over all lanes.
  let edge := fun number => border (used lanes.count bins.length) bins.length
    (min number (used lanes.count bins.length))
  have ordered : ∀ number, edge number ≤ edge (number + 1) :=
    fun number => border_mono (by omega) (Nat.min_le_right _ _)
  have shares : ∀ count ≤ lanes.count, ∃ products,
      ((List.range count).flatMap fun number =>
        (lanes.worked (fineStart base width) width bins number).1.buffer.toList) = products ∧
      ((List.range count).map fun number =>
        (lanes.worked (fineStart base width) width bins number).2).sum = products.length ∧
      Product.BinByBin (Cluster.StartsBefore base width) 0 (binsBetween 0 (edge count) bins)
        products := by
    intro count within
    induction count with
    | zero =>
        refine ⟨[], rfl, rfl, ?_⟩
        have start : edge 0 = 0 := by
          simp only [edge, Nat.zero_min]
          exact border_zero used_pos
        rw [start]
        exact .nil 0
    | succ count induction =>
        have inside : count < lanes.count := within
        obtain ⟨products, buffers, counted, put⟩ := induction (Nat.le_of_lt inside)
        have ran : Lane.Puts base width (edge count) (binsBetween (edge count) (edge (count + 1)) bins)
            (lanes.lane count) (lanes.worked (fineStart base width) width bins count).1
            (lanes.worked (fineStart base width) width bins count).2 := by
          unfold worked
          rw [share_eq_border]
          exact Lane.puts_run (resting.wellFormed count inside) (resting.closed count inside)
            base width bins _ _ _
        obtain ⟨own, buffer, countedOwn, putOwn⟩ := ran
        rw [resting.buffer count inside] at buffer
        refine ⟨products ++ own, ?_, ?_, ?_⟩
        · rw [List.range_succ, List.flatMap_append, List.flatMap_singleton, buffers, buffer]
          rfl
        · rw [List.range_succ, List.map_append, List.sum_append, counted, List.map_singleton,
            List.sum_singleton, countedOwn, List.length_append]
        · have length : (binsBetween 0 (edge count) bins).length = edge count - 0 :=
            length_binsBetween (border_le (Nat.min_le_right _ _))
          rw [← binsBetween_append bins (Nat.zero_le _) (ordered count)]
          refine put.append ?_
          rwa [length, Nat.sub_zero, Nat.zero_add]
  obtain ⟨products, buffers, counted, put⟩ := shares lanes.count (Nat.le_refl _)
  have last : edge lanes.count = bins.length := by
    simp only [edge, Nat.min_eq_right (used_le resting.inhabited), border_last]
  have all : binsBetween 0 bins.length bins = bins := by simp [binsBetween]
  rw [last, all] at put
  refine ⟨products, put, ?_⟩
  intro out
  rw [outcome_process lanes base width bins out, buffers, counted]

theorem neutral_process {slots : Nat} (orderly : lanes.Orderly limits slots) (base width : Nat)
    (bins : List (List Readout)) : ∀ product ∈ (lanes.process base width bins []).2.1,
      product.Holds fun hit => hit.isNeutron = true := by
  intro product member
  rw [outcome_process lanes base width bins [], List.nil_append] at member
  obtain ⟨number, numberMember, inLane⟩ := List.mem_flatMap.mp member
  have inside := List.mem_range.mp numberMember
  have holds : (lanes.lane number).Holds fun hit => hit.isNeutron = true := by
    refine ⟨orderly.wellFormed number inside, orderly.neutral number inside, ?_⟩
    intro product member
    rw [orderly.buffer number inside] at member
    contradiction
  exact (holds.run (fineStart base width) width _ _ _ Lane.mem_neutrons_isNeutron).buffer
    product inLane

/-- Bin by bin, what stands for the clusters that are put out are neutrons. -/
theorem binByBin_process {slots : Nat} (orderly : lanes.Orderly limits slots) (base width : Nat)
    (bins : List (List Readout)) :
    ∃ products, Product.BinByBin
        (fun number cluster => FromBinBefore base width number cluster.reduce) 0 bins products ∧
      ∀ out, (lanes.process base width bins out).2 = (out ++ products, products.length) := by
  obtain ⟨products, put, produced⟩ := puts_process orderly.toResting base width bins
  have neutral := neutral_process orderly base width bins
  rw [produced [], List.nil_append] at neutral
  refine ⟨products, put.mono ?_, produced⟩
  intro number cluster member starts
  have time := Cluster.time_reduce starts.occupied
  exact
    { neutron := Cluster.isNeutron_reduce starts.occupied (neutral _ member)
      late := time ▸ starts.late
      early := time ▸ starts.early }

end Lanes

namespace LaneStep

/-- Whatever was asked of lanes before, a call looks up nothing that is not there,
keeps what was put out already, and counts what it appends.  For each bin in turn it
appends the readouts that are no neutrons, as they come, and then neutrons of the bin
before.  So the former come out once, in the order of the bins, and neutrons come out
in the order of their fine bins. -/
theorem process_run_bin_by_bin {count : Nat} (inhabited : 0 < count) (limits : Limits)
    (slots : Nat) (steps : List LaneStep) (base width : Nat) (bins : List (List Readout))
    (out : List Product) :
    let lanes := run (.ofCount count limits slots) steps
    lanes.process? base width bins out = some (lanes.process base width bins out) ∧
    ∃ (products : List Product) (formed : List (List Readout)),
      (lanes.process base width bins out).2 = (out ++ products, products.length) ∧
      formed.length = bins.length ∧
      Product.readouts products = (List.zipWith (fun bin neutrons =>
        (bin.filter fun readout => !readout.isNeutron) ++ neutrons) bins formed).flatten ∧
      (∀ number neutrons, formed[number]? = some neutrons → ∀ readout ∈ neutrons,
        readout.isNeutron = true ∧ base + width * number - width ≤ readout.time.toNat ∧
          readout.time.toNat < base + width * number) ∧
      ((Product.readouts products).filter fun readout => !readout.isNeutron) =
        (bins.flatten.filter fun readout => !readout.isNeutron) ∧
      (neutrons (Product.readouts products)).Pairwise fun first second =>
        fineBin base width first ≤ fineBin base width second := by
  intro lanes
  obtain ⟨orderly, -⟩ := orderly_run_ofCount inhabited limits slots steps
  obtain ⟨products, put, produced⟩ := Lanes.binByBin_process orderly base width bins
  obtain ⟨formed, length, shown, within⟩ := put.exists_readouts
  refine ⟨Lanes.process?_eq orderly bins base width out, products, formed, produced out, length,
    shown, ?_, put.others_readouts, put.sorted_neutrons.2⟩
  intro number neutrons found readout member
  have before := within number neutrons found readout member
  rw [Nat.zero_add] at before
  exact ⟨before.neutron, before.late, before.early⟩

/-- A cluster is carried over, and three lanes are called with two bins. -/
theorem process_carried_bin_by_bin :
    let limits : Limits := { span := 16, gap := 16 }
    let steps : List LaneStep :=
      [.process (fineStart 0 16) 16 [[.neutron 4 5 5 1], [.neutron 24 5 5 1]]]
    let bins : List (List Readout) :=
      [[.marker .frameStart 33 0, .neutron 44 9 9 1],
        [.marker .veto 50 0, .neutron 52 9 9 2, .neutron 60 2 2 1]]
    let lanes := run (.ofCount 3 limits 4) steps
    (lanes.list.map fun lane => lane.pool.activeClusters.map Cluster.hits) =
        [[[.neutron 24 5 5 1]], [], []] ∧
      lanes.process? 32 16 bins [] = some (lanes.process 32 16 bins []) ∧
      ∃ (products : List Product) (formed : List (List Readout)),
        (lanes.process 32 16 bins []).2 = (products, 4) ∧
        Product.readouts products = (List.zipWith (fun bin neutrons =>
          (bin.filter fun readout => !readout.isNeutron) ++ neutrons) bins formed).flatten ∧
        (∀ number neutrons, formed[number]? = some neutrons → ∀ readout ∈ neutrons,
          readout.isNeutron = true ∧ 32 + 16 * number - 16 ≤ readout.time.toNat ∧
            readout.time.toNat < 32 + 16 * number) ∧
        ((Product.readouts products).filter fun readout => !readout.isNeutron) =
          [.marker .frameStart 33 0, .marker .veto 50 0] := by
  intro limits steps bins lanes
  have carried : (lanes.list.map fun lane => lane.pool.activeClusters.map Cluster.hits) =
      [[[.neutron 24 5 5 1]], [], []] := by decide +kernel
  have count : (lanes.process 32 16 bins []).2.2 = 4 := by decide +kernel
  obtain ⟨found, products, formed, produced, -, shown, within, others, -⟩ :=
    process_run_bin_by_bin (show 0 < 3 by decide) limits 4 steps 32 16 bins []
  have length : products.length = 4 := (congrArg Prod.snd produced).symm.trans count
  rw [length] at produced
  exact ⟨carried, found, products, formed, produced, shown, within, others.trans (by decide)⟩

end LaneStep

end EventFormation
