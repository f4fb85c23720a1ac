import EventFormation.Proofs.FineBins
import EventFormation.Proofs.LaneLedger
import EventFormation.Proofs.LaneOutput

/-!
# The order of products

Products are put out bin by bin.  If every readout lies in its bin, then the bin
with which a product is put out can be told from the product alone, and products
come in the order of these bins along a whole stream of calls.
-/

namespace EventFormation

namespace Product

/-- The number of the fine bin with which a product is put out. -/
def due (width : Nat) : Product → Nat
  | passed readout => readout.time.toNat / width
  | formed cluster => cluster.start / width + 1

/-- What it means that products are those of bins, in turn. -/
structure InTurn (width first : Nat) (bins : List (List Readout)) (products : List Product) :
    Prop where
  passings : passings products = bins.flatten.filter fun readout => !readout.isNeutron
  within : ∀ product ∈ products,
    first ≤ product.due width ∧ product.due width < first + bins.length
  ordered : products.Pairwise fun one other => one.due width ≤ other.due width

variable {width first : Nat} {bins more : List (List Readout)} {products others : List Product}

theorem inTurn_nil : InTurn width first [] [] :=
  ⟨rfl, fun _ member => absurd member List.not_mem_nil, List.Pairwise.nil⟩

theorem inTurn_singleton {bin : List Readout}
    (passed : passings products = bin.filter fun readout => !readout.isNeutron)
    (due : ∀ product ∈ products, product.due width = first) :
    InTurn width first [bin] products := by
  constructor
  · rw [passed, List.flatten_singleton]
  · intro product member
    rw [due product member]
    exact ⟨Nat.le_refl _, Nat.lt_succ_self _⟩
  · refine List.pairwise_of_forall_mem_list ?_
    intro one oneMember other otherMember
    rw [due one oneMember, due other otherMember]

theorem InTurn.append (earlier : InTurn width first bins products)
    (later : InTurn width (first + bins.length) more others) :
    InTurn width first (bins ++ more) (products ++ others) := by
  constructor
  · rw [passings_append, earlier.passings, later.passings, List.flatten_append, List.filter_append]
  · intro product member
    rw [List.length_append]
    rcases List.mem_append.mp member with before | after
    · have bounds := earlier.within product before
      omega
    · have bounds := later.within product after
      omega
  · refine List.pairwise_append.mpr ⟨earlier.ordered, later.ordered, ?_⟩
    intro one before other after
    have oneBounds := earlier.within one before
    have otherBounds := later.within other after
    omega

end Product

namespace Dated

variable {width first : Nat} {bins earlier later : List (List Readout)}

theorem tail {bin : List Readout} (dated : Dated width first (bin :: bins)) :
    Dated width (first + 1) bins := by
  intro index other found readout member
  have number := dated (index + 1) other found readout member
  omega

theorem append_left (dated : Dated width first (earlier ++ later)) : Dated width first earlier := by
  intro index bin found
  refine dated index bin ?_
  obtain ⟨inside, _⟩ := List.getElem?_eq_some_iff.mp found
  rwa [List.getElem?_append_left inside]

theorem append_right (dated : Dated width first (earlier ++ later)) :
    Dated width (first + earlier.length) later := by
  intro index bin found readout member
  have number := dated (earlier.length + index) bin
    (by rwa [List.getElem?_append_right (Nat.le_add_right _ _), Nat.add_sub_cancel_left])
    readout member
  omega

end Dated

/-- Products that are put out bin by bin are put out in turn. -/
theorem Product.BinByBin.inTurn {width first number : Nat} {bins : List (List Readout)}
    {products : List Product} (wide : 0 < width)
    (put : BinByBin (Cluster.StartsBefore (first * width) width) number bins products)
    (dated : Dated width (first + number) bins) :
    InTurn width (first + number) bins products := by
  induction put with
  | nil number => exact inTurn_nil
  | @cons number bin bins clusters products due rest induction =>
      refine InTurn.append (inTurn_singleton ?_ ?_) (induction dated.tail)
      · rw [passings_append, passings_map_passed, passings_map_formed, List.append_nil]
      · intro product member
        rcases List.mem_append.mp member with passed | formed
        · obtain ⟨readout, readoutMember, rfl⟩ := List.mem_map.mp passed
          exact dated 0 bin rfl readout (List.mem_of_mem_filter readoutMember)
        · obtain ⟨cluster, clusterMember, rfl⟩ := List.mem_map.mp formed
          have starts := due cluster clusterMember
          have start : first * width + width * number = (first + number) * width := by ring
          have early : cluster.start / width < first + number := by
            apply (Nat.div_lt_iff_lt_mul wide).mpr
            rw [← start]
            exact starts.early
          have late : first + number - 1 ≤ cluster.start / width := by
            rw [Nat.le_div_iff_mul_le wide, Nat.sub_mul, Nat.one_mul, ← start]
            exact starts.late
          change cluster.start / width + 1 = first + number
          omega

namespace Lanes

variable {limits : Limits} {lanes : Lanes} {width first : Nat}

theorem inTurn_process {bins : List (List Readout)} (resting : Resting limits lanes)
    (wide : 0 < width) (dated : Dated width first bins) :
    ∃ products, Product.InTurn width first bins products ∧
      ∀ out, (lanes.process (first * width) width bins out).2.1 = out ++ products := by
  obtain ⟨products, put, produced⟩ := puts_process resting (first * width) width bins
  exact ⟨products, put.inTurn wide dated, fun out => congrArg Prod.fst (produced out)⟩

theorem inTurn_stream {blocks : List (List (List Readout))} (resting : Resting limits lanes)
    (enough : ∀ bins ∈ blocks, 2 * lanes.count ≤ bins.length) (spanLe : limits.span ≤ width)
    (wide : 0 < width) (dated : Dated width first blocks.flatten) :
    Product.InTurn width first blocks.flatten
      (stream width (first * width) blocks lanes []).2 := by
  refine stream_induction (motive := fun earlier _ products =>
      Dated width first earlier.flatten → Product.InTurn width first earlier.flatten products)
    resting enough spanLe (dated.placed wide) (fun _ => Product.inTurn_nil) ?_ dated
  intro earlier bins ready before datedAll
  rw [List.flatten_append, List.flatten_singleton] at datedAll ⊢
  obtain ⟨products, inTurn, produced⟩ :=
    inTurn_process ready.resting wide datedAll.append_right
  rw [stream_concat]
  rw [Nat.add_mul] at produced
  simp only [produced]
  exact (before datedAll.append_left).append inTurn

end Lanes

end EventFormation
