import EventFormation.Proofs.LaneLedger

/-!
# Closing what is open

What is open after a call starts in the last fine bin of the call or after it.  So
a call on quiet bins that follow finds every open cluster in the window of its first
bin: all of them are reported, in order, none is discarded, and nothing is left that
the lanes could lose when they are cleared.
-/

namespace EventFormation

namespace Pool

variable {pool : Pool}

end Pool

namespace Lane

variable {lane : Lane} {width base : Nat}

end Lane

namespace Lanes

variable {property : Readout → Prop} {limits : Limits} {lanes : Lanes} {width base : Nat}

section

variable {bins : List (List Readout)} (resting : Resting limits lanes)
  (enough : 2 * lanes.count ≤ bins.length) (spanLe : limits.span ≤ width)
  (placed : Placed width base bins)
include resting enough spanLe placed

/-- What is open after a call is what the last lane has left open. -/
theorem holds_process_of_last
    (holds : (lanes.ran base width bins (lanes.count - 1)).pool.Holds property)
    (out : List Product) : (lanes.process base width bins out).1.Holds property := by
  have wellFormed := wellFormed_emptied resting enough spanLe placed
  have first := resting.inhabited
  have last : lanes.count - 1 < lanes.count := Nat.sub_lt first Nat.one_pos
  rw [holds_iff, count_process resting enough]
  intro number inside
  rw [lane_process resting enough out inside]
  by_cases single : lanes.count ≤ 1
  · have only : number = lanes.count - 1 := by omega
    rw [handed, if_pos single, only]
    exact holds.activeClusters
  · by_cases receiver : number = 0
    · subst receiver
      have cleared : (lanes.emptied base width bins 0).pool.clearActive.1.Holds property := by
        intro slot member
        have closed := (swept_ran resting enough spanLe placed first).closed
        have none : (lanes.emptied base width bins 0).pool.closed = [] := closed
        simp [Pool.clearActive, none] at member
      rw [handed, if_neg single, if_pos rfl]
      exact (cleared.foldl_receive (wellFormed 0 first).clearActive
        (Pool.activeClusters_settled (wellFormed _ last)) holds.activeClusters).activeClusters
    · rw [handed, if_neg single, if_neg receiver]
      intro cluster member
      contradiction

theorem last_process (out : List Product) : (lanes.process base width bins out).1.Holds
    fun hit => base + width * bins.length ≤ hit.time.toNat + width := by
  have first := resting.inhabited
  have last : lanes.count - 1 < lanes.count := Nat.sub_lt first Nat.one_pos
  have share := border_add_two_le enough last
  have next : lanes.count - 1 + 1 = lanes.count := Nat.sub_add_cancel first
  have ran := Lane.last_run (resting.wellFormed _ last) base width (0 < lanes.count - 1)
    (by omega : border lanes.count bins.length (lanes.count - 1) <
      border lanes.count bins.length (lanes.count - 1 + 1))
    (border_le (Nat.succ_le_of_lt last))
  rw [next, border_last] at ran
  have stop : lanes.ran base width bins (lanes.count - 1) =
      ((lanes.lane (lanes.count - 1)).run (fineStart base width) width bins
        (border lanes.count bins.length (lanes.count - 1)) bins.length
        (0 < lanes.count - 1)).1 := by
    rw [Lanes.ran, next, border_last]
  refine holds_process_of_last resting enough spanLe placed ?_ out
  rw [stop]
  exact ran

end

theorem last_stream {blocks : List (List (List Readout))} (resting : Resting limits lanes)
    (enough : ∀ bins ∈ blocks, 2 * lanes.count ≤ bins.length) (spanLe : limits.span ≤ width)
    (placed : Placed width base blocks.flatten) (some : blocks ≠ []) :
    (stream width base blocks lanes []).1.Holds fun hit =>
      base + blocks.flatten.length * width ≤ hit.time.toNat + width := by
  refine stream_induction (motive := fun earlier after _ => earlier ≠ [] →
      after.Holds fun hit => base + earlier.flatten.length * width ≤ hit.time.toNat + width)
    resting enough spanLe placed (fun nothing => absurd rfl nothing) ?_ some
  intro earlier bins ready _ _
  rw [stream_concat]
  intro cluster member hit hitMember
  have last : base + earlier.flatten.length * width + width * bins.length ≤
      hit.time.toNat + width :=
    last_process ready.resting ready.enough spanLe ready.placed
      (stream width base earlier lanes []).2 cluster member hit hitMember
  rw [List.flatten_append, List.flatten_singleton, List.length_append, Nat.add_mul,
    Nat.mul_comm bins.length, ← Nat.add_assoc]
  exact last

section

variable {bins : List (List Readout)} (resting : Resting limits lanes)
  (enough : 2 * lanes.count ≤ bins.length) (quiet : ∀ bin ∈ bins, bin = [])
  (trailing : lanes.Holds fun hit => hit.time.toNat < base ∧ base ≤ hit.time.toNat + width)
include resting enough quiet trailing

end

end Lanes

end EventFormation
