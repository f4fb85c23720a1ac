/-!
# Bin layout

Time is cut into coarse bins, each coarse bin into fine bins, and a fixed
number of coarse bins forms a ring. All widths and counts are powers of two,
given by three exponents, so the bins of an instant do not depend on where the
ring stands.
-/

namespace EventFormation

/-- Powers of two that lay out the time bins. -/
structure Layout where
  /-- Exponent of the number of coarse bins. -/
  coarseBits : Nat := 10
  /-- Exponent of the width of a fine bin in nanoseconds. -/
  fineWidthBits : Nat := 10
  /-- Exponent of the number of fine bins in a coarse bin. -/
  fineBits : Nat := 10
  deriving DecidableEq, Inhabited

namespace Layout

/-- Exponent of the width of a coarse bin. -/
def coarseWidthBits (layout : Layout) : Nat :=
  layout.fineBits + layout.fineWidthBits

def coarseWidth (layout : Layout) : Nat :=
  1 <<< layout.coarseWidthBits

def fineWidth (layout : Layout) : Nat :=
  1 <<< layout.fineWidthBits

def coarseCount (layout : Layout) : Nat :=
  1 <<< layout.coarseBits

/-- Number of fine bins in a coarse bin. -/
def fineCount (layout : Layout) : Nat :=
  1 <<< layout.fineBits

/-- Time covered by the whole ring. -/
def window (layout : Layout) : Nat :=
  layout.coarseWidth * layout.coarseCount

/-- Exponent of the time covered by the whole ring. -/
def windowBits (layout : Layout) : Nat :=
  layout.coarseBits + layout.fineWidthBits + layout.fineBits

/-- Slot of the ring that an instant falls into. -/
def coarseIndex (layout : Layout) (time : Nat) : Nat :=
  time / layout.coarseWidth % layout.coarseCount

def fineIndex (layout : Layout) (time : Nat) : Nat :=
  time / layout.fineWidth % layout.fineCount

/-- The start of the coarse bin that an instant falls into. -/
def coarseFloor (layout : Layout) (time : Nat) : Nat :=
  time / layout.coarseWidth * layout.coarseWidth

/-- The ring has at least two bins and its window fits the clock. -/
def Valid (layout : Layout) : Prop :=
  1 ≤ layout.coarseBits ∧ layout.windowBits < 63

instance (layout : Layout) : Decidable layout.Valid :=
  inferInstanceAs (Decidable (_ ∧ _))

private theorem shift_pos (bits : Nat) : 0 < 1 <<< bits := by
  rw [Nat.one_shiftLeft]
  exact Nat.two_pow_pos bits

theorem coarseWidth_pos (layout : Layout) : 0 < layout.coarseWidth :=
  shift_pos _

theorem fineWidth_pos (layout : Layout) : 0 < layout.fineWidth :=
  shift_pos _

theorem coarseCount_pos (layout : Layout) : 0 < layout.coarseCount :=
  shift_pos _

theorem fineCount_pos (layout : Layout) : 0 < layout.fineCount :=
  shift_pos _

theorem coarseWidth_eq (layout : Layout) :
    layout.coarseWidth = layout.fineCount * layout.fineWidth := by
  simp [coarseWidth, coarseWidthBits, fineCount, fineWidth, Nat.one_shiftLeft, Nat.pow_add]

end Layout

end EventFormation
