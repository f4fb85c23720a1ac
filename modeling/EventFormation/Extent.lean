/-!
# Extents

The extent of a set of values is its smallest and its largest member. It is
kept while values arrive one by one and is never recomputed.
-/

namespace EventFormation

/-- The smallest and the largest of the values seen. -/
structure Extent (α : Type) where
  lo : α
  hi : α
  deriving DecidableEq, Inhabited

namespace Extent

variable {α : Type} [Min α] [Max α]

def point (value : α) : Extent α :=
  { lo := value, hi := value }

def insert (extent : Extent α) (value : α) : Extent α :=
  { lo := min extent.lo value, hi := max extent.hi value }

def union (extent other : Extent α) : Extent α :=
  { lo := min extent.lo other.lo, hi := max extent.hi other.hi }

end Extent

end EventFormation
