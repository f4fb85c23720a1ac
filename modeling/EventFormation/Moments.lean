/-!
# Weighted moments

First and second moments of weighted positions, in double precision. The sums
are kept in the order in which the points arrive, so two runs that see the
same points in the same order hold identical doubles.
-/

namespace EventFormation

/-- Sums over weighted points. -/
structure Moments where
  w : Float := 0
  wx : Float := 0
  wy : Float := 0
  wxx : Float := 0
  wyy : Float := 0
  deriving Inhabited

namespace Moments

def point (w x y : Float) : Moments :=
  { w, wx := w * x, wy := w * y, wxx := w * x * x, wyy := w * y * y }

def union (moments other : Moments) : Moments where
  w := moments.w + other.w
  wx := moments.wx + other.wx
  wy := moments.wy + other.wy
  wxx := moments.wxx + other.wxx
  wyy := moments.wyy + other.wyy

/-- Takes a further weighted point into the sums. -/
def insert (moments : Moments) (w x y : Float) : Moments :=
  moments.union (point w x y)

def meanX (moments : Moments) : Float :=
  moments.wx / moments.w

def meanY (moments : Moments) : Float :=
  moments.wy / moments.w

/-- Second moment of the columns about their mean, not divided by the weight. -/
def scatterX (moments : Moments) : Float :=
  moments.wxx - moments.wx * moments.wx / moments.w

/-- Second moment of the rows about their mean, not divided by the weight. -/
def scatterY (moments : Moments) : Float :=
  moments.wyy - moments.wy * moments.wy / moments.w

def varianceX (moments : Moments) : Float :=
  moments.scatterX / moments.w

def varianceY (moments : Moments) : Float :=
  moments.scatterY / moments.w

end Moments

end EventFormation
