import EventFormation.Proofs.LaneCall

/-!
# Consecutive calls

Blocks of bins are clustered one after the other, each where the one before it
has ended.  What is true of every call is carried along the stream here, by
induction on the blocks, the last one last.
-/

namespace EventFormation

theorem Placed.append_left {width start : Nat} {earlier later : List (List Readout)}
    (placed : Placed width start (earlier ++ later)) : Placed width start earlier := by
  have taken := placed.take earlier.length
  rwa [List.take_left] at taken

theorem Placed.append_right {width start : Nat} {earlier later : List (List Readout)}
    (placed : Placed width start (earlier ++ later)) :
    Placed width (start + earlier.length * width) later := by
  have dropped := placed.drop earlier.length
  rwa [List.drop_left] at dropped

namespace Lanes

/-- Clusters blocks of bins, the first of which starts at `base`. -/
def stream (width base : Nat) (blocks : List (List (List Readout))) (lanes : Lanes)
    (out : List Product) : Lanes × List Product :=
  match blocks with
  | [] => (lanes, out)
  | bins :: rest =>
    let (after, produced, _) := lanes.process base width bins out
    stream width (base + bins.length * width) rest after produced

variable {width base : Nat} {lanes : Lanes} {out : List Product}

@[simp] theorem stream_nil : stream width base [] lanes out = (lanes, out) := rfl

theorem stream_cons (bins : List (List Readout)) (rest : List (List (List Readout))) :
    stream width base (bins :: rest) lanes out =
      stream width (base + bins.length * width) rest (lanes.process base width bins out).1
        (lanes.process base width bins out).2.1 := rfl

theorem stream_append (earlier later : List (List (List Readout))) :
    stream width base (earlier ++ later) lanes out =
      stream width (base + earlier.flatten.length * width) later
        (stream width base earlier lanes out).1 (stream width base earlier lanes out).2 := by
  induction earlier generalizing base lanes out with
  | nil => simp
  | cons bins rest induction =>
      rw [List.cons_append, stream_cons, induction, stream_cons, List.flatten_cons,
        List.length_append, Nat.add_mul, Nat.add_assoc]

theorem stream_concat (blocks : List (List (List Readout))) (bins : List (List Readout)) :
    stream width base (blocks ++ [bins]) lanes out =
      (((stream width base blocks lanes out).1.process
          (base + blocks.flatten.length * width) width bins
          (stream width base blocks lanes out).2).1,
        ((stream width base blocks lanes out).1.process
          (base + blocks.flatten.length * width) width bins
          (stream width base blocks lanes out).2).2.1) := by
  rw [stream_append]
  rfl

/-- Clusters blocks of bins whose starts are told in 64 bits. -/
def wrappedStream (width base : Nat) (blocks : List (List (List Readout))) (lanes : Lanes)
    (out : List Product) : Lanes × List Product :=
  match blocks with
  | [] => (lanes, out)
  | bins :: rest =>
    let (after, produced, _) := lanes.processAt (wrappedStart base width) width bins out
    wrappedStream width (base + bins.length * width) rest after produced

theorem wrappedStream_eq_stream {blocks : List (List (List Readout))}
    (onClock : ∀ number < blocks.flatten.length, fineStart base width number ≤ clockEnd) :
    wrappedStream width base blocks lanes out = stream width base blocks lanes out := by
  induction blocks generalizing base lanes out with
  | nil => rfl
  | cons bins rest induction =>
      rw [List.flatten_cons, List.length_append] at onClock
      have first : ∀ number < bins.length,
          wrappedStart base width number = fineStart base width number := by
        intro number inside
        refine Nat.mod_eq_of_lt (Nat.lt_of_le_of_lt (onClock number (by omega)) ?_)
        decide
      have onward : ∀ number < rest.flatten.length,
          fineStart (base + bins.length * width) width number ≤ clockEnd := by
        intro number inside
        have start : fineStart (base + bins.length * width) width number =
            fineStart base width (bins.length + number) := by
          simp only [fineStart]
          ring
        rw [start]
        exact onClock (bins.length + number) (by omega)
      simp only [stream_cons, wrappedStream, processAt_congr first, induction onward]
      rfl

theorem stream_out (blocks : List (List (List Readout))) :
    stream width base blocks lanes out =
      ((stream width base blocks lanes []).1, out ++ (stream width base blocks lanes []).2) := by
  induction blocks generalizing base lanes out with
  | nil => simp
  | cons bins rest induction =>
      have clustered : lanes.process base width bins out =
          ((lanes.process base width bins []).1, out ++ (lanes.process base width bins []).2.1,
            (lanes.process base width bins []).2.2) := rfl
      have restOut : ∀ produced,
          stream width (base + bins.length * width) rest (lanes.process base width bins []).1
              produced =
            ((stream width (base + bins.length * width) rest
                (lanes.process base width bins []).1 []).1,
              produced ++ (stream width (base + bins.length * width) rest
                (lanes.process base width bins []).1 []).2) :=
        fun _ => induction
      rw [stream_cons, stream_cons, clustered, restOut,
        restOut (lanes.process base width bins []).2.1, List.append_assoc]

/-- What is known when one more block is clustered: the lanes are at rest, none
has been lost, and the block is long enough and holds its neutrons in place. -/
structure Ready (limits : Limits) (width base : Nat) (lanes before : Lanes)
    (earlier : List (List (List Readout))) (bins : List (List Readout)) : Prop where
  resting : Resting limits before
  count : before.count = lanes.count
  enough : 2 * before.count ≤ bins.length
  placed : Placed width (base + earlier.flatten.length * width) bins

section

variable {limits : Limits} {blocks : List (List (List Readout))}
  (resting : Resting limits lanes) (enough : ∀ bins ∈ blocks, 2 * lanes.count ≤ bins.length)
  (spanLe : limits.span ≤ width) (placed : Placed width base blocks.flatten)
include resting enough spanLe placed

/-- Lanes are at rest, and none has been lost, after every call. -/
theorem resting_stream :
    Resting limits (stream width base blocks lanes out).1 ∧
      (stream width base blocks lanes out).1.count = lanes.count := by
  induction blocks using List.reverseRecOn with
  | nil => exact ⟨resting, rfl⟩
  | append_singleton blocks bins induction =>
      rw [List.flatten_append, List.flatten_singleton] at placed
      obtain ⟨restingBefore, count⟩ := induction
        (fun other member => enough other (List.mem_append_left _ member)) placed.append_left
      have enoughBins := enough bins (List.mem_append_right _ (List.mem_singleton_self bins))
      rw [← count] at enoughBins
      rw [stream_concat]
      constructor
      · exact resting_process restingBefore enoughBins spanLe placed.append_right
          (stream width base blocks lanes out).2
      · exact (count_process restingBefore enoughBins
          (stream width base blocks lanes out).2).trans count

/-- What holds at first and is kept by every call holds after the stream. -/
theorem stream_induction
    {motive : List (List (List Readout)) → Lanes → List Product → Prop}
    (first : motive [] lanes out)
    (step : ∀ earlier bins, Ready limits width base lanes
        (stream width base earlier lanes out).1 earlier bins →
      motive earlier (stream width base earlier lanes out).1
        (stream width base earlier lanes out).2 →
      motive (earlier ++ [bins]) (stream width base (earlier ++ [bins]) lanes out).1
        (stream width base (earlier ++ [bins]) lanes out).2) :
    motive blocks (stream width base blocks lanes out).1
      (stream width base blocks lanes out).2 := by
  induction blocks using List.reverseRecOn with
  | nil => exact first
  | append_singleton blocks bins induction =>
      rw [List.flatten_append, List.flatten_singleton] at placed
      have enoughBefore : ∀ other ∈ blocks, 2 * lanes.count ≤ other.length :=
        fun other member => enough other (List.mem_append_left _ member)
      obtain ⟨restingBefore, count⟩ : Resting limits (stream width base blocks lanes out).1 ∧
          (stream width base blocks lanes out).1.count = lanes.count :=
        resting_stream resting enoughBefore spanLe placed.append_left
      have enoughBins := enough bins (List.mem_append_right _ (List.mem_singleton_self bins))
      rw [← count] at enoughBins
      exact step blocks bins ⟨restingBefore, count, enoughBins, placed.append_right⟩
        (induction enoughBefore placed.append_left)

theorem proper_stream (proper : ∀ product ∈ out, product.Proper) :
    ∀ product ∈ (stream width base blocks lanes out).2, product.Proper := by
  refine stream_induction (motive := fun _ _ produced => ∀ product ∈ produced, product.Proper)
    resting enough spanLe placed proper ?_
  intro earlier bins ready before
  rw [stream_concat]
  exact proper_process ready.resting ready.enough spanLe ready.placed before

theorem dropped_le_stream :
    lanes.tally.dropped ≤ (stream width base blocks lanes out).1.tally.dropped := by
  refine stream_induction (motive := fun _ after _ => lanes.tally.dropped ≤ after.tally.dropped)
    resting enough spanLe placed (Nat.le_refl _) ?_
  intro earlier bins ready before
  rw [stream_concat]
  exact Nat.le_trans before (dropped_le_process ready.resting ready.enough spanLe ready.placed
    (stream width base earlier lanes out).2)

end

end Lanes

end EventFormation
