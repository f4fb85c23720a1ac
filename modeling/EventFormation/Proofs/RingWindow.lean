import EventFormation.Proofs.RingHistory

/-!
# Taking a window out

Bins are let go as long as they start in a window and there are any.  What comes out
is what was stored before the end of the last of them, bin after bin and each bin in
the order of insertion: a stable sort of what was inserted by the number of the bin.
-/

namespace EventFormation

namespace TimeRing

variable {ring : TimeRing}

section

variable (sound : ring.Sound)
include sound

theorem mul_lt_of_takeUntil {limit steps number : Nat} (above : ring.start ≤ number)
    (below : number < (ring.takeUntil limit steps).1.start) :
    number * ring.layout.coarseWidth < limit := by
  induction steps generalizing ring with
  | zero => exact absurd below (Nat.not_lt.mpr above)
  | succ steps induction =>
      by_cases stays : ring.isEmpty || limit ≤ ring.base
      · rw [takeUntil, if_pos stays] at below
        exact absurd below (Nat.not_lt.mpr above)
      · have going : ring.isEmpty = false ∧ ring.base < limit := by
          simpa using stays
        have moved := moved_advance sound (sound.isEmpty_eq_false_iff.mp going.1)
        rw [takeUntil, if_neg stays] at below
        rcases Nat.eq_or_lt_of_le above with here | later
        · rw [← here, ← sound.base]
          exact going.2
        · rw [← moved.layout]
          refine induction moved.sound ?_ below
          rw [moved.start]
          exact later

/-- What is let go of a window are the bins that start in it. -/
theorem takeWindow_eq (window : Nat) :
    let bins := min
      ((saturate (ring.base + window) - ring.base) ⌈/⌉ ring.layout.coarseWidth) ring.occupied
    Moved ring (ring.takeWindow window).1 bins ∧
      (ring.takeWindow window).2.1 = (ring.block bins).flatten := by
  intro count
  have positive := ring.layout.coarseWidth_pos
  obtain ⟨bins, moved, taken, reason⟩ := moved_takeWindow sound window
  have within := moved.bins_le
  have started : bins ≤
      (saturate (ring.base + window) - ring.base) ⌈/⌉ ring.layout.coarseWidth := by
    rcases Nat.eq_zero_or_pos bins with none | some
    · rw [none]
      exact Nat.zero_le _
    · have last : (ring.start + (bins - 1)) * ring.layout.coarseWidth <
          saturate (ring.base + window) := by
        have start : (ring.takeUntil (saturate (ring.base + window)) ring.occupied).1.start =
            ring.start + bins := moved.start
        have below : ring.start + (bins - 1) <
            (ring.takeUntil (saturate (ring.base + window)) ring.occupied).1.start := by
          rw [start]
          omega
        exact mul_lt_of_takeUntil sound (Nat.le_add_right _ _) below
      rw [Nat.add_mul, ← sound.base] at last
      by_contra fewer
      have short := (ceilDiv_le_iff_le_mul positive).mp
        (Nat.le_sub_one_of_lt (Nat.lt_of_not_le fewer))
      rw [Nat.mul_comm] at short
      omega
  have same : count = bins := by
    rcases reason with all | reached
    · rw [all] at started ⊢
      exact Nat.min_eq_right started
    · refine Nat.le_antisymm (Nat.le_trans (Nat.min_le_left _ _) ?_)
        (Nat.le_min.mpr ⟨started, within⟩)
      rw [ceilDiv_le_iff_le_mul positive, Nat.mul_comm]
      omega
  rw [same]
  exact ⟨moved, taken⟩

end

/-- How many bins start in a window, of those that are occupied. -/
def windowBins (ring : TimeRing) (window : Nat) : Nat :=
  min ring.occupied (window ⌈/⌉ ring.layout.coarseWidth)

/-- Where the last of these bins ends. -/
def windowEnd (ring : TimeRing) (window : Nat) : Nat :=
  ring.base + ring.windowBins window * ring.layout.coarseWidth

theorem occupied_le_ceilDiv {window : Nat} (covered : ring.span ≤ window) :
    ring.occupied ≤ window ⌈/⌉ ring.layout.coarseWidth := by
  rw [span, Nat.mul_comm, ← Nat.le_div_iff_mul_le ring.layout.coarseWidth_pos,
    ← Nat.floorDiv_eq_div] at covered
  exact Nat.le_trans covered floorDiv_le_ceilDiv

section

variable (sound : ring.Sound)
include sound

/-- Unless the clock ends before, it does not cut the window short. -/
theorem takeWindow_of_fits {window : Nat} (fits : ring.windowEnd window ≤ clockEnd) :
    Moved ring (ring.takeWindow window).1 (ring.windowBins window) ∧
      (ring.takeWindow window).2.1 = (ring.block (ring.windowBins window)).flatten := by
  have positive := ring.layout.coarseWidth_pos
  have same : ring.windowBins window =
      min ((saturate (ring.base + window) - ring.base) ⌈/⌉ ring.layout.coarseWidth)
        ring.occupied := by
    by_cases cut : ring.base + window ≤ clockEnd
    · rw [saturate_eq_self cut, Nat.add_sub_cancel_left, windowBins, Nat.min_comm]
    · -- The window goes on after the clock has ended, and the occupied bins do not.
      have covered := (ceilDiv_le_iff_le_mul positive).mp (Nat.le_refl
        (window ⌈/⌉ ring.layout.coarseWidth))
      have fewer : ring.occupied ≤ window ⌈/⌉ ring.layout.coarseWidth := by
        by_contra more
        have bins : ring.windowBins window = window ⌈/⌉ ring.layout.coarseWidth :=
          Nat.min_eq_right (Nat.le_of_not_le more)
        rw [windowEnd, bins, Nat.mul_comm] at fits
        omega
      have bins : ring.windowBins window = ring.occupied := Nat.min_eq_left fewer
      have whole : saturate (ring.base + window) = clockEnd :=
        Nat.min_eq_right (Nat.le_of_not_le cut)
      have ends : ring.span ≤ clockEnd - ring.base := by
        rw [windowEnd, bins, Nat.mul_comm] at fits
        exact Nat.le_sub_of_add_le' fits
      rw [bins, whole, Nat.min_eq_right (occupied_le_ceilDiv ends)]
  rw [same]
  exact takeWindow_eq sound window

variable {readouts : List Readout}

/-- The bins from the base on, one behind the other, are a stable sort. -/
theorem InOrder.flatten_block (inOrder : ring.InOrder readouts) {bins : Nat}
    (within : bins ≤ ring.occupied) :
    (ring.block bins).flatten = sortedBy (Readout.coarseNumber ring.layout)
      (readouts.filter fun readout =>
        readout.time.toNat < ring.base + bins * ring.layout.coarseWidth) := by
  have turn : ring.occupied < ring.layout.coarseCount := occupied_lt
  have early_iff : ∀ readout : Readout,
      readout.time.toNat < ring.base + bins * ring.layout.coarseWidth ↔
        readout.coarseNumber ring.layout < ring.start + bins := by
    intro readout
    rw [sound.base, ← Nat.add_mul, ← Layout.coarseNumber_lt_iff]
    rfl
  have inside : ∀ readout ∈ readouts.filter fun readout =>
      readout.time.toNat < ring.base + bins * ring.layout.coarseWidth,
      ring.start ≤ readout.coarseNumber ring.layout ∧
        readout.coarseNumber ring.layout < ring.start + bins := by
    intro readout member
    obtain ⟨old, early⟩ := List.mem_filter.mp member
    exact ⟨(inOrder.bounds sound old).1, (early_iff readout).mp (of_decide_eq_true early)⟩
  rw [← flatMap_filter_eq_sortedBy _ ring.start bins inside, block, ← List.flatMap_def]
  refine List.flatMap_congr ?_
  intro number member
  have range := List.mem_range'_1.mp member
  rw [inOrder.held sound range.1 (by omega), List.filter_filter]
  refine List.filter_congr ?_
  intro readout _
  by_cases here : readout.coarseNumber ring.layout = number
  · have early := (early_iff readout).mpr (by omega)
    simp [here, early]
  · simp [here]

end

/-- A window has been let go of bins whose history is known, the readouts that came out
have been given and their number told. -/
structure TookWindow (ring : TimeRing) (window : Nat) (readouts : List Readout)
    (later : TimeRing) (given : List Readout) (told : Nat) : Prop where
  /-- What is before the end of the window comes out bin after bin, each in order. -/
  sorted : given = sortedBy (Readout.coarseNumber ring.layout)
    (readouts.filter fun readout => readout.time.toNat < ring.windowEnd window)
  length : told = given.length
  count : told = ring.stored.countP fun readout => readout.time.toNat < ring.windowEnd window
  base : later.base = ring.windowEnd window
  /-- Each slot keeps what is not before it, in its order. -/
  kept : ∀ slot, content later.coarse slot =
    (content ring.coarse slot).filter fun readout => ring.windowEnd window ≤ readout.time.toNat

theorem tookWindow (sound : ring.Sound) {readouts : List Readout}
    (inOrder : ring.InOrder readouts) {window : Nat} (fits : ring.windowEnd window ≤ clockEnd) :
    TookWindow ring window readouts (ring.takeWindow window).1 (ring.takeWindow window).2.1
      (ring.takeWindow window).2.2 := by
  obtain ⟨moved, taken⟩ := takeWindow_of_fits sound fits
  have base : (ring.takeWindow window).1.base = ring.windowEnd window := by
    rw [moved.base_eq sound, Nat.mul_comm]
    rfl
  have sorted := inOrder.flatten_block sound moved.bins_le
  have told : (ring.takeWindow window).2.2 = (ring.takeWindow window).2.1.length :=
    count_takeUntil _ _
  constructor
  · rw [taken, sorted]
    rfl
  · exact told
  · rw [told, taken, sorted, (sortedBy_perm _ _).length_eq, ← List.countP_eq_length_filter,
      (inOrder.perm sound).countP_eq]
    rfl
  · exact base
  · intro slot
    rw [← base]
    exact moved.content_eq sound slot

theorem inserted_map_insert (ring : TimeRing) (batches : List (List Readout)) :
    ring.inserted (batches.map .insert) =
      batches.flatten.filter fun readout => ring.accepts readout.time.toNat := by
  induction batches generalizing ring with
  | nil => rfl
  | cons batch rest induction =>
      rw [List.map_cons, inserted, induction, List.flatten_cons, List.filter_append]
      rfl

theorem base_run_insert (ring : TimeRing) (batches : List (List Readout)) :
    (ring.run (batches.map .insert)).base = ring.base := by
  induction batches generalizing ring with
  | nil => rfl
  | cons batch rest induction => exact induction (ring.insert batch).1

theorem InOrder.run_insert (sound : ring.Sound) {readouts : List Readout}
    (inOrder : ring.InOrder readouts) (batches : List (List Readout)) :
    (ring.run (batches.map .insert)).InOrder
      (readouts ++ ring.inserted (batches.map .insert)) := by
  induction batches generalizing ring readouts with
  | nil => exact (List.append_nil readouts).symm ▸ inOrder
  | cons batch rest induction =>
      have later := induction (sound_insert sound batch) (inOrder.insert sound batch)
      rw [List.append_assoc] at later
      exact later

/-- The time that a ring covers is less than that of the clock. -/
theorem span_le_clockEnd (valid : ring.layout.Valid) : ring.span ≤ clockEnd := by
  have bits : ring.layout.window = 2 ^ ring.layout.windowBits := by
    rw [Layout.window, Layout.coarseWidth, Layout.coarseCount, Nat.one_shiftLeft,
      Nat.one_shiftLeft, ← Nat.pow_add, Layout.windowBits, Layout.coarseWidthBits]
    congr 1
    omega
  have most : 2 ^ ring.layout.windowBits ≤ 2 ^ 62 :=
    Nat.pow_le_pow_right (by decide) (Nat.le_of_lt_succ valid.2)
  have below : 2 ^ 62 ≤ clockEnd := by decide
  have whole : ring.span ≤ ring.layout.window :=
    Nat.mul_le_mul_left _ (Nat.le_of_lt occupied_lt)
  omega

/-- A ring at time zero is taken out as a whole. -/
theorem takeWindow_clockEnd (sound : ring.Sound) (base : ring.base = 0)
    {readouts : List Readout} (inOrder : ring.InOrder readouts) :
    let (later, given, told) := ring.takeWindow clockEnd
    given = sortedBy (Readout.coarseNumber ring.layout) readouts ∧ told = given.length ∧
      later.isEmpty ∧ later.stored = [] := by
  have covered := span_le_clockEnd sound.valid
  have bins : ring.windowBins clockEnd = ring.occupied :=
    Nat.min_eq_left (occupied_le_ceilDiv covered)
  have stop : ring.windowEnd clockEnd = ring.finish * ring.layout.coarseWidth := by
    rw [← base_add_span sound, windowEnd, bins, span, Nat.mul_comm]
  have fits : ring.windowEnd clockEnd ≤ clockEnd := by
    rwa [stop, ← base_add_span sound, base, Nat.zero_add]
  have all : readouts.filter (fun readout => readout.time.toNat < ring.windowEnd clockEnd) =
      readouts := by
    refine List.filter_eq_self.mpr ?_
    intro readout member
    rw [decide_eq_true_iff, stop, ← Layout.coarseNumber_lt_iff]
    exact (inOrder.bounds sound member).2
  have sorted := (tookWindow sound inOrder fits).sorted
  rw [all] at sorted
  obtain ⟨moved, -⟩ := takeWindow_of_fits sound fits
  have none : (ring.takeWindow clockEnd).1.occupied = 0 := by
    rw [moved.occupied, bins, Nat.sub_self]
  refine ⟨sorted, count_takeUntil _ _, moved.sound.isEmpty_iff.mpr none, ?_⟩
  refine List.eq_nil_iff_forall_not_mem.mpr ?_
  intro readout member
  have bounds := mem_stored moved.sound member
  rw [finish, none] at bounds
  omega

/-- Whatever was asked of bins before, a window that ends on the clock comes out in the
order of bins and of insertion with its number, and nothing else changes its place.  What
was inserted into new bins comes out sorted by bin, and leaves nothing behind. -/
theorem run_takeWindow_sorted {layout : Layout} {fresh : TimeRing}
    (created : create layout = .ok fresh) :
    (∀ steps window, (fresh.run steps).windowEnd window ≤ clockEnd →
      ∃ readouts, History fresh steps readouts ∧
        TookWindow (fresh.run steps) window readouts
          ((fresh.run steps).takeWindow window).1 ((fresh.run steps).takeWindow window).2.1
          ((fresh.run steps).takeWindow window).2.2) ∧
      ∀ batches : List (List Readout),
        let (later, given, told) := (fresh.run (batches.map .insert)).takeWindow clockEnd
        given = sortedBy (Readout.coarseNumber layout)
          (batches.flatten.filter fun readout => fresh.accepts readout.time.toNat) ∧
          told = given.length ∧ later.isEmpty ∧ later.stored = [] := by
  constructor
  · intro steps window fits
    obtain ⟨sound, -⟩ := sound_run_of_create created steps
    obtain ⟨readouts, history⟩ := exists_history created steps
    exact ⟨readouts, history, tookWindow sound history.inOrder fits⟩
  · intro batches
    obtain ⟨sound, laidOut⟩ := sound_run_of_create created (batches.map .insert)
    obtain ⟨valid, rfl⟩ := create_eq_ok_iff.mp created
    have inOrder := (InOrder.empty layout).run_insert (sound_empty valid) batches
    have base := base_run_insert (TimeRing.empty layout) batches
    rw [List.nil_append, inserted_map_insert] at inOrder
    have taken := takeWindow_clockEnd sound base inOrder
    rwa [laidOut] at taken

/-- Bins that wrap around and are taken out up to the newest, and two batches that are
inserted into new bins, one of them with a readout of another time. -/
theorem wrapped_run_takeWindow_sorted :
    let layout : Layout := { coarseBits := 2, fineWidthBits := 1, fineBits := 1 }
    let fresh := TimeRing.empty layout
    let steps : List RingStep := [.reset 30,
      .insert [.neutron 33 1 1 1, .neutron 29 2 2 1, .neutron 39 3 3 1, .neutron 28 4 4 1]]
    let ring := fresh.run steps
    let batches : List (List Readout) :=
      [[.neutron 5 1 1 1, .neutron 99 2 2 1], [.neutron 2 3 3 1, .neutron 1 4 4 1]]
    let given : List Readout := [.neutron 2 3 3 1, .neutron 1 4 4 1, .neutron 5 1 1 1]
    create layout = .ok fresh ∧ ring.windowEnd 5 = 36 ∧
      (ring.takeWindow 5).2.1 = [.neutron 29 2 2 1, .neutron 28 4 4 1, .neutron 33 1 1 1] ∧
      (∃ readouts, History fresh steps readouts ∧
        TookWindow ring 5 readouts (ring.takeWindow 5).1 (ring.takeWindow 5).2.1
          (ring.takeWindow 5).2.2) ∧
      ((fresh.run (batches.map .insert)).takeWindow clockEnd).2 = (given, 3) ∧
      given = sortedBy (Readout.coarseNumber layout)
        (batches.flatten.filter fun readout => fresh.accepts readout.time.toNat) := by
  intro layout fresh steps ring batches given
  have created : create layout = .ok fresh := rfl
  have ends : ring.windowEnd 5 = 36 := by decide +kernel
  have all : ((fresh.run (batches.map .insert)).takeWindow clockEnd).2 = (given, 3) := by
    decide +kernel
  obtain ⟨some, whole⟩ := run_takeWindow_sorted created
  have fits : ring.windowEnd 5 ≤ clockEnd := by
    rw [ends]
    decide
  refine ⟨created, ends, ?_, some steps 5 fits, all, ?_⟩
  · decide +kernel
  · have sorted := (whole batches).1
    exact (congrArg Prod.fst all).symm.trans sorted

end TimeRing

end EventFormation
