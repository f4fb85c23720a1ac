import EventFormation.Proofs.Schedule

/-!
# Keeping in step with the readouts

An engine that drops nothing is in step with the readouts that it has taken in
since its bins were anchored.  The bins before the base have been released and
hold all readouts of their time, as no more of them can come; the others hold
what has come of theirs so far.  Every step keeps it so, whatever the batches
are and whenever blocks are processed.
-/

namespace EventFormation

namespace Layout

variable (layout : Layout)

/-- The number of the bin at which the ring is anchored for the first batch:
that of the earliest readout, unless this lies in the window of a ring that
starts at time zero. -/
def anchor (readouts : List Readout) : Nat :=
  let earliest := (readouts.map (Readout.coarseNumber layout)).min?.getD 0
  if earliest < layout.coarseCount - 1 then 0 else earliest

/-- Readouts by coarse bin, in the order in which they come. -/
def sorted (readouts : List Readout) (first bins : Nat) : List (List Readout) :=
  (List.range' first bins).map fun number =>
    readouts.filter fun readout => readout.coarseNumber layout = number

variable {layout} {readouts : List Readout}

theorem anchor_nil (valid : layout.Valid) : layout.anchor [] = 0 :=
  if_pos (by
    have several := valid.two_le_coarseCount
    simp only [List.map_nil, List.min?_nil, Option.getD_none]
    omega)

theorem anchor_eq {readout : Readout} (member : readout ∈ readouts)
    (earliest : ∀ other ∈ readouts, readout.coarseNumber layout ≤ other.coarseNumber layout) :
    layout.anchor readouts =
      if readout.coarseNumber layout < layout.coarseCount - 1 then 0
      else readout.coarseNumber layout := by
  have least : (readouts.map (Readout.coarseNumber layout)).min? =
      some (readout.coarseNumber layout) := by
    refine List.min?_eq_some_iff.mpr ⟨List.mem_map_of_mem member, ?_⟩
    intro number numberMember
    obtain ⟨other, otherMember, rfl⟩ := List.mem_map.mp numberMember
    exact earliest other otherMember
  rw [anchor, least]
  rfl

theorem exists_earliest (layout : Layout) (some : readouts ≠ []) : ∃ readout ∈ readouts,
    ∀ other ∈ readouts, readout.coarseNumber layout ≤ other.coarseNumber layout := by
  have mapped : readouts.map (Readout.coarseNumber layout) ≠ [] := by simpa using some
  obtain ⟨number, least⟩ := Option.ne_none_iff_exists'.mp (mt List.min?_eq_none_iff.mp mapped)
  obtain ⟨member, below⟩ := List.min?_eq_some_iff.mp least
  obtain ⟨readout, readoutMember, rfl⟩ := List.mem_map.mp member
  exact ⟨readout, readoutMember, fun other otherMember =>
    below _ (List.mem_map_of_mem otherMember)⟩

theorem anchor_append {later : List Readout} (some : readouts ≠ [])
    (after : ∀ readout ∈ later, layout.anchor readouts ≤ readout.coarseNumber layout) :
    layout.anchor (readouts ++ later) = layout.anchor readouts := by
  obtain ⟨readout, member, least⟩ := exists_earliest layout some
  obtain ⟨all, allMember, allLeast⟩ :=
    exists_earliest layout (List.append_ne_nil_of_left_ne_nil some later)
  have notLater := allLeast readout (List.mem_append_left _ member)
  rw [anchor_eq member least] at after ⊢
  rw [anchor_eq allMember allLeast]
  rcases List.mem_append.mp allMember with old | new
  · have same := least all old
    have equal : all.coarseNumber layout = readout.coarseNumber layout :=
      Nat.le_antisymm notLater same
    rw [equal]
  · have bound := after all new
    split at bound
    · rename_i early
      rw [if_pos early, if_pos (by omega)]
    · rename_i late
      have equal : all.coarseNumber layout = readout.coarseNumber layout :=
        Nat.le_antisymm notLater bound
      rw [equal]

theorem sorted_add (readouts : List Readout) (first bins more : Nat) :
    layout.sorted readouts first (bins + more) =
      layout.sorted readouts first bins ++ layout.sorted readouts (first + bins) more := by
  rw [sorted, sorted, sorted, ← List.map_append, List.range'_append_1]

theorem length_sorted (readouts : List Readout) (first bins : Nat) :
    (layout.sorted readouts first bins).length = bins := by
  rw [sorted, List.length_map, List.length_range']

theorem sorted_append {later : List Readout} {first bins : Nat}
    (after : ∀ readout ∈ later, first + bins ≤ readout.coarseNumber layout) :
    layout.sorted (readouts ++ later) first bins = layout.sorted readouts first bins := by
  refine List.map_congr_left ?_
  intro number member
  have range := List.mem_range'_1.mp member
  have none : (later.filter fun readout => readout.coarseNumber layout = number) = [] := by
    refine List.filter_eq_nil_iff.mpr ?_
    intro readout readoutMember
    have bound := after readout readoutMember
    simp only [decide_eq_true_eq]
    omega
  rw [List.filter_append, none, List.append_nil]

end Layout

/-- The ring was anchored at a bin, and its bins hold the readouts that have
come so far and have not been released. -/
structure Filed (layout : Layout) (anchor : Nat) (readouts : List Readout) (ring : TimeRing) :
    Prop where
  sound : ring.Sound
  cleared : ring.Cleared
  laidOut : ring.layout = layout
  anchor_le : anchor ≤ ring.start
  finish : ring.finish = TimeRing.finishAfter layout anchor readouts
  held : ∀ number, ring.start ≤ number → number < ring.start + layout.coarseCount →
    ring.held number = readouts.filter fun readout => readout.coarseNumber layout = number

namespace Filed

variable {layout : Layout} {anchor : Nat} {readouts : List Readout} {ring : TimeRing}

theorem empty (valid : layout.Valid) : Filed layout 0 [] (.empty layout) := by
  constructor
  · exact TimeRing.sound_empty valid
  · rfl
  · rfl
  · exact Nat.zero_le _
  · rw [TimeRing.finish, TimeRing.start_empty, TimeRing.occupied_empty]
    rfl
  · intro number _ _
    exact TimeRing.held_empty layout number

theorem anchored (sound : ring.Sound) (laidOut : ring.layout = layout) (time : Nat) :
    Filed layout (layout.coarseNumber time) [] (ring.anchor time).1 := by
  have start : (ring.anchor time).1.start = layout.coarseNumber time := by
    rw [TimeRing.start_anchor, laidOut]
  constructor
  · exact TimeRing.sound_anchor sound time
  · exact TimeRing.cleared_anchor sound time
  · exact laidOut
  · exact Nat.le_of_eq start.symm
  · rw [TimeRing.finish, start, TimeRing.occupied_anchor]
    rfl
  · intro number _ _
    exact TimeRing.held_anchor time number

theorem start_eq (filed : Filed layout anchor [] ring) : ring.start = anchor := by
  have ordered : ring.start ≤ ring.finish := TimeRing.start_le_finish
  rw [filed.finish] at ordered
  exact Nat.le_antisymm ordered filed.anchor_le

theorem isEmpty (filed : Filed layout anchor [] ring) : ring.isEmpty := by
  rw [filed.sound.isEmpty_iff]
  have finish : ring.start + ring.occupied = anchor := filed.finish
  rw [filed.start_eq] at finish
  omega

theorem insert (filed : Filed layout anchor readouts ring) (more : List Readout) :
    Filed layout anchor (readouts ++ ring.accepted more) (ring.insert more).1 := by
  have start : (ring.insert more).1.start = ring.start := rfl
  constructor
  · exact TimeRing.sound_insert filed.sound more
  · exact filed.cleared
  · exact filed.laidOut
  · exact filed.anchor_le
  · rw [TimeRing.finish_insert filed.sound, filed.laidOut, filed.finish,
      TimeRing.finishAfter_append]
  · intro number above turn
    rw [start] at above turn
    have held := TimeRing.held_insert filed.sound more above (by rwa [filed.laidOut])
    rw [held, filed.held number above turn, List.filter_append, filed.laidOut]

theorem moved (filed : Filed layout anchor readouts ring) {later : TimeRing} {bins : Nat}
    (moved : TimeRing.Moved ring later bins) : Filed layout anchor readouts later := by
  constructor
  · exact moved.sound
  · exact moved.cleared filed.cleared
  · exact moved.layout.trans filed.laidOut
  · rw [moved.start]
    exact Nat.le_trans filed.anchor_le (Nat.le_add_right _ _)
  · exact moved.finish.trans filed.finish
  · intro number above turn
    rw [moved.start] at above turn
    by_cases old : number < ring.start + layout.coarseCount
    · rw [moved.held number above (by rwa [filed.laidOut])]
      exact filed.held number (by omega) old
    · -- The bins that the turn has gained are after the finish.
      have beyond : ring.finish ≤ number := by
        have below : ring.finish < ring.start + ring.layout.coarseCount := TimeRing.finish_lt
        rw [filed.laidOut] at below
        omega
      have within := (TimeRing.finishAfter_le_iff.mp (Nat.le_of_eq filed.finish.symm)).2
      have none : (readouts.filter fun readout =>
          readout.coarseNumber layout = number) = [] := by
        refine List.filter_eq_nil_iff.mpr ?_
        intro readout member
        have inside := within readout member
        simp only [decide_eq_true_eq]
        omega
      rw [none]
      refine moved.sound.held_eq_nil (by rwa [moved.finish]) ?_
      rw [moved.start, moved.layout, filed.laidOut]
      exact turn

theorem block_eq (filed : Filed layout anchor readouts ring) {bins : Nat}
    (within : bins ≤ ring.occupied) :
    ring.block bins = layout.sorted readouts ring.start bins := by
  have turn : ring.occupied < ring.layout.coarseCount := TimeRing.occupied_lt
  rw [filed.laidOut] at turn
  refine List.map_congr_left ?_
  intro number member
  have range := List.mem_range'_1.mp member
  exact filed.held number range.1 (by omega)

end Filed

/-- Against frames a sink has been told, since the router was as given, what this
router tells of the products one after the other, flushes aside. -/
structure Relayed (opening : Router) (products : List Product) (calls : List SinkCall)
    (router : Router) : Prop where
  calls : calls.filter (· ≠ .flush) = (opening.routeAll (Product.readouts products)).calls
  router : router.settle = (opening.routeAll (Product.readouts products)).result.settle

namespace Relayed

variable {opening router : Router} {products : List Product} {calls : List SinkCall}

theorem start (opening : Router) : Relayed opening [] [] opening :=
  ⟨rfl, rfl⟩

theorem detector_eq (relayed : Relayed opening products calls router) :
    router.detector = opening.detector := by
  have settled : router.settle.detector =
      (opening.routeAll (Product.readouts products)).result.settle.detector := by
    rw [relayed.router]
  exact settled.trans (Router.routing_routeAll _ _).detector

theorem flush (relayed : Relayed opening products calls router) :
    Relayed opening products (calls ++ router.flush.calls) router.flush.result := by
  constructor
  · rw [← relayed.calls, List.filter_append]
    simp [Router.flush, Plan.calls]
  · exact relayed.router

theorem route (relayed : Relayed opening products calls router)
    (frameMode : opening.detector.frameMode) (base : Nat) (more : List Product) :
    Relayed opening (products ++ more)
      (calls ++ (router.route base (Product.readouts more)).calls)
      (router.route base (Product.readouts more)).result := by
  have alike := Router.alike_routeAll relayed.router (Product.readouts more)
  have quiet : (router.routeAll (Product.readouts more)).calls.filter (· ≠ .flush) =
      (router.routeAll (Product.readouts more)).calls := by
    refine List.filter_eq_self.mpr ?_
    intro call member
    have other : call ≠ .flush := by
      rintro rfl
      exact (Router.routing_routeAll router _).quiet member
    simpa using other
  rw [Router.route_of_frameMode (by rwa [relayed.detector_eq])]
  constructor
  · rw [List.filter_append, relayed.calls, quiet, alike.calls, Product.readouts_append,
      Router.calls_routeAll_append]
  · rw [alike.settle, Product.readouts_append, Router.result_routeAll_append]

end Relayed

/-- Against frames the sink has been told what a new router tells of the
products one after the other, flushes aside. -/
structure Told (settings : Settings) (products : List Product) (calls : List SinkCall)
    (router : Router) : Prop where
  calls : calls.filter (· ≠ .flush) =
    ((Engine.ofSettings settings).router.routeAll (Product.readouts products)).calls
  router : router.settle =
    ((Engine.ofSettings settings).router.routeAll (Product.readouts products)).result.settle

namespace Told

variable {settings : Settings} {products : List Product} {calls : List SinkCall} {router : Router}

theorem iff_relayed : Told settings products calls router ↔
    Relayed (Engine.ofSettings settings).router products calls router :=
  ⟨fun told => ⟨told.calls, told.router⟩, fun relayed => ⟨relayed.calls, relayed.router⟩⟩

theorem start (settings : Settings) : Told settings [] [] (Engine.ofSettings settings).router :=
  iff_relayed.mpr (Relayed.start _)

theorem flush (told : Told settings products calls router) :
    Told settings products (calls ++ router.flush.calls) router.flush.result :=
  iff_relayed.mpr (iff_relayed.mp told).flush

theorem resetFrames (told : Told settings [] calls router) :
    Told settings [] calls router.resetFrames := by
  refine ⟨told.calls, ?_⟩
  obtain ⟨pending, same⟩ := Router.exists_pending_eq told.router.symm
  rw [same]
  rfl

theorem route (told : Told settings products calls router)
    (frameMode : settings.detector.frameMode) (base : Nat) (more : List Product) :
    Told settings (products ++ more)
      (calls ++ (router.route base (Product.readouts more)).calls)
      (router.route base (Product.readouts more)).result :=
  iff_relayed.mpr ((iff_relayed.mp told).route frameMode base more)

end Told

theorem Lanes.clear_ofCount (count : Nat) (limits : Limits) (slots : Nat) :
    (Lanes.ofCount count limits slots).clear = .ofCount count limits slots := by
  have same : Lane.clear { pool := .ofSize limits slots } = { pool := .ofSize limits slots } := rfl
  rw [Lanes.clear, Lanes.ofCount, List.map_replicate, same]

/-- The engine is in step with the readouts that it has taken in: the bins
before the base have been formed, and the others are waiting. -/
structure Along (settings : Settings) (anchor : Nat) (readouts : List Readout)
    (progress : Progress) : Prop where
  filed : Filed settings.layout anchor readouts progress.engine.ring
  formed : (progress.engine.lanes, progress.products) =
    Engine.form settings.layout anchor
      (settings.layout.sorted readouts anchor (progress.engine.ring.start - anchor))
      (Engine.ofSettings settings).lanes
  told : settings.detector.frameMode →
    Told settings progress.products progress.calls progress.engine.router

namespace Along

variable {settings : Settings} {anchor : Nat} {readouts : List Readout} {progress : Progress}

theorem start (valid : settings.Valid) :
    Along settings 0 [] { engine := .ofSettings settings } := by
  have filed := Filed.empty valid.layout
  refine ⟨filed, ?_, fun _ => Told.start settings⟩
  have none : (Engine.ofSettings settings).ring.start - 0 = 0 := by
    rw [Nat.sub_zero]
    exact TimeRing.start_empty settings.layout
  simp only [none]
  exact (Engine.form_nil _ _ _).symm

theorem fresh (along : Along settings anchor [] progress) :
    progress.engine.lanes = (Engine.ofSettings settings).lanes ∧ progress.products = [] := by
  have formed := along.formed
  rw [along.filed.start_eq, Nat.sub_self] at formed
  exact Prod.mk.inj (formed.trans (Engine.form_nil _ _ _))

theorem congr (along : Along settings anchor readouts progress) {engine : Engine}
    (ring : engine.ring = progress.engine.ring) (lanes : engine.lanes = progress.engine.lanes)
    (router : engine.router = progress.engine.router) :
    Along settings anchor readouts { progress with engine } := by
  constructor
  · rw [ring]
    exact along.filed
  · rw [ring, lanes]
    exact along.formed
  · rw [router]
    exact along.told

theorem flush (along : Along settings anchor readouts progress) :
    Along settings anchor readouts (progress.perform .flush) := by
  rw [Progress.perform_flush]
  exact ⟨along.filed, along.formed, fun frameMode => (along.told frameMode).flush⟩

theorem file (along : Along settings anchor readouts progress) {more : List Readout}
    (all : progress.engine.ring.accepted more = more) :
    Along settings anchor (readouts ++ more)
      { progress with engine := progress.engine.fileReadouts more } := by
  have start : (progress.engine.fileReadouts more).ring.start = progress.engine.ring.start := rfl
  have anchorLe := along.filed.anchor_le
  have filed := along.filed.insert more
  rw [all] at filed
  refine ⟨filed, ?_, along.told⟩
  have after : ∀ readout ∈ more, anchor + (progress.engine.ring.start - anchor) ≤
      readout.coarseNumber settings.layout := by
    intro readout member
    rw [← all, TimeRing.mem_accepted_iff along.filed.sound, along.filed.laidOut] at member
    omega
  simp only [start]
  rw [Layout.sorted_append after]
  exact along.formed

theorem jump (along : Along settings anchor [] progress) (earliest : Nat) :
    Along settings (settings.layout.coarseNumber earliest) []
      { progress with engine := progress.engine.jump earliest } := by
  obtain ⟨lanes, products⟩ := along.fresh
  have ring : (progress.engine.jump earliest).ring =
      (progress.engine.ring.anchor (progress.engine.ring.layout.coarseFloor earliest)).1 :=
    Engine.ring_jump (by rw [along.filed.isEmpty, Bool.true_or])
  have floor : settings.layout.coarseNumber (progress.engine.ring.layout.coarseFloor earliest) =
      settings.layout.coarseNumber earliest := by
    rw [along.filed.laidOut]
    exact settings.layout.coarseNumber_mul _
  have filed : Filed settings.layout (settings.layout.coarseNumber earliest) []
      (progress.engine.jump earliest).ring := by
    rw [ring, ← floor]
    exact Filed.anchored along.filed.sound along.filed.laidOut _
  have cleared : (progress.engine.jump earliest).lanes = (Engine.ofSettings settings).lanes := by
    have mapped : (progress.engine.jump earliest).lanes =
      progress.engine.lanes.map Lanes.clear := rfl
    rw [mapped, lanes, Engine.ofSettings]
    simp only
    split
    · rw [Option.map_some, Lanes.clear_ofCount]
    · rfl
  refine ⟨filed, ?_, ?_⟩
  · simp only [filed.start_eq, Nat.sub_self, cleared, products]
    exact (Engine.form_nil _ _ _).symm
  · intro frameMode
    have told := along.told frameMode
    rw [products] at told ⊢
    exact told.resetFrames

theorem form_sorted (along : Along settings anchor readouts progress) (bins : Nat) :
    Engine.form settings.layout anchor
        (settings.layout.sorted readouts anchor (progress.engine.ring.start + bins - anchor))
        (Engine.ofSettings settings).lanes =
      ((Engine.form settings.layout progress.engine.ring.start
          (settings.layout.sorted readouts progress.engine.ring.start bins)
          progress.engine.lanes).1,
        progress.products ++ (Engine.form settings.layout progress.engine.ring.start
          (settings.layout.sorted readouts progress.engine.ring.start bins)
          progress.engine.lanes).2) := by
  have anchorLe := along.filed.anchor_le
  have more : progress.engine.ring.start + bins - anchor =
      progress.engine.ring.start - anchor + bins := by
    omega
  have start : anchor + (progress.engine.ring.start - anchor) = progress.engine.ring.start :=
    Nat.add_sub_cancel' anchorLe
  rw [more, Layout.sorted_add, Engine.form_append, Layout.length_sorted, start, ← along.formed]

theorem formed_released (along : Along settings anchor readouts progress) {later : Engine}
    {products : List Product} {bins : Nat}
    (released : Engine.Released progress.engine later products bins) :
    (later.lanes, progress.products ++ products) =
      Engine.form settings.layout anchor
        (settings.layout.sorted readouts anchor (later.ring.start - anchor))
        (Engine.ofSettings settings).lanes := by
  have formed := released.formed
  rw [along.filed.laidOut, along.filed.block_eq released.moved.bins_le] at formed
  rw [released.moved.start, along.form_sorted, ← formed]

theorem process (along : Along settings anchor readouts progress) :
    Along settings anchor readouts (progress.perform .process) := by
  obtain ⟨later, products, bins, released, performed⟩ :=
    Progress.exists_perform_process along.filed.sound along.filed.cleared
  have router : later.router = progress.engine.router := by rw [released.rest]
  have formed := along.formed_released released
  rw [performed]
  refine ⟨along.filed.moved released.moved, formed, ?_⟩
  intro frameMode
  have told := along.told frameMode
  rw [← router] at told
  exact told.route frameMode _ products

theorem jumps_iff (along : Along settings anchor readouts progress) (earliest : Nat) :
    progress.engine.jumps earliest ↔ ¬(progress.engine.ring.start ≤
        settings.layout.coarseNumber earliest ∧ settings.layout.coarseNumber earliest <
          progress.engine.ring.start + (settings.layout.coarseCount - 1)) := by
  rw [Engine.jumps_iff_not_accepts along.filed.sound, TimeRing.accepts,
    along.filed.sound.inWindow_iff, along.filed.laidOut]

/-- A batch of which nothing is dropped, and which is no jump unless it is the
first one, leaves the engine in step. -/
theorem ingest (along : Along settings (settings.layout.anchor readouts) readouts progress)
    (valid : settings.layout.Valid) {more : List Readout} {earliest : Nat}
    (timed : (Step.ingest more earliest).Timed)
    (settled : readouts ≠ [] → ¬progress.engine.jumps earliest)
    (kept : (progress.engine.ingest more earliest).counts.dropped = 0) :
    Along settings (settings.layout.anchor (readouts ++ more)) (readouts ++ more)
      (progress.perform (.ingest more earliest)) := by
  obtain ⟨⟨readout, member, rfl⟩, least⟩ := timed
  have some : more ≠ [] := List.ne_nil_of_mem member
  have awake : Along settings (settings.layout.anchor readouts) readouts { progress with
      engine := { progress.engine with countdown := progress.engine.idleTicks } } :=
    along.congr rfl rfl rfl
  have earliest : ∀ other ∈ more,
      readout.coarseNumber settings.layout ≤ other.coarseNumber settings.layout :=
    fun other otherMember => settings.layout.coarseNumber_mono (least other otherMember)
  rw [Engine.ingest_eq _ some, Engine.dropped_fileReadouts] at kept
  have fewer : more.length ≤
      ((progress.engine.awaited readout.time.toNat).ring.accepted more).length := by
    omega
  have all : (progress.engine.awaited readout.time.toNat).ring.accepted more = more :=
    List.filter_sublist.eq_of_length_le fewer
  rw [progress.perform_ingest some]
  by_cases jumps : progress.engine.jumps readout.time.toNat
  · have first : readouts = [] := by
      by_contra later
      exact settled later jumps
    subst first
    rw [Engine.awaited_of_jumps _ jumps] at all ⊢
    have anchored := (awake.jump readout.time.toNat).file all
    have outside := (along.jumps_iff _).mp jumps
    rw [along.filed.start_eq, Layout.anchor_nil valid] at outside
    have anchor : settings.layout.anchor more =
        settings.layout.coarseNumber readout.time.toNat := by
      rw [Layout.anchor_eq member earliest, if_neg]
      · rfl
      · intro inside
        exact outside ⟨Nat.zero_le _, by rwa [Nat.zero_add]⟩
    rw [List.nil_append, anchor]
    exact anchored
  · rw [Engine.awaited_of_not_jumps _ jumps] at all ⊢
    have filed := awake.file all
    have anchor : settings.layout.anchor (readouts ++ more) = settings.layout.anchor readouts := by
      by_cases first : readouts = []
      · subst first
        have inside := not_not.mp (mt (along.jumps_iff _).mpr jumps)
        rw [along.filed.start_eq, Layout.anchor_nil valid, Nat.zero_add] at inside
        rw [List.nil_append, Layout.anchor_eq member earliest, Layout.anchor_nil valid]
        exact if_pos inside.2
      · refine Layout.anchor_append first ?_
        intro other otherMember
        have anchorLe := along.filed.anchor_le
        rw [← all, TimeRing.mem_accepted_iff awake.filed.sound,
          awake.filed.laidOut] at otherMember
        exact Nat.le_trans anchorLe otherMember.2.1
    rw [anchor]
    exact filed

end Along

end EventFormation
