import EventFormation.Proofs.DumpFiles
import EventFormation.Proofs.ReportLines
import EventFormation.Proofs.RouterCounts
import EventFormation.Proofs.SessionFeeds

/-!
# What a replay routes and keeps

A replay asks the router for one thing after the other: to route what each block
has released and what is drained at the end, to forget its frames where time jumps,
and to have the sink publish.  The readouts that are handed to the router are kept
in the dump, in the same order and with no others between them, however the blocks
are cut and wherever the dump moves on to its next file.

So every readout in the dump has been counted by the router, unless it is blank, and
the neutron lines of a report are the events that it has counted.
-/

namespace EventFormation

namespace Engine

/-- What the router is asked for when a batch is taken in: a jump makes it forget
its frames. -/
def batchRequests (engine : Engine) (batch : Batch) : List RouterStep :=
  if batch.summary.hasReadouts ∧ batch.readouts ≠ [] ∧ engine.jumps batch.summary.earliest then
    [.resetFrames]
  else []

/-- What the router is asked for when a block is processed. -/
def blockRequests (engine : Engine) : List RouterStep :=
  if engine.blockSpan = 0 then [] else [.route engine.ring.base engine.process.readouts]

/-- What the router is asked for when everything is drained. -/
def drainRequests (engine : Engine) : List RouterStep :=
  [.route engine.ring.base engine.drain.readouts, .flush]

theorem router_release (engine : Engine) (bins span : Nat) :
    (engine.release bins span).1.router = engine.router := by
  unfold release
  split
  · rfl
  · rfl

theorem router_tell (engine : Engine) (base : Nat) (products : List Product) :
    (engine.tell base products).map Engine.router =
      engine.router.route base (Product.readouts products) := by
  rw [tell, Plan.map_map]
  exact Plan.map_id _

theorem router_flush (engine : Engine) : engine.flush.map Engine.router = engine.router.flush :=
  rfl

theorem router_releaseDue (engine : Engine) : engine.releaseDue.1.router = engine.router := by
  unfold releaseDue
  split
  · rfl
  · exact router_release engine _ _

theorem readouts_process_of_idle {engine : Engine} (idle : engine.blockSpan = 0) :
    engine.process.readouts = [] := by
  unfold process
  simp only [if_pos idle]
  rfl

theorem router_process (engine : Engine) :
    engine.process.plan.map Engine.router = engine.router.planAll engine.blockRequests := by
  have block : engine.process.plan.map Engine.router =
      engine.router.route engine.ring.base engine.process.readouts := by
    rw [process_eq]
    dsimp only
    rw [router_tell, router_releaseDue]
    rfl
  rw [block]
  unfold blockRequests
  by_cases idle : engine.blockSpan = 0
  · rw [if_pos idle, readouts_process_of_idle idle]
    rfl
  · rw [if_neg idle]
    exact (Plan.andThen_done _).symm

theorem router_drain (engine : Engine) :
    engine.drain.plan.map Engine.router = engine.router.planAll engine.drainRequests := by
  have last (router : Router) : router.planAll [.flush] = router.flush := Plan.andThen_done _
  unfold drainRequests Router.planAll
  simp only [last]
  unfold drain Block.readouts
  dsimp only
  rw [Plan.map_andThen router_flush, router_tell, router_closeOpen, router_release]
  rfl

theorem router_ingest_eq (engine : Engine) (readouts : List Readout) (earliest : Nat) :
    (engine.ingest readouts earliest).router =
      if readouts ≠ [] ∧ engine.jumps earliest then engine.router.resetFrames
      else engine.router := by
  by_cases some : readouts = []
  · rw [some]
    rfl
  · rw [ingest_eq engine some]
    by_cases jumps : engine.jumps earliest
    · rw [awaited_of_jumps engine jumps, if_pos ⟨some, jumps⟩]
      rfl
    · rw [awaited_of_not_jumps engine jumps, if_neg (fun both => jumps both.2)]
      rfl

theorem handed_blockRequests (engine : Engine) :
    engine.blockRequests.flatMap RouterStep.handed = engine.process.readouts := by
  unfold blockRequests
  by_cases idle : engine.blockSpan = 0
  · rw [if_pos idle, readouts_process_of_idle idle]
    rfl
  · rw [if_neg idle]
    exact List.append_nil _

theorem handed_drainRequests (engine : Engine) :
    engine.drainRequests.flatMap RouterStep.handed = engine.drain.readouts :=
  List.append_nil _

theorem handed_batchRequests (engine : Engine) (batch : Batch) :
    (engine.batchRequests batch).flatMap RouterStep.handed = [] := by
  unfold batchRequests
  split
  · rfl
  · rfl

end Engine

namespace DumpSeries

/-- All that a series has taken, in order. -/
def content (series : DumpSeries) : Bytes :=
  series.closed.flatten ++ series.opened

theorem content_of_written {series : DumpSeries} (written : series.pending = []) :
    series.content = series.files.flatten := by
  simp [content, opened, files, written]

/-- A series that has become another one by keeping readouts. -/
structure Kept (series last : DumpSeries) (readouts : List Readout) : Prop where
  content : last.content = series.content ++ Record.encodeAll readouts
  records : last.records = series.records + readouts.length

theorem kept_nothing {series last : DumpSeries} (content : last.content = series.content)
    (records : last.records = series.records) : Kept series last [] :=
  ⟨content.trans (List.append_nil _).symm, records⟩

theorem Kept.trans {series between last : DumpSeries} {first second : List Readout}
    (kept : Kept series between first) (later : Kept between last second) :
    Kept series last (first ++ second) := by
  constructor
  · rw [later.content, kept.content, Record.encodeAll_append, List.append_assoc]
  · rw [later.records, kept.records, List.length_append, Nat.add_assoc]

theorem kept_push (series : DumpSeries) (readouts : List Readout) :
    Kept series (series.push readouts) readouts := by
  obtain ⟨closed, opened, records⟩ := series.write_spec (Record.encodeAll readouts)
  constructor
  · rw [content, content, List.append_assoc, ← opened, ← closed]
    rfl
  · exact congrArg (· + readouts.length) records

theorem kept_flush (series : DumpSeries) : Kept series series.flush [] :=
  kept_nothing (by simp [content, opened, flush]) rfl

theorem kept_rotate (creates : String → Bool) (series : DumpSeries) :
    Kept series (series.rotate creates).1 [] := by
  rcases series.rotate_cases creates with
    ⟨rotated, same, -, -, -, closed, opened, records⟩ | refused
  · rw [same]
    exact kept_nothing (by simp [content, closed, opened]) records
  · rw [refused]
    exact kept_nothing (by simp [content, opened, flush]) rfl

theorem kept_checkRotate (creates : String → Bool) (series : DumpSeries) :
    Kept series ((archive creates).checkRotate series).1 [] := by
  have rotates : ((archive creates).checkRotate series).1 =
      if series.due then (series.rotate creates).1 else series := by
    rcases rotated : series.rotate creates with ⟨next, _ | fault⟩
    all_goals
      by_cases due : series.due = true
      all_goals simp [archive, checkRotate, due, rotated]
  rw [rotates]
  split
  · exact series.kept_rotate creates
  · exact kept_nothing rfl rfl

end DumpSeries

namespace Session

variable {σ ε : Type} (consumer : Sink σ ε) (creates : String → Bool)

/-- What the router is asked for during a replay, in order. -/
def requests (session : Session σ DumpSeries) : List Batch → List RouterStep
  | [] => session.engine.drainRequests ++ [.flush]
  | batch :: rest =>
    session.engine.batchRequests batch ++
      ((session.takeBatch batch).engine.blockRequests ++
        (session.feedBatch consumer (DumpSeries.archive creates) batch).1.requests rest)

/-- A session that has become another one: router and sink are as these requests have
left them, and the dump has kept what was handed to the router. -/
structure Led (session last : Session σ DumpSeries) (requests : List RouterStep) : Prop where
  asked : (session.engine.router.planAll requests).run consumer session.sink =
    (last.engine.router, last.sink, none)
  kept : ∀ series, session.dump = some series → ∃ later, last.dump = some later ∧
    series.Kept later (requests.flatMap RouterStep.handed)

variable {consumer} {creates}

theorem Led.trans {session between last : Session σ DumpSeries} {first second : List RouterStep}
    (led : Led consumer session between first) (later : Led consumer between last second) :
    Led consumer session last (first ++ second) := by
  constructor
  · rw [Router.planAll_append, (Plan.run_andThen consumer _ _ _).1, led.asked]
    exact later.asked
  · intro series dumped
    obtain ⟨middle, held, kept⟩ := led.kept series dumped
    obtain ⟨after, heldAfter, keptAfter⟩ := later.kept middle held
    rw [List.flatMap_append]
    exact ⟨after, heldAfter, kept.trans keptAfter⟩

theorem perform_done {δ φ : Type} {session last : Session σ δ} {plan : Plan Engine}
    (done : (session.perform consumer plan : Outcome σ δ ε φ) = (last, none)) :
    plan.run consumer session.sink = (last.engine, last.sink, none) ∧ last.dump = session.dump := by
  unfold perform at done
  rcases ran : plan.run consumer session.sink with ⟨engine, sink, refusal⟩
  rw [ran] at done
  obtain ⟨rfl, accepted⟩ := Prod.mk.inj done
  obtain rfl := Option.map_eq_none_iff.mp accepted
  exact ⟨rfl, rfl⟩

theorem withDump_done {δ φ : Type} {session last : Session σ δ} {act : δ → δ × Option φ}
    (done : (session.withDump act : Outcome σ δ ε φ) = (last, none)) :
    last.engine = session.engine ∧ last.sink = session.sink ∧
      last.dump = session.dump.map (fun dump => (act dump).1) ∧
      ∀ dump, session.dump = some dump → (act dump).2 = none := by
  unfold withDump at done
  cases dumped : session.dump with
  | none =>
      rw [dumped] at done
      obtain rfl : session = last := congrArg Prod.fst done
      exact ⟨rfl, rfl, dumped, fun _ absent => nomatch absent⟩
  | some dump =>
      simp only [dumped] at done
      obtain ⟨rfl, accepted⟩ := Prod.mk.inj done
      refine ⟨rfl, rfl, rfl, fun held same => ?_⟩
      rw [← Option.some.inj same]
      exact Option.map_eq_none_iff.mp accepted

theorem led_withDump {session last : Session σ DumpSeries}
    {act : DumpSeries → DumpSeries × Option DumpSeries.Fault}
    (keeps : ∀ series : DumpSeries, series.Kept (act series).1 [])
    (done : (session.withDump act : Outcome σ DumpSeries ε DumpSeries.Fault) = (last, none)) :
    Led consumer session last [] := by
  obtain ⟨engine, sink, dumped, -⟩ := withDump_done done
  constructor
  · rw [engine, sink]
    rfl
  · intro series held
    rw [dumped, held]
    exact ⟨_, rfl, keeps series⟩

/-- A block is told to the sink, and then what was handed to the router is kept. -/
theorem led_block {session last : Session σ DumpSeries} (block : Block)
    {requests : List RouterStep}
    (plan : block.plan.map Engine.router = session.engine.router.planAll requests)
    (handed : requests.flatMap RouterStep.handed = block.readouts)
    (done : Outcome.andThen (session.perform consumer block.plan)
      (·.keep (DumpSeries.archive creates) block.readouts) = (last, none)) :
    Led consumer session last requests := by
  obtain ⟨told, performed, done⟩ := Outcome.andThen_eq_none done
  obtain ⟨ran, dump⟩ := perform_done performed
  have asked : (session.engine.router.planAll requests).run consumer session.sink =
      (told.engine.router, told.sink, none) := by
    rw [← plan, Plan.run_map, ran]
  rw [keep] at done
  split at done
  · rename_i empty
    obtain rfl : told = last := congrArg Prod.fst done
    refine ⟨asked, fun series held => ⟨series, dump.trans held, ?_⟩⟩
    rw [handed, List.isEmpty_iff.mp empty]
    exact DumpSeries.kept_nothing rfl rfl
  · obtain ⟨engine, sink, dumped, -⟩ := withDump_done done
    constructor
    · rw [engine, sink]
      exact asked
    · intro series held
      rw [dumped, dump, held, handed]
      exact ⟨_, rfl, series.kept_push block.readouts⟩

theorem router_takeBatch {δ : Type} (session : Session σ δ) (batch : Batch) :
    (session.takeBatch batch).engine.router =
      if batch.summary.hasReadouts ∧ batch.readouts ≠ [] ∧
          session.engine.jumps batch.summary.earliest then
        session.engine.router.resetFrames
      else session.engine.router := by
  unfold takeBatch
  dsimp only
  by_cases some : batch.summary.hasReadouts = true
  · rw [if_pos some, Engine.router_ingest_eq]
    simp only [some, true_and]
    rfl
  · rw [if_neg some, if_neg fun all => some all.1]
    rfl

theorem led_takeBatch (session : Session σ DumpSeries) (batch : Batch) :
    Led consumer session (session.takeBatch batch) (session.engine.batchRequests batch) := by
  constructor
  · rw [router_takeBatch]
    unfold Engine.batchRequests
    split
    · rfl
    · rfl
  · intro series held
    rw [Engine.handed_batchRequests]
    exact ⟨series, held, DumpSeries.kept_nothing rfl rfl⟩

theorem led_processBlock {session last : Session σ DumpSeries}
    (done : session.processBlock consumer (DumpSeries.archive creates) = (last, none)) :
    Led consumer session last session.engine.blockRequests := by
  obtain ⟨kept, block, checked⟩ := Outcome.andThen_eq_none done
  have led := led_block _ session.engine.router_process session.engine.handed_blockRequests block
  have all := led.trans (led_withDump (DumpSeries.kept_checkRotate creates) checked)
  rwa [List.append_nil] at all

theorem led_drain {session last : Session σ DumpSeries}
    (done : session.drain consumer (DumpSeries.archive creates) = (last, none)) :
    Led consumer session last session.engine.drainRequests :=
  led_block _ session.engine.router_drain session.engine.handed_drainRequests done

theorem led_finish {session last : Session σ DumpSeries}
    (done : session.finish consumer (DumpSeries.archive creates) = (last, none)) :
    Led consumer session last [.flush] ∧ ∀ later, last.dump = some later → later.pending = [] := by
  obtain ⟨published, performed, flushed⟩ := Outcome.andThen_eq_none done
  have nothing : Outcome.andThen (session.perform consumer session.engine.flush)
      (·.keep (DumpSeries.archive creates) []) = (published, none) := by
    rw [← publish, performed]
    rfl
  have asked : session.engine.flush.map Engine.router =
      session.engine.router.planAll [.flush] := (Plan.andThen_done _).symm
  have led := led_block { products := [], plan := session.engine.flush } asked rfl nothing
  constructor
  · exact led.trans (led_withDump DumpSeries.kept_flush flushed)
  · intro later held
    rw [(withDump_done flushed).2.2.1] at held
    obtain ⟨series, -, rfl⟩ := Option.map_eq_some_iff.mp held
    rfl

theorem led_feedBatch {session last : Session σ DumpSeries} {batch : Batch}
    (done : session.feedBatch consumer (DumpSeries.archive creates) batch = (last, none)) :
    Led consumer session last
      (session.engine.batchRequests batch ++ (session.takeBatch batch).engine.blockRequests) :=
  (led_takeBatch session batch).trans (led_processBlock done)

/-- A replay that is not refused leads the session as its requests say, and leaves
nothing of the dump unwritten. -/
theorem led_replay {session last : Session σ DumpSeries} {batches : List Batch}
    (done : session.replay consumer (DumpSeries.archive creates) batches = (last, none)) :
    Led consumer session last (session.requests consumer creates batches) ∧
      ∀ later, last.dump = some later → later.pending = [] := by
  obtain ⟨drained, before, finished⟩ := Outcome.andThen_eq_none done
  obtain ⟨fed, feeding, draining⟩ := Outcome.andThen_eq_none before
  obtain ⟨ledFinish, written⟩ := led_finish finished
  refine ⟨?_, written⟩
  clear done before
  induction batches generalizing session with
  | nil =>
      obtain rfl : session = fed := congrArg Prod.fst feeding
      exact (led_drain draining).trans ledFinish
  | cons batch rest induction =>
      obtain ⟨next, first, later⟩ := Outcome.andThen_eq_none feeding
      have requests : session.requests consumer creates (batch :: rest) =
          session.engine.batchRequests batch ++
            (session.takeBatch batch).engine.blockRequests ++
              next.requests consumer creates rest := by
        rw [Session.requests, first, List.append_assoc]
      rw [requests]
      exact (led_feedBatch first).trans (induction later)

/-- A session with a dump that holds nothing. -/
structure EmptyDump (session : Session σ DumpSeries) (series : DumpSeries) : Prop where
  dumped : session.dump = some series
  empty : series.files.flatten = []
  written : series.pending = []
  records : series.records = 0

theorem countP_isBlank (readouts : List Readout) :
    readouts.length = (readouts.countP fun readout => !readout.isBlank) +
      readouts.countP Readout.isBlank := by
  rw [Nat.add_comm]
  simpa using List.length_eq_countP_add_countP Readout.isBlank

/-- The requests of a replay that is not refused have been made of the router and
taken by the sink, and the dump files hold, one after the other, what was handed to the
router.  All of it that is not blank has been counted besides what had been counted before,
and the neutrons that the sink has taken as events. -/
theorem replay_spec {session last : Session σ DumpSeries} {series : DumpSeries}
    (unused : session.EmptyDump series) {batches : List Batch}
    (done : session.replay consumer (DumpSeries.archive creates) batches = (last, none)) :
    let requests := session.requests consumer creates batches
    let plan := session.engine.router.planAll requests
    let routed := requests.flatMap RouterStep.handed
    let before := session.engine.router.counts
    let counts := last.engine.router.counts
    plan.run consumer session.sink = (last.engine.router, last.sink, none) ∧
      counts.events = before.events + plan.calls.countP Report.isNeutron ∧
      ∃ later, last.dump = some later ∧ later.pending = [] ∧
        later.files.flatten = Record.encodeAll routed ∧
        before.total + later.records = counts.total + routed.countP Readout.isBlank := by
  intro requests plan routed before counts
  obtain ⟨led, written⟩ := led_replay done
  have counted := session.engine.router.counts_planAll requests
  have reached : last.engine.router = plan.result := (Plan.takeAll?_of_run led.asked).1
  have total : counts.total = before.total + routed.countP fun readout => !readout.isBlank :=
    (congrArg (·.counts.total) reached).trans counted.total
  have events : counts.events = before.events + plan.calls.countP Report.isNeutron :=
    (congrArg (·.counts.events) reached).trans counted.events
  refine ⟨led.asked, events, ?_⟩
  obtain ⟨later, held, kept⟩ := led.kept series unused.dumped
  have flushed : later.pending = [] := written later held
  refine ⟨later, held, flushed, ?_, ?_⟩
  · have content := kept.content
    rwa [DumpSeries.content_of_written flushed, DumpSeries.content_of_written unused.written,
      unused.empty, List.nil_append] at content
  · rw [kept.records, unused.records, total, Nat.zero_add, Nat.add_assoc]
    exact congrArg (before.total + ·) (countP_isBlank routed)

/-- The audit of a replay that is not refused.  Whatever the sink is and whatever has been
routed before, the dump files hold what was handed to the router, in order, and the router
has counted all of it that is not blank, besides what it had counted before.  If the sink is
a new report, its neutron lines are as many as the events that have been counted since. -/
theorem dump_is_what_was_routed :
    (∀ {σ ε : Type} (consumer : Sink σ ε) {creates : String → Bool}
        {session last : Session σ DumpSeries} {series : DumpSeries} {batches : List Batch},
      session.EmptyDump series →
      session.replay consumer (DumpSeries.archive creates) batches = (last, none) →
      let requests := session.requests consumer creates batches
      let routed := requests.flatMap RouterStep.handed
      let before := session.engine.router.counts
      let counts := last.engine.router.counts
      (session.engine.router.planAll requests).run consumer session.sink =
          (last.engine.router, last.sink, none) ∧
        ∃ later, last.dump = some later ∧ later.pending = [] ∧
          later.files.flatten = Record.encodeAll routed ∧
          before.events + before.errors + before.frames + before.auxFrames + before.monitors +
              before.customs + later.records =
            counts.events + counts.errors + counts.frames + counts.auxFrames +
              counts.monitors + counts.customs + routed.countP Readout.isBlank) ∧
      ∀ {creates : String → Bool} {session last : Session Report DumpSeries} {series : DumpSeries}
        {batches : List Batch} {room : Option Nat},
        session.EmptyDump series → Report.create room = .ok session.sink →
        session.replay Report.sink (DumpSeries.archive creates) batches = (last, none) →
        let before := session.engine.router.counts
        let counts := last.engine.router.counts
        counts.events = before.events + Report.neutronLines last.sink.text ∧
          counts.events = before.events + last.sink.neutrons := by
  constructor
  · intro σ ε consumer creates session last series batches unused done
    obtain ⟨asked, -, kept⟩ := replay_spec unused done
    exact ⟨asked, kept⟩
  · intro creates session last series batches room unused created done before counts
    obtain ⟨asked, events, -⟩ := replay_spec unused done
    obtain ⟨lines, neutrons⟩ :=
      Report.neutronLines_takeAll? created (Plan.takeAll?_of_run asked).2
    rw [lines, neutrons]
    exact ⟨events, events⟩

/-- The dump moves on to its second file after the first block, time jumps before the
last batch, and the last block is released when everything is drained. -/
theorem drained_block_is_dumped :
    let settings : Settings :=
      { detector := { eventLag := 8 }
        clustering := { lanes := 1, limits := { span := 2, gap := 2 }, slots := 4 }
        layout := { coarseBits := 2, fineWidthBits := 1, fineBits := 2 } }
    let decoded (readouts : List Readout) : Batch :=
      { readouts, summary := (Record.decodeKnown (Record.encodeAll readouts)).2 }
    let batches : List Batch :=
      [decoded [.neutron 3 5 5 0, .neutron 4 6 5 0, .marker .blank 5 0, .marker .beamMonitor 9 7,
          .neutron 22 8 8 0],
        decoded [.neutron 23 8 8 0], decoded [],
        decoded [.neutron 200 1 1 0, .marker .veto 217 0, .neutron 219 2 2 0]]
    let series : DumpSeries := { DumpSeries.fresh "run" (some 5) with age := 7 }
    let creates : String → Bool := fun name => name == "run-1.bin"
    let session : Session Report DumpSeries :=
      { engine := .ofSettings settings, sink := { text := Report.header }, dump := some series }
    let replayed := session.replay Report.sink (DumpSeries.archive creates) batches
    let routed := (session.requests Report.sink creates batches).flatMap RouterStep.handed
    settings.Valid ∧ session.EmptyDump series ∧ Report.create none = .ok session.sink ∧
      routed.map Readout.time = [5, 3, 9, 200, 217, 219] ∧
      ∃ last, replayed = (last, none) ∧
        (∃ later, last.dump = some later ∧ later.files.flatten = Record.encodeAll routed ∧
          later.records = 6) ∧
        Report.neutronLines last.sink.text = 3 := by
  intro settings decoded batches series creates session replayed routed
  have unused : session.EmptyDump series := ⟨rfl, rfl, rfl, rfl⟩
  have created : Report.create none = .ok session.sink := by decide +kernel
  have accepted : replayed.2 = none := by decide +kernel
  have counts : replayed.1.engine.router.counts = { events := 3, errors := 1, monitors := 1 } := by
    decide +kernel
  have times : routed.map Readout.time = [5, 3, 9, 200, 217, 219] := by decide +kernel
  have blank : routed.countP Readout.isBlank = 1 := by decide +kernel
  obtain ⟨last, done⟩ : ∃ last, replayed = (last, none) := ⟨replayed.1, by rw [← accepted]⟩
  rw [done] at counts
  obtain ⟨-, later, held, -, files, records⟩ :=
    dump_is_what_was_routed.1 Report.sink unused done
  obtain ⟨lines, -⟩ := dump_is_what_was_routed.2 unused created done
  rw [counts] at records lines
  rw [blank] at records
  refine ⟨by decide, unused, created, times, last, done, ⟨later, held, files, ?_⟩, ?_⟩
  · exact (Nat.zero_add _).symm.trans records
  · exact ((Nat.zero_add _).symm.trans lines.symm)

/-- An engine that has been used before goes into a new session.  One readout is kept and one
neutron reported, while the router has counted two. -/
theorem used_engine_counts_more :
    let settings : Settings :=
      { clustering := { enabled := false }
        layout := { coarseBits := 2, fineWidthBits := 1, fineBits := 2 } }
    let decoded (readouts : List Readout) : Batch :=
      { readouts, summary := (Record.decodeKnown (Record.encodeAll readouts)).2 }
    let archive := DumpSeries.archive fun _ => true
    let report : Report := { text := Report.header }
    let first : Session Report DumpSeries := { engine := .ofSettings settings, sink := report }
    let earlier := first.replay Report.sink archive [decoded [.neutron 3 5 5 0]]
    let session : Session Report DumpSeries :=
      { engine := earlier.1.engine, sink := report, dump := some (.fresh "run" none) }
    let replayed := session.replay Report.sink archive [decoded [.neutron 23 8 8 0]]
    settings.Valid ∧ earlier.2 = none ∧ Report.create none = .ok session.sink ∧
      session.EmptyDump (.fresh "run" none) ∧ replayed.2 = none ∧
      replayed.1.dump.map DumpSeries.records = some 1 ∧
      Report.neutronLines replayed.1.sink.text = 1 ∧
      replayed.1.engine.router.counts = { events := 2 } := by
  intro settings decoded archive report first earlier session replayed
  refine ⟨by decide, ?_, ?_, ⟨rfl, rfl, rfl, rfl⟩, ?_, ?_, ?_, ?_⟩
  all_goals decide +kernel

end Session

end EventFormation
