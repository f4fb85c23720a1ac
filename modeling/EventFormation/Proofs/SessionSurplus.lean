import EventFormation.Proofs.Schedule
import EventFormation.Session

/-!
# Counts that do not matter

What an engine counts of buffers, bytes and gaps has no part in what it does.  An engine
that has counted more than another one, and a session with such an engine, take the same
steps as the other one and stay ahead of it by the same counts.  What the reader holds of
the last buffer does not matter either.
-/

namespace EventFormation

/-- Counts added one by one. -/
def EngineCounts.sum (first second : EngineCounts) : EngineCounts where
  packets := first.packets + second.packets
  bytes := first.bytes + second.bytes
  overflows := first.overflows + second.overflows
  lostBytes := first.lostBytes + second.lostBytes
  gaps := first.gaps + second.gaps
  refused := first.refused + second.refused
  dropped := first.dropped + second.dropped
  resets := first.resets + second.resets

namespace Engine

/-- The engine, after it has counted more. -/
def surplus (engine : Engine) (extra : EngineCounts) : Engine :=
  { engine with counts := engine.counts.sum extra }

section

variable (engine : Engine) (extra : EngineCounts)

theorem release_surplus (bins span : Nat) :
    (engine.surplus extra).release bins span =
      ((engine.release bins span).1.surplus extra, (engine.release bins span).2) := by
  unfold release surplus
  dsimp only
  split
  · rfl
  · rfl

theorem releaseDue_surplus :
    (engine.surplus extra).releaseDue = (engine.releaseDue.1.surplus extra, engine.releaseDue.2) := by
  have span : (engine.surplus extra).blockSpan = engine.blockSpan := rfl
  unfold releaseDue
  rw [span]
  split
  · rfl
  · exact release_surplus engine extra _ _

theorem tell_surplus (base : Nat) (products : List Product) :
    (engine.surplus extra).tell base products =
      (engine.tell base products).map (·.surplus extra) := by
  rw [tell, tell, Plan.map_map]
  rfl

theorem process_surplus :
    (engine.surplus extra).process =
      { products := engine.process.products
        plan := engine.process.plan.map (·.surplus extra) } := by
  rw [process_eq, process_eq, releaseDue_surplus, ← tell_surplus]
  rfl

theorem fileReadouts_surplus (readouts : List Readout) :
    (engine.surplus extra).fileReadouts readouts =
      (engine.fileReadouts readouts).surplus extra := by
  simp only [surplus, fileReadouts, EngineCounts.sum, Nat.add_right_comm]

theorem awaited_surplus (earliest : Nat) :
    (engine.surplus extra).awaited earliest = (engine.awaited earliest).surplus extra := by
  have same : (engine.surplus extra).jumps earliest = engine.jumps earliest := rfl
  by_cases jumps : engine.jumps earliest
  · rw [awaited_of_jumps engine jumps, awaited_of_jumps _ (same.trans jumps)]
    simp only [surplus, jump, EngineCounts.sum, Nat.add_right_comm]
  · rw [awaited_of_not_jumps engine jumps, awaited_of_not_jumps _ (by rwa [same])]
    rfl

theorem ingest_surplus (readouts : List Readout) (earliest : Nat) :
    (engine.surplus extra).ingest readouts earliest =
      (engine.ingest readouts earliest).surplus extra := by
  by_cases some : readouts = []
  · rw [some]
    rfl
  · rw [ingest_eq _ some, ingest_eq _ some, awaited_surplus, fileReadouts_surplus]

theorem recordPacket_surplus (bytes : Nat) :
    (engine.surplus extra).recordPacket bytes = (engine.recordPacket bytes).surplus extra := by
  simp only [surplus, recordPacket, EngineCounts.sum, Nat.add_right_comm]

theorem recordLosses_surplus (summary : Summary) :
    (engine.surplus extra).recordLosses summary = (engine.recordLosses summary).surplus extra := by
  simp only [surplus, recordLosses, EngineCounts.sum, Nat.add_right_comm]

theorem recordRefusal_surplus :
    (engine.surplus extra).recordRefusal = engine.recordRefusal.surplus extra := by
  simp only [surplus, recordRefusal, EngineCounts.sum, Nat.add_right_comm]

end

end Engine

namespace Session

variable {σ δ ε φ : Type}

/-- A session with another reader, after its engine has counted more. -/
def surplus (session : Session σ δ) (reader : PacketReader) (extra : EngineCounts) :
    Session σ δ :=
  { session with reader, engine := session.engine.surplus extra }

/-- The outcome of such a session. -/
def Outcome.surplus (outcome : Outcome σ δ ε φ) (reader : PacketReader) (extra : EngineCounts) :
    Outcome σ δ ε φ :=
  (outcome.1.surplus reader extra, outcome.2)

section

variable (consumer : Sink σ ε) (archive : Archive δ φ) {reader : PacketReader}
  {extra : EngineCounts}

theorem Outcome.andThen_surplus (outcome : Outcome σ δ ε φ)
    {next : Session σ δ → Outcome σ δ ε φ}
    (same : ∀ session, next (session.surplus reader extra) = (next session).surplus reader extra) :
    (outcome.surplus reader extra).andThen next = (outcome.andThen next).surplus reader extra := by
  obtain ⟨session, refusal⟩ := outcome
  cases refusal with
  | none => exact same session
  | some reason => rfl

theorem perform_surplus (session : Session σ δ) (plan : Plan Engine) :
    ((session.surplus reader extra).perform consumer (plan.map (·.surplus extra)) :
        Outcome σ δ ε φ) =
      (session.perform consumer plan).surplus reader extra := by
  unfold perform
  rw [Plan.run_map]
  rfl

theorem withDump_surplus (session : Session σ δ) (act : δ → δ × Option φ) :
    ((session.surplus reader extra).withDump act : Outcome σ δ ε φ) =
      (session.withDump act).surplus reader extra := by
  obtain ⟨_, engine, sink, dump⟩ := session
  cases dump with
  | none => rfl
  | some dump => rfl

theorem keep_surplus (session : Session σ δ) (readouts : List Readout) :
    ((session.surplus reader extra).keep archive readouts : Outcome σ δ ε φ) =
      (session.keep archive readouts).surplus reader extra := by
  unfold keep
  split
  · rfl
  · exact withDump_surplus session _

theorem processBlock_surplus (session : Session σ δ) :
    (session.surplus reader extra).processBlock consumer archive =
      (session.processBlock consumer archive).surplus reader extra := by
  have block : (session.surplus reader extra).engine.process =
      { products := session.engine.process.products
        plan := session.engine.process.plan.map (·.surplus extra) } :=
    Engine.process_surplus session.engine extra
  unfold processBlock
  rw [block]
  dsimp only
  rw [perform_surplus, Outcome.andThen_surplus, Outcome.andThen_surplus]
  · rfl
  · intro told
    exact withDump_surplus told _
  · intro told
    exact keep_surplus archive told _

end

end Session

end EventFormation
