import EventFormation.Report

/-!
# Lines of a report

A report that has taken all of its calls holds the header and one line for each
call but those that publish.  Its neutron lines are the neutrons that it has been
told of.
-/

namespace EventFormation

/-- What becomes of a sink that is told of calls, unless it refuses one. -/
def Sink.takeAll? {σ ε : Type} (sink : Sink σ ε) (state : σ) : List SinkCall → Option σ
  | [] => some state
  | call :: rest =>
    match sink.offer state call with
    | (after, none) => sink.takeAll? after rest
    | (_, some _) => none

/-- A plan that is told to its end reaches its result, and the sink takes each of its calls. -/
theorem Plan.takeAll?_of_run {ρ σ ε : Type} {sink : Sink σ ε} {state after : σ} {plan : Plan ρ}
    {reached : ρ} (told : plan.run sink state = (reached, after, none)) :
    reached = plan.result ∧ sink.takeAll? state plan.calls = some after := by
  induction plan generalizing state with
  | done result =>
      obtain ⟨rfl, rest⟩ := Prod.mk.inj told
      obtain ⟨rfl, -⟩ := Prod.mk.inj rest
      exact ⟨rfl, rfl⟩
  | tell call refused rest induction =>
      rw [run] at told
      rw [calls, Sink.takeAll?]
      rcases offered : sink.offer state call with ⟨between, refusal⟩
      rw [offered] at told
      cases refusal with
      | none => exact induction told
      | some reason =>
          have accepted : some reason = none := congrArg (·.2.2) told
          cases accepted

namespace Report

/-- How many lines of a text start like those of neutrons. -/
def neutronLines (text : String) : Nat :=
  (text.toList.splitOn '\n').countP ("neutron,".toList.isPrefixOf ·)

/-- The fields of the line of an event: the kind, a time, and a value. -/
def fields : SinkCall → List (List Char)
  | .pulse time => ["pulse".toList, Nat.toDigits 10 time, []]
  | .neutron flight pixel =>
    ["neutron".toList, Nat.toDigits 10 flight, Nat.toDigits 10 pixel.toNat]
  | .frame time auxiliary =>
    ["frame".toList, Nat.toDigits 10 time, Nat.toDigits 10 auxiliary.toNat]
  | .monitor time count =>
    ["monitor".toList, Nat.toDigits 10 time, Nat.toDigits 10 count.toNat]
  | .custom time data =>
    ["custom".toList, Nat.toDigits 10 time, Nat.toDigits 10 data.toNat]
  | .flush => []

/-- The line of an event without the newline at its end. -/
def row (call : SinkCall) : List Char :=
  [','].intercalate (fields call)

theorem not_mem_toDigits {other : Char} (noDigit : other.isDigit = false) (number : Nat) :
    other ∉ Nat.toDigits 10 number := by
  intro member
  have digit : other.isDigit = true := Nat.isDigit_of_mem_toDigits (by decide) (by decide) member
  exact absurd digit (Bool.not_eq_true _ ▸ noDigit)

theorem toList_line {call : SinkCall} (other : call ≠ .flush) :
    (line call).toList = row call ++ ['\n'] := by
  cases call with
  | flush => exact absurd rfl other
  | _ => simp [line, row, fields, ToString.toString, List.intercalate]

theorem newline_not_mem_row (call : SinkCall) : '\n' ∉ row call := by
  have plain := not_mem_toDigits (by decide : '\n'.isDigit = false)
  cases call <;> simp [row, fields, List.intercalate, plain]

theorem isPrefixOf_row (call : SinkCall) :
    "neutron,".toList.isPrefixOf (row call) = isNeutron call := by
  cases call <;> rfl

def lines (calls : List SinkCall) : List Char :=
  calls.flatMap fun call => (line call).toList

theorem lines_cons (call : SinkCall) (rest : List SinkCall) :
    lines (call :: rest) = (line call).toList ++ lines rest :=
  List.flatMap_cons

theorem neutronLines_lines (calls : List SinkCall) :
    ((lines calls).splitOn '\n').countP ("neutron,".toList.isPrefixOf ·) =
      calls.countP isNeutron := by
  induction calls with
  | nil => rfl
  | cons call rest induction =>
      rw [lines_cons, List.countP_cons]
      by_cases publishes : call = .flush
      · rw [publishes]
        exact induction
      · rw [toList_line publishes, List.append_assoc, List.singleton_append,
          List.splitOn_append_cons_self_of_not_mem (newline_not_mem_row call), List.countP_cons,
          isPrefixOf_row]
        exact congrArg (· + _) induction

theorem write_none {report after : Report} {added : String}
    (written : report.write added = (after, none)) :
    after.text = report.text ++ added ∧ after.neutrons = report.neutrons := by
  unfold write at written
  split at written
  · obtain ⟨rfl, -⟩ := Prod.mk.inj written
    exact ⟨rfl, rfl⟩
  · split at written
    · obtain ⟨rfl, -⟩ := Prod.mk.inj written
      exact ⟨rfl, rfl⟩
    · exact nomatch congrArg Prod.snd written

theorem tell_none {report after : Report} {call : SinkCall}
    (told : report.tell call = (after, none)) :
    after.text = report.text ++ line call ∧
      after.neutrons = report.neutrons + if isNeutron call then 1 else 0 := by
  unfold tell at told
  rcases wrote : report.write (line call) with ⟨written, fault⟩
  rw [wrote] at told
  cases fault with
  | some fault => exact nomatch congrArg Prod.snd told
  | none =>
      obtain ⟨text, neutrons⟩ := write_none wrote
      cases counted : isNeutron call with
      | true =>
          simp only [counted, if_true] at told
          obtain ⟨rfl, -⟩ := Prod.mk.inj told
          exact ⟨text, congrArg (· + 1) neutrons⟩
      | false =>
          simp only [counted, Bool.false_eq_true, if_false] at told
          obtain ⟨rfl, -⟩ := Prod.mk.inj told
          exact ⟨text, neutrons⟩

/-- A report that takes calls gets their lines and counts the neutrons among them. -/
theorem takeAll?_spec {report after : Report} {calls : List SinkCall}
    (taken : sink.takeAll? report calls = some after) :
    after.text.toList = report.text.toList ++ lines calls ∧
      after.neutrons = report.neutrons + calls.countP isNeutron := by
  induction calls generalizing report with
  | nil =>
      obtain rfl := Option.some.inj taken
      exact ⟨(List.append_nil _).symm, rfl⟩
  | cons call rest induction =>
      rw [Sink.takeAll?] at taken
      rcases told : sink.offer report call with ⟨between, fault⟩
      rw [told] at taken
      cases fault with
      | some fault => exact nomatch taken
      | none =>
          obtain ⟨text, neutrons⟩ := tell_none told
          obtain ⟨textRest, neutronsRest⟩ := induction taken
          constructor
          · rw [textRest, text, String.toList_append, List.append_assoc]
            rfl
          · rw [neutronsRest, neutrons, List.countP_cons, Nat.add_assoc, Nat.add_comm (ite _ _ _)]

theorem create_ok {room : Option Nat} {report : Report} (created : create room = .ok report) :
    report.text = header ∧ report.neutrons = 0 := by
  unfold create at created
  rcases wrote : ({ room : Report }).write header with ⟨written, fault⟩
  rw [wrote] at created
  cases fault with
  | some fault => exact nomatch created
  | none =>
      obtain rfl : written = report := Except.ok.inj created
      obtain ⟨text, neutrons⟩ := write_none wrote
      exact ⟨text, neutrons⟩

/-- The neutron lines of a new report that has taken calls are the neutrons among them. -/
theorem neutronLines_takeAll? {room : Option Nat} {report after : Report} {calls : List SinkCall}
    (created : create room = .ok report) (taken : sink.takeAll? report calls = some after) :
    neutronLines after.text = calls.countP isNeutron ∧
      after.neutrons = calls.countP isNeutron := by
  obtain ⟨started, none⟩ := create_ok created
  obtain ⟨text, neutrons⟩ := takeAll?_spec taken
  have head : header.toList = "kind,time,value".toList ++ ['\n'] := by decide
  constructor
  · rw [neutronLines, text, started, head, List.append_assoc, List.singleton_append,
      List.splitOn_append_cons_self_of_not_mem (by decide), List.countP_cons, neutronLines_lines]
    rfl
  · rw [neutrons, none, Nat.zero_add]

end Report

end EventFormation
