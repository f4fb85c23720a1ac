import EventFormation.Proofs.ReportLines

/-!
# Reports that are read back

A report can be read: its lines are cut at the newlines, and each line at the commas into
a kind, a time, and a value.  A text is read as events if and only if it is the table of
them, so no two lists of events share a table, save for the places at which they publish.
-/

namespace EventFormation

namespace Report

/-- The number that is written in decimal digits, without needless zeros. -/
def number? (digits : List Char) : Option Nat :=
  let value := Nat.ofDigitChars 10 digits 0
  if Nat.toDigits 10 value = digits then some value else none

/-- A pixel, a count, or a payload, which has 32 bits. -/
def payload? (digits : List Char) : Option UInt32 :=
  (number? digits).bind fun value => if value < UInt32.size then some (.ofNat value) else none

/-- Whether a frame is auxiliary. -/
def flag? (digits : List Char) : Option Bool :=
  match number? digits with
  | some 0 => some false
  | some 1 => some true
  | _ => none

/-- The event whose line has these fields. -/
def event? : List (List Char) → Option SinkCall
  | [kind, time, value] =>
    (number? time).bind fun time =>
      match String.ofList kind with
      | "pulse" => if value = [] then some (.pulse time) else none
      | "neutron" => (payload? value).map (.neutron time)
      | "frame" => (flag? value).map (.frame time)
      | "monitor" => (payload? value).map (.monitor time)
      | "custom" => (payload? value).map (.custom time)
      | _ => none
  | _ => none

/-- The events of the lines below the header. Nothing follows the last newline. -/
def events? : List (List Char) → Option (List SinkCall)
  | [] => none
  | [last] => if last = [] then some [] else none
  | text :: next :: rest =>
    (event? (text.splitOn ',')).bind fun call => (events? (next :: rest)).map (call :: ·)

def read? (text : String) : Option (List SinkCall) :=
  match text.toList.splitOn '\n' with
  | [] => none
  | top :: rows => if top ++ ['\n'] = header.toList then events? rows else none

theorem number?_eq_some_iff {digits : List Char} {value : Nat} :
    number? digits = some value ↔ digits = Nat.toDigits 10 value := by
  unfold number?
  dsimp only
  constructor
  · intro found
    obtain ⟨written, same⟩ := Option.ite_none_right_eq_some.mp found
    rw [← Option.some.inj same, written]
  · rintro rfl
    rw [Nat.ofDigitChars_ten_toDigits, if_pos rfl]

theorem payload?_eq_some_iff {digits : List Char} {value : UInt32} :
    payload? digits = some value ↔ digits = Nat.toDigits 10 value.toNat := by
  simp only [payload?, Option.bind_eq_some_iff, number?_eq_some_iff,
    Option.ite_none_right_eq_some, Option.some.injEq]
  constructor
  · rintro ⟨number, rfl, small, rfl⟩
    rw [UInt32.toNat_ofNat_of_lt' small]
  · rintro rfl
    exact ⟨value.toNat, rfl, value.toNat_lt, UInt32.ofNat_toNat⟩

theorem flag?_eq_some_iff {digits : List Char} {value : Bool} :
    flag? digits = some value ↔ digits = Nat.toDigits 10 value.toNat := by
  rw [← number?_eq_some_iff]
  unfold flag?
  -- There is no number, or it is zero, or one, or larger than the flags.
  rcases number? digits with _ | _ | _ | number
  · simp
  · cases value <;> simp
  · cases value <;> simp
  · cases value <;> simp

/-- Fields are read as an event if they are those of its line. -/
theorem event?_eq_some_iff {parts : List (List Char)} {call : SinkCall} :
    event? parts = some call ↔ call ≠ .flush ∧ parts = fields call := by
  constructor
  · intro found
    unfold event? at found
    split at found
    case h_2 => cases found
    case h_1 kind time value =>
      obtain ⟨number, timed, told⟩ := Option.bind_eq_some_iff.mp found
      obtain rfl := number?_eq_some_iff.mp timed
      have named {name : String} (same : String.ofList kind = name) : kind = name.toList := by
        rw [← same, String.toList_ofList]
      split at told
      case h_1 isPulse =>
        obtain ⟨empty, same⟩ := Option.ite_none_right_eq_some.mp told
        obtain rfl := Option.some.inj same
        exact ⟨by simp, by rw [named isPulse, empty, fields]⟩
      case h_2 isNeutron =>
        obtain ⟨pixel, read, rfl⟩ := Option.map_eq_some_iff.mp told
        exact ⟨by simp, by rw [named isNeutron, payload?_eq_some_iff.mp read, fields]⟩
      case h_3 isFrame =>
        obtain ⟨auxiliary, read, rfl⟩ := Option.map_eq_some_iff.mp told
        exact ⟨by simp, by rw [named isFrame, flag?_eq_some_iff.mp read, fields]⟩
      case h_4 isMonitor =>
        obtain ⟨count, read, rfl⟩ := Option.map_eq_some_iff.mp told
        exact ⟨by simp, by rw [named isMonitor, payload?_eq_some_iff.mp read, fields]⟩
      case h_5 isCustom =>
        obtain ⟨data, read, rfl⟩ := Option.map_eq_some_iff.mp told
        exact ⟨by simp, by rw [named isCustom, payload?_eq_some_iff.mp read, fields]⟩
      case h_6 => cases told
  · rintro ⟨other, rfl⟩
    have timed (time : Nat) : number? (Nat.toDigits 10 time) = some time :=
      number?_eq_some_iff.mpr rfl
    cases call with
    | pulse time => simp [event?, fields, timed]
    | neutron flight pixel => simp [event?, fields, timed, payload?_eq_some_iff]
    | frame time auxiliary => simp [event?, fields, timed, flag?_eq_some_iff]
    | monitor time count => simp [event?, fields, timed, payload?_eq_some_iff]
    | custom time data => simp [event?, fields, timed, payload?_eq_some_iff]
    | flush => exact absurd rfl other

theorem splitOn_eq_iff {separator : Char} {parts : List (List Char)} (text : List Char)
    (free : ∀ part ∈ parts, separator ∉ part) (occupied : parts ≠ []) :
    text.splitOn separator = parts ↔ text = [separator].intercalate parts := by
  constructor
  · rintro rfl
    exact (List.intercalate_splitOn separator).symm
  · rintro rfl
    exact List.splitOn_intercalate separator free occupied

theorem splitOn_comma_iff {call : SinkCall} (other : call ≠ .flush) (text : List Char) :
    text.splitOn ',' = fields call ↔ text = row call := by
  have plain := not_mem_toDigits (by decide : ','.isDigit = false)
  refine splitOn_eq_iff text ?_ ?_
  · cases call <;> simp [fields, plain]
  · cases call with
    | flush => exact absurd rfl other
    | _ => exact List.cons_ne_nil _ _

theorem events?_eq_some_iff {rows : List (List Char)} {calls : List SinkCall} :
    events? rows = some calls ↔ .flush ∉ calls ∧ rows = calls.map row ++ [[]] := by
  induction rows generalizing calls with
  | nil => simp [events?]
  | cons text rows induction =>
      cases rows with
      | nil =>
          -- The part behind the last newline, which no event can have written.
          cases calls with
          | nil => simp [events?]
          | cons call rest => simp [events?]
      | cons next rows =>
          simp only [events?, Option.bind_eq_some_iff, Option.map_eq_some_iff, induction,
            event?_eq_some_iff]
          constructor
          · rintro ⟨call, ⟨other, parts⟩, rest, ⟨without, below⟩, rfl⟩
            rw [below, (splitOn_comma_iff other text).mp parts]
            exact ⟨List.not_mem_cons_of_ne_of_not_mem other.symm without, rfl⟩
          · rintro ⟨without, all⟩
            cases calls with
            | nil => simp at all
            | cons call rest =>
                obtain ⟨first, below⟩ := List.cons_eq_cons.mp all
                obtain ⟨other, without⟩ := List.ne_and_not_mem_of_not_mem_cons without
                exact ⟨call, ⟨other.symm, (splitOn_comma_iff other.symm text).mpr first⟩, rest,
                  ⟨without, below⟩, rfl⟩

theorem toList_table (calls : List SinkCall) :
    (table calls).toList = header.toList ++ lines calls := by
  have onward (text : String) :
      (calls.foldl (fun text call => text ++ line call) text).toList =
        text.toList ++ lines calls := by
    induction calls generalizing text with
    | nil => exact (List.append_nil _).symm
    | cons call rest induction =>
        rw [List.foldl_cons, induction, String.toList_append, List.append_assoc, lines_cons]
  exact onward header

theorem table_filter (calls : List SinkCall) : table (calls.filter (· ≠ .flush)) = table calls := by
  have same : lines (calls.filter (· ≠ .flush)) = lines calls := by
    induction calls with
    | nil => rfl
    | cons call rest induction =>
        rw [lines_cons]
        by_cases publishes : call = .flush
        · rw [List.filter_cons_of_neg (by simpa using publishes), induction, publishes]
          rfl
        · rw [List.filter_cons_of_pos (by simpa using publishes), lines_cons, induction]
  rw [← String.toList_inj, toList_table, toList_table, same]

theorem intercalate_rows {calls : List SinkCall} (without : .flush ∉ calls) (top : List Char) :
    ['\n'].intercalate (top :: (calls.map row ++ [[]])) = top ++ '\n' :: lines calls := by
  induction calls generalizing top with
  | nil => simp [lines, List.intercalate]
  | cons call rest induction =>
      obtain ⟨other, without⟩ := List.ne_and_not_mem_of_not_mem_cons without
      rw [List.intercalate_cons_of_ne_nil (by simp), List.map_cons, List.cons_append,
        induction without, lines_cons, toList_line other.symm]
      simp

theorem read?_eq_some_iff {text : String} {calls : List SinkCall} :
    read? text = some calls ↔ .flush ∉ calls ∧ text = table calls := by
  have title : "kind,time,value".toList ++ ['\n'] = header.toList := by decide
  rw [← String.toList_inj, toList_table]
  constructor
  · intro found
    unfold read? at found
    split at found
    case h_1 => cases found
    case h_2 top rows cut =>
      obtain ⟨headed, below⟩ := Option.ite_none_right_eq_some.mp found
      obtain ⟨without, rfl⟩ := events?_eq_some_iff.mp below
      refine ⟨without, ?_⟩
      have joined : ['\n'].intercalate (text.toList.splitOn '\n') = text.toList :=
        List.intercalate_splitOn '\n'
      rw [← joined, cut, intercalate_rows without, ← headed, List.append_assoc,
        List.singleton_append]
  · rintro ⟨without, written⟩
    have cut : text.toList.splitOn '\n' =
        "kind,time,value".toList :: (calls.map row ++ [[]]) := by
      rw [splitOn_eq_iff _ _ (List.cons_ne_nil _ _), intercalate_rows without, written, ← title,
        List.append_assoc, List.singleton_append]
      simp only [List.forall_mem_cons, List.forall_mem_append, List.forall_mem_map]
      exact ⟨by decide, fun call _ => newline_not_mem_row call, List.not_mem_nil, nofun⟩
    rw [read?, cut]
    dsimp only
    rw [if_pos title, events?_eq_some_iff]
    exact ⟨without, rfl⟩

/-- The report of some calls, if the place has room for all of it. -/
def written? (room : Option Nat) (calls : List SinkCall) : Option Report :=
  (create room).toOption.bind fun start => sink.takeAll? start calls

theorem exists_takeAll? {report : Report} (unlimited : report.room = none)
    (calls : List SinkCall) : ∃ after, sink.takeAll? report calls = some after := by
  induction calls generalizing report with
  | nil => exact ⟨report, rfl⟩
  | cons call rest induction =>
      have told : ∃ between, sink.offer report call = (between, none) ∧ between.room = none := by
        simp only [sink, tell, write, unlimited]
        split <;> exact ⟨_, rfl, rfl⟩
      obtain ⟨between, told, still⟩ := told
      rw [Sink.takeAll?, told]
      exact induction still

theorem written?_spec {room : Option Nat} {calls : List SinkCall} {report : Report}
    (written : written? room calls = some report) :
    report.text = table calls ∧ report.neutrons = neutronLines report.text := by
  obtain ⟨start, made, taken⟩ := Option.bind_eq_some_iff.mp written
  have created : create room = .ok start := by
    cases outcome : create room with
    | error fault =>
        rw [outcome] at made
        cases made
    | ok fresh =>
        rw [outcome] at made
        rw [Option.some.inj made]
  obtain ⟨lines, neutrons⟩ := neutronLines_takeAll? created taken
  refine ⟨?_, neutrons.trans lines.symm⟩
  rw [← String.toList_inj, toList_table, (takeAll?_spec taken).1, (create_ok created).1]

theorem exists_written? (calls : List SinkCall) :
    ∃ report, written? none calls = some report := by
  have unlimited : ({ text := "" ++ header } : Report).room = none := rfl
  exact exists_takeAll? unlimited calls

/-- A text is read as the table of some events if and only if it is that table.  So the calls
that a report has been told of are read back from its bytes, save for those that publish, and
the neutrons that it has counted are its lines that start like those of neutrons.  A place in
memory takes every call, and calls that differ in anything but publishing give other bytes. -/
theorem report_determines_events :
    (∀ text calls, read? text = some calls ↔ .flush ∉ calls ∧ text = table calls) ∧
    (∀ room calls report, written? room calls = some report →
      (String.fromUTF8? report.text.toUTF8).bind read? = some (calls.filter (· ≠ .flush)) ∧
        report.neutrons = neutronLines report.text) ∧
    (∀ calls, ∃ report, written? none calls = some report) ∧
    ∀ calls others report other, written? none calls = some report →
      written? none others = some other →
      calls.filter (· ≠ .flush) ≠ others.filter (· ≠ .flush) →
      report.text.toUTF8 ≠ other.text.toUTF8 := by
  have recovered {room : Option Nat} {calls : List SinkCall} {report : Report}
      (written : written? room calls = some report) :
      (String.fromUTF8? report.text.toUTF8).bind read? = some (calls.filter (· ≠ .flush)) := by
    have valid : String.fromUTF8? report.text.toUTF8 = some report.text :=
      dif_pos report.text.isValidUTF8
    rw [valid, Option.bind_some, read?_eq_some_iff, table_filter]
    exact ⟨by simp, (written?_spec written).1⟩
  refine ⟨fun _ _ => read?_eq_some_iff, ?_, exists_written?, ?_⟩
  · intro room calls report written
    exact ⟨recovered written, (written?_spec written).2⟩
  · intro calls others report other written writtenOther different same
    have back := recovered written
    rw [same, recovered writtenOther] at back
    exact different (Option.some.inj back).symm

/-- The same digits stand in both tables, but the comma between them does not. -/
theorem moved_comma_determines_events :
    let calls : List SinkCall := [.pulse 1, .flush, .neutron 23 4, .flush]
    let others : List SinkCall := [.pulse 1, .neutron 2 34]
    ∃ report other, written? none calls = some report ∧ written? none others = some other ∧
      (String.fromUTF8? report.text.toUTF8).bind read? = some [.pulse 1, .neutron 23 4] ∧
      report.neutrons = neutronLines report.text ∧
      calls.filter (· ≠ .flush) ≠ others.filter (· ≠ .flush) ∧
      report.text.toUTF8 ≠ other.text.toUTF8 := by
  intro calls others
  obtain ⟨-, back, taken, apart⟩ := report_determines_events
  obtain ⟨report, written⟩ := taken calls
  obtain ⟨other, writtenOther⟩ := taken others
  have different : calls.filter (· ≠ .flush) ≠ others.filter (· ≠ .flush) := by decide
  obtain ⟨recovered, neutrons⟩ := back none calls report written
  exact ⟨report, other, written, writtenOther, recovered, neutrons, different,
    apart calls others report other written writtenOther different⟩

end Report

end EventFormation
