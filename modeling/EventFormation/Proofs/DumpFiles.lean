import Mathlib.Data.List.Nodup
import EventFormation.Dump.Series
import EventFormation.Dump.Source
import EventFormation.Proofs.PacketStream

/-!
# What dump files hold

A series that is pushed, rotated and flushed in any order keeps every readout
in the file that was open then.  Once it has been flushed, each of its files has
a name of its own and holds whole records, which are read back in the order in
which they were pushed.
-/

namespace EventFormation

namespace DumpSeries

/-- What a series can be told to do. -/
inductive Step where
  | push (readouts : List Readout)
  | rotate
  | flush
  deriving DecidableEq

namespace Step

def pushed : Step → List Readout
  | .push readouts => readouts
  | .rotate => []
  | .flush => []

/-- The readouts that are added before the first rotation, between rotations, and
after the last one. -/
def portions (steps : List Step) : List (List Readout) :=
  (steps.splitOn .rotate).map (·.flatMap pushed)

theorem portions_rotate (steps : List Step) :
    portions (.rotate :: steps) = [] :: portions steps := by
  simp [portions, List.splitOn_cons_eq_if_modifyHead]

theorem portions_cons {step : Step} {steps : List Step} {first : List Readout}
    {others : List (List Readout)} (stays : step ≠ .rotate)
    (rest : portions steps = first :: others) :
    portions (step :: steps) = (step.pushed ++ first) :: others := by
  obtain ⟨part, parts, split⟩ := List.exists_cons_of_ne_nil (List.splitOn_ne_nil Step.rotate steps)
  rw [portions, split, List.map_cons, List.cons_eq_cons] at rest
  rw [portions, List.splitOn_cons_eq_if_modifyHead, if_neg (by simpa using stays), split,
    List.modifyHead_cons, List.map_cons, List.flatMap_cons, rest.1, rest.2]

theorem exists_portions (steps : List Step) : ∃ first others, portions steps = first :: others :=
  List.exists_cons_of_ne_nil (by simp [portions])

theorem flatten_portions (steps : List Step) : (portions steps).flatten = steps.flatMap pushed := by
  induction steps with
  | nil => rfl
  | cons step steps induction =>
      by_cases stays : step = .rotate
      · rw [stays, portions_rotate, List.flatten_cons, induction, List.flatMap_cons]
        rfl
      · obtain ⟨first, others, rest⟩ := exists_portions steps
        rw [portions_cons stays rest, List.flatten_cons, List.append_assoc, ← List.flatten_cons,
          ← rest, induction, List.flatMap_cons]

end Step

/-- Does a step, unless the next file cannot be created. -/
def perform? (creates : String → Bool) (series : DumpSeries) : Step → Option DumpSeries
  | .push readouts => some (series.push readouts)
  | .rotate =>
    match series.rotate creates with
    | (rotated, none) => some rotated
    | (_, some _) => none
  | .flush => some series.flush

/-- Does steps in order, as long as each of them succeeds. -/
def follow? (creates : String → Bool) (series : DumpSeries) (steps : List Step) :
    Option DumpSeries :=
  steps.foldlM (perform? creates) series

/-- What the latest file of that name holds. -/
def found? (series : DumpSeries) (name : String) : Option Bytes :=
  (series.names.zip series.files).reverse.lookup name

/-- What the open file holds as soon as nothing is held back. -/
def opened (series : DumpSeries) : Bytes :=
  series.current ++ series.pending

theorem files_flush (series : DumpSeries) : series.flush.files = series.closed ++ [series.opened] :=
  rfl

/-- Whatever is written at once and whatever is held back, no byte overtakes another. -/
theorem write_spec (series : DumpSeries) (bytes : Bytes) :
    (series.write bytes).closed = series.closed ∧
      (series.write bytes).opened = series.opened ++ bytes ∧
      (series.write bytes).records = series.records := by
  unfold write
  by_cases large : bufferSize ≤ bytes.length
  · by_cases fits : bufferSize - series.pending.length < bytes.length
    · simp [fits, large, flush, opened]
    · have size : 0 < bufferSize := by decide
      have empty : series.pending = [] := List.length_eq_zero_iff.mp (by omega)
      simp only [fits, large, if_false, if_true]
      simp [empty, opened]
  · by_cases fits : bufferSize - series.pending.length < bytes.length
    · simp [fits, large, flush, opened]
    · simp [fits, large, opened]

theorem named_write (series : DumpSeries) (bytes : Bytes) :
    (series.write bytes).stem = series.stem ∧ (series.write bytes).number = series.number ∧
      (series.write bytes).names = series.names := by
  unfold write
  by_cases large : bufferSize ≤ bytes.length
  all_goals
    by_cases fits : bufferSize - series.pending.length < bytes.length
    all_goals simp [fits, large, flush]

/-- A file is started under the next number, or the number is used up. -/
theorem rotate_cases (creates : String → Bool) (series : DumpSeries) :
    (∃ rotated, series.rotate creates = (rotated, none) ∧ rotated.stem = series.stem ∧
        rotated.number = series.number + 1 ∧
        rotated.names = series.names ++ [fileName series.stem (series.number + 1)] ∧
        rotated.closed = series.closed ++ [series.opened] ∧ rotated.opened = [] ∧
        rotated.records = series.records) ∨
      series.rotate creates =
        ({ series.flush with number := series.number + 1 }, some .uncreated) := by
  unfold rotate
  dsimp only
  split
  · exact .inl ⟨_, rfl, rfl, rfl, rfl, rfl, rfl, rfl⟩
  · exact .inr rfl

variable {creates : String → Bool}

/-- A step either adds its readouts to the open file or starts the next one. -/
theorem perform?_cases {series next : DumpSeries} {step : Step}
    (done : series.perform? creates step = some next) :
    next.stem = series.stem ∧ next.records = series.records + step.pushed.length ∧
      (step ≠ .rotate ∧ next.number = series.number ∧ next.names = series.names ∧
          next.closed = series.closed ∧
          next.opened = series.opened ++ Record.encodeAll step.pushed ∨
        step = .rotate ∧ next.number = series.number + 1 ∧
          next.names = series.names ++ [fileName series.stem (series.number + 1)] ∧
          next.closed = series.closed ++ [series.opened] ∧ next.opened = []) := by
  cases step with
  | push readouts =>
      obtain rfl := Option.some.inj done
      obtain ⟨closed, opened, records⟩ := series.write_spec (Record.encodeAll readouts)
      obtain ⟨stem, number, names⟩ := series.named_write (Record.encodeAll readouts)
      exact ⟨stem, congrArg (· + readouts.length) records,
        .inl ⟨by simp, number, names, closed, opened⟩⟩
  | rotate =>
      rw [perform?] at done
      rcases series.rotate_cases creates with
        ⟨rotated, same, stem, number, names, closed, opened, records⟩ | refused
      · rw [same] at done
        obtain rfl := Option.some.inj done
        exact ⟨stem, records, .inr ⟨rfl, number, names, closed, opened⟩⟩
      · rw [refused] at done
        exact nomatch done
  | flush =>
      obtain rfl := Option.some.inj done
      exact ⟨rfl, rfl, .inl ⟨by simp, rfl, rfl, rfl, rfl⟩⟩

/-- What a series holds after steps: its open file goes on with the first portion,
and each further portion has a file of its own under the next number. -/
theorem follow?_spec {series last : DumpSeries} {steps : List Step}
    (done : series.follow? creates steps = some last) {first : List Readout}
    {others : List (List Readout)} (portions : Step.portions steps = first :: others) :
    last.names = series.names ++
        (List.range' (series.number + 1) others.length).map (fileName series.stem) ∧
      last.records = series.records + (steps.flatMap Step.pushed).length ∧
      last.closed ++ [last.opened] =
        series.closed ++ (series.opened ++ Record.encodeAll first) ::
          others.map Record.encodeAll := by
  induction steps generalizing series first others with
  | nil =>
      obtain rfl := Option.some.inj done
      obtain ⟨rfl, rfl⟩ := List.cons_eq_cons.mp portions
      exact ⟨(List.append_nil _).symm, rfl, by simp [Record.encodeAll]⟩
  | cons step steps induction =>
      obtain ⟨next, performed, followed⟩ := Option.bind_eq_some_iff.mp done
      obtain ⟨stem, records, cases⟩ := perform?_cases performed
      obtain ⟨part, parts, rest⟩ := Step.exists_portions steps
      obtain ⟨namesRest, recordsRest, filesRest⟩ := induction followed rest
      have all : last.records = series.records + ((step :: steps).flatMap Step.pushed).length := by
        rw [recordsRest, records, List.flatMap_cons, List.length_append, Nat.add_assoc]
      rcases cases with
        ⟨stays, number, names, closed, opened⟩ | ⟨rfl, number, names, closed, opened⟩
      · rw [Step.portions_cons stays rest] at portions
        obtain ⟨rfl, rfl⟩ := List.cons_eq_cons.mp portions
        rw [namesRest, filesRest, names, number, stem, closed, opened, Record.encodeAll_append,
          List.append_assoc]
        exact ⟨rfl, all, rfl⟩
      · rw [Step.portions_rotate, rest] at portions
        obtain ⟨rfl, rfl⟩ := List.cons_eq_cons.mp portions
        rw [namesRest, filesRest, names, number, stem, closed, opened]
        refine ⟨?_, all, by simp [Record.encodeAll]⟩
        rw [List.length_cons, List.range'_succ, List.map_cons, List.append_assoc,
          List.singleton_append]

/-- Each portion of the readouts has a file of its own once all is written. -/
theorem files_spec {stem : String} {split : Option Nat} {steps : List Step}
    {empty series : DumpSeries} (created : create creates stem split = .ok empty)
    (done : empty.follow? creates (steps ++ [.flush]) = some series) :
    series.names = (List.range (Step.portions steps).length).map (fileName stem) ∧
      series.records = (steps.flatMap Step.pushed).length ∧
      series.files = (Step.portions steps).map Record.encodeAll := by
  obtain rfl : fresh stem split = empty := by
    unfold create at created
    split at created
    · exact Except.ok.inj created
    · exact nomatch created
  rw [follow?, List.foldlM_append] at done
  obtain ⟨last, followed, flushed⟩ := Option.bind_eq_some_iff.mp done
  obtain rfl : last.flush = series := by simpa [perform?] using flushed
  obtain ⟨first, others, portions⟩ := Step.exists_portions steps
  obtain ⟨names, records, files⟩ := follow?_spec followed portions
  have named : last.flush.names =
      (List.range (first :: others).length).map (fileName stem) := by
    rw [List.range_eq_range', List.length_cons, List.range'_succ, List.map_cons]
    exact names
  rw [files_flush, files, portions]
  exact ⟨named, records.trans (Nat.zero_add _), rfl⟩

theorem fileName_injective (stem : String) : Function.Injective (fileName stem) := by
  intro number other same
  have digits : Nat.toDigits 10 number = Nat.toDigits 10 other := by
    simpa [fileName, ← String.toList_inj] using same
  rw [← Nat.ofDigitChars_ten_toDigits (n := number), digits, Nat.ofDigitChars_ten_toDigits]

theorem lookup_of_mem {files : List (String × Bytes)} (distinct : (files.map Prod.fst).Nodup)
    {name : String} {bytes : Bytes} (member : (name, bytes) ∈ files) :
    files.lookup name = some bytes := by
  obtain ⟨before, after, rfl⟩ := List.append_of_mem member
  refine List.lookup_eq_some_iff.mpr ⟨before, after, rfl, fun file earlier => ?_⟩
  rw [List.map_append, List.map_cons, List.nodup_append] at distinct
  have other : file.1 ≠ name :=
    distinct.2.2 _ (List.mem_map_of_mem earlier) _ List.mem_cons_self
  simpa using other.symm

theorem found?_names {series : DumpSeries} (distinctNames : series.names.Nodup)
    (length : series.names.length = series.files.length) :
    series.names.map series.found? = series.files.map some := by
  have distinct : ((series.names.zip series.files).reverse.map Prod.fst).Nodup := by
    rw [List.map_reverse, List.nodup_reverse, List.map_fst_zip (Nat.le_of_eq length)]
    exact distinctNames
  refine List.ext_getElem (by simp [length]) fun number inNames inFiles => ?_
  rw [List.getElem_map, List.getElem_map]
  refine lookup_of_mem distinct (List.mem_reverse.mpr ?_)
  rw [List.length_map] at inNames inFiles
  have member := List.getElem_mem (l := series.names.zip series.files) (n := number)
    (by rw [List.length_zip]; exact Nat.lt_min.mpr ⟨inNames, inFiles⟩)
  rwa [List.getElem_zip] at member

theorem open?_encodeAll (readouts : List Readout) :
    DumpSource.open? (some (Record.encodeAll readouts)) =
      .ok { bytes := Record.encodeAll readouts } := by
  rw [DumpSource.open?, Record.length_encodeAll, Nat.mul_mod_right, if_pos rfl]

/-- Whatever names the file system takes, a series that has been created, pushed, rotated
and flushed without a failure, and then flushed again, holds each portion of the readouts
in a file of its own, and these files are read back in order as what was pushed and is of
known kind. -/
theorem files_read_back {stem : String} {split : Option Nat} {steps : List Step}
    {empty series : DumpSeries} (created : create creates stem split = .ok empty)
    (done : empty.follow? creates (steps ++ [.flush]) = some series) :
    let portions := (steps.splitOn .rotate).map (·.flatMap Step.pushed)
    let readouts := steps.flatMap Step.pushed
    series.names = (List.range portions.length).map (fileName stem) ∧ series.names.Nodup ∧
      series.names.map series.found? =
        portions.map (fun portion => some (Record.encodeAll portion)) ∧
      series.records = readouts.length ∧
      ∃ sources, series.names.mapM (fun name => DumpSource.open? (series.found? name)) =
          .ok sources ∧
        sources.flatMap DumpSource.readAll = readouts.filter Record.known := by
  intro portions readouts
  obtain ⟨named, records, files⟩ := files_spec created done
  have distinct : series.names.Nodup := by
    rw [named]
    exact List.Nodup.map (fileName_injective stem) List.nodup_range
  have length : series.names.length = series.files.length := by
    rw [named, files, List.length_map, List.length_map, List.length_range]
  have found : series.names.map series.found? =
      portions.map (fun portion => some (Record.encodeAll portion)) := by
    rw [found?_names distinct length, files, List.map_map]
    rfl
  refine ⟨named, distinct, found, records,
    portions.map fun portion => { bytes := Record.encodeAll portion }, ?_, ?_⟩
  · calc series.names.mapM (fun name => DumpSource.open? (series.found? name))
      _ = (series.names.map series.found?).mapM DumpSource.open? := by rw [List.mapM_map]; rfl
      _ = portions.mapM (fun portion => DumpSource.open? (some (Record.encodeAll portion))) := by
        rw [found, List.mapM_map]; rfl
      _ = .ok (portions.map fun portion => { bytes := Record.encodeAll portion }) := by
        simp only [open?_encodeAll]
        exact List.mapM_pure
  · calc (portions.map fun portion => DumpSource.mk (Record.encodeAll portion)).flatMap
          DumpSource.readAll
      _ = portions.flatMap (·.filter Record.known) := by
        simp [List.flatMap_map, DumpSource.readAll, Record.decodeAll_encoded]
      _ = readouts.filter Record.known := by
        have whole : portions.flatten = readouts := Step.flatten_portions steps
        rw [← whole, List.filter_flatten, List.flatMap_def]

/-- Nothing is pushed between two rotations, and one of the readouts has no known kind. -/
theorem rotated_files_read_back :
    let unknown : Readout := { Readout.neutron 5 6 7 8 with kind := .invalid }
    let steps : List Step :=
      [.push [.neutron 1 2 3 4, unknown], .flush, .push [.neutron 3 1 1 0], .rotate, .rotate,
        .push [], .push [.neutron 9 9 9 9]]
    let creates : String → Bool := fun name => name.startsWith "run"
    let empty : DumpSeries := fresh "run" none
    create creates "run" none = .ok empty ∧
    ∃ series, empty.follow? creates (steps ++ [.flush]) = some series ∧
      series.names = ["run-0.bin", "run-1.bin", "run-2.bin"] ∧
      series.names.map series.found? =
        [some (Record.encodeAll [.neutron 1 2 3 4, unknown, .neutron 3 1 1 0]), some [],
          some (Record.encodeAll [.neutron 9 9 9 9])] ∧
      series.records = 4 ∧
      ∃ sources, series.names.mapM (fun name => DumpSource.open? (series.found? name)) =
          .ok sources ∧
        sources.flatMap DumpSource.readAll =
          [.neutron 1 2 3 4, .neutron 3 1 1 0, .neutron 9 9 9 9] := by
  intro unknown steps creates empty
  have created : create creates "run" none = .ok empty := by decide +kernel
  have followed : (empty.follow? creates (steps ++ [.flush])).isSome := by decide +kernel
  obtain ⟨series, done⟩ := Option.isSome_iff_exists.mp followed
  obtain ⟨names, -, found, records, sources, opened, read⟩ := files_read_back created done
  exact ⟨created, series, done, names.trans (by decide +kernel), found, records, sources, opened,
    read⟩

end DumpSeries

end EventFormation
