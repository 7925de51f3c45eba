/-
This file proves that the report of a run accounts for everything: every file that is discovered,
everything that fails, and everything that is or is not written.

The report is built up by adding the outcomes of the files one by one. `Report.Adds` says what
adding some outcomes does to it: their failures are appended, each number grows by the outcomes
that have its status, and the numbers by stage remain those of the listed failures. One outcome
does this by cases on its status, and any number of them by induction. The numbers are thus numbers
of outcomes; they are numbers of files because an outcome either has a file with its status or is
that of an ignored path, so that those two kinds make up all that was discovered.

To tell which failures come from which part of a run it is enough to look at their stages.
Discovery, analysis, resolution and emission fail in stages of their own, so in the list of all
failures those of the resolution are the ambiguities and those of the emission are the rejected
records (`countP_failures`). For the records themselves the balance is the one of the emission:
every file, entity and edge is written or is such a failure. `isBalanced_written_runOn` puts these
parts together; the only thing it asks is that the discovery has put its failures into its own
stage.
-/
import CodeGraph.Proofs.Record.Batch
import CodeGraph.Proofs.Report.Tally
import CodeGraph.Proofs.Run.Outcomes

namespace CodeGraph

/-! ### Outcomes -/

/-- The number of files that a report has for a status; ignored files have none, and files that are
not parsed are not counted. -/
def Report.counted (report : Report) : Option ParseStatus → Nat
  | none => report.ignored
  | some .parsed => report.parsed
  | some .parseFailed => report.parseFailed
  | some .notParsed => 0

/-- What a report has more after outcomes are added to it. -/
structure Report.Adds (before after : Report) (outcomes : List FileOutcome) : Prop where
  failures : after.failures = before.failures ++ outcomes.flatMap FileOutcome.failures
  counted {status : Option ParseStatus} (isCounted : status ≠ some .notParsed) :
    after.counted status = before.counted status + outcomes.countP (·.status? == status)
  tallied : before.IsTallied → after.IsTallied

namespace Report

variable {report : Report}

theorem counted_noteAll (report : Report) (failures : List Failure)
    (status : Option ParseStatus) : (report.noteAll failures).counted status =
      report.counted status := by
  rw [noteAll_eq]
  cases status with
  | none => rfl
  | some status => cases status <;> rfl

/-- Adding an outcome counts its status and no other. -/
theorem counted_addOutcome (report : Report) (outcome : FileOutcome)
    {status : Option ParseStatus} (isCounted : status ≠ some .notParsed) :
    (report.addOutcome outcome).counted status =
      report.counted status + if outcome.status? = status then 1 else 0 := by
  have noted := counted_noteAll report outcome.failures status
  -- The outcome changes the number of its own status, and every other number is kept.
  by_cases same : outcome.status? = status
  · rw [if_pos same, ← noted, addOutcome, same]
    cases status with
    | none => rfl
    | some status =>
      cases status with
      | parsed => rfl
      | parseFailed => rfl
      | notParsed => exact absurd rfl isCounted
  · rw [if_neg same, ← noted, addOutcome]
    split
    all_goals
      next isStatus =>
      rw [isStatus] at same
      cases status with
      | none => first | rfl | exact absurd rfl same
      | some status => cases status <;> first | rfl | exact absurd rfl same

theorem adds_addOutcome (report : Report) (outcome : FileOutcome) :
    Adds report (report.addOutcome outcome) [outcome] where
  failures := by
    rw [List.flatMap_singleton, ← failures_noteAll, addOutcome]
    split <;> rfl
  counted isCounted := by
    rw [counted_addOutcome report outcome isCounted, List.countP_singleton]
    simp only [beq_iff_eq]
  tallied tallied := by
    unfold addOutcome
    split <;> exact (tallied.noteAll outcome.failures).congr rfl rfl

theorem Adds.cons {before middle after : Report} {outcome : FileOutcome}
    {outcomes : List FileOutcome} (first : Adds before middle [outcome])
    (rest : Adds middle after outcomes) : Adds before after (outcome :: outcomes) where
  failures := by
    rw [rest.failures, first.failures, List.flatMap_singleton, List.flatMap_cons,
      List.append_assoc]
  counted isCounted := by
    rw [rest.counted isCounted, first.counted isCounted, List.countP_singleton, List.countP_cons]
    omega
  tallied tallied := rest.tallied (first.tallied tallied)

/-- The outcomes of any number of files are counted one by one. -/
theorem adds_foldl (report : Report) (outcomes : List FileOutcome) :
    Adds report (outcomes.foldl addOutcome report) outcomes := by
  induction outcomes generalizing report with
  | nil =>
    refine ⟨?_, fun _ => rfl, id⟩
    rw [List.flatMap_nil, List.append_nil]
    rfl
  | cons outcome rest inductionHypothesis =>
    exact (adds_addOutcome report outcome).cons (inductionHypothesis _)

end Report

/-! ### Statuses -/

theorem FileOutcome.status?_eq_none_iff {outcome : FileOutcome} :
    outcome.status? = none ↔ outcome.entry = none := Option.map_eq_none_iff

/-- Files are counted by status where their outcomes are. -/
theorem countP_filterMap_entry (outcomes : List FileOutcome) (status : ParseStatus) :
    (outcomes.filterMap FileOutcome.entry).countP (·.status == status) =
      outcomes.countP (·.status? == some status) := by
  rw [List.countP_filterMap]
  refine List.countP_congr fun outcome _ => ?_
  unfold FileOutcome.status?
  cases outcome.entry <;> simp

/-- Every outcome has a file or is that of an ignored path. -/
theorem length_filterMap_entry (outcomes : List FileOutcome) :
    (outcomes.filterMap FileOutcome.entry).length + outcomes.countP (·.status? == none) =
      outcomes.length := by
  rw [List.length_filterMap_eq_countP,
    List.length_eq_countP_add_countP (fun outcome : FileOutcome => outcome.entry.isSome)]
  congr 1
  refine List.countP_congr fun outcome _ => ?_
  simp [FileOutcome.status?_eq_none_iff]

/-- Every file has one of the three statuses. -/
theorem countP_status_add (files : List FileRecord) :
    files.countP (·.status == .parsed) + files.countP (·.status == .parseFailed) +
      files.countP (·.status == .notParsed) = files.length := by
  induction files with
  | nil => rfl
  | cons head rest inductionHypothesis =>
    simp only [List.countP_cons, List.length_cons]
    cases head.status <;> simp <;> omega

/-! ### Runs -/

namespace RunOutput

/-- A run that accounts for everything, given what was discovered, what became of each of the
files, and what became of the records. -/
structure IsBalanced (discovery : Discovery) (outcomes : List FileOutcome) (batch : EmissionBatch)
    (output : RunOutput) : Prop where
  /-- What is discovered is taken or ignored. -/
  discovered : output.report.files + output.report.ignored = discovery.files.length
  taken : output.files.Perm (outcomes.filterMap FileOutcome.entry)
  parsed : output.report.parsed = output.files.countP (·.status == .parsed)
  parseFailed : output.report.parseFailed = output.files.countP (·.status == .parseFailed)
  statuses : output.report.parsed + output.report.parseFailed +
    output.files.countP (·.status == .notParsed) = output.report.files
  /-- What is found is found in files that are parsed. -/
  entities : ∀ entity ∈ output.entities, ∃ outcome ∈ outcomes, entity ∈ outcome.entities ∧
    ∃ file, outcome.entry = some ⟨file, .parsed⟩ ∧ entity.fileId = file.id
  observations : ∃ observations, (∀ observation ∈ observations, ∃ outcome ∈ outcomes,
      observation ∈ outcome.observations ∧
        ∃ file, outcome.entry = some ⟨file, .parsed⟩ ∧ observation.fileId = file.id) ∧
    observations.Perm (outcomes.flatMap FileOutcome.observations) ∧
    Corpus.resolve ⟨output.files.map FileRecord.file, output.entities⟩ observations =
      ⟨output.edges, output.ambiguities⟩
  /-- A file of a known language that is not parsed leaves one failure and nothing else. -/
  unparsed : ∀ outcome ∈ outcomes, ∀ entry, outcome.entry = some entry →
    entry.file.language.isSome → entry.status ≠ .parsed →
      outcome.entities = [] ∧ outcome.observations = [] ∧
        ∃ failure, outcome.failures = [failure] ∧ failure.path = entry.file.relativePath ∧
          (failure.stage = .read ∨ failure.stage = .parse)
  /-- The failures are those of the discovery, of the files, of the references and of the
  records. -/
  failures : output.report.failures.Perm
    (discovery.failures ++ outcomes.flatMap FileOutcome.failures
      ++ output.ambiguities.map Ambiguity.toFailure ++ batch.failures)
  stages : output.report.IsTallied
  ambiguities : output.report.failuresIn .resolve = output.report.ambiguities
  emitted : output.report.emitted + output.report.failuresIn .emit =
    output.files.length + output.entities.length + output.edges.length
  /-- The report has the lengths of the lists that it describes. -/
  lengths : output.report.files = output.files.length ∧
    output.report.entities = output.entities.length ∧
    output.report.edges = output.edges.length ∧
    output.report.ambiguities = output.ambiguities.length

variable (repositoryId : String) (discovered : List Failure) (outcomes : List FileOutcome)

/-- The report of a run adds the outcomes, in their order, to the failures of the discovery. -/
theorem adds_assemble :
    ((Report.begin repositoryId).noteAll discovered).Adds
      ((sortBy FileOutcome.compare outcomes).foldl Report.addOutcome
        ((Report.begin repositoryId).noteAll discovered))
      (sortBy FileOutcome.compare outcomes) :=
  Report.adds_foldl _ _

theorem failures_assemble : (assemble repositoryId discovered outcomes).report.failures =
    discovered ++ (sortBy FileOutcome.compare outcomes).flatMap FileOutcome.failures ++
      (assemble repositoryId discovered outcomes).ambiguities.map Ambiguity.toFailure := by
  have adds := adds_assemble repositoryId discovered outcomes
  show (Report.noteAll _ _).failures = _
  rw [Report.failures_noteAll, adds.failures, Report.failures_noteAll]
  rfl

theorem isTallied_assemble : (assemble repositoryId discovered outcomes).report.IsTallied := by
  have begun := (Report.isTallied_begin repositoryId).noteAll discovered
  have noted := (adds_assemble repositoryId discovered outcomes).tallied begun
  exact (noted.noteAll ((assemble repositoryId discovered outcomes).ambiguities.map
    Ambiguity.toFailure)).congr rfl rfl

/-- The report of a run counts the outcomes by status. -/
theorem counted_assemble {status : Option ParseStatus} (isCounted : status ≠ some .notParsed) :
    (assemble repositoryId discovered outcomes).report.counted status =
      outcomes.countP (·.status? == status) := by
  have adds := adds_assemble repositoryId discovered outcomes
  have begun : (Report.begin repositoryId).counted status = 0 := by
    cases status with
    | none => rfl
    | some status => cases status <;> rfl
  have finished (report : Report) (files entities edges ambiguities : Nat) :
      (Report.finish { report with files, entities, edges, ambiguities }).counted status =
        report.counted status := by
    cases status with
    | none => rfl
    | some status => cases status <;> rfl
  rw [assemble, finished, Report.counted_noteAll, adds.counted isCounted, Report.counted_noteAll,
    begun, Nat.zero_add, (sortBy_perm FileOutcome.compare outcomes).countP_eq]

/-- The numbers by status are those of the files. -/
theorem counted_files_assemble {status : ParseStatus} (isCounted : status ≠ .notParsed) :
    (assemble repositoryId discovered outcomes).report.counted (some status) =
      (assemble repositoryId discovered outcomes).files.countP (·.status == status) := by
  rw [counted_assemble repositoryId discovered outcomes
    (fun same => isCounted (Option.some.inj same))]
  show _ = ((sortBy FileOutcome.compare outcomes).filterMap FileOutcome.entry).countP _
  rw [countP_filterMap_entry, (sortBy_perm FileOutcome.compare outcomes).countP_eq]

theorem length_files_assemble :
    (assemble repositoryId discovered outcomes).files.length +
      (assemble repositoryId discovered outcomes).report.ignored = outcomes.length := by
  have ignored : (assemble repositoryId discovered outcomes).report.ignored =
      outcomes.countP (·.status? == none) :=
    @counted_assemble repositoryId discovered outcomes none (by decide)
  have perm := sortBy_perm FileOutcome.compare outcomes
  rw [ignored, ← perm.countP_eq, ← perm.length_eq]
  exact length_filterMap_entry _

variable (output : RunOutput) (written : Nat) (rejected : List Failure)

/-- The emission adds its failures and the number of the records that are written. -/
theorem report_afterEmission :
    (output.afterEmission written rejected).report =
      { output.report with
        emitted := written
        failures := output.report.failures ++ rejected
        failuresByStage := (output.afterEmission written rejected).report.failuresByStage
        isFinished := true } := by
  rw [afterEmission, Report.finish, Report.noteAll_eq]

theorem isTallied_afterEmission (tallied : output.report.IsTallied) :
    (output.afterEmission written rejected).report.IsTallied := by
  have begun : ({ output.report with emitted := written } : Report).IsTallied :=
    tallied.congr rfl rfl
  exact (begun.noteAll rejected).congr rfl rfl

end RunOutput

/-! ### Stages -/

/-- Failures of other stages do not count. -/
theorem countP_stage_eq_zero {failures : List Failure} {stage : Stage}
    (other : ∀ failure ∈ failures, failure.stage ≠ stage) :
    failures.countP (·.stage == stage) = 0 := by
  refine List.countP_eq_zero.mpr fun failure member same => ?_
  exact other failure member (beq_iff_eq.mp same)

theorem countP_stage_eq_length {failures : List Failure} {stage : Stage}
    (same : ∀ failure ∈ failures, failure.stage = stage) :
    failures.countP (·.stage == stage) = failures.length :=
  List.countP_eq_length.mpr fun failure member => beq_iff_eq.mpr (same failure member)

theorem stage_of_mem_map_toFailure {ambiguities : List Ambiguity} :
    ∀ failure ∈ ambiguities.map Ambiguity.toFailure, failure.stage = .resolve := by
  intro failure member
  obtain ⟨ambiguity, _, rfl⟩ := List.mem_map.mp member
  rfl

theorem Visit.stage_of_failure? {settings : ExtractionSettings} {visit : Visit} {failure : Failure}
    (isFailure : visit.failure? settings = some failure) : failure.stage = .discover := by
  unfold failure? outcome? VisitedFile.outcome? at isFailure
  grind [VisitedFile.failure]

/-- The discovery of files fails in its own stage only. -/
theorem Discovery.stage_of_mem_failures_below {settings : ExtractionSettings} {storage : Storage}
    {root : Location} {failure : Failure}
    (member : failure ∈ (below settings storage root).failures) : failure.stage = .discover := by
  obtain ⟨visit, _, isFailure⟩ := List.mem_filterMap.mp member
  exact Visit.stage_of_failure? isFailure

/-- Of all failures of a run those of the resolution are the ambiguities, and those of the emission
are the rejected records. -/
theorem countP_failures {discovered files rejected : List Failure} {ambiguities : List Ambiguity}
    (discover : ∀ failure ∈ discovered, failure.stage = .discover)
    (analysis : ∀ failure ∈ files, failure.stage ∈ [Stage.read, Stage.parse, Stage.extract])
    (emit : ∀ failure ∈ rejected, failure.stage = .emit) :
    (discovered ++ files ++ ambiguities.map Ambiguity.toFailure ++ rejected).countP
        (·.stage == .resolve) = ambiguities.length ∧
      (discovered ++ files ++ ambiguities.map Ambiguity.toFailure ++ rejected).countP
        (·.stage == .emit) = rejected.length := by
  have noDiscovery (stage : Stage) (other : stage ≠ .discover) :
      discovered.countP (·.stage == stage) = 0 :=
    countP_stage_eq_zero fun failure member same =>
      other (same.symm.trans (discover failure member))
  have noAnalysis (stage : Stage) (other : stage ∉ [Stage.read, Stage.parse, Stage.extract]) :
      files.countP (·.stage == stage) = 0 :=
    countP_stage_eq_zero fun failure member same => other (same ▸ analysis failure member)
  simp only [List.countP_append]
  constructor
  · rw [noDiscovery .resolve (by decide), noAnalysis .resolve (by decide),
      countP_stage_eq_length stage_of_mem_map_toFailure, List.length_map,
      countP_stage_eq_zero fun failure member => by rw [emit failure member]; decide]
    omega
  · rw [noDiscovery .emit (by decide), noAnalysis .emit (by decide),
      countP_stage_eq_length emit, countP_stage_eq_zero fun failure member => by
        rw [stage_of_mem_map_toFailure failure member]; decide]
    omega

/-! ### The balance of a run -/

namespace Analyzer

variable {engine : RegularExpression.Engine} (analyzer : Analyzer engine) (parser : TreeParser)
  (repositoryId : String) (discovery : Discovery)

/-- What a run puts together out of its outcomes comes from one of them. -/
theorem exists_arises_of_mem_flatMap {part : Type} {make : FileOutcome → List part} {entry : part}
    (member : entry ∈ (sortBy FileOutcome.compare
      (analyzer.outcomes parser repositoryId discovery)).flatMap make) :
    ∃ outcome ∈ analyzer.outcomes parser repositoryId discovery,
      entry ∈ make outcome ∧ ∃ path, outcome.Arises path := by
  obtain ⟨outcome, isOutcome, inOutcome⟩ := List.mem_flatMap.mp member
  have isOutcome := (mem_sortBy FileOutcome.compare).mp isOutcome
  obtain ⟨file, _, arises⟩ := arises_of_mem_outcomes isOutcome
  exact ⟨outcome, isOutcome, inOutcome, file.relativePath, arises⟩

/-- The files of a run are counted by status, and with the ignored ones they are those that were
discovered. -/
theorem statuses_written :
    let final := (analyzer.written (analyzer.runOn parser repositoryId discovery)).1
    final.report.parsed = final.files.countP (·.status == .parsed) ∧
      final.report.parseFailed = final.files.countP (·.status == .parseFailed) ∧
      final.report.files = final.files.length ∧
      final.report.files + final.report.ignored = discovery.files.length := by
  intro final
  let outcomes := analyzer.outcomes parser repositoryId discovery
  have report : final.report = _ := RunOutput.report_afterEmission _ _ _
  have counted {status : ParseStatus} (isCounted : status ≠ .notParsed) :=
    RunOutput.counted_files_assemble repositoryId discovery.failures outcomes isCounted
  have length := RunOutput.length_files_assemble repositoryId discovery.failures outcomes
  rw [show outcomes.length = discovery.files.length from List.length_map _] at length
  rw [report]
  exact ⟨@counted .parsed (by decide), @counted .parseFailed (by decide), rfl, length⟩

/-- The failures of a run are those of the discovery, of the files, of the references and of the
records, in this order. -/
theorem failures_written :
    let output := analyzer.runOn parser repositoryId discovery
    (analyzer.written output).1.report.failures =
      discovery.failures
        ++ (sortBy FileOutcome.compare
          (analyzer.outcomes parser repositoryId discovery)).flatMap FileOutcome.failures
        ++ output.ambiguities.map Ambiguity.toFailure
        ++ (output.emit analyzer.ontology).failures := by
  intro output
  have report : (analyzer.written output).1.report = _ := RunOutput.report_afterEmission _ _ _
  rw [report]
  exact congrArg (· ++ (output.emit analyzer.ontology).failures)
    (RunOutput.failures_assemble repositoryId discovery.failures
      (analyzer.outcomes parser repositoryId discovery))

/-- The stages of a run do not overlap, so the stage of a failure tells where it comes from. -/
theorem countP_failures_written
    (staged : ∀ failure ∈ discovery.failures, failure.stage = .discover) :
    let output := analyzer.runOn parser repositoryId discovery
    (analyzer.written output).1.report.failures.countP (·.stage == .resolve) =
        output.ambiguities.length ∧
      (analyzer.written output).1.report.failures.countP (·.stage == .emit) =
        (output.emit analyzer.ontology).failures.length := by
  intro output
  rw [failures_written]
  refine countP_failures staged ?_ ?_
  · intro failure member
    obtain ⟨_, _, inOutcome, _, arises⟩ := exists_arises_of_mem_flatMap _ _ _ _ member
    exact arises.stage_mem inOutcome
  · intro failure member
    exact analyzer.ontology.stage_of_mem_failures_emit _ _ _ member

theorem isTallied_written :
    (analyzer.written (analyzer.runOn parser repositoryId discovery)).1.report.IsTallied :=
  RunOutput.isTallied_afterEmission _ _ _
    (RunOutput.isTallied_assemble repositoryId discovery.failures
      (analyzer.outcomes parser repositoryId discovery))

/-- A run whose records are all written accounts for everything. -/
theorem isBalanced_written_runOn
    (staged : ∀ failure ∈ discovery.failures, failure.stage = .discover) :
    (analyzer.written (analyzer.runOn parser repositoryId discovery)).1.IsBalanced discovery
      (analyzer.outcomes parser repositoryId discovery)
      ((analyzer.runOn parser repositoryId discovery).emit analyzer.ontology) := by
  let output := analyzer.runOn parser repositoryId discovery
  let final := (analyzer.written output).1
  have perm := sortBy_perm FileOutcome.compare (analyzer.outcomes parser repositoryId discovery)
  have report : final.report = _ := RunOutput.report_afterEmission _ _ _
  obtain ⟨parsed, parseFailed, files, discovered⟩ :=
    statuses_written analyzer parser repositoryId discovery
  obtain ⟨resolving, emitting⟩ :=
    countP_failures_written analyzer parser repositoryId discovery staged
  have tallied := isTallied_written analyzer parser repositoryId discovery
  have ambiguities : final.report.ambiguities = output.ambiguities.length := by
    rw [report]
    rfl
  refine {
    discovered, parsed, parseFailed
    taken := perm.filterMap FileOutcome.entry
    statuses := ?_
    entities := ?_
    observations := ?_
    unparsed := ?_
    failures := ?_
    stages := tallied
    ambiguities := ?_
    emitted := ?_
    lengths := ⟨files, ?_, ?_, ambiguities⟩ }
  · rw [parsed, parseFailed, files]
    exact countP_status_add final.files
  · intro entity member
    obtain ⟨outcome, isOutcome, inOutcome, _, arises⟩ :=
      exists_arises_of_mem_flatMap _ _ _ _ member
    exact ⟨outcome, isOutcome, inOutcome, arises.parsed_of_mem_entities inOutcome⟩
  · refine ⟨_, ?_, perm.flatMap_right FileOutcome.observations, rfl⟩
    intro observation member
    obtain ⟨outcome, isOutcome, inOutcome, _, arises⟩ :=
      exists_arises_of_mem_flatMap _ _ _ _ member
    exact ⟨outcome, isOutcome, inOutcome, arises.parsed_of_mem_observations inOutcome⟩
  · intro outcome isOutcome entry isEntry inLanguage unparsed
    obtain ⟨file, _, arises⟩ := arises_of_mem_outcomes isOutcome
    rw [arises.relativePath_eq isEntry]
    exact arises.failure_of_unparsed isEntry inLanguage unparsed
  · rw [failures_written]
    exact (((perm.flatMap_right _).append_left _).append_right _).append_right _
  · rw [tallied.failuresIn_eq, Report.countIn, resolving, ambiguities]
  · rw [tallied.failuresIn_eq, Report.countIn, emitting]
    show final.report.emitted + _ = _
    rw [report]
    exact analyzer.ontology.length_emit output.files output.entities output.edges
  · show final.report.entities = _
    rw [report]
    rfl
  · show final.report.edges = _
    rw [report]
    rfl

/-- The sample accounts for everything; it has a path that is ignored, two files that are not
parsed, and one that is. -/
theorem isBalanced_written_sample :
    (Analyzer.sample.outcomes sampleParser "r" Discovery.sample).map FileOutcome.status? =
        [none, some .notParsed, some .notParsed, some .parsed] ∧
      (∀ failure ∈ Discovery.sample.failures, failure.stage = .discover) ∧
      (Analyzer.sample.written
        (Analyzer.sample.runOn sampleParser "r" Discovery.sample)).1.IsBalanced Discovery.sample
          (Analyzer.sample.outcomes sampleParser "r" Discovery.sample)
          ((Analyzer.sample.runOn sampleParser "r" Discovery.sample).emit
            Analyzer.sample.ontology) :=
  ⟨by decide +kernel, by decide,
    isBalanced_written_runOn Analyzer.sample sampleParser "r" Discovery.sample (by decide)⟩

end Analyzer

end CodeGraph
