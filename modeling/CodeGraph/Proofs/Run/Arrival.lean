/-
This file proves that a run does not depend on its workers.

The workers are a pool that moves: it takes up a file that is waiting, as long as fewer than the
limit are running, or delivers the outcome of a file that is running. What a move can do is said
once (`Pool.step?_cases`), and two things are read off it. The outcomes that are delivered and
those that are to come are the same but for their order. And the number of moves that are left goes
down by one. By induction on the moves the first says that a finished pool has delivered the
outcome of each file exactly once, in some order (`Pool.delivered_perm`), and the second that each
pool comes to an end and can be brought to one.

It is left to show that the order makes no difference. A run sorts the outcomes by path. If the
paths of the files differ, outcomes with a path compare equal only if they are the same, and those
without one are all alike, since they are the outcomes of ignored files. So the order in which the
outcomes arrive is forgotten by the sorting, although it keeps equal ones as they come
(`separates_outcomes`). What an outcome of a file can be is all that is known of the analysis here;
whatever the parser and the rules do, they do the same in both runs.
-/
import CodeGraph.Proofs.Run.Outcomes
import CodeGraph.Proofs.Sorting
import CodeGraph.Run.Pool

namespace CodeGraph

/-! ### What a pool delivers -/

theorem ExtractionSettings.workerLimit_pos (settings : ExtractionSettings)
    (processors : Option Nat) : 0 < settings.workerLimit processors := by
  unfold workerLimit
  split <;> omega

namespace Pool

variable {limit : Nat} {analyze : DiscoveredFile → FileOutcome} {pool next final : Pool}

/-- The outcomes that are delivered and those that are to come. -/
def outcomes (analyze : DiscoveredFile → FileOutcome) (pool : Pool) : List FileOutcome :=
  pool.delivered ++ (pool.running ++ pool.waiting).map analyze

/-- The number of moves that are left: every file is taken up and delivered. -/
def movesLeft (pool : Pool) : Nat := 2 * pool.waiting.length + pool.running.length

theorem step?_cases {move : Move} (isStep : pool.step? limit analyze move = some next) :
    (∃ file waiting, pool.waiting = file :: waiting ∧ pool.running.length < limit ∧
      next = ⟨waiting, pool.running ++ [file], pool.delivered⟩) ∨
    (∃ (place : Nat) (inRange : place < pool.running.length),
      next = ⟨pool.waiting, pool.running.eraseIdx place,
        pool.delivered ++ [analyze pool.running[place]]⟩) := by
  cases move with
  | take =>
    simp only [step?] at isStep
    split at isStep
    · next file waiting isNext =>
      split at isStep
      · next free => exact .inl ⟨file, waiting, isNext, free, (Option.some.inj isStep).symm⟩
      · cases isStep
    · cases isStep
  | deliver place =>
    simp only [step?] at isStep
    split at isStep
    · next file isRunning =>
      obtain ⟨inRange, rfl⟩ := List.getElem?_eq_some_iff.mp isRunning
      exact .inr ⟨place, inRange, (Option.some.inj isStep).symm⟩
    · cases isStep

/-- A move changes no more than the order of the outcomes. -/
theorem outcomes_perm_of_step {move : Move}
    (isStep : pool.step? limit analyze move = some next) :
    (next.outcomes analyze).Perm (pool.outcomes analyze) := by
  obtain ⟨file, waiting, isNext, _, rfl⟩ | ⟨place, inRange, rfl⟩ := step?_cases isStep
  · simp only [outcomes, isNext, List.append_assoc, List.singleton_append]
    rfl
  · have kept : (pool.running[place] :: pool.running.eraseIdx place).Perm pool.running :=
      List.getElem_cons_eraseIdx_perm inRange
    simp only [outcomes, List.append_assoc, List.singleton_append]
    refine List.Perm.append_left pool.delivered ?_
    rw [← List.map_cons, ← List.cons_append]
    exact (kept.append_right pool.waiting).map analyze

theorem movesLeft_of_step {move : Move} (isStep : pool.step? limit analyze move = some next) :
    next.movesLeft + 1 = pool.movesLeft := by
  obtain ⟨file, waiting, isNext, _, rfl⟩ | ⟨place, inRange, rfl⟩ := step?_cases isStep
  · simp only [movesLeft, isNext, List.length_append, List.length_cons, List.length_nil]
    omega
  · have erased := List.length_eraseIdx_add_one inRange
    simp only [movesLeft]
    omega

/-- No more files are analysed at a time than the limit allows. -/
theorem length_running_le_of_step {move : Move}
    (isStep : pool.step? limit analyze move = some next) (within : pool.running.length ≤ limit) :
    next.running.length ≤ limit := by
  obtain ⟨file, waiting, _, free, rfl⟩ | ⟨place, inRange, rfl⟩ := step?_cases isStep
  · rw [List.length_append, List.length_singleton]
    exact free
  · have erased := List.length_eraseIdx_add_one inRange
    show (pool.running.eraseIdx place).length ≤ limit
    omega

/-- A pool that is not finished can go on. -/
theorem exists_step (positive : 0 < limit) (unfinished : pool.isFinished = false) :
    ∃ move next, pool.step? limit analyze move = some next := by
  obtain ⟨waiting, running, delivered⟩ := pool
  cases running with
  | cons file running =>
    exact ⟨.deliver 0, _, rfl⟩
  | nil =>
    cases waiting with
    | cons file waiting => exact ⟨.take, _, if_pos positive⟩
    | nil => cases unfinished

/-! ### Whole runs of a pool -/

/-- What every move keeps is kept by any number of moves. -/
theorem run?_induction {motive : Pool → Prop}
    (keeps : ∀ {pool next : Pool} {move : Move},
      pool.step? limit analyze move = some next → motive pool → motive next) :
    ∀ {moves : List Move} {pool : Pool}, motive pool →
      pool.run? limit analyze moves = some final → motive final := by
  intro moves
  induction moves with
  | nil =>
    intro pool holds isRun
    exact Option.some.inj isRun ▸ holds
  | cons move moves inductionHypothesis =>
    intro pool holds isRun
    obtain ⟨next, isStep, isRest⟩ := Option.bind_eq_some_iff.mp isRun
    exact inductionHypothesis (keeps isStep holds) isRest

theorem outcomes_perm_of_run {moves : List Move}
    (isRun : pool.run? limit analyze moves = some final) :
    (final.outcomes analyze).Perm (pool.outcomes analyze) :=
  run?_induction (motive := fun later => (later.outcomes analyze).Perm (pool.outcomes analyze))
    (fun isStep perm => (outcomes_perm_of_step isStep).trans perm) (.refl _) isRun

theorem length_running_le_of_run {moves : List Move}
    (isRun : pool.run? limit analyze moves = some final) (within : pool.running.length ≤ limit) :
    final.running.length ≤ limit :=
  run?_induction length_running_le_of_step within isRun

/-- Each run of a pool comes to an end: every move is one of those that were left. -/
theorem movesLeft_of_run {moves : List Move}
    (isRun : pool.run? limit analyze moves = some final) :
    final.movesLeft + moves.length = pool.movesLeft := by
  induction moves generalizing pool with
  | nil => rw [Option.some.inj isRun, List.length_nil, Nat.add_zero]
  | cons move moves inductionHypothesis =>
    obtain ⟨next, isStep, isRest⟩ := Option.bind_eq_some_iff.mp isRun
    rw [List.length_cons, ← Nat.add_assoc, inductionHypothesis isRest, movesLeft_of_step isStep]

/-- A finished pool has delivered the outcome of each file once. -/
theorem delivered_perm {files : List DiscoveredFile} {moves : List Move}
    (isRun : (begin files).run? limit analyze moves = some final)
    (finished : final.isFinished = true) : final.delivered.Perm (files.map analyze) := by
  have perm := outcomes_perm_of_run isRun
  obtain ⟨noneWaiting, noneRunning⟩ := Bool.and_eq_true_iff.mp finished
  rwa [outcomes, List.isEmpty_iff.mp noneWaiting, List.isEmpty_iff.mp noneRunning,
    List.append_nil, List.map_nil, List.append_nil] at perm

theorem run?_append {moves rest : List Move}
    (isRun : pool.run? limit analyze moves = some next) :
    pool.run? limit analyze (moves ++ rest) = next.run? limit analyze rest := by
  induction moves generalizing pool with
  | nil => rw [Option.some.inj isRun, List.nil_append]
  | cons move moves inductionHypothesis =>
    obtain ⟨later, isStep, isRest⟩ := Option.bind_eq_some_iff.mp isRun
    rw [List.cons_append, run?, isStep]
    exact inductionHypothesis isRest

/-- Every pool can be brought to its end. -/
theorem exists_finishing (positive : 0 < limit) (pool : Pool) :
    ∃ moves final, pool.run? limit analyze moves = some final ∧ final.isFinished = true := by
  -- Every step is one of the moves that are left, so their number carries the induction.
  induction left : pool.movesLeft generalizing pool with
  | zero =>
    refine ⟨[], pool, rfl, ?_⟩
    simp only [movesLeft] at left
    rw [isFinished, List.eq_nil_of_length_eq_zero (by omega : pool.waiting.length = 0),
      List.eq_nil_of_length_eq_zero (by omega : pool.running.length = 0)]
    rfl
  | succ left inductionHypothesis =>
    cases finished : pool.isFinished with
    | true => exact ⟨[], pool, rfl, finished⟩
    | false =>
      obtain ⟨move, next, isStep⟩ : ∃ move next, pool.step? limit analyze move = some next :=
        exists_step positive finished
      have fewer := movesLeft_of_step isStep
      obtain ⟨moves, final, isRun, isFinal⟩ := inductionHypothesis next (by omega)
      refine ⟨move :: moves, final, ?_, isFinal⟩
      rw [run?, isStep]
      exact isRun

end Pool

/-! ### The order of the outcomes -/

namespace FileOutcome

/-- The path of the file, unless it is ignored. -/
def path? (outcome : FileOutcome) : Option String :=
  outcome.entry.map fun entry => entry.file.relativePath

theorem compare_eq_compareOn : FileOutcome.compare = compareOn path? := by
  funext left right
  obtain ⟨_ | leftEntry, _, _, _⟩ := left <;> obtain ⟨_ | rightEntry, _, _, _⟩ := right <;> rfl

instance : Std.TransCmp FileOutcome.compare := by
  rw [compare_eq_compareOn]
  infer_instance

theorem path?_eq_of_compare_eq {left right : FileOutcome} (same : left.compare right = .eq) :
    left.path? = right.path? := by
  rw [compare_eq_compareOn] at same
  exact Std.LawfulEqCmp.eq_of_compare same

/-- Only what comes of an ignored path has no path. -/
theorem Arises.path?_cases {path : String} {outcome : FileOutcome} (arises : outcome.Arises path) :
    outcome = .ignored ∨ outcome.path? = some path := by
  cases isEntry : outcome.entry with
  | none => exact .inl (arises.eq_ignored isEntry)
  | some entry =>
    refine .inr ?_
    rw [path?, isEntry, Option.map_some, arises.relativePath_eq isEntry]

end FileOutcome

/-- A path that does not come after another and differs from it comes before it. -/
theorem lt_of_isLE_of_ne {left right : String} (below : (compare left right).isLE)
    (differs : left ≠ right) : left < right := by
  by_contra notLess
  have above : compare left right = .gt := by
    show compareOfLessAndEq left right = .gt
    rw [compareOfLessAndEq, if_neg notLess, if_neg differs]
  rw [above] at below
  cases below

namespace Analyzer

variable {engine : RegularExpression.Engine} {analyzer : Analyzer engine} {parser : TreeParser}
  {repositoryId : String} {discovery : Discovery}

theorem arises_analyzeDiscovered (file : DiscoveredFile) :
    (analyzer.analyzeDiscovered parser repositoryId file).Arises file.relativePath :=
  arises_analyze repositoryId file.size file.content

/-- Outcomes of files with different paths compare equal only if both files are ignored. -/
theorem separates_outcomes
    (distinct : (discovery.files.map DiscoveredFile.relativePath).Nodup) :
    Separates FileOutcome.compare (analyzer.outcomes parser repositoryId discovery) := by
  intro left leftMember right rightMember same
  obtain ⟨file, isFile, rfl⟩ := List.mem_map.mp leftMember
  obtain ⟨other, isOther, rfl⟩ := List.mem_map.mp rightMember
  have samePath := FileOutcome.path?_eq_of_compare_eq same
  -- Of two outcomes with the same path either both or none belong to an ignored file.
  obtain isIgnored | hasPath := (arises_analyzeDiscovered file).path?_cases
  · obtain otherIgnored | otherPath := (arises_analyzeDiscovered other).path?_cases
    · rw [isIgnored, otherIgnored]
    · rw [isIgnored, otherPath] at samePath
      cases samePath
  · obtain otherIgnored | otherPath := (arises_analyzeDiscovered other).path?_cases
    · rw [hasPath, otherIgnored] at samePath
      cases samePath
    · rw [hasPath, otherPath] at samePath
      rw [List.inj_on_of_nodup_map distinct isFile isOther (Option.some.inj samePath)]

/-- No two files of a run have the same path. -/
theorem pairwise_outcomes
    (distinct : (discovery.files.map DiscoveredFile.relativePath).Nodup) :
    (analyzer.outcomes parser repositoryId discovery).Pairwise fun left right =>
      ∀ entry, left.entry = some entry → ∀ other, right.entry = some other →
        entry.file.relativePath ≠ other.file.relativePath := by
  refine List.pairwise_map.mpr ((List.pairwise_map.mp distinct).imp ?_)
  intro file other differ entry isEntry otherEntry isOther samePath
  refine differ ?_
  rw [← (arises_analyzeDiscovered file).relativePath_eq isEntry,
    ← (arises_analyzeDiscovered other).relativePath_eq isOther]
  exact samePath

/-- The files of a run ascend by path. -/
theorem pairwise_files_runOn
    (distinct : (discovery.files.map DiscoveredFile.relativePath).Nodup) :
    (analyzer.runOn parser repositoryId discovery).files.Pairwise fun left right =>
      left.file.relativePath < right.file.relativePath := by
  let outcomes := analyzer.outcomes parser repositoryId discovery
  have differ : (sortBy FileOutcome.compare outcomes).Pairwise fun left right =>
      ∀ entry, left.entry = some entry → ∀ other, right.entry = some other →
        entry.file.relativePath ≠ other.file.relativePath := by
    refine ((sortBy_perm _ outcomes).pairwise_iff ?_).mpr (pairwise_outcomes distinct)
    intro left right differ entry isEntry other isOther
    exact (differ other isOther entry isEntry).symm
  have ascend := pairwise_sortBy FileOutcome.compare outcomes
  refine List.pairwise_filterMap.mpr ((ascend.and differ).imp ?_)
  rintro left right ⟨below, differ⟩ entry isEntry other isOther
  refine lt_of_isLE_of_ne ?_ (differ entry isEntry other isOther)
  simpa only [FileOutcome.compare, isEntry, isOther] using below

/-- The order in which the outcomes arrive makes no difference. -/
theorem assemble_eq_runOn
    (distinct : (discovery.files.map DiscoveredFile.relativePath).Nodup)
    {arrived : List FileOutcome}
    (perm : arrived.Perm (analyzer.outcomes parser repositoryId discovery)) :
    RunOutput.assemble repositoryId discovery.failures arrived =
      analyzer.runOn parser repositoryId discovery := by
  have sorted : sortBy FileOutcome.compare arrived =
      sortBy FileOutcome.compare (analyzer.outcomes parser repositoryId discovery) :=
    (sortBy_eq_of_perm (separates_outcomes distinct) perm.symm).symm
  rw [RunOutput.assemble, sorted]
  rfl

/-- A pool that has finished gives what the run gives. -/
theorem runInPool?_eq_some
    (distinct : (discovery.files.map DiscoveredFile.relativePath).Nodup)
    {processors : Option Nat} {moves : List Pool.Move} {pool : Pool}
    (isPool : analyzer.poolAfter? parser repositoryId discovery processors moves = some pool)
    (finished : pool.isFinished = true) :
    analyzer.runInPool? parser repositoryId discovery processors moves =
      some (analyzer.runOn parser repositoryId discovery) := by
  have perm : pool.delivered.Perm (analyzer.outcomes parser repositoryId discovery) :=
    Pool.delivered_perm isPool finished
  rw [runInPool?, isPool]
  show (if pool.isFinished = true then _ else none) = _
  rw [if_pos finished, assemble_eq_runOn distinct perm]

/-- A run does not depend on its workers. In whatever order the outcomes arrive, the run gives the
same; a pool, whatever moves it has made, can be brought to its end, and at any end it gives just
that; and the files of the run ascend by path. -/
theorem runOn_ignores_scheduling
    (distinct : (discovery.files.map DiscoveredFile.relativePath).Nodup) :
    (∀ arrived : List FileOutcome,
      arrived.Perm (analyzer.outcomes parser repositoryId discovery) →
        RunOutput.assemble repositoryId discovery.failures arrived =
          analyzer.runOn parser repositoryId discovery) ∧
    (∀ (processors : Option Nat) (moves : List Pool.Move) (pool : Pool),
      analyzer.poolAfter? parser repositoryId discovery processors moves = some pool →
        (pool.isFinished = true →
          analyzer.runInPool? parser repositoryId discovery processors moves =
            some (analyzer.runOn parser repositoryId discovery)) ∧
        ∃ rest, analyzer.runInPool? parser repositoryId discovery processors (moves ++ rest) =
          some (analyzer.runOn parser repositoryId discovery)) ∧
    (analyzer.runOn parser repositoryId discovery).files.Pairwise fun left right =>
      left.file.relativePath < right.file.relativePath := by
  refine ⟨?_, ?_, pairwise_files_runOn distinct⟩
  · intro arrived perm
    exact assemble_eq_runOn distinct perm
  · intro processors moves pool isPool
    refine ⟨runInPool?_eq_some distinct isPool, ?_⟩
    obtain ⟨rest, final, isRun, finished⟩ := Pool.exists_finishing
      (analyzer.settings.workerLimit_pos processors) pool
    refine ⟨rest, runInPool?_eq_some distinct ?_ finished⟩
    rw [poolAfter?, Pool.run?_append isPool]
    exact isRun

/-- Two workers deliver the files of the sample in another order, the first of them last. -/
theorem runOn_ignores_scheduling_sample :
    (Discovery.sample.files.map DiscoveredFile.relativePath).Nodup ∧
      Analyzer.sample.runInPool? sampleParser "repo" Discovery.sample (some 2)
          [.take, .take, .deliver 1, .take, .deliver 1, .take, .deliver 1, .deliver 0] =
        some (Analyzer.sample.runOn sampleParser "repo" Discovery.sample) := by
  have distinct : (Discovery.sample.files.map DiscoveredFile.relativePath).Nodup := by decide
  exact ⟨distinct, ((runOn_ignores_scheduling distinct).2.1 (some 2) _ _ rfl).1 rfl⟩

end Analyzer

end CodeGraph
