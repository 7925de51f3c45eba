/-
This file lets a pool of workers analyse the files that are discovered. The files are taken up in
their order, no more than a limit at a time, and an outcome is delivered as soon as it is there: a
file that is taken up late may be delivered early. What the pool does is a sequence of moves; which
of the possible moves comes next is left open, as it depends on what the workers have to do.
-/
import CodeGraph.Run.Basic

namespace CodeGraph

/-- How many files are analysed at a time: as many as the settings say, and if they leave it to the
machine one for each of its processors. -/
def ExtractionSettings.workerLimit (settings : ExtractionSettings) (processors : Option Nat) :
    Nat :=
  if 0 < settings.workers then settings.workers else max 1 (processors.getD 1)

/-- How far a pool has come. -/
structure Pool where
  /-- The files that are not taken up yet. -/
  waiting : List DiscoveredFile
  running : List DiscoveredFile
  /-- The outcomes as they arrived. -/
  delivered : List FileOutcome
  deriving Repr, DecidableEq

namespace Pool

/-- What a pool does next. -/
inductive Move where
  /-- The next file is taken up. -/
  | take
  /-- The worker at a place is done. -/
  | deliver (place : Nat)
  deriving Repr, DecidableEq

/-- A pool that has the given files to analyse. -/
def begin (files : List DiscoveredFile) : Pool := ⟨files, [], []⟩

/-- Whether everything is delivered. -/
def isFinished (pool : Pool) : Bool := pool.waiting.isEmpty && pool.running.isEmpty

/-- The pool after a move, if it can be made. -/
def step? (limit : Nat) (analyze : DiscoveredFile → FileOutcome) (pool : Pool) :
    Move → Option Pool
  | .take =>
    match pool.waiting with
    | file :: waiting =>
      if pool.running.length < limit then some ⟨waiting, pool.running ++ [file], pool.delivered⟩
      else none
    | [] => none
  | .deliver place =>
    match pool.running[place]? with
    | some file =>
      some ⟨pool.waiting, pool.running.eraseIdx place, pool.delivered ++ [analyze file]⟩
    | none => none

/-- The pool after moves, if all of them can be made. -/
def run? (limit : Nat) (analyze : DiscoveredFile → FileOutcome) :
    Pool → List Move → Option Pool
  | pool, [] => some pool
  | pool, move :: moves => (pool.step? limit analyze move).bind (run? limit analyze · moves)

end Pool

namespace Analyzer

variable {engine : RegularExpression.Engine}

/-- The pool after moves over discovered files, on a machine with a number of processors. -/
def poolAfter? (analyzer : Analyzer engine) (parser : TreeParser) (repositoryId : String)
    (discovery : Discovery) (processors : Option Nat) (moves : List Pool.Move) : Option Pool :=
  (Pool.begin discovery.files).run? (analyzer.settings.workerLimit processors)
    (analyzer.analyzeDiscovered parser repositoryId) moves

/-- What a run gives whose pool makes the given moves, if they finish it. -/
def runInPool? (analyzer : Analyzer engine) (parser : TreeParser) (repositoryId : String)
    (discovery : Discovery) (processors : Option Nat) (moves : List Pool.Move) :
    Option RunOutput :=
  match analyzer.poolAfter? parser repositoryId discovery processors moves with
  | some pool =>
    if pool.isFinished then some (.assemble repositoryId discovery.failures pool.delivered)
    else none
  | none => none

end Analyzer

end CodeGraph
