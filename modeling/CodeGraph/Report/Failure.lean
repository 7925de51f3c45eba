/-
This file defines failures: what went wrong with one file in one stage of a run. A failure is
noted in the report of the run and does not end it.
-/

namespace CodeGraph

/-- A stage of a run. -/
inductive Stage where
  | discover
  | read
  | parse
  | extract
  | resolve
  | emit
  deriving Repr, DecidableEq

namespace Stage

/-- The stages in order. -/
def all : List Stage := [discover, read, parse, extract, resolve, emit]

/-- The position of a stage. -/
def rank : Stage → Nat
  | discover => 0
  | read => 1
  | parse => 2
  | extract => 3
  | resolve => 4
  | emit => 5

/-- The name of a stage. -/
def name : Stage → String
  | discover => "discover"
  | read => "read"
  | parse => "parse"
  | extract => "extract"
  | resolve => "resolve"
  | emit => "emit"

/-- The stage with the given name. -/
def ofName? (text : String) : Option Stage := all.find? (·.name == text)

end Stage

/-- What went wrong with a file. -/
structure Failure where
  path : String
  stage : Stage
  reason : String
  deriving Repr, DecidableEq

/-- A failure on one line. -/
def Failure.description (failure : Failure) : String :=
  s!"[{failure.stage.name}] {failure.path}: {failure.reason}"

end CodeGraph
