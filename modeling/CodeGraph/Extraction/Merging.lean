/-
This file unites the definitions that several patterns find for one construct: those with the
same range and the same name. The kind that comes first in the order of kinds wins. The united
definitions stand in document order, outer ones before inner ones.
-/
import CodeGraph.Extraction.Capture
import CodeGraph.Sorting

namespace CodeGraph.Definition

/-- Whether two definitions are of the same construct. -/
def isSameConstruct (left right : Definition) : Bool :=
  left.range == right.range && left.name == right.name

/-- One definition for two of the same construct. The one whose kind comes first wins and takes
over an owner that only the other one knows; of two of one kind the earlier one wins. -/
def unite (earlier later : Definition) : Definition :=
  if later.kind.rank < earlier.kind.rank then
    { later with owner := later.owner.or earlier.owner }
  else if later.kind = earlier.kind then
    { earlier with owner := earlier.owner.or later.owner }
  else earlier

/-- Adds a definition to distinct ones. -/
def addMerged (definition : Definition) : List Definition → List Definition
  | [] => [definition]
  | head :: rest =>
    if head.isSameConstruct definition then head.unite definition :: rest
    else head :: addMerged definition rest

/-- Document order: by start, outer before inner, then by kind and name. -/
def compare : Definition → Definition → Ordering :=
  compareLex (compareOn fun definition => definition.range.start)
    (compareLex (fun left right => Ord.compare right.range.stop left.range.stop)
      (compareLex (compareOn fun definition => definition.kind.rank)
        (compareOn Definition.name)))

/-- One definition for each construct, in document order. -/
def merge (definitions : List Definition) : List Definition :=
  sortBy compare (definitions.foldl (fun merged definition => addMerged definition merged) [])

end CodeGraph.Definition
