/-
This file resolves a repository: from its files, its entities and what was observed in its
sources it makes the edges of the graph, and it notes the references that were ambiguous.
-/
import CodeGraph.Resolution.Containment
import CodeGraph.Resolution.Documentation
import CodeGraph.Resolution.Reference

namespace CodeGraph

/-- The edges of a graph and the references that were ambiguous. -/
structure Resolution where
  /-- The set of the edges, in ascending order. -/
  edges : List Edge
  /-- The ambiguities by file, line and name. -/
  ambiguities : List Ambiguity
  deriving Repr, DecidableEq

namespace Corpus

/-- The edges that a repository gives rise to, in the order in which they are found. -/
def foundEdges (corpus : Corpus) (observations : List Observation) : List Edge :=
  corpus.entities.containmentEdges
    ++ observations.flatMap (fun observation => (corpus.resolveObservation observation).edges)
    ++ corpus.resolveTests.edges
    ++ corpus.entities.documentationEdges

/-- The ambiguities that are found in a repository, in the order in which they are found. -/
def foundAmbiguities (corpus : Corpus) (observations : List Observation) : List Ambiguity :=
  observations.flatMap (fun observation => (corpus.resolveObservation observation).ambiguities)
    ++ corpus.resolveTests.ambiguities

/-- The edges of the graph and the references that were ambiguous. -/
def resolve (corpus : Corpus) (observations : List Observation) : Resolution :=
  ⟨EdgeSet.ofList (corpus.foundEdges observations),
    sortBy Ambiguity.compare (corpus.foundAmbiguities observations)⟩

end Corpus

end CodeGraph
