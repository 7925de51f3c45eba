/-
This file proves that classification does not depend on how a path is spelled.

What a path says are the names between its slashes and backslashes; empty names and single dots say
nothing. The normal spelling of a path can be cut into these names again, because a slash joins
them and none of them holds one. So the normal spelling is the same for two paths exactly if they
say the same, and it is its own normal spelling. Rules see nothing of a path but this spelling.
-/
import CodeGraph.Proofs.Classification.Closure
import CodeGraph.Proofs.Text.Pieces

namespace CodeGraph

namespace Path

/-- The names in a path: what stands between its slashes and backslashes, without what is empty or
a single dot. -/
def names (path : String) : List (List Char) :=
  (path.toList.splitOnP fun character => character = '/' ∨ character = '\\').filter fun piece =>
    piece ≠ [] ∧ piece ≠ ['.']

theorem segments_eq_names (path : String) : segments path = names path := by
  have sameCut : (fun character => character == '/' || character == '\\') =
      fun character : Char => decide (character = '/' ∨ character = '\\') := by
    funext character
    rw [Bool.eq_iff_iff]
    simp
  have sameKept : isMeaningful = fun piece : List Char => decide (piece ≠ [] ∧ piece ≠ ['.']) := by
    funext piece
    rw [Bool.eq_iff_iff]
    simp [isMeaningful]
  rw [segments, names, Text.piecesWhere_eq_splitOnP, sameCut, sameKept]

/-- Paths have the same normal spelling exactly if they have the same names. -/
theorem normalize_eq_iff_names {path other : String} :
    normalize path = normalize other ↔ names path = names other := by
  rw [normalize_eq_iff, segments_eq_names, segments_eq_names]

/-- The normal spelling of a path is its own normal spelling. -/
theorem normalize_normalize (path : String) : normalize (normalize path) = normalize path :=
  normalize_eq_iff.mpr (segments_normalize path)

end Path

namespace RuleSet

/-- Rules see nothing of a path but its normal spelling. -/
theorem classify_congr {engine : RegularExpression.Engine} (rules : RuleSet engine)
    {path other : String} (same : Path.normalize path = Path.normalize other) :
    rules.classify path = rules.classify other := by
  rw [classify, classify, same]

/-- Paths have the same normal spelling exactly if they have the same names, the normal spelling is
its own normal spelling, and paths with the same names are classified alike by all rules. -/
theorem classify_ignores_spelling (path other : String) :
    (Path.normalize path = Path.normalize other ↔ Path.names path = Path.names other) ∧
      Path.normalize (Path.normalize path) = Path.normalize path ∧
      ∀ (engine : RegularExpression.Engine) (rules : RuleSet engine),
        Path.names path = Path.names other → rules.classify path = rules.classify other :=
  ⟨Path.normalize_eq_iff_names, Path.normalize_normalize path,
    fun _ rules same => rules.classify_congr (Path.normalize_eq_iff_names.mpr same)⟩

open ClassifiedFile in
/-- A path with a backslash, a doubled slash and dots is classified like its normal spelling. -/
theorem classify_ignores_spelling_of_sample :
    Path.normalize ".\\src//./p.go" = Path.normalize "src/p.go" ∧
      (ofTable .standard sampleTable).classify ".\\src//./p.go" =
        .classified ⟨"SourceFile", "ProgramCode"⟩ := by
  have sameNames : Path.names ".\\src//./p.go" = Path.names "src/p.go" := by decide +kernel
  obtain ⟨sameSpelling, -, alike⟩ := classify_ignores_spelling ".\\src//./p.go" "src/p.go"
  refine ⟨sameSpelling.mpr sameNames, ?_⟩
  rw [alike .standard (ofTable .standard sampleTable) sameNames]
  decide +kernel

end RuleSet

end CodeGraph
