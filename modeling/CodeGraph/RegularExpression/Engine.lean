/-
This file says what is asked of an implementation of regular expressions: which patterns there are,
and what they match. What is proved about rules is proved for every implementation. The one of this
library stands for the one that a program is linked with.
-/
import CodeGraph.RegularExpression.Parser

namespace CodeGraph.RegularExpression

/-- An implementation of regular expressions. -/
structure Engine where
  /-- Patterns as they are kept to be matched. -/
  Compiled : Type
  /-- Reads a pattern; there is nothing to keep if it is no regular expression. -/
  compile? : String → Option Compiled
  /-- Whether a pattern matches some part of a text. -/
  isMatch : Compiled → String → Bool

/-- The implementation by expressions. It reads a part of the patterns that others read: of the
properties of characters it knows the general categories and a few others, but no scripts, and it
has no limit on how deeply a pattern is nested and its own limit on how far repetitions are written
out. -/
def Engine.standard : Engine := ⟨Expression, parse?, Expression.isMatch⟩

end CodeGraph.RegularExpression
