/-
This file looks at a source text by byte offsets: in which row and column an offset lies, and
which text stands between two offsets. A row is the number of newlines before the offset.
-/
import CodeGraph.Text.Utf8

namespace CodeGraph

/-- A source text as its bytes in UTF-8. -/
structure SourceText where
  bytes : List UInt8
  deriving Repr, DecidableEq

namespace SourceText

/-- The byte of a newline. -/
def newline : UInt8 := 10

/-- The bytes of a text. -/
def ofString (text : String) : SourceText := ⟨Text.Utf8.encode text⟩

/-- The number of newlines before an offset. -/
def row (source : SourceText) (offset : Nat) : Nat := (source.bytes.take offset).count newline

/-- The number of bytes between the last newline before an offset and the offset. -/
def column (source : SourceText) (offset : Nat) : Nat :=
  ((source.bytes.take offset).reverse.takeWhile (· != newline)).length

/-- The text between two offsets; empty if they do not enclose whole characters of the text. -/
def slice (source : SourceText) (start stop : Nat) : String :=
  if start ≤ stop ∧ stop ≤ source.bytes.length then
    match Text.Utf8.decode ((source.bytes.drop start).take (stop - start)) with
    | .ok text => text
    | .error _ => ""
  else ""

/-- The number of the line in which a range starts, counted from one. -/
def startLine (source : SourceText) (start : Nat) : Nat := source.row start + 1

/-- The number of the line in which a range ends. A range that ends with a newline ends in the
line that the newline closes. -/
def endLine (source : SourceText) (start stop : Nat) : Nat :=
  if source.column stop = 0 ∧ source.row start < source.row stop then source.row stop
  else source.row stop + 1

end SourceText

end CodeGraph
