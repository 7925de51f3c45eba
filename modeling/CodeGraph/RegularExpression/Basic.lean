/-
This file defines regular expressions and decides whether one matches within a text. Matching
follows the set of residual expressions: what is left to match after the characters read so
far. Conditions on a position look at the character before it and the one after it. As only
the fact of a match is asked for, greed and priority play no role.
-/
import CodeGraph.RegularExpression.CharacterSet

namespace CodeGraph.RegularExpression

open Text

/-- A condition on a position in a text. -/
inductive Assertion where
  | textStart
  | textEnd
  /-- A line starts here. Lines end with a line feed, or if asked for also with a carriage return;
  both of them in sequence end one line. -/
  | lineStart (carriageReturns : Bool)
  /-- A line ends here. -/
  | lineEnd (carriageReturns : Bool)
  /-- Exactly one of the two neighbours belongs to a word. -/
  | wordBoundary (wordSet : CharacterSet)
  /-- Both neighbours or neither belong to a word. -/
  | notWordBoundary (wordSet : CharacterSet)
  /-- A word starts here. -/
  | wordStart (wordSet : CharacterSet)
  /-- A word ends here. -/
  | wordEnd (wordSet : CharacterSet)
  /-- No word character stands before. -/
  | noWordBefore (wordSet : CharacterSet)
  /-- No word character stands after. -/
  | noWordAfter (wordSet : CharacterSet)
  deriving Repr, DecidableEq

/-- Whether there is a neighbour and it is in a set. -/
def neighbourIn (set : CharacterSet) (neighbour : Option Char) : Bool :=
  neighbour.any fun character => set.contains character.toNat

/-- Whether a condition holds between two neighbours; a neighbour is absent at an end. -/
def Assertion.holds (before after : Option Char) : Assertion → Bool
  | .textStart => before.isNone
  | .textEnd => after.isNone
  | .lineStart carriageReturns =>
    before.isNone || before == some '\n'
      || (carriageReturns && before == some '\r' && after != some '\n')
  | .lineEnd carriageReturns =>
    after.isNone || (carriageReturns && after == some '\r')
      || (after == some '\n' && !(carriageReturns && before == some '\r'))
  | .wordBoundary wordSet => neighbourIn wordSet before != neighbourIn wordSet after
  | .notWordBoundary wordSet => neighbourIn wordSet before == neighbourIn wordSet after
  | .wordStart wordSet => !neighbourIn wordSet before && neighbourIn wordSet after
  | .wordEnd wordSet => neighbourIn wordSet before && !neighbourIn wordSet after
  | .noWordBefore wordSet => !neighbourIn wordSet before
  | .noWordAfter wordSet => !neighbourIn wordSet after

/-- A regular expression. -/
inductive Expression where
  /-- The empty text. -/
  | empty
  /-- One character of a set. -/
  | oneOf (set : CharacterSet)
  /-- The empty text where a condition holds. -/
  | assertion (condition : Assertion)
  | sequence (first second : Expression)
  | alternative (first second : Expression)
  /-- Any number of repetitions, none included. -/
  | star (body : Expression)
  deriving Repr, DecidableEq

namespace Expression

/-- Whether the empty text matches between two neighbours. -/
def matchesEmpty (before after : Option Char) : Expression → Bool
  | .empty => true
  | .oneOf _ => false
  | .assertion condition => condition.holds before after
  | .sequence first second => matchesEmpty before after first && matchesEmpty before after second
  | .alternative first second =>
    matchesEmpty before after first || matchesEmpty before after second
  | .star _ => true

/-- One expression after another; the empty text adds nothing. -/
def andThen (first second : Expression) : Expression :=
  match first with
  | .empty => second
  | first => .sequence first second

/-- What may be left to match once a character is read after the given neighbour. -/
def residuals (before : Option Char) (character : Char) : Expression → List Expression
  | .empty => []
  | .oneOf set => if set.contains character.toNat then [.empty] else []
  | .assertion _ => []
  | .sequence first second =>
    let afterFirst := (residuals before character first).map (andThen · second)
    if matchesEmpty before (some character) first then
      afterFirst ++ residuals before character second
    else afterFirst
  | .alternative first second =>
    residuals before character first ++ residuals before character second
  | .star body => (residuals before character body).map (andThen · (.star body))

/-- Whether a match ends at the current position or later. The expressions that are being
matched are given; a match may also start at every later position. -/
def matchesWithin (expression : Expression) (before : Option Char)
    (current : List Expression) : List Char → Bool
  | [] => (expression :: current).any (matchesEmpty before none)
  | character :: rest =>
    (expression :: current).any (matchesEmpty before (some character))
      || matchesWithin expression (some character)
        ((expression :: current).flatMap (residuals before character)).eraseDups rest

/-- Whether an expression matches some part of a text. -/
def isMatch (expression : Expression) (text : String) : Bool :=
  matchesWithin expression none [] text.toList

/-- The number of nodes of an expression. -/
def size : Expression → Nat
  | .empty | .oneOf _ | .assertion _ => 1
  | .sequence first second | .alternative first second => size first + size second + 1
  | .star body => size body + 1

/-- The given number of copies in sequence. -/
def times (count : Nat) (body : Expression) : Expression :=
  match count with
  | 0 => .empty
  | 1 => body
  | count + 1 => .sequence body (times count body)

/-- At most the given number of copies in sequence. -/
def atMost (count : Nat) (body : Expression) : Expression :=
  match count with
  | 0 => .empty
  | count + 1 => .alternative .empty (.sequence body (atMost count body))

/-- At least so many repetitions, and at most so many if a bound is given. -/
def repeated (least : Nat) (most : Option Nat) (body : Expression) : Expression :=
  match most with
  | none => andThen (times least body) (.star body)
  | some most => andThen (times least body) (atMost (most - least) body)

end Expression

end CodeGraph.RegularExpression
