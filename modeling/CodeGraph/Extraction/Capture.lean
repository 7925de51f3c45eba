/-
This file turns the matches of the query tables into definitions, which become entities, and
references, which become observations. A match whose name is of no use is dropped with a
warning.
-/
import CodeGraph.Graph.Observation
import CodeGraph.Language.Basic
import CodeGraph.SourceText
import CodeGraph.Text.Quoted

namespace CodeGraph

/-- The bytes from one offset up to another one. -/
structure ByteRange where
  start : Nat
  stop : Nat
  deriving Repr, DecidableEq

namespace ByteRange

/-- The number of bytes. -/
def size (range : ByteRange) : Nat := range.stop - range.start

/-- Whether a byte lies in a range. -/
def contains (range : ByteRange) (offset : Nat) : Bool :=
  range.start ≤ offset && offset < range.stop

/-- Whether a range lies within another one. -/
def encloses (outer inner : ByteRange) : Bool :=
  outer.start ≤ inner.start && inner.stop ≤ outer.stop

end ByteRange

/-- The bytes that a node takes up. -/
def SyntaxNode.range (node : SyntaxNode) : ByteRange := ⟨node.start, node.stop⟩

/-- A construct that is defined in a source. -/
structure Definition where
  kind : Construct
  range : ByteRange
  /-- Where the name stands. -/
  nameRange : Option ByteRange
  span : Span
  name : String
  /-- The name of the type that the construct says it belongs to. -/
  owner : Option String
  deriving Repr, DecidableEq

/-- A place in a source that refers to something by its name. -/
structure Reference where
  kind : ObservationKind
  /-- The offset by which the construct around it is found. -/
  anchor : Nat
  /-- Where the name stands. -/
  nameRange : Option ByteRange
  span : Span
  target : String
  receiver : Option String
  member : Option String
  /-- The name of the type that the reference says it belongs to. -/
  owner : Option String
  deriving Repr, DecidableEq

/-- Why a match is dropped. -/
inductive CaptureFault where
  /-- The match of a pattern does not say where the construct is. -/
  | noAnchor (pattern : Nat)
  /-- It is not said what a reference refers to. -/
  | unusableReference
  /-- A definition has no name that could be used. -/
  | unusableName (raw : String)
  deriving Repr, DecidableEq

/-- A match that was dropped. -/
structure ExtractionWarning where
  line : Nat
  kind : Construct
  fault : CaptureFault
  deriving Repr, DecidableEq

/-- A warning on one line. -/
def ExtractionWarning.description (warning : ExtractionWarning) : String :=
  let kind := warning.kind.name
  let message := match warning.fault with
    | .noAnchor pattern => s!"pattern #{pattern} matched without an anchor capture"
    | .unusableReference => s!"discarded {kind} with an empty or unparsable reference"
    | .unusableName raw =>
      s!"discarded {kind} with empty or unparsable name {Text.quoted raw}"
  s!"line {warning.line}: {kind}: {message}"

/-- What a match stands for. -/
inductive Capture where
  | definition (definition : Definition)
  | reference (reference : Reference)
  deriving Repr, DecidableEq

namespace Capture

open Text

/-! ### Names -/

/-- A name, if it is neither empty nor broken by a control character. -/
def usable? (name : List Char) : Option String :=
  if name.isEmpty || name.any isControl then none else some (String.ofList name)

/-- A name without white space and colons around it. -/
def cleanName? (raw : String) : Option String :=
  usable? <|
    trimWhere isBlank <| (trimWhere isBlank raw.toList).dropWhile (· == ':')

/-- A quotation mark or an angle bracket. -/
def isPathQuote (character : Char) : Bool :=
  character == '"' || character == '\'' || character == '\x60' || character == '<'
    || character == '>'

/-- A path without white space and quotation marks around it. -/
def cleanPath? (raw : String) : Option String :=
  usable? <|
    trimWhere isBlank <| trimWhere isPathQuote <| trimWhere isBlank raw.toList

/-! ### Matches -/

/-- The node that says where a construct is. -/
def anchor? (kind : Construct) (found : Match) : Option SyntaxNode :=
  match kind with
  | .importDeclaration => (found.captured? .definition).or (found.captured? .path)
  | .inheritance => found.captured? .supertype
  | _ => (found.captured? .definition).or (found.captured? .name)

/-- The text of a node. -/
def textOf (source : SourceText) (node : SyntaxNode) : String :=
  source.slice node.start node.stop

/-- The text captured in a role; empty if there is none. -/
def textIn (source : SourceText) (found : Match) (role : Role) : String :=
  ((found.captured? role).map (textOf source)).getD ""

/-- The name captured in a role. -/
def nameIn? (source : SourceText) (found : Match) (role : Role) : Option String :=
  (found.captured? role).bind fun node => cleanName? (textOf source node)

/-- What a call goes to, as it is written. -/
def receiver? (source : SourceText) (found : Match) : Option String :=
  let text := trim (textIn source found .receiver)
  if text = "" then none else some text

/-- What a reference refers to. -/
def target? (source : SourceText) (found : Match) : ObservationKind → Option String
  | .call => cleanName? (textIn source found .name)
  | .import => cleanPath? (textIn source found .path)
  | .inheritance => cleanName? (textIn source found .supertype)

/-- The lines of a node; the last one is not above the first one. -/
def spanOf (source : SourceText) (node : SyntaxNode) : Span :=
  let startLine := source.startLine node.start
  ⟨startLine, max (source.endLine node.start node.stop) startLine⟩

/-- The name by which a comment is known: its line and its column. -/
def commentName (source : SourceText) (node : SyntaxNode) : String :=
  s!"comment_L{source.startLine node.start}C{source.column node.start + 1}"

/-- The name of what is defined. -/
def definedName? (source : SourceText) (kind : Construct) (anchor : SyntaxNode)
    (found : Match) : Option String :=
  if kind = .comment then some (commentName source anchor)
  else cleanName? (textIn source found .name)

/-- What a match of the pattern with the given place among those of its kind stands for. -/
def ofMatch (source : SourceText) (kind : Construct) (pattern : Nat) (found : Match) :
    Except ExtractionWarning Capture :=
  match anchor? kind found with
  | none => .error ⟨0, kind, .noAnchor pattern⟩
  | some anchor =>
    let span := spanOf source anchor
    let nameRange := (found.captured? .name).map SyntaxNode.range
    let owner := nameIn? source found .owner
    match ObservationKind.ofConstruct? kind with
    | some observation =>
      match target? source found observation with
      | none => .error ⟨span.startLine, kind, .unusableReference⟩
      | some target =>
        .ok <| .reference {
          kind := observation, anchor := anchor.start, nameRange, span, target,
          receiver := receiver? source found, member := nameIn? source found .member, owner }
    | none =>
      match definedName? source kind anchor found with
      | none => .error ⟨span.startLine, kind, .unusableName (textIn source found .name)⟩
      | some name =>
        .ok <| .definition { kind, range := anchor.range, nameRange, span, name, owner }

/-- What the matches of a query table within a tree stand for, in the order of the table. -/
def ofTable (source : SourceText) (tree : SyntaxTree) (table : Queries.Table) :
    List (Except ExtractionWarning Capture) :=
  table.flatMap fun (kind, patterns) =>
    patterns.zipIdx.flatMap fun (pattern, index) =>
      (pattern.search source tree).map (ofMatch source kind index)

end Capture

end CodeGraph
