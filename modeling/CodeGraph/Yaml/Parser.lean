/-
This file reads YAML documents: mappings and sequences in the block style, which is given by
indentation, and in the flow style, which is given by brackets. Tags, anchors, explicit keys
and block scalars are not read.
-/
import CodeGraph.Yaml.Scalar

namespace CodeGraph.Yaml

/-- The place of the next content: spaces, comments and line breaks are passed over. Tabs do not
indent. -/
def skipToContent (steps : Nat) (place : Place) : Option Place :=
  match steps with
  | 0 => none
  | steps + 1 =>
    let after := place.skipSpaces
    let comment := after.rest.head? == some '#'
      && (place.column == 0 || after.column != place.column)
    let lineEnd := if comment then after.toLineEnd else after
    match Place.afterBreak? lineEnd.rest with
    | some rest => skipToContent steps ⟨0, rest⟩
    | none =>
      if lineEnd.rest.isEmpty then some lineEnd
      else if place.column == 0
          && (place.rest.takeWhile (· != '\t')).length < after.column then none
      else some after

/-- Whether a document has no more content at a place. -/
def atDocumentEnd (place : Place) : Bool :=
  place.rest.isEmpty || (place.column == 0 && isDocumentMarker place.rest)

/-- The place of the next content behind something that nothing follows on its line. -/
def afterLine? (place : Place) : Option Place :=
  let next := place.skipSpaces
  if next.atLineEnd || (next.rest.head? == some '#' && next.column != place.column) then
    skipToContent (place.rest.length + 1) place
  else none

/-! ### The flow style -/

/-- The place of the next content within brackets; the document does not end there. -/
def skipInFlow (place : Place) : Option Place := do
  let place ← skipToContent (place.rest.length + 1) place
  if atDocumentEnd place then none else some place

/-- The place behind the colon that follows a key within brackets. Behind a quoted key or a
collection the colon may stand without a space. -/
def afterFlowColon? (adjacent : Bool) (place : Place) : Option Place :=
  match place.rest with
  | ':' :: rest =>
    if adjacent || isSeparator rest.head? || rest.head?.any isFlowIndicator then
      some (place.advance 1)
    else none
  | _ => none

/-- The text of a scalar that is a key. -/
def keyText? (value : Value) : Option String := value.text?

mutual

/-- Reads one value within brackets. -/
def readFlow (steps : Nat) (place : Place) : Option (Value × Place) :=
  match steps with
  | 0 => none
  | steps + 1 =>
    match place.rest with
    | '[' :: _ => (readFlowItems steps (place.advance 1)).map fun (items, place) =>
      (.sequence items, place)
    | '\x7b' :: _ => (readFlowEntries steps (place.advance 1)).map fun (entries, place) =>
      (.mapping entries, place)
    | first :: _ =>
      if first == '"' || first == '\'' then
        (readQuoted place).map fun (text, place) => (.scalar text true, place)
      else if startsPlain true place.rest then
        let (text, place) := readPlain (place.rest.length + 1) true 0 place
        some (.scalar (String.ofList text) false, place)
      else none
    | [] => none

/-- Reads the items of a sequence up to its closing bracket. An item that a colon follows is a
mapping of one entry. -/
def readFlowItems (steps : Nat) (place : Place) : Option (List Value × Place) :=
  match steps with
  | 0 => none
  | steps + 1 => do
    let place ← skipInFlow place
    if place.rest.head? == some ']' then return ([], place.advance 1)
    let (item, behind) ← readFlow steps place
    let behind ← skipInFlow behind
    let (item, behind) ← match afterFlowColon? (place.rest.head? == some '"') behind with
      | none => pure (item, behind)
      | some behind => do
        let key ← keyText? item
        let (value, behind) ← readFlowValue steps behind
        pure (Value.mapping [(key, value)], behind)
    match behind.rest.head? with
    | some ']' => return ([item], behind.advance 1)
    | some ',' =>
      let (items, behind) ← readFlowItems steps (behind.advance 1)
      return (item :: items, behind)
    | _ => none

/-- Reads the value behind a colon within brackets, which may be absent. -/
def readFlowValue (steps : Nat) (place : Place) : Option (Value × Place) :=
  match steps with
  | 0 => none
  | steps + 1 => do
    let place ← skipInFlow place
    if place.rest.head?.any fun next => next == ',' || next == ']' || next == '\x7d' then
      return (.absent, place)
    let (value, place) ← readFlow steps place
    return (value, ← skipInFlow place)

/-- Reads the entries of a mapping up to its closing brace. -/
def readFlowEntries (steps : Nat) (place : Place) :
    Option (List (String × Value) × Place) :=
  match steps with
  | 0 => none
  | steps + 1 => do
    let place ← skipInFlow place
    if place.rest.head? == some '\x7d' then return ([], place.advance 1)
    let (key, behind) ← readFlow steps place
    let key ← keyText? key
    let behind ← skipInFlow behind
    let quotedKey := place.rest.head? == some '"' || place.rest.head? == some '\''
    let (value, behind) ← match afterFlowColon? quotedKey behind with
      | none => pure (Value.absent, behind)
      | some behind => readFlowValue steps behind
    match behind.rest.head? with
    | some '\x7d' => return ([(key, value)], behind.advance 1)
    | some ',' =>
      let (entries, behind) ← readFlowEntries steps (behind.advance 1)
      return ((key, value) :: entries, behind)
    | _ => none

end

/-! ### The block style -/

/-- Whether an item of a block sequence starts here. -/
def startsItem (place : Place) : Bool :=
  match place.rest with
  | '-' :: rest => isSeparator rest.head?
  | _ => false

/-- The place behind the colon that follows a key at the end of a place's line or before a
space. -/
def afterBlockColon? (place : Place) : Option Place :=
  match place.skipSpaces.rest with
  | ':' :: rest => if isSeparator rest.head? then some (place.skipSpaces.advance 1) else none
  | _ => none

/-- Reads the key of an entry of a block mapping, on one line, and the colon behind it. -/
def readBlockKey (place : Place) : Option (String × Place) := do
  let (key, behind) ←
    if place.rest.head? == some '"' || place.rest.head? == some '\'' then do
      let (text, behind) ← readQuoted place
      let used := place.rest.take (place.rest.length - behind.rest.length)
      if used.any fun character => character == '\n' || character == '\r' then none
      else pure (text, behind)
    else if startsPlain false place.rest then
      let length := plainLength false 0 place.rest
      pure (String.ofList (place.rest.take length), place.advance length)
    else none
  return (key, ← afterBlockColon? behind)

/-- Reads a scalar or a collection in the flow style, which ends with its line. The next lines
of a plain scalar are indented to the given column at least. -/
def readInline (least : Nat) (place : Place) : Option (Value × Place) := do
  let (value, behind) ←
    if startsPlain false place.rest then
      let (text, behind) := readPlain (place.rest.length + 1) false least place
      pure (Value.scalar (String.ofList text) false, behind)
    else readFlow (2 * place.rest.length + 2) place
  return (value, ← afterLine? behind)

mutual

/-- Reads the value that starts at a place. Its further lines are indented to the given column
at least. The place behind it is that of the next content. -/
def readBlock (steps : Nat) (least : Nat) (place : Place) : Option (Value × Place) :=
  match steps with
  | 0 => none
  | steps + 1 =>
    if startsItem place then
      (readItems steps place.column place).map fun (items, place) => (.sequence items, place)
    else match readBlockKey place with
      | some _ =>
        (readEntries steps place.column place).map fun (entries, place) =>
          (.mapping entries, place)
      | none => readInline least place

/-- Reads the items of a block sequence at a column. -/
def readItems (steps : Nat) (column : Nat) (place : Place) : Option (List Value × Place) :=
  match steps with
  | 0 => none
  | steps + 1 => do
    if !(startsItem place) then none
    let behindDash := place.advance 1
    let (item, next) ← match afterLine? behindDash with
      | some next =>
        if column < next.column && !atDocumentEnd next then readBlock steps (column + 1) next
        else pure (Value.absent, next)
      | none => readBlock steps (column + 1) behindDash.skipSpaces
    if next.column == column && startsItem next && !atDocumentEnd next then
      let (items, next) ← readItems steps column next
      return (item :: items, next)
    else if next.column ≤ column || atDocumentEnd next then return ([item], next)
    else none

/-- Reads the entries of a block mapping at a column. -/
def readEntries (steps : Nat) (column : Nat) (place : Place) :
    Option (List (String × Value) × Place) :=
  match steps with
  | 0 => none
  | steps + 1 => do
    let (key, behindColon) ← readBlockKey place
    let (value, next) ← match afterLine? behindColon with
      | some next =>
        if atDocumentEnd next then pure (Value.absent, next)
        else if column < next.column then readBlock steps (column + 1) next
        else if column == next.column && startsItem next then
          (readItems steps column next).map fun (items, next) => (Value.sequence items, next)
        else pure (Value.absent, next)
      | none => readInline (column + 1) behindColon.skipSpaces
    if atDocumentEnd next || next.column < column then return ([(key, value)], next)
    else if next.column == column && !startsItem next then
      let (entries, next) ← readEntries steps column next
      return ((key, value) :: entries, next)
    else none

end

/-- Whether nothing more is in a text from the end of its document on. -/
def isFinished (place : Place) : Bool :=
  place.rest.isEmpty || ("...".toList.isPrefixOf place.rest
    && ((afterLine? (place.advance 3)).any fun place => place.rest.isEmpty))

/-- Reads a text as one YAML document. -/
def parse? (text : String) : Option Value := do
  let characters := match text.toList with
    | '\ufeff' :: rest => rest
    | characters => characters
  let steps := characters.length + 1
  let start ← skipToContent steps ⟨0, characters⟩
  let start ←
    if "---".toList.isPrefixOf start.rest && isSeparator start.rest[3]? then
      skipToContent steps (start.advance 3)
    else pure start
  if atDocumentEnd start then
    if isFinished start then return .absent else none
  let (value, behind) ← readBlock (2 * steps) 0 start
  if isFinished behind && behind.column == 0 || behind.rest.isEmpty then return value else none

end CodeGraph.Yaml
