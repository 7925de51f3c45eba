/-
This file reads regular expressions. Flags take effect from where they are written to the end
of their group and are resolved while reading, so that an expression carries none. Counted
repetitions are written out.
-/
import CodeGraph.RegularExpression.Reading

namespace CodeGraph.RegularExpression

/-! ### Sets in brackets -/

/-- A set with its case variants if the flags neglect case. -/
def Flags.folded (flags : Flags) (set : CharacterSet) : CharacterSet :=
  if flags.ignoreCase then
    if flags.unicode then .caseClosure set else .asciiCaseClosure set
  else set

/-- The operations on two sets that brackets may hold. -/
inductive SetOperation where
  | intersection
  | difference
  | symmetricDifference

/-- Carries out a set operation. -/
def SetOperation.apply : SetOperation → CharacterSet → CharacterSet → CharacterSet
  | .intersection, left, right => .intersection left right
  | .difference, left, right => .difference left right
  | .symmetricDifference, left, right => .symmetricDifference left right

/-- The set read so far within brackets: the operation that waits for its right-hand side, and
the union of the items since. -/
structure OpenSet where
  pending : Option (CharacterSet × SetOperation) := none
  items : CharacterSet := .empty

namespace OpenSet

/-- Adds an item. -/
def add (set : OpenSet) (item : CharacterSet) : OpenSet :=
  { set with items := .union set.items item }

/-- The set read so far. Both sides of an operation neglect case before it is carried out. -/
def close (flags : Flags) (set : OpenSet) : CharacterSet :=
  match set.pending with
  | none => set.items
  | some (left, operation) => operation.apply (flags.folded left) (flags.folded set.items)

/-- Starts the right-hand side of an operation. -/
def operate (flags : Flags) (set : OpenSet) (operation : SetOperation) : OpenSet :=
  ⟨some (set.close flags, operation), .empty⟩

end OpenSet

/-- Reads a class of ASCII characters between colons, behind the opening bracket. -/
def readAsciiClass (reader : Reader) : Option (CharacterSet × Reader) :=
  match reader.rest with
  | ':' :: rest =>
    let (negated, rest) := match rest with
      | '^' :: rest => (true, rest)
      | rest => (false, rest)
    match rest.span (· != ':') with
    | (name, ':' :: ']' :: rest) => do
      let set ← asciiClass? (String.ofList name)
      let set := reader.flags.folded set
      return (if negated then .complement set else set, reader.goTo rest)
    | _ => none
  | _ => none

/-- Whether a character may stand in brackets under the flags. -/
def Flags.allowsInSet (flags : Flags) (character : Char) : Bool :=
  flags.unicode || character.toNat < 0x80

/-- Reads one item: a character as it stands, or an escape that is no condition. -/
def readSetItem (reader : Reader) : Option (Escape × Reader) :=
  match reader.rest with
  | [] => none
  | '\\' :: rest => readEscape (reader.goTo rest)
  | character :: rest => some (.literal character, reader.goTo rest)

/-- What stands behind the next character, spaces passed over. -/
def peekAfterNext (reader : Reader) : Option Char :=
  (reader.goTo (reader.rest.drop 1)).skipSpace.rest.head?

/-- Reads one item or the range between two characters. -/
def readSetRange (reader : Reader) : Option (CharacterSet × Reader) := do
  let (first, reader) ← readSetItem reader
  let reader := reader.skipSpace
  let single : Option (CharacterSet × Reader) := match first with
    | .literal character =>
      if reader.flags.allowsInSet character then some (.single character, reader) else none
    | .set members => some (members, reader)
    | .condition _ => none
  match reader.rest with
  | '-' :: rest =>
    if peekAfterNext reader == some ']' || peekAfterNext reader == some '-' then single
    else do
      let (last, reader) ← readSetItem (reader.goTo rest).skipSpace
      match first, last with
      | .literal first, .literal last =>
        if first ≤ last && reader.flags.allowsInSet last then
          return (.interval first.toNat last.toNat, reader)
        else none
      | _, _ => none
  | _ => single

/-- Reads the start of brackets: whether they are negated, the hyphens and the closing bracket
that stand for themselves there. -/
def readSetOpening (reader : Reader) : Bool × OpenSet × Reader :=
  let reader := reader.skipSpace
  let (negated, reader) := match reader.rest with
    | '^' :: rest => (true, (reader.goTo rest).skipSpace)
    | _ => (false, reader)
  match reader.rest with
  | '-' :: rest =>
    (negated, ({} : OpenSet).add (.single '-'), reader.goTo (rest.dropWhile (· == '-')))
  | ']' :: rest => (negated, ({} : OpenSet).add (.single ']'), reader.goTo rest)
  | _ => (negated, {}, reader)

/-- A finished set: case neglected, complemented if negated. -/
def finishSet (flags : Flags) (negated : Bool) (set : OpenSet) : Option CharacterSet :=
  let closed := flags.folded (set.close flags)
  some (if negated then .complement closed else closed)

/-- Reads a set up to its closing bracket. Every step reads a character at least, so the
length of the text bounds the steps. -/
def readSet (steps : Nat) (negated : Bool) (set : OpenSet) (reader : Reader) :
    Option (CharacterSet × Reader) :=
  match steps with
  | 0 => none
  | steps + 1 =>
    let reader := reader.skipSpace
    let flags := reader.flags
    match reader.rest with
    | [] => none
    | ']' :: rest => (finishSet flags negated set).map (·, reader.goTo rest)
    | '[' :: rest =>
      match readAsciiClass (reader.goTo rest) with
      | some (item, reader) => readSet steps negated (set.add item) reader
      | none =>
        let (innerNegated, inner, reader) := readSetOpening (reader.goTo rest)
        match readSet steps innerNegated inner reader with
        | some (item, reader) => readSet steps negated (set.add item) reader
        | none => none
    | '&' :: '&' :: rest =>
      readSet steps negated (set.operate flags .intersection) (reader.goTo rest)
    | '-' :: '-' :: rest =>
      readSet steps negated (set.operate flags .difference) (reader.goTo rest)
    | '~' :: '~' :: rest =>
      readSet steps negated (set.operate flags .symmetricDifference) (reader.goTo rest)
    | _ =>
      match readSetRange reader with
      | some (item, reader) => readSet steps negated (set.add item) reader
      | none => none

/-! ### Expressions -/

/-- The largest number of nodes that written out repetitions may lead to. -/
def sizeLimit : Nat := 200000

/-- The expression of a character under the flags. -/
def literalExpression (flags : Flags) (character : Char) : Expression :=
  if flags.ignoreCase then
    if flags.unicode then .oneOf (.ofList (Text.caseVariants character))
    else .oneOf (.asciiCaseClosure (.single character))
  else .oneOf (.single character)

/-- The expression of the dot: any character that ends no line, or any character at all. -/
def dotExpression? (flags : Flags) : Option Expression :=
  if !flags.unicode then none
  else if flags.dotMatchesNewline then some (.oneOf (.interval 0 0x10ffff))
  else if flags.carriageReturnLines then some (.oneOf (.complement (.ofList ['\r', '\n'])))
  else some (.oneOf (.complement (.single '\n')))

/-- The condition that a circumflex stands for. -/
def startAssertion (flags : Flags) : Assertion :=
  if flags.multiLine then .lineStart flags.carriageReturnLines else .textStart

/-- The condition that a dollar sign stands for. -/
def endAssertion (flags : Flags) : Assertion :=
  if flags.multiLine then .lineEnd flags.carriageReturnLines else .textEnd

/-- The items of a sequence read so far, the last one first. A group of flags is an item
without an expression, which cannot be repeated. -/
abbrev Items := List (Option Expression)

/-- The expression of a sequence of items. -/
def Items.expression (items : Items) : Expression :=
  items.foldl (fun later item => match item with
    | some expression =>
      match later with
      | .empty => expression
      | later => .andThen expression later
    | none => later) .empty

/-- The items with the last one repeated. A question mark behind the repetition only asks for
fewer repetitions first. -/
def repeatLast (items : Items) (least : Nat) (most : Option Nat) (reader : Reader) :
    Option (Items × Reader) :=
  match items with
  | some expression :: items =>
    if (expression.size + 1) * max least (most.getD 0) ≤ sizeLimit then
      let reader := reader.skipSpace
      let reader := (reader.after? "?").getD reader
      some (some (expression.repeated least most) :: items, reader)
    else none
  | _ => none

/-- Reads the beginning of a group behind its parenthesis: the reader within the group, or, for
a group that only sets flags, the reader behind it. -/
def readGroupOpening (reader : Reader) : Option (Reader ⊕ Reader) :=
  let reader := reader.skipSpace
  match reader.after? "?" with
  | none => some (.inl reader)
  | some behindMark =>
    if (reader.after? "?=").isSome || (reader.after? "?!").isSome
        || (reader.after? "?<=").isSome || (reader.after? "?<!").isSome then none
    else match (reader.after? "?P<").orElse fun _ => reader.after? "?<" with
      | some reader => (readGroupName reader).map .inl
      | none =>
        match readFlags reader.flags true [] behindMark.rest with
        | some (flags, ':' :: rest) => some (.inl { behindMark with flags, rest })
        | some (flags, ')' :: rest) =>
          if behindMark.rest.head? = some ')' then none
          else some (.inr { behindMark with flags, rest })
        | _ => none

mutual

/-- Reads alternatives up to a closing parenthesis or the end of the text. -/
def readAlternatives (steps : Nat) (reader : Reader) : Option (Expression × Reader) :=
  match steps with
  | 0 => none
  | steps + 1 =>
    match readItems steps [] reader with
    | none => none
    | some (items, reader) =>
      match reader.rest with
      | '|' :: rest =>
        (readAlternatives steps (reader.goTo rest)).map fun (others, reader) =>
          (.alternative items.expression others, reader)
      | _ => some (items.expression, reader)

/-- Reads the items of a sequence up to a bar, a closing parenthesis or the end. -/
def readItems (steps : Nat) (items : Items) (reader : Reader) : Option (Items × Reader) :=
  match steps with
  | 0 => none
  | steps + 1 =>
    let reader := reader.skipSpace
    let flags := reader.flags
    match reader.rest with
    | [] | '|' :: _ | ')' :: _ => some (items, reader)
    | '(' :: rest =>
      match readGroupOpening (reader.goTo rest) with
      | none => none
      | some (.inr reader) => readItems steps (none :: items) reader
      | some (.inl inner) =>
        match readAlternatives steps inner with
        | some (expression, inner) =>
          match inner.rest with
          | ')' :: rest => readItems steps (some expression :: items) { inner with flags, rest }
          | _ => none
        | none => none
    | '[' :: rest =>
      let (negated, set, reader) := readSetOpening (reader.goTo rest)
      match readSet (rest.length + 1) negated set reader with
      | some (set, reader) =>
        if flags.unicode || set.isAsciiBytes then
          readItems steps (some (.oneOf set) :: items) reader
        else none
      | none => none
    | '*' :: rest => do
      let (items, reader) ← repeatLast items 0 none (reader.goTo rest)
      readItems steps items reader
    | '+' :: rest => do
      let (items, reader) ← repeatLast items 1 none (reader.goTo rest)
      readItems steps items reader
    | '?' :: rest => do
      let (items, reader) ← repeatLast items 0 (some 1) (reader.goTo rest)
      readItems steps items reader
    | '\x7b' :: rest => do
      let ((least, most), reader) ← readBounds (reader.goTo rest)
      let (items, reader) ← repeatLast items least most reader
      readItems steps items reader
    | '.' :: rest => do
      let expression ← dotExpression? flags
      readItems steps (some expression :: items) (reader.goTo rest)
    | '^' :: rest =>
      readItems steps (some (.assertion (startAssertion flags)) :: items) (reader.goTo rest)
    | '$' :: rest =>
      readItems steps (some (.assertion (endAssertion flags)) :: items) (reader.goTo rest)
    | '\\' :: rest =>
      match readEscape (reader.goTo rest) with
      | none => none
      | some (.literal character, reader) =>
        readItems steps (some (literalExpression flags character) :: items) reader
      | some (.set members, reader) => readItems steps (some (.oneOf members) :: items) reader
      | some (.condition assertion, reader) =>
        readItems steps (some (.assertion assertion) :: items) reader
    | character :: rest =>
      readItems steps (some (literalExpression flags character) :: items) (reader.goTo rest)

end

/-- Reads a whole text as a regular expression. Every step reads a character or opens an
alternative, so twice the length of the text bounds the steps. -/
def parse? (pattern : String) : Option Expression :=
  match readAlternatives (2 * pattern.length + 2) ⟨{}, [], pattern.toList⟩ with
  | some (expression, reader) => if reader.rest.isEmpty then some expression else none
  | none => none

end CodeGraph.RegularExpression
