/-
This file derives a vocabulary from a source in Turtle. Only declarations that start a line
count: a colon and a name, then `a` or `rdf:type`, then one of the four OWL classes that stand
for the sorts of term, each separated by white space, which may go on over several lines.
Declarations are looked for from the left, each one behind the end of the last.
-/
import CodeGraph.Vocabulary.Basic
import CodeGraph.Text.Trim

namespace CodeGraph.Vocabulary

open Text

/-- The OWL class that a declaration of a sort names. -/
def owlClass : TermKind → String
  | .classTerm => "Class"
  | .objectProperty => "ObjectProperty"
  | .dataProperty => "DatatypeProperty"
  | .annotationProperty => "AnnotationProperty"

/-- The rest of a text after one or more blanks. -/
def afterBlanks? (text : List Char) : Option (List Char) :=
  match text with
  | first :: _ => if isBlank first then some (text.dropWhile isBlank) else none
  | [] => none

/-- The rest of a text after a predicate that states a class and the blanks behind it. -/
def afterIsA? (text : List Char) : Option (List Char) :=
  ((afterStart? "a".toList text).bind afterBlanks?).orElse fun _ =>
    (afterStart? "rdf:type".toList text).bind afterBlanks?

/-- The sort whose OWL class stands at the start of a text and ends a word there, with the rest
of the text. -/
def leadingKind? (text : List Char) : Option (TermKind × List Char) :=
  TermKind.all.findSome? fun kind =>
    (afterStart? (owlClass kind).toList text).bind fun rest =>
      if rest.head?.any isWord then none else some (kind, rest)

/-- The declaration at the start of a text, with the rest of the text. -/
def leadingDeclaration? (text : List Char) : Option ((String × TermKind) × List Char) := do
  let afterColon ← afterStart? ":".toList text
  let name := afterColon.takeWhile isWord
  if name.isEmpty then none
  else
    let predicate ← afterBlanks? (afterColon.dropWhile isWord)
    let object ← afterIsA? predicate
    let className ← afterStart? "owl:".toList object
    let (kind, rest) ← leadingKind? className
    return ((String.ofList name, kind), rest)

/-- The declarations of a text, which may start a line; the given number of characters still
belongs to a declaration. -/
def declarationsBehind (skip : Nat) (startsLine : Bool) :
    List Char → List (String × TermKind)
  | [] => []
  | character :: rest =>
    if 0 < skip then declarationsBehind (skip - 1) (character == '\n') rest
    else match if startsLine then leadingDeclaration? (character :: rest) else none with
      | some (declaration, behind) =>
        declaration :: declarationsBehind (rest.length - behind.length) (character == '\n') rest
      | none => declarationsBehind 0 (character == '\n') rest

/-- The declarations of a source, in order. -/
def declarations (source : String) : List (String × TermKind) :=
  declarationsBehind 0 true source.toList

/-- The vocabulary of a list of declarations. -/
def ofDeclarations (declarations : List (String × TermKind)) : Vocabulary :=
  declarations.foldl (fun vocabulary (name, kind) => vocabulary.declare name kind) .empty

/-- The vocabulary that a source declares. It is an error if the source declares nothing, or
a vocabulary that is not sound. -/
def ofTurtle (source : String) : Except VocabularyError Vocabulary :=
  let vocabulary := ofDeclarations (declarations source)
  if vocabulary.size = 0 then .error .noDefinitions
  else match vocabulary.fault? with
    | some fault => .error fault
    | none => .ok vocabulary

/-- The declaration of a term as a line of a source. -/
def declarationLine (name : String) (kind : TermKind) : String :=
  ":" ++ name ++ " a owl:" ++ owlClass kind ++ " .\n"

/-- A source that declares the terms of a vocabulary. -/
def toTurtle (vocabulary : Vocabulary) : String :=
  String.join (TermKind.all.flatMap fun kind =>
    (vocabulary.terms kind).toList.map fun name => declarationLine name kind)

end CodeGraph.Vocabulary
