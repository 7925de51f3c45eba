/-
This file defines the closed vocabulary of the graph: four sets of names, for the classes and
the three sorts of property. A vocabulary is sound when no name is blank and no name lies in
two of the sets; an ontology is a sound vocabulary, and the only one that answers questions.
-/
import CodeGraph.Vocabulary.TermSet
import CodeGraph.Vocabulary.Terms
import CodeGraph.Text.Quoted

namespace CodeGraph

/-- The four sorts of term. -/
inductive TermKind where
  | classTerm
  | objectProperty
  | dataProperty
  | annotationProperty
  deriving Repr, DecidableEq

namespace TermKind

/-- The sorts in order. -/
def all : List TermKind := [.classTerm, .objectProperty, .dataProperty, .annotationProperty]

/-- A sort in words. -/
def description : TermKind → String
  | .classTerm => "class"
  | .objectProperty => "object property"
  | .dataProperty => "data property"
  | .annotationProperty => "annotation property"

end TermKind

/-- What can be wrong with a vocabulary or with its sources. -/
inductive VocabularyError where
  /-- A file could not be read or written. -/
  | unavailable (path : String)
  /-- A text is not the JSON form of a vocabulary. -/
  | malformed
  /-- A name lies in two sets. -/
  | overlap (term : String) (first second : TermKind)
  /-- A set holds a blank name. -/
  | emptyTerm (kind : TermKind)
  /-- A name that was asked for is not in its set. -/
  | unknown (kind : TermKind) (name : String)
  /-- A source declares nothing. -/
  | noDefinitions
  deriving Repr, DecidableEq

/-- The fault in words. -/
def VocabularyError.message : VocabularyError → String
  | unavailable path => s!"IO error at {path}: the file is not available"
  | malformed => "Invalid ontology cache: not the four sets of terms"
  | overlap term first second =>
    s!"Term {Text.quoted term} is declared both as {first.description} and as {second.description}"
  | emptyTerm kind => s!"Empty term name in {kind.description} set"
  | unknown kind name => s!"Unknown {kind.description}: {Text.quoted name}"
  | noDefinitions => "Ontology source defines no terms"

/-- Four sets of names. -/
structure Vocabulary where
  classes : TermSet
  objectProperties : TermSet
  dataProperties : TermSet
  annotationProperties : TermSet
  deriving DecidableEq

namespace Vocabulary

/-- The vocabulary without names. -/
def empty : Vocabulary := ⟨.empty, .empty, .empty, .empty⟩

/-- The set of the names of one sort. -/
def terms (vocabulary : Vocabulary) : TermKind → TermSet
  | .classTerm => vocabulary.classes
  | .objectProperty => vocabulary.objectProperties
  | .dataProperty => vocabulary.dataProperties
  | .annotationProperty => vocabulary.annotationProperties

/-- The vocabulary with one more name. -/
def declare (vocabulary : Vocabulary) (name : String) : TermKind → Vocabulary
  | .classTerm => { vocabulary with classes := vocabulary.classes.insert name }
  | .objectProperty =>
    { vocabulary with objectProperties := vocabulary.objectProperties.insert name }
  | .dataProperty => { vocabulary with dataProperties := vocabulary.dataProperties.insert name }
  | .annotationProperty =>
    { vocabulary with annotationProperties := vocabulary.annotationProperties.insert name }

/-- The number of names. -/
def size (vocabulary : Vocabulary) : Nat :=
  TermKind.all.foldl (fun total kind => total + (vocabulary.terms kind).size) 0

/-- A name of which nothing is left when it is trimmed. -/
def isBlankName (name : String) : Bool := name.toList.all Text.isBlank

/-- The first name that lies in the set of a sort and in that of one of the later sorts. -/
def overlap? (vocabulary : Vocabulary) (kind : TermKind) (later : List TermKind) :
    Option VocabularyError :=
  later.findSome? fun other =>
    ((vocabulary.terms kind).toList.find? (vocabulary.terms other).contains).map
      (.overlap · kind other)

/-- The first fault of the sets of the given sorts: for each sort a blank name, then a name
that lies in a later set too. -/
def faultAmong (vocabulary : Vocabulary) : List TermKind → Option VocabularyError
  | [] => none
  | kind :: later =>
    if (vocabulary.terms kind).toList.any isBlankName then some (.emptyTerm kind)
    else match vocabulary.overlap? kind later with
      | some fault => some fault
      | none => vocabulary.faultAmong later

/-- The first fault of a vocabulary; none if it is sound. -/
def fault? (vocabulary : Vocabulary) : Option VocabularyError :=
  vocabulary.faultAmong TermKind.all

end Vocabulary

/-- A sound vocabulary. -/
structure Ontology where
  vocabulary : Vocabulary
  sound : vocabulary.fault? = none

namespace Ontology

/-- The ontology of a vocabulary, or the vocabulary's first fault. -/
def ofVocabulary (vocabulary : Vocabulary) : Except VocabularyError Ontology :=
  match equation : vocabulary.fault? with
  | none => .ok ⟨vocabulary, equation⟩
  | some fault => .error fault

/-- Whether a name is known as a term of the given sort. -/
def knows (ontology : Ontology) (kind : TermKind) (name : String) : Bool :=
  (ontology.vocabulary.terms kind).contains name

/-- Whether a name is a class. -/
def knowsClass (ontology : Ontology) (name : String) : Bool := ontology.knows .classTerm name

/-- Whether a name is a property of any sort. -/
def knowsProperty (ontology : Ontology) (name : String) : Bool :=
  ontology.knows .objectProperty name || ontology.knows .dataProperty name
    || ontology.knows .annotationProperty name

/-- The sort of a name, if it is known. -/
def kindOf? (ontology : Ontology) (name : String) : Option TermKind :=
  TermKind.all.find? (ontology.knows · name)

/-- The fault that a name is not known as a term of the given sort, if it is not. -/
def missing? (ontology : Ontology) (kind : TermKind) (name : String) : Option VocabularyError :=
  if ontology.knows kind name then none else some (.unknown kind name)

/-- The terms that extraction and resolution write and that the ontology lacks: first the
classes, then the properties between nodes. -/
def missingTerms (ontology : Ontology) : List String :=
  Term.constructClasses.filter (!ontology.knowsClass ·)
    ++ Term.edgeProperties.filter (!ontology.knows .objectProperty ·)

end Ontology

end CodeGraph
