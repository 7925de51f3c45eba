/-
This file proves that the vocabulary of a source depends on nothing but which declarations the
source makes.

The scan for declarations goes over the characters of a text, and it can find one wherever a line
starts with a colon. `DeclarationBlock` says what a source is made of: a declaration, and behind it
whatever is no word at its start, ends a line and has no other line that starts with a colon. A
declaration may take up several lines, with blanks of any kind between its words. What a text
declares is a relation (`IsDeclaration`), and that the scan recognizes it is proved word by word; a
word ends where a blank begins, and no name of a class starts another one.

Two facts cut a source at its blocks. The characters of a declaration that was found are passed
over, and the rest of a block holds no place where another one could start
(`declarationsBehind_append_of_not_infix`). So by induction the declarations of a source are those
of its blocks, in order (`declarations_source`). A vocabulary is made of sets, which forget order
and repetition, and the check for overlaps looks at nothing but the sets. What remains to be said
is when a source is refused: if there are no blocks, and if one name is declared as terms of two
sorts.
-/
import CodeGraph.Proofs.Text.Words
import CodeGraph.Proofs.Vocabulary.Soundness

namespace CodeGraph.Vocabulary

open Text

/-! ### The declaration at the start of a text -/

/-- One or more blanks. -/
def IsBlanks (blanks : List Char) : Prop :=
  blanks ≠ [] ∧ ∀ character ∈ blanks, isBlank character = true

/-- One or more characters of words. -/
def IsName (name : String) : Prop :=
  name ≠ "" ∧ ∀ character ∈ name.toList, isWord character = true

-- Only the characters of the text are looked at: deciding a statement about all characters that
-- there are takes too long.
instance (blanks : List Char) : Decidable (IsBlanks blanks) :=
  decidable_of_iff (blanks ≠ [] ∧ blanks.all isBlank = true) (and_congr_right' List.all_eq_true)

instance (name : String) : Decidable (IsName name) :=
  decidable_of_iff (name ≠ "" ∧ name.toList.all isWord = true) (and_congr_right' List.all_eq_true)

/-- The text of a declaration, with the blanks before and behind its predicate. -/
def declarationText (name : String) (kind : TermKind) (predicate : String)
    (blanks moreBlanks : List Char) : List Char :=
  ":".toList ++ (name.toList ++ (blanks ++ (predicate.toList ++ (moreBlanks ++
    ("owl:".toList ++ (owlClass kind).toList)))))

/-- A text that declares a name as a term of a sort. -/
inductive IsDeclaration (name : String) (kind : TermKind) : List Char → Prop where
  | intro (isName : IsName name) (predicate : String) (isA : predicate ∈ ["a", "rdf:type"])
      (blanks moreBlanks : List Char) (areBlanks : IsBlanks blanks)
      (areMoreBlanks : IsBlanks moreBlanks) :
      IsDeclaration name kind (declarationText name kind predicate blanks moreBlanks)

variable {blanks rest : List Char} {name : String} {kind : TermKind}

theorem IsDeclaration.isName {text : List Char} (declares : IsDeclaration name kind text) :
    IsName name := by
  obtain ⟨isName⟩ := declares
  exact isName

theorem afterBlanks?_append (areBlanks : IsBlanks blanks) (ends : rest.head?.any isBlank = false) :
    afterBlanks? (blanks ++ rest) = some rest := by
  obtain ⟨some, areBlanks⟩ := areBlanks
  have stops : rest.dropWhile isBlank = rest := by
    cases rest with
    | nil => rfl
    | cons character rest => exact List.dropWhile_cons_of_neg (by simpa using ends)
  have dropped : (blanks ++ rest).dropWhile isBlank = rest := by
    rw [List.dropWhile_append_of_pos areBlanks, stops]
  cases blanks with
  | nil => exact absurd rfl some
  | cons first blanks =>
    rw [List.cons_append] at dropped ⊢
    rw [afterBlanks?, dropped, if_pos (areBlanks first List.mem_cons_self)]

theorem afterIsA?_append {predicate : String} (isA : predicate ∈ ["a", "rdf:type"])
    (areBlanks : IsBlanks blanks) (ends : rest.head?.any isBlank = false) :
    afterIsA? (predicate.toList ++ (blanks ++ rest)) = some rest := by
  have found := afterStart?_eq_some_iff.mpr (rfl : predicate.toList ++ (blanks ++ rest) = _)
  have behind := afterBlanks?_append areBlanks ends
  obtain rfl | rfl : predicate = "a" ∨ predicate = "rdf:type" := by simpa using isA
  · rw [afterIsA?, found, Option.bind_some, behind]
    rfl
  · have notA : afterStart? "a".toList ("rdf:type".toList ++ (blanks ++ rest)) = none := rfl
    rw [afterIsA?, found, notA, Option.bind_some, behind]
    rfl

theorem leadingKind?_append (ends : rest.head?.any isWord = false) :
    leadingKind? ((owlClass kind).toList ++ rest) = some (kind, rest) := by
  have found := afterStart?_eq_some_iff.mpr (rfl : (owlClass kind).toList ++ rest = _)
  -- No name of a class starts another one.
  have others : ∀ other, other ≠ kind →
      afterStart? (owlClass other).toList ((owlClass kind).toList ++ rest) = none := by
    intro other different
    cases kind <;> cases other <;> first | exact absurd rfl different | rfl
  have one : ∀ other, ((afterStart? (owlClass other).toList
      ((owlClass kind).toList ++ rest)).bind fun rest =>
        if rest.head?.any isWord then none else some (other, rest)) =
          if other = kind then some (kind, rest) else none := by
    intro other
    by_cases same : other = kind
    · rw [same, found, Option.bind_some, ends, if_pos rfl]
      rfl
    · rw [others other same, if_neg same]
      rfl
  simp only [leadingKind?, one]
  cases kind <;> rfl

/-- A word in front of a blank is all that is taken of a text as a word. -/
theorem wordAt_append {word : List Char} (isName : ∀ character ∈ word, isWord character = true)
    (areBlanks : IsBlanks blanks) (text : List Char) :
    (word ++ (blanks ++ text)).takeWhile isWord = word ∧
      (word ++ (blanks ++ text)).dropWhile isWord = blanks ++ text := by
  obtain ⟨first, others, rfl⟩ := List.exists_cons_of_ne_nil areBlanks.1
  have stops : ¬ isWord first = true := by
    rw [isWord_eq_false_of_isBlank (areBlanks.2 first List.mem_cons_self)]
    decide
  rw [List.takeWhile_append_of_pos isName, List.dropWhile_append_of_pos isName, List.cons_append,
    List.takeWhile_cons_of_neg stops, List.dropWhile_cons_of_neg stops, List.append_nil]
  exact ⟨rfl, rfl⟩

/-- A declaration at the start of a text is found if its last word ends there. -/
theorem leadingDeclaration?_append {front : List Char} (declares : IsDeclaration name kind front)
    (ends : rest.head?.any isWord = false) :
    leadingDeclaration? (front ++ rest) = some ((name, kind), rest) := by
  obtain ⟨⟨named, isName⟩, predicate, isA, blanks, moreBlanks, areBlanks, areMoreBlanks⟩ := declares
  simp only [declarationText, List.append_assoc]
  have className : afterStart? "owl:".toList ("owl:".toList ++ ((owlClass kind).toList ++ rest)) =
      some ((owlClass kind).toList ++ rest) := afterStart?_eq_some_iff.mpr rfl
  have object := afterIsA?_append isA areMoreBlanks
    (rfl : ("owl:".toList ++ ((owlClass kind).toList ++ rest)).head?.any isBlank = false)
  generalize "owl:".toList ++ ((owlClass kind).toList ++ rest) = statement at className object ⊢
  have noBlank : (predicate.toList ++ (moreBlanks ++ statement)).head?.any isBlank = false := by
    obtain rfl | rfl : predicate = "a" ∨ predicate = "rdf:type" := by simpa using isA
    all_goals rfl
  have predicateThere := afterBlanks?_append areBlanks noBlank
  have ⟨taken, dropped⟩ :=
    wordAt_append isName areBlanks (predicate.toList ++ (moreBlanks ++ statement))
  have colon : afterStart? ":".toList (":".toList ++ (name.toList ++
      (blanks ++ (predicate.toList ++ (moreBlanks ++ statement))))) = some _ :=
    afterStart?_eq_some_iff.mpr rfl
  have nonempty : name.toList.isEmpty = false := by simpa using named
  simp only [leadingDeclaration?, colon, Option.bind_eq_bind, Option.bind_some, taken, dropped,
    nonempty, predicateThere, object, className, leadingKind?_append ends, String.ofList_toList]
  rfl

/-! ### The scan of a text -/

/-- The characters of a declaration that was found are passed over. -/
theorem declarationsBehind_passed (first : Char) (passed text : List Char) :
    declarationsBehind passed.length (first == '\n') (passed ++ text) =
      declarationsBehind 0 ((first :: passed).getLast (List.cons_ne_nil _ _) == '\n') text := by
  induction passed generalizing first with
  | nil => rfl
  | cons character passed inductionHypothesis =>
    rw [List.length_cons, List.cons_append, declarationsBehind, if_pos (Nat.succ_pos _),
      Nat.add_sub_cancel, inductionHypothesis, List.getLast_cons (List.cons_ne_nil _ _)]

theorem leadingDeclaration?_eq_none {character : Char} (noColon : character ≠ ':')
    (text : List Char) : leadingDeclaration? (character :: text) = none := by
  have noStart : afterStart? ":".toList (character :: text) = none := if_neg (Ne.symm noColon)
  rw [leadingDeclaration?, noStart]
  rfl

/-- Where no line starts with a colon, nothing is found. -/
theorem declarationsBehind_append_of_not_infix {last : Char} {back : List Char}
    (noColon : ¬ "\n:".toList <:+: last :: back) (text : List Char) :
    declarationsBehind 0 (last == '\n') (back ++ text) =
      declarationsBehind 0 ((last :: back).getLast (List.cons_ne_nil _ _) == '\n') text := by
  induction back generalizing last with
  | nil => rfl
  | cons character back inductionHypothesis =>
    have nothing : (if (last == '\n') = true then leadingDeclaration? (character :: (back ++ text))
        else none) = none := by
      refine ite_eq_right_iff.mpr fun isNewline => leadingDeclaration?_eq_none ?_ (back ++ text)
      rintro rfl
      rw [beq_iff_eq] at isNewline
      exact noColon ⟨[], back, by rw [isNewline]; rfl⟩
    have noColonBehind : ¬ "\n:".toList <:+: character :: back :=
      fun within => noColon (within.trans (List.suffix_cons ..).isInfix)
    rw [List.cons_append, declarationsBehind, if_neg (Nat.lt_irrefl 0), nothing,
      List.getLast_cons (List.cons_ne_nil _ _)]
    exact inductionHypothesis noColonBehind

/-! ### Sources made of blocks -/

/-- A declaration and what follows it up to the end of a line. No other line starts with a
colon. -/
structure DeclarationBlock where
  name : String
  kind : TermKind
  front : List Char
  back : List Char
  declares : IsDeclaration name kind front
  endsWord : back.head?.any isWord = false
  endsLine : back.getLast? = some '\n'
  oneColon : ¬ "\n:".toList <:+: front ++ back

namespace DeclarationBlock

def text (block : DeclarationBlock) : List Char := block.front ++ block.back

def declaration (block : DeclarationBlock) : String × TermKind := (block.name, block.kind)

/-- The scan of a block finds its declaration and goes on at the start of the next line. -/
theorem declarationsBehind_text (block : DeclarationBlock) (text : List Char) :
    declarationsBehind 0 true (block.text ++ text) =
      block.declaration :: declarationsBehind 0 true text := by
  obtain ⟨name, kind, front, back, declares, endsWord, endsLine, oneColon⟩ := block
  obtain ⟨passed, rfl⟩ : ∃ passed, front = ':' :: passed := by
    cases declares
    exact ⟨_, rfl⟩
  have found : leadingDeclaration? (':' :: (passed ++ (back ++ text))) =
      some ((name, kind), back ++ text) := by
    refine leadingDeclaration?_append declares ?_
    cases back with
    | nil => cases endsLine
    | cons first others => exact endsWord
  have passes : (passed ++ (back ++ text)).length - (back ++ text).length = passed.length := by
    rw [List.length_append, Nat.add_sub_cancel]
  have noColonBehind :
      ¬ "\n:".toList <:+: (':' :: passed).getLast (List.cons_ne_nil _ _) :: back := by
    refine fun within => oneColon (within.trans ⟨(':' :: passed).dropLast, [], ?_⟩)
    rw [List.append_nil, List.append_cons, List.dropLast_append_getLast]
  have newLine : (((':' :: passed).getLast (List.cons_ne_nil _ _) :: back).getLast
      (List.cons_ne_nil _ _) == '\n') = true := by
    rw [beq_iff_eq, ← Option.some.injEq, ← List.getLast?_eq_some_getLast, List.getLast?_cons,
      endsLine]
    rfl
  rw [DeclarationBlock.text, List.append_assoc, List.cons_append, declarationsBehind,
    if_neg (Nat.lt_irrefl 0), if_pos rfl, found]
  dsimp only
  rw [passes, declarationsBehind_passed, declarationsBehind_append_of_not_infix noColonBehind,
    newLine]
  rfl

end DeclarationBlock

/-- The source that consists of some blocks. -/
def source (blocks : List DeclarationBlock) : String :=
  String.ofList (blocks.flatMap DeclarationBlock.text)

theorem declarations_source (blocks : List DeclarationBlock) :
    declarations (source blocks) = blocks.map DeclarationBlock.declaration := by
  rw [declarations, source, String.toList_ofList]
  induction blocks with
  | nil => rfl
  | cons block blocks inductionHypothesis =>
    rw [List.flatMap_cons, block.declarationsBehind_text, inductionHypothesis, List.map_cons]

variable {blocks : List DeclarationBlock}

/-- The vocabulary that is put together from a source holds what its blocks declare. -/
theorem contains_ofDeclarations_source :
    ((ofDeclarations (declarations (source blocks))).terms kind).contains name = true ↔
      ∃ block ∈ blocks, block.name = name ∧ block.kind = kind := by
  rw [contains_ofDeclarations, declarations_source, List.mem_map]
  simp only [DeclarationBlock.declaration, Prod.mk.injEq]

theorem DeclarationBlock.trim_name_ne_empty (block : DeclarationBlock) :
    Text.trim block.name ≠ "" := by
  have ⟨named, isName⟩ := block.declares.isName
  obtain ⟨first, others, spelled⟩ :=
    List.exists_cons_of_ne_nil (mt String.toList_eq_nil_iff.mp named)
  intro blank
  have isBlank : isBlank first = true :=
    List.all_eq_true.mp (isBlankName_iff.mpr blank) first (spelled ▸ List.mem_cons_self)
  have isWord := isName first (spelled ▸ List.mem_cons_self)
  rw [isWord_eq_false_of_isBlank isBlank] at isWord
  cases isWord

theorem size_source_eq_zero_iff :
    (ofDeclarations (declarations (source blocks))).size = 0 ↔ blocks = [] := by
  rw [size_eq_zero_iff]
  constructor
  · intro nothing
    refine List.eq_nil_iff_forall_not_mem.mpr fun block member => ?_
    have declared := contains_ofDeclarations_source.mpr ⟨block, member, rfl, rfl⟩
    rw [nothing] at declared
    cases declared
  · rintro rfl kind name
    refine Bool.eq_false_iff.mpr fun declared => ?_
    obtain ⟨_, member, _⟩ := contains_ofDeclarations_source.mp declared
    cases member

/-- No name is declared as terms of two sorts. -/
def AgreeOnKinds (blocks : List DeclarationBlock) : Prop :=
  ∀ block ∈ blocks, ∀ other ∈ blocks, block.name = other.name → block.kind = other.kind

theorem named_source :
    ∀ kind name, ((ofDeclarations (declarations (source blocks))).terms kind).contains name = true →
      Text.trim name ≠ "" := by
  intro kind name declared
  obtain ⟨block, _, rfl, _⟩ := contains_ofDeclarations_source.mp declared
  exact block.trim_name_ne_empty

theorem fault?_source_eq_none_iff :
    (ofDeclarations (declarations (source blocks))).fault? = none ↔ AgreeOnKinds blocks := by
  rw [fault?_eq_none_iff]
  constructor
  · intro sound block member other otherMember same
    refine sound.apart block.name block.kind other.kind
      (contains_ofDeclarations_source.mpr ⟨block, member, rfl, rfl⟩)
      (contains_ofDeclarations_source.mpr ⟨other, otherMember, same.symm, rfl⟩)
  · intro agree
    refine ⟨named_source, fun name kind other declared otherDeclared => ?_⟩
    obtain ⟨block, member, rfl, rfl⟩ := contains_ofDeclarations_source.mp declared
    obtain ⟨second, otherMember, same, rfl⟩ := contains_ofDeclarations_source.mp otherDeclared
    exact agree block member second otherMember same.symm

theorem ofTurtle_source_eq_noDefinitions_iff :
    ofTurtle (source blocks) = .error .noDefinitions ↔ blocks = [] := by
  rw [← size_source_eq_zero_iff, ofTurtle]
  split
  · next nothing => exact iff_of_true rfl nothing
  · next something =>
    refine iff_of_false ?_ something
    split
    · next fault isFault =>
      obtain ⟨_, _, _, rfl⟩ := exists_overlap_of_fault? isFault named_source
      nofun
    · nofun

theorem ofTurtle_source_eq_overlap_iff :
    (∃ name first second, ofTurtle (source blocks) = .error (.overlap name first second)) ↔
      ¬ AgreeOnKinds blocks := by
  rw [← fault?_source_eq_none_iff, ofTurtle]
  split
  · next nothing =>
    have noFault : (ofDeclarations (declarations (source blocks))).fault? = none := by
      rw [fault?_source_eq_none_iff, size_source_eq_zero_iff.mp nothing]
      exact fun _ member => nomatch member
    exact iff_of_false (fun ⟨_, _, _, same⟩ => nomatch same) (fun faulty => faulty noFault)
  · split
    · next fault isFault =>
      obtain ⟨name, first, second, rfl⟩ := exists_overlap_of_fault? isFault named_source
      exact iff_of_true ⟨name, first, second, rfl⟩ (isFault ▸ nofun)
    · next noFault =>
      exact iff_of_false (fun ⟨_, _, _, same⟩ => nomatch same) (fun faulty => faulty noFault)

theorem ofTurtle_source_eq_ok (something : blocks ≠ []) (agree : AgreeOnKinds blocks) :
    ofTurtle (source blocks) = .ok (ofDeclarations (declarations (source blocks))) := by
  rw [ofTurtle, if_neg (mt size_source_eq_zero_iff.mp something),
    fault?_source_eq_none_iff.mpr agree]

/-- Sources that make the same declarations, in whatever order and however often, give the same
vocabulary or the same error. There are no definitions exactly if there are no blocks, and an
overlap exactly if two blocks declare one name as terms of different sorts. Otherwise the sets of
the vocabulary hold what is declared. -/
theorem ofTurtle_source_forgets_order (blocks : List DeclarationBlock) :
    (∀ others : List DeclarationBlock,
      (∀ declaration, declaration ∈ others.map DeclarationBlock.declaration ↔
        declaration ∈ blocks.map DeclarationBlock.declaration) →
      ofTurtle (source others) = ofTurtle (source blocks)) ∧
    (ofTurtle (source blocks) = .error .noDefinitions ↔ blocks = []) ∧
    ((∃ name first second, ofTurtle (source blocks) = .error (.overlap name first second)) ↔
      ∃ block ∈ blocks, ∃ other ∈ blocks, block.name = other.name ∧ block.kind ≠ other.kind) ∧
    (blocks ≠ [] →
      (∀ block ∈ blocks, ∀ other ∈ blocks, block.name = other.name → block.kind = other.kind) →
      ∃ vocabulary, ofTurtle (source blocks) = .ok vocabulary ∧
        ∀ kind name, (vocabulary.terms kind).contains name = true ↔
          ∃ block ∈ blocks, block.name = name ∧ block.kind = kind) := by
  refine ⟨fun others same => ?_, ofTurtle_source_eq_noDefinitions_iff, ?_,
      fun something agree => ?_⟩
  · simp only [← declarations_source] at same
    rw [ofTurtle, ofTurtle, ofDeclarations_congr same]
  · rw [ofTurtle_source_eq_overlap_iff]
    simp only [AgreeOnKinds, not_forall, exists_prop]
  · exact ⟨_, ofTurtle_source_eq_ok something agree, fun _ _ => contains_ofDeclarations_source⟩

/-- A declaration on a line of its own, with a comment that mentions another one. -/
def DeclarationBlock.person : DeclarationBlock where
  name := "Person"
  kind := .classTerm
  front := declarationText "Person" .classTerm "a" [' '] [' ']
  back := " .\n# not :Place a owl:Class\n".toList
  declares := .intro (by decide +kernel) "a" (by simp) [' '] [' ']
    (by decide +kernel) (by decide +kernel)
  endsWord := by decide +kernel
  endsLine := by decide +kernel
  oneColon := by decide +kernel

/-- A declaration that goes on over several lines. -/
def DeclarationBlock.knows : DeclarationBlock where
  name := "knows"
  kind := .objectProperty
  front := declarationText "knows" .objectProperty "rdf:type" ['\n', '\t'] ['\n', '\t']
  back := ";\n\trdfs:label \"knows\" .\n".toList
  declares := .intro (by decide +kernel) "rdf:type" (by simp) ['\n', '\t'] ['\n', '\t']
    (by decide +kernel) (by decide +kernel)
  endsWord := by decide +kernel
  endsLine := by decide +kernel
  oneColon := by decide +kernel

/-- A declaration of a person as something else than a class. -/
def DeclarationBlock.personAsProperty : DeclarationBlock where
  name := "Person"
  kind := .dataProperty
  front := declarationText "Person" .dataProperty "a" [' '] [' ']
  back := ".\n".toList
  declares := .intro (by decide +kernel) "a" (by simp) [' '] [' ']
    (by decide +kernel) (by decide +kernel)
  endsWord := by decide +kernel
  endsLine := by decide +kernel
  oneColon := by decide +kernel

open DeclarationBlock in
/-- Blocks in another order and repeated give the same vocabulary, and a name with two sorts is
refused. -/
theorem ofTurtle_source_of_people :
    ofTurtle (source [knows, person, knows]) = ofTurtle (source [person, knows]) ∧
    (∃ vocabulary, ofTurtle (source [person, knows]) = .ok vocabulary ∧
      (vocabulary.terms .objectProperty).contains "knows" = true) ∧
    ∃ name first second,
      ofTurtle (source [person, knows, personAsProperty]) =
        .error (.overlap name first second) := by
  refine ⟨(ofTurtle_source_forgets_order [person, knows]).1 [knows, person, knows] ?_, ?_, ?_⟩
  · simp only [List.map_cons, List.map_nil, List.mem_cons]
    tauto
  · obtain ⟨vocabulary, derived, holds⟩ :=
      (ofTurtle_source_forgets_order [person, knows]).2.2.2 (List.cons_ne_nil _ _)
        (by decide +kernel)
    exact ⟨vocabulary, derived, (holds .objectProperty "knows").mpr ⟨knows, by simp, rfl, rfl⟩⟩
  · exact (ofTurtle_source_forgets_order _).2.2.1.mpr
      ⟨person, by simp, personAsProperty, by simp, rfl, by decide⟩

end CodeGraph.Vocabulary
