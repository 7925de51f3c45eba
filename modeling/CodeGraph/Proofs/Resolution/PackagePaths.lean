/-
This file proves where a package path leads. Its segments stand at the end of the path of a file,
all of them or, as the last one may name a member, all but the last.

What is said of the text holds of every text, so it is said without the functions that take it
apart. A text names segments (`NamesSegments`) if it is made of them, with dots between them and
with what may stand around them. Every text names some segments (`exists_namesSegments`), since
what is cut off at its ends is cut off as often as it stands there; and the segments that the
resolver looks for are those, in their spelling. For snake case a state is carried along the
characters of a name. All that is ever needed of it is the character before, so each character is
spelled by itself and its predecessor (`snakePiece`), and the name by pairing the two.

The search for the end of a path is that for the shortest path that has it, for one extension after
the other. Where no two files have one path it has one outcome, in whatever order the files are
looked at (`packagePath?_is_shortest`). A path without segments leads nowhere; an example shows
that this is needed where a file is called by its extension alone.
-/
import CodeGraph.Proofs.Resolution.PathEndings
import CodeGraph.Proofs.Text.Trimming

namespace CodeGraph.FileList

open Text

/-! ### Snake case -/

/-- A lower-case letter or a digit: before a capital behind it stands an underscore. -/
def endsWord (character : Char) : Bool :=
  !isUppercase character && (isLowercase character || character.isDigit)

/-- What a character becomes in snake case, by the character before it. -/
def snakePiece (before : Option Char) (character : Char) : List Char :=
  if isUppercase character then
    (if before.any endsWord then ['_'] else []) ++ toLowercase character
  else [character]

/-- A name in snake case, character by character. -/
def snakePieces (name : List Char) : List (List Char) :=
  List.zipWith snakePiece (none :: name.map some) name

theorem snakeCaseFrom_eq (before : Option Char) (name : List Char) :
    snakeCaseFrom (before.any endsWord) name =
      (List.zipWith snakePiece (before :: name.map some) name).flatten := by
  induction name generalizing before with
  | nil => rfl
  | cons character rest inductionHypothesis =>
    have behind := inductionHypothesis (some character)
    rw [List.map_cons, List.zipWith_cons_cons, List.flatten_cons, ← behind, snakeCaseFrom,
      snakePiece]
    by_cases isCapital : isUppercase character = true
    · simp [isCapital, endsWord]
    · simp [isCapital, endsWord]

theorem snakeCase_eq (name : List Char) : snakeCase name = (snakePieces name).flatten :=
  snakeCaseFrom_eq none name

example : snakeCase "HTTPClient2Go".toList = "httpclient2_go".toList := by decide +kernel

/-! ### Segments of a package path -/

/-- The text is the segments with dots between them, where blanks around a segment and segments that
are empty or a star do not count. Before it may stand `static `, behind it semicolons. -/
def NamesSegments (text : String) (segments : List (List Char)) : Prop :=
  ∃ statics name semicolons,
    text.toList = (List.replicate statics "static ".toList).flatten ++ name ++
      List.replicate semicolons ';' ∧
    ¬ "static ".toList <+: name ∧ name.getLast? ≠ some ';' ∧
    segments = ((piecesAt '.' name).map (trimWhere isBlank)).filter
      fun segment => segment ≠ [] ∧ segment ≠ ['*']

/-- Segments as they are looked for. -/
def spell (segments : List (List Char)) (snake : Bool) : List String :=
  segments.map fun segment =>
    String.ofList (if snake then (snakePieces segment).flatten else segment)

theorem prefix_of_prefix_append_replicate {start name : List Char} {character : Char} {count : Nat}
    (absent : character ∉ start) (starts : start <+: name ++ List.replicate count character) :
    start <+: name := by
  rcases List.prefix_or_prefix_of_prefix starts (List.prefix_append name _) with
    inside | ⟨rest, rfl⟩
  · exact inside
  · have isPrefix := (List.prefix_append_right_inj name).mp starts
    have noRest : rest = [] := List.eq_nil_iff_forall_not_mem.mpr fun other member => by
      have same := List.eq_of_mem_replicate (isPrefix.subset member)
      exact absent (List.mem_append_right name (same ▸ member))
    exact ⟨[], by rw [noRest, List.append_nil, List.append_nil]⟩

section Segments

variable {text : String} {segments : List (List Char)}

/-- Every text names segments. -/
theorem exists_namesSegments (text : String) : ∃ segments, NamesSegments text segments := by
  obtain ⟨statics, rest, isText, noStatic⟩ :=
    exists_replicate_append (show "static ".toList ≠ [] by decide) text.toList
  obtain ⟨semicolons, reversed, isRest, noSemicolon⟩ :=
    exists_replicate_append (List.cons_ne_nil ';' []) rest.reverse
  have isName : rest = reversed.reverse ++ List.replicate semicolons ';' := by
    rw [List.flatten_replicate_singleton] at isRest
    rw [← List.reverse_reverse rest, isRest, List.reverse_append, List.reverse_replicate]
  refine ⟨_, statics, reversed.reverse, semicolons, ?_, fun starts => noStatic ?_,
    fun last => noSemicolon ?_, rfl⟩
  · rw [isText, isName, List.append_assoc]
  · exact isName ▸ starts.trans (List.prefix_append _ _)
  · rw [List.getLast?_reverse, List.head?_eq_some_iff] at last
    obtain ⟨others, rfl⟩ := last
    exact ⟨others, rfl⟩

theorem NamesSegments.packageSegments_eq (named : NamesSegments text segments) (snake : Bool) :
    packageSegments text snake = spell segments snake := by
  obtain ⟨statics, name, semicolons, isText, noStatic, noSemicolon, rfl⟩ := named
  have noStaticBefore : ¬ "static ".toList <+: name ++ List.replicate semicolons ';' :=
    fun starts => noStatic (prefix_of_prefix_append_replicate (by decide) starts)
  have behindStatics : trimStarts "static ".toList text.toList =
      name ++ List.replicate semicolons ';' := by
    rw [isText, List.append_assoc, trimStarts_replicate_append (by decide) _ noStaticBefore]
  have beforeSemicolons : dropEndWhile (· == ';') (name ++ List.replicate semicolons ';') =
      name := by
    rw [dropEndWhile_append fun character member =>
      beq_iff_eq.mpr (List.eq_of_mem_replicate member)]
    refine dropEndWhile_eq_self fun last isLast => beq_false_of_ne fun same => noSemicolon ?_
    exact same ▸ isLast
  have pieces : (piecesAt '.' (trimWhere isBlank name)).map (trimWhere isBlank) =
      (piecesAt '.' name).map (trimWhere isBlank) := by
    refine map_trimWhere_piecesWhere (fun character blank => beq_false_of_ne fun isDot => ?_) name
    rw [isDot] at blank
    exact absurd blank (by decide)
  unfold packageSegments spell
  simp only [behindStatics, beforeSemicolons, pieces, ← snakeCase_eq]
  congr 2
  funext segment
  rw [Bool.eq_iff_iff]
  simp

end Segments

/-! ### Package paths -/

/-- The file at the end of whose path the segments stand; without segments there is none. -/
def bySegments? (files : FileList) (segments : List String) (extensions : List String) :
    Option SourceFile :=
  if segments = [] then none else files.bySuffix? (Text.join '/' segments) extensions

theorem packagePath?_eq_or (files : FileList) (text : String) (extensions : List String)
    (snake : Bool) :
    files.packagePath? text extensions snake =
      (files.bySegments? (packageSegments text snake) extensions).or
        (files.bySegments? (packageSegments text snake).dropLast extensions) := by
  have first (segments : List String) : ([segments].filter (!·.isEmpty)).findSome?
      (fun segments => files.bySuffix? (Text.join '/' segments) extensions) =
        files.bySegments? segments extensions := by
    cases segments with
    | nil => rfl
    | cons => exact List.findSome?_singleton
  generalize spelled : packageSegments text snake = segments
  rw [packagePath?, spelled, ← List.singleton_append, List.filter_append, List.findSome?_append]
  exact congrArg₂ Option.or (first segments) (first segments.dropLast)

variable {files others : FileList}

/-- In whatever order the files are looked at, the end of a path leads to the shortest path that has
it, for the first extension with which there is one, and a package path leads to what all its
segments or else all but the last lead to. An empty list of segments leads nowhere. -/
theorem packagePath?_is_shortest (distinct : (files.map SourceFile.relativePath).Nodup)
    (perm : files.Perm others) :
    (∀ ending extensions,
      (∀ target, others.bySuffix? ending extensions = some target ↔
        files.IsShortestOfFirst ending extensions target) ∧
      (others.bySuffix? ending extensions = none ↔ ∀ extension ∈ extensions, ∀ file ∈ files,
        ¬ Path.EndsIn (ending ++ "." ++ extension) file.relativePath)) ∧
    ∀ text, (∃ segments, NamesSegments text segments) ∧
      ∀ segments, NamesSegments text segments → ∀ extensions snake,
        others.packagePath? text extensions snake =
          (files.bySegments? (spell segments snake) extensions).or
            (files.bySegments? (spell segments snake).dropLast extensions) := by
  have same := looksLike_of_perm distinct perm
  refine ⟨fun ending extensions => ?_, fun text => ⟨exists_namesSegments text, ?_⟩⟩
  · rw [← same.bySuffix?]
    exact ⟨fun target => bySuffix?_eq_some_iff distinct, bySuffix?_eq_none_iff distinct⟩
  · intro segments named extensions snake
    rw [← same.packagePath?, packagePath?_eq_or, named.packageSegments_eq]

/-- Two files with the same end, and one with a longer name. -/
def widgets : FileList :=
  atPaths ["source/com/acme/Widget.java", "lib/com/acme/Widget.java", "com/acme/MyWidget.java"]

/-- A member is imported from the file with the shortest path that ends in its class. -/
theorem packagePath?_of_widgets :
    packagePath? widgets.reverse "static com.acme.Widget.build;" ["java"] false =
      some widgets[1] := by
  have distinct : (widgets.map SourceFile.relativePath).Nodup := by decide
  have leads := packagePath?_is_shortest distinct (List.reverse_perm widgets).symm
  have named : NamesSegments "static com.acme.Widget.build;"
      ["com".toList, "acme".toList, "Widget".toList, "build".toList] :=
    ⟨1, "com.acme.Widget.build".toList, 1, by decide, by decide, by decide, by decide⟩
  rw [(leads.2 _).2 _ named]
  have noMember : widgets.bySuffix? "com/acme/Widget/build" ["java"] = none :=
    (bySuffix?_eq_none_iff distinct).mpr (by decide)
  have isShortest : widgets.bySuffix? "com/acme/Widget" ["java"] = some widgets[1] := by
    refine (bySuffix?_eq_some_iff distinct).mpr ⟨[], "java", [], rfl, by simp, ?_⟩
    refine ⟨List.getElem_mem (by decide), by decide, ?_⟩
    simp only [Utf8.length_encode, Utf8.encode_le_encode_iff]
    decide
  show (widgets.bySuffix? "com/acme/Widget/build" ["java"]).or
    (widgets.bySuffix? "com/acme/Widget" ["java"]) = _
  rw [noMember, isShortest, Option.none_or]

/-- A class, and a file whose name is nothing but an extension. -/
def namelessFile : FileList := atPaths ["App.java", ".java"]

/-- The file without a name is not what is left of a package path of one segment. -/
theorem packagePath?_ne_of_namelessFile :
    ¬ ∀ (files : FileList), (files.map SourceFile.relativePath).Nodup →
      ∀ text segments, NamesSegments text segments → ∀ extensions snake,
        files.packagePath? text extensions snake =
          (files.bySuffix? (Text.join '/' (spell segments snake)) extensions).or
            (files.bySuffix? (Text.join '/' (spell segments snake).dropLast) extensions) := by
  intro leads
  have distinct : (namelessFile.map SourceFile.relativePath).Nodup := by decide
  have named : NamesSegments "Missing" ["Missing".toList] :=
    ⟨0, "Missing".toList, 0, by decide, by decide, by decide, by decide⟩
  have noClass : namelessFile.bySuffix? "Missing" ["java"] = none :=
    (bySuffix?_eq_none_iff distinct).mpr (by decide)
  have nameless : namelessFile.bySuffix? "" ["java"] = some namelessFile[1] := by
    refine (bySuffix?_eq_some_iff distinct).mpr ⟨[], "java", [], rfl, by simp, ?_⟩
    refine ⟨List.getElem_mem (by decide), by decide, ?_⟩
    simp only [Utf8.length_encode, Utf8.encode_le_encode_iff]
    decide
  have found := leads namelessFile distinct "Missing" _ named ["java"] false
  rw [packagePath?_eq_or, named.packageSegments_eq] at found
  change (namelessFile.bySuffix? "Missing" ["java"]).or none =
    (namelessFile.bySuffix? "Missing" ["java"]).or (namelessFile.bySuffix? "" ["java"]) at found
  rw [noClass, nameless] at found
  cases found

end CodeGraph.FileList
