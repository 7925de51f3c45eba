/-
This file proves that a vocabulary survives its form on disk.

Its JSON form has one key for each of the four sets and an array of the members under each, in
ascending order. The keys are different, so each array is found, and a set is the only one that its
ascending list of members comes from; hence the form gives the vocabulary back
(`Vocabulary.ofJson?_toJson`). The text is written over several lines with the end of a line behind
it, and it is read as the value it was written for, whatever characters the names hold. Soundness
plays no part so far. Whether the text is then accepted as an ontology is a matter of the
vocabulary alone, and so is the fault it is refused with (`Ontology.ofCacheText_cacheText`).

For what is derived into a file there is one more link: the file has to hold the text. A derivation
that succeeds has replaced the file, and replacing a file puts the content where the path leads
(`CommandLine.exists_source_of_regenerateFile`). A vocabulary that was derived has no fault, so the
file is accepted when it is loaded.
-/
import CodeGraph.CommandLine.Execution
import CodeGraph.Proofs.Json.RoundTrip
import CodeGraph.Proofs.Storage.Replacement
import CodeGraph.Proofs.Text.Utf8
import CodeGraph.Proofs.Vocabulary.Soundness

namespace CodeGraph

namespace Vocabulary

/-! ### The JSON form -/

theorem isExact_ofStrings (items : List String) : (Json.ofStrings items).IsExact :=
  .array (List.forall_mem_map.mpr fun text _ => .string text)

theorem isExact_toJson (vocabulary : Vocabulary) : vocabulary.toJson.IsExact :=
  .object (List.forall_mem_map.mpr fun _ _ => isExact_ofStrings _)

theorem mapM_string? (items : List String) : (items.map Json.string).mapM string? = some items := by
  induction items with
  | nil => rfl
  | cons text rest inductionHypothesis =>
    rw [List.map_cons, List.mapM_cons, inductionHypothesis]
    rfl

/-- A set is read back from the array of its members. -/
theorem termSet?_ofStrings (set : TermSet) : termSet? (.ofStrings set.toList) = some set := by
  show ((set.toList.map Json.string).mapM string?).map TermSet.ofList = some set
  rw [mapM_string?, Option.map_some, TermSet.ofList_toList]

/-- The keys of the four sets are different, so each is found. -/
theorem onlyMember?_toJson (vocabulary : Vocabulary) (kind : TermKind) :
    onlyMember? (cacheKey kind) (TermKind.all.map fun kind =>
        (cacheKey kind, Json.ofStrings (vocabulary.terms kind).toList)) =
      some (.ofStrings (vocabulary.terms kind).toList) := by
  cases kind <;> rfl

/-- A vocabulary is read back from its JSON form. -/
theorem ofJson?_toJson (vocabulary : Vocabulary) : ofJson? vocabulary.toJson = some vocabulary := by
  rw [toJson, ofJson?]
  simp only [onlyMember?_toJson, ofSets?, termSet?_ofStrings, Option.bind_eq_bind,
    Option.bind_some]
  rfl

/-! ### The text -/

/-- A vocabulary is read back from its text. -/
theorem ofCacheText_cacheText (vocabulary : Vocabulary) :
    ofCacheText vocabulary.cacheText = .ok vocabulary := by
  have newline : Json.IsSpaces "\n".toList := List.forall_mem_singleton.mpr rfl
  rw [ofCacheText, cacheText, vocabulary.isExact_toJson.parse?_pretty_append newline,
    Option.bind_some, ofJson?_toJson]

end Vocabulary

namespace Ontology

/-- The text of a vocabulary is accepted exactly if the vocabulary is. -/
theorem ofCacheText_cacheText (vocabulary : Vocabulary) :
    ofCacheText vocabulary.cacheText = ofVocabulary vocabulary := by
  rw [ofCacheText, Vocabulary.ofCacheText_cacheText]
  rfl

/-- A file with the text of a vocabulary is loaded like that vocabulary. -/
theorem load_fileContent (path : String) (vocabulary : Vocabulary) :
    load (some (path, Text.Utf8.readable? (some vocabulary.fileContent))) =
      ofVocabulary vocabulary := by
  rw [Vocabulary.fileContent, Text.Utf8.readable?_encode]
  exact ofCacheText_cacheText vocabulary

end Ontology

/-! ### Deriving a vocabulary into a file -/

/-- What is derived from a source has no fault. -/
theorem Vocabulary.fault?_of_ofTurtle {source : String} {vocabulary : Vocabulary}
    (derived : ofTurtle source = .ok vocabulary) : vocabulary.fault? = none := by
  unfold ofTurtle at derived
  simp only at derived
  split at derived
  · cases derived
  · split at derived
    · cases derived
    · next noFault =>
      exact Except.ok.inj derived ▸ noFault

namespace CommandLine

variable {environment : Settings.Environment} {parser : TreeParser} {directory : Location}
  {storage after : Storage} {source target : String} {vocabulary : Vocabulary}

/-- The file is written only if the source can be read and declares a vocabulary. -/
theorem run_regenerateFile :
    (regenerateFile (.ofStorage environment parser directory) source target).run storage =
      match Text.Utf8.readable? (storage.read? directory source) with
      | none => (.error (.unavailable source), storage)
      | some text => match Vocabulary.ofTurtle text with
        | .error fault => (.error fault, storage)
        | .ok vocabulary =>
          let (after, done) := storage.replaceAt directory false target vocabulary.fileContent
          if done then (.ok vocabulary, after) else (.error (.unavailable target), after) := by
  have opened :
      (regenerateFile (.ofStorage environment parser directory) source target).run storage =
        StateT.run (match Text.Utf8.readable? (storage.read? directory source) with
          | none => pure (.error (.unavailable source))
          | some text => match Vocabulary.ofTurtle text with
            | .error fault => pure (.error fault)
            | .ok vocabulary => do
              if ← (Host.ofStorage environment parser directory).replace false target
                vocabulary.fileContent then pure (.ok vocabulary)
              else pure (.error (.unavailable target))) storage := rfl
  rw [opened]
  split
  · rfl
  · split
    · rfl
    · next vocabulary _ =>
      rcases replaced : storage.replaceAt directory false target vocabulary.fileContent with
        ⟨after, done⟩
      simp only [Host.ofStorage, StateT.run_bind, StateT.run_modifyGet, replaced,
        Prod.swap_prod_mk, pure_bind]
      cases done <;> rfl

/-- A derivation that succeeds gives what a source declares, and leaves its text in the file to
which the path leads. -/
theorem exists_source_of_regenerateFile
    (done : (regenerateFile (.ofStorage environment parser directory) source target).run storage =
      (.ok vocabulary, after)) :
    (∃ text, Vocabulary.ofTurtle text = .ok vocabulary) ∧
      ∃ place, Storage.endsInName target = true ∧
        (Storage.Destination.ofPath directory false target).target? storage = some place ∧
        after.get? place = some (.file vocabulary.fileContent) := by
  rw [run_regenerateFile] at done
  split at done
  · cases (Prod.mk.inj done).1
  · next text _ =>
    split at done
    · cases (Prod.mk.inj done).1
    · next derivedVocabulary derived =>
      rcases replaced : storage.replaceAt directory false target derivedVocabulary.fileContent with
        ⟨left, succeeded⟩
      rw [replaced] at done
      cases succeeded with
      | false => cases (Prod.mk.inj done).1
      | true =>
        cases done
        exact ⟨⟨text, derived⟩, Storage.exists_target_of_replaceAt replaced⟩

end CommandLine

/-- A vocabulary survives its form on disk. Whatever names it holds, reading its text gives it
back; the text is accepted as the ontology of exactly this vocabulary if the vocabulary is sound,
and is refused with the vocabulary's own fault if it is not. So what a source declares is accepted
as it is once it has been written to a file; the file stands where its path leads, which is where
the names of the path say unless there is a link among them. -/
theorem Ontology.ofCacheText_gives_back :
    (∀ vocabulary : Vocabulary,
      Vocabulary.ofCacheText vocabulary.cacheText = .ok vocabulary ∧
      (vocabulary.fault? = none → ∃ ontology,
        ofCacheText vocabulary.cacheText = .ok ontology ∧ ontology.vocabulary = vocabulary) ∧
      ∀ fault, vocabulary.fault? = some fault →
        ofCacheText vocabulary.cacheText = .error fault) ∧
    (∀ text vocabulary, Vocabulary.ofTurtle text = .ok vocabulary → ∃ ontology,
      ofCacheText vocabulary.cacheText = .ok ontology ∧ ontology.vocabulary = vocabulary) ∧
    ∀ environment parser directory storage source target vocabulary after,
      (CommandLine.regenerateFile (.ofStorage environment parser directory) source target).run
          storage = (.ok vocabulary, after) →
        ∃ place content,
          (Storage.Destination.ofPath directory false target).target? storage = some place ∧
          (storage.IsDirect directory target → place = Storage.place directory target) ∧
          after.get? place = some (.file content) ∧
          ∃ ontology, load (some (target, Text.Utf8.readable? (some content))) = .ok ontology ∧
            ontology.vocabulary = vocabulary := by
  refine ⟨fun vocabulary => ⟨Vocabulary.ofCacheText_cacheText vocabulary, fun noFault => ?_,
    fun fault isFault => ?_⟩, fun text vocabulary derived => ?_, ?_⟩
  · rw [ofCacheText_cacheText]
    exact exists_ofVocabulary_eq_ok noFault
  · rw [ofCacheText_cacheText]
    exact ofVocabulary_eq_error_iff.mpr isFault
  · rw [ofCacheText_cacheText]
    exact exists_ofVocabulary_eq_ok (Vocabulary.fault?_of_ofTurtle derived)
  · intro environment parser directory storage source target vocabulary after done
    have ⟨⟨text, derived⟩, place, named, isTarget, written⟩ :=
      CommandLine.exists_source_of_regenerateFile done
    refine ⟨place, vocabulary.fileContent, isTarget,
      fun direct => Storage.Destination.eq_place_of_isDirect direct named isTarget, written, ?_⟩
    rw [load_fileContent]
    exact exists_ofVocabulary_eq_ok (Vocabulary.fault?_of_ofTurtle derived)

/-- Names with quotes, backslashes and ends of lines. -/
def Vocabulary.quoted : Vocabulary :=
  ⟨.ofList ["b\"\\", "a\nb", "\u2028x"], .empty, .ofList ["\x00"], .empty⟩

/-- A name that lies in two sets. -/
def Vocabulary.clashing : Vocabulary := ⟨.ofList ["Thing"], .ofList ["Thing"], .empty, .empty⟩

/-- A directory with a source that declares one class. -/
def Storage.withSource : Storage :=
  ⟨[(["source.ttl"], .file (Text.Utf8.encode ":Only a owl:Class .\n"))]⟩

open CommandLine in
/-- What is read back of a sound vocabulary, of one that is not sound, and of a derived one. -/
theorem Ontology.ofCacheText_of_samples :
    (∃ ontology, ofCacheText Vocabulary.quoted.cacheText = .ok ontology ∧
      ontology.vocabulary = Vocabulary.quoted) ∧
    ofCacheText Vocabulary.clashing.cacheText =
      .error (.overlap "Thing" .classTerm .objectProperty) ∧
    ∃ vocabulary after,
      (regenerateFile (.ofStorage (fun _ => none) (fun _ _ _ => .error .noTree) []) "source.ttl"
          "a.json").run Storage.withSource = (.ok vocabulary, after) ∧
        (∃ ontology, ofCacheText vocabulary.cacheText = .ok ontology ∧
          ontology.vocabulary = vocabulary) ∧
        ∃ content, after.get? ["a.json"] = some (.file content) ∧
          ∃ ontology, load (some ("a.json", Text.Utf8.readable? (some content))) = .ok ontology ∧
            ontology.vocabulary = vocabulary := by
  have noFault : Vocabulary.quoted.fault? = none := by decide +kernel
  have isFault : Vocabulary.clashing.fault? =
      some (.overlap "Thing" .classTerm .objectProperty) := by decide +kernel
  let only : Vocabulary := ⟨.ofList ["Only"], .empty, .empty, .empty⟩
  have readText : Text.Utf8.readable? (Storage.withSource.read? [] "source.ttl") =
      some ":Only a owl:Class .\n" := by
    have held : Storage.withSource.get? ["source.ttl"] =
        some (.file (Text.Utf8.encode ":Only a owl:Class .\n")) := rfl
    have located : Storage.withSource.locate? [] "source.ttl" = some ["source.ttl"] := by
      decide +kernel
    rw [Storage.read?, located, Option.bind_some, held]
    exact Text.Utf8.readable?_encode _
  have derived : Vocabulary.ofTurtle ":Only a owl:Class .\n" = .ok only := by decide +kernel
  have succeeds : (Storage.withSource.replaceAt [] false "a.json" only.fileContent).2 = true := by
    decide +kernel
  have done : (regenerateFile (.ofStorage (fun _ => none) (fun _ _ _ => .error .noTree) [])
      "source.ttl" "a.json").run Storage.withSource =
        (.ok only, (Storage.withSource.replaceAt [] false "a.json" only.fileContent).1) := by
    rw [run_regenerateFile, readText]
    simp only [derived, succeeds, if_pos]
  have atName : (Storage.Destination.ofPath [] false "a.json").target? Storage.withSource =
      some ["a.json"] := by decide +kernel
  obtain ⟨place, content, isTarget, -, written, accepted⟩ :=
    ofCacheText_gives_back.2.2 _ _ _ _ _ _ _ _ done
  obtain rfl := Option.some.inj (atName.symm.trans isTarget)
  exact ⟨(ofCacheText_gives_back.1 _).2.1 noFault, (ofCacheText_gives_back.1 _).2.2 _ isFault,
    only, _, done, ofCacheText_gives_back.2.1 _ _ derived, content, written, accepted⟩

end CodeGraph
