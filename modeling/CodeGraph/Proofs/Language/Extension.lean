/-
This file compares the two ways to find a language by a file extension. One compares the ASCII
letters of extensions in whatever case they are; the other looks the extension up in lower case, by
the rules of Unicode.

The known extensions consist of the letters from a to z. Lower case leads from a character that is
not ASCII to such a letter in one case only: the Kelvin sign goes to k. This is a fact about the
table of the mapping, each line of which moves a range of code points. `LeavesAscii` says of a line
that its images stay beyond ASCII unless it is that of the Kelvin sign; every line is checked by
computation, and a character goes by the line that holds it. A text is therefore a word of letters
from a to z in lower case exactly if it is that word once the Kelvin sign is read as k and only
ASCII letters are put in lower case (`lowercase_eq_iff`).

The rest is about the table of a catalog, into which extensions are entered one after the other.
Under an extension stands what was entered last; no two languages share an extension, so nothing is
ever replaced, and the table finds exactly the selected languages. Both ways then differ only by
the reading of the Kelvin sign (`finds_iff`), and agree on every extension without it.
-/
import Mathlib.Data.List.Induction
import CodeGraph.Language.Catalog
import CodeGraph.Proofs.Record.Completeness
import CodeGraph.Proofs.Text.Words

namespace CodeGraph

/-! ### Lower case -/

namespace Text

/-- The character K of the unit of temperature, which is k in lower case. -/
def kelvinSign : Char := '\u212A'

/-- A character with k in the place of the Kelvin sign. -/
def readKelvin (character : Char) : Char := if character = kelvinSign then 'k' else character

/-- A text with k in the place of every Kelvin sign. -/
def withoutKelvin (text : String) : String := String.ofList (text.toList.map readKelvin)

theorem withoutKelvin_eq_self {text : String} (plain : kelvinSign ∉ text.toList) :
    withoutKelvin text = text := by
  have same : text.toList.map readKelvin = text.toList := by
    refine (List.map_congr_left fun character member => ?_).trans (List.map_id _)
    exact if_neg (by rintro rfl; exact plain member)
  rw [withoutKelvin, same, String.ofList_toList]

/-! ### The table of lower case -/

open Unicode CaseMapping

/-- What is known of a segment of the lower-case mapping: if it leaves ASCII it does not come back,
but for the Kelvin sign, and it does not send the Kelvin sign elsewhere. -/
def LeavesAscii (segment : Segment) : Prop :=
  (segment.last < 0x80 ∨ 0x80 ≤ segment.image ∨ segment.first = 0x212a ∧ segment.last = 0x212a) ∧
    (segment.imageOf? 0x212a = none ∨ segment.imageOf? 0x212a = some 0x6b)

instance (segment : Segment) : Decidable (LeavesAscii segment) :=
  inferInstanceAs (Decidable (_ ∧ _))

/-- The table, line by line: the characters of a line are named so that only they are evaluated. -/
theorem leavesAscii_of_mem_segments :
    ∀ segment ∈ CaseMapping.lowercase.segments, LeavesAscii segment := by
  have holds : ∀ word ∈ tableWords lowercaseLines, LeavesAscii (Segment.ofWord word) := by
    refine forall_mem_tableWords ?_
    unfold lowercaseLines
    repeat refine List.forall_mem_cons.mpr ⟨⟨_, rfl, by decide +kernel⟩, ?_⟩
    exact fun _ member => nomatch member
  intro segment member
  obtain ⟨word, isWord, rfl⟩ := List.mem_map.mp member
  exact holds word isWord

theorem exists_segment_of_kelvinSign :
    ∃ segment ∈ CaseMapping.lowercase.segments, segment.imageOf? 0x212a = some 0x6b := by
  have inLine : ∃ line, lowercaseLines[15]? = some line ∧ ∃ characters,
      line = String.ofList characters ∧
        ['2', '1', '2', 'a', '>', '6', 'b'] ∈ piecesAt ' ' characters :=
    ⟨_, rfl, _, rfl, by decide +kernel⟩
  obtain ⟨line, isLine, characters, rfl, isWord⟩ := inLine
  refine ⟨_, List.mem_map_of_mem (List.mem_flatMap.mpr
    ⟨_, List.mem_of_getElem? isLine, ?_⟩), (by decide :
      (Segment.ofWord ['2', '1', '2', 'a', '>', '6', 'b']).imageOf? 0x212a = some 0x6b)⟩
  rwa [String.toList_ofList]

/-- The Kelvin sign is k in lower case. -/
theorem toLowercase_kelvinSign : toLowercase kelvinSign = ['k'] := by
  have image : CaseMapping.lowercase.segments.findSome? (·.imageOf? 0x212a) = some 0x6b := by
    cases found : CaseMapping.lowercase.segments.findSome? (·.imageOf? 0x212a) with
    | none =>
      obtain ⟨segment, member, covers⟩ := exists_segment_of_kelvinSign
      exact absurd covers (by rw [List.findSome?_eq_none_iff.mp found segment member]; decide)
    | some image =>
      obtain ⟨segment, member, covers⟩ := List.exists_of_findSome?_eq_some found
      rcases (leavesAscii_of_mem_segments segment member).2 with none | same
      · cases none.symm.trans covers
      · exact covers.symm.trans same
  have applied : CaseMapping.lowercase.apply 0x212a = [0x6b] := by
    rw [CaseMapping.Table.apply, image]
  show (CaseMapping.lowercase.apply 0x212a).map Char.ofNat = ['k']
  rw [applied]
  rfl

theorem exists_image_of_mem_long : ∀ entry ∈ CaseMapping.lowercase.long,
    ∃ image ∈ entry.2, 0x80 ≤ image := by decide +kernel

/-- Beyond ASCII every code point but the Kelvin sign has an image beyond ASCII in lower case. -/
theorem exists_image_of_apply {codePoint : Nat} (beyond : 0x80 ≤ codePoint)
    (notKelvin : codePoint ≠ 0x212a) :
    ∃ image ∈ CaseMapping.lowercase.apply codePoint, 0x80 ≤ image := by
  unfold Table.apply
  split
  · next image found =>
    obtain ⟨segment, isSegment, covers⟩ := List.exists_of_findSome?_eq_some found
    have leaves := (leavesAscii_of_mem_segments segment isSegment).1
    unfold Segment.imageOf? at covers
    split at covers
    · next inside =>
      have := Option.some.inj covers
      exact ⟨image, List.mem_singleton_self _, by omega⟩
    · cases covers
  · split
    · next entry images found =>
      exact exists_image_of_mem_long _ (List.mem_of_find?_eq_some found)
    · exact ⟨codePoint, List.mem_singleton_self _, beyond⟩

/-- A letter from a to z is an ASCII character. -/
theorem toNat_lt_of_isLower {character : Char} (lower : character.isLower) :
    character.toNat < 0x80 := by
  have atMost : character.val ≤ 122 := of_decide_eq_true (Bool.and_eq_true_iff.mp lower).2
  exact Nat.lt_of_le_of_lt (UInt32.le_iff_toNat_le.mp atMost) (by decide)

theorem toLower_eq_self {character : Char} (beyond : 0x80 ≤ character.toNat) :
    character.toLower = character := by
  unfold Char.toLower
  refine dif_neg fun upper => ?_
  have := UInt32.le_iff_toNat_le.mp upper.2
  exact absurd (Nat.le_trans beyond this) (by decide)

theorem toNat_ofNat_cases (codePoint : Nat) :
    (Char.ofNat codePoint).toNat = codePoint ∨ Char.ofNat codePoint = '\x00' := by
  by_cases valid : codePoint.isValidChar
  · exact .inl (congrArg Char.toNat (dif_pos valid))
  · exact .inr (dif_neg valid)

/-- Beyond ASCII a character in lower case is more than letters from a to z, unless it is the Kelvin
sign. -/
theorem exists_not_isLower_of_toLowercase {character : Char} (beyond : isAscii character = false)
    (notKelvin : character ≠ kelvinSign) :
    ∃ other ∈ toLowercase character, ¬other.isLower := by
  have notSmall : 0x80 ≤ character.toNat := by simpa [isAscii] using beyond
  have differs : character.toNat ≠ 0x212a := fun same =>
    notKelvin (by rw [← Char.ofNat_toNat character, same]; rfl)
  obtain ⟨image, isImage, imageBeyond⟩ := exists_image_of_apply notSmall differs
  refine ⟨Char.ofNat image, ?_, fun lower => ?_⟩
  · rw [toLowercase, beyond]
    exact List.mem_map_of_mem isImage
  · rcases toNat_ofNat_cases image with same | isZero
    · have := toNat_lt_of_isLower lower
      omega
    · rw [isZero] at lower
      exact absurd lower (by decide)

/-- The Kelvin sign apart, a character that is not ASCII stays out of the letters from a to z. -/
theorem toLowercase_cases (character : Char) :
    toLowercase character = [(readKelvin character).toLower] ∨
      ((∃ other ∈ toLowercase character, ¬other.isLower) ∧
        ¬(readKelvin character).toLower.isLower) := by
  cases ascii : isAscii character with
  | true =>
    have notKelvin : character ≠ kelvinSign := by
      rintro rfl
      exact absurd ascii (by decide)
    rw [readKelvin, if_neg notKelvin, toLowercase, ascii, if_pos rfl]
    exact .inl rfl
  | false =>
    by_cases isKelvin : character = kelvinSign
    · subst isKelvin
      exact .inl toLowercase_kelvinSign
    · refine .inr ⟨exists_not_isLower_of_toLowercase ascii isKelvin, fun lower => ?_⟩
      have notSmall : 0x80 ≤ character.toNat := by simpa [isAscii] using ascii
      rw [readKelvin, if_neg isKelvin, toLower_eq_self notSmall] at lower
      exact absurd (toNat_lt_of_isLower lower) (Nat.not_lt.mpr notSmall)

/-- A text is a word of letters from a to z in lower case exactly if it is that word when the Kelvin
sign is read as k and only ASCII letters are put in lower case. -/
theorem lowercase_eq_iff {text word : String} (letters : ∀ letter ∈ word.toList, letter.isLower) :
    lowercase text = word ↔ asciiLowercase (withoutKelvin text) = word := by
  rw [lowercase, asciiLowercase, withoutKelvin, String.toList_ofList, List.map_map]
  by_cases plain : ∀ character ∈ text.toList,
      toLowercase character = [(readKelvin character).toLower]
  · have same : text.toList.flatMap toLowercase = text.toList.map (Char.toLower ∘ readKelvin) := by
      rw [List.map_eq_flatMap]
      exact List.flatMap_congr plain
    rw [same]
  · -- some character is in neither spelling a letter, so neither spelling is the word
    push Not at plain
    obtain ⟨character, member, notPlain⟩ := plain
    obtain ⟨⟨other, isOther, otherNot⟩, not⟩ := (toLowercase_cases character).resolve_left notPlain
    constructor
    · rintro rfl
      refine absurd (letters other ?_) otherNot
      rw [String.toList_ofList]
      exact List.mem_flatMap.mpr ⟨character, member, isOther⟩
    · rintro rfl
      refine absurd (letters (readKelvin character).toLower ?_) not
      rw [String.toList_ofList]
      exact List.mem_map.mpr ⟨character, member, rfl⟩

end Text

/-! ### Known extensions -/

namespace Language

/-- The known extensions are words of letters from a to z. -/
theorem isLower_of_mem_extensions {language : Language} {extension : String}
    (member : extension ∈ language.extensions) : ∀ letter ∈ extension.toList, letter.isLower := by
  have letters : (language.extensions.all fun extension => extension.toList.all Char.isLower) := by
    cases language <;> decide
  exact List.all_eq_true.mp (List.all_eq_true.mp letters extension member)

theorem asciiLowercase_of_mem_extensions {language : Language} {extension : String}
    (member : extension ∈ language.extensions) : Text.asciiLowercase extension = extension :=
  (by cases language <;> decide :
    ∀ extension ∈ language.extensions, Text.asciiLowercase extension = extension) extension member

theorem lowercase_of_mem_extensions {language : Language} {extension : String}
    (member : extension ∈ language.extensions) : Text.lowercase extension = extension :=
  (by cases language <;> decide :
    ∀ extension ∈ language.extensions, Text.lowercase extension = extension) extension member

/-- No two languages have an extension in common. -/
theorem eq_of_mem_extensions {language other : Language} {extension : String}
    (member : extension ∈ language.extensions) (otherMember : extension ∈ other.extensions) :
    language = other :=
  (by cases language <;> decide :
    ∀ extension ∈ language.extensions, ∀ other ∈ all, extension ∈ other.extensions →
      language = other) extension member other (mem_all other) otherMember

/-- A language is found under the extensions it has, with their ASCII letters in any case. -/
theorem ofExtension?_eq_some_iff {language : Language} {extension : String} :
    ofExtension? extension = some language ↔
      Text.asciiLowercase extension ∈ language.extensions := by
  have has (other : Language) : (other.extensions.any fun known =>
      Text.asciiLowercase known == Text.asciiLowercase extension) = true ↔
        Text.asciiLowercase extension ∈ other.extensions := by
    rw [List.any_eq_true]
    constructor
    · rintro ⟨known, isKnown, same⟩
      rw [← beq_iff_eq.mp same, asciiLowercase_of_mem_extensions isKnown]
      exact isKnown
    · intro member
      exact ⟨_, member, beq_iff_eq.mpr (asciiLowercase_of_mem_extensions member)⟩
  have sound {other : Language} (found : ofExtension? extension = some other) :
      Text.asciiLowercase extension ∈ other.extensions := by
    have satisfies := List.find?_some found
    exact (has other).mp satisfies
  constructor
  · exact sound
  · intro member
    cases found : ofExtension? extension with
    | none =>
      exact absurd ((has language).mpr member)
        (List.find?_eq_none.mp found language (mem_all language))
    | some other => rw [eq_of_mem_extensions (sound found) member]

end Language

/-! ### The table of a catalog -/

namespace ExtensionTable

theorem lookup_filter_ne {table : ExtensionTable} {key removed : String} (other : key ≠ removed) :
    (table.filter (·.1 != removed)).lookup key = table.lookup key := by
  induction table with
  | nil => rfl
  | cons entry rest inductionHypothesis =>
    by_cases same : entry.1 = removed
    · rw [List.filter_cons_of_neg (by simp [same]), inductionHypothesis, List.lookup_cons, same,
        beq_eq_false_iff_ne.mpr other]
    · rw [List.filter_cons_of_pos (by simp [same]), List.lookup_cons, List.lookup_cons,
        inductionHypothesis]

/-- Under an extension the language is found that was entered last. -/
theorem lookup_enter (table : ExtensionTable) (language : Language) (extension key : String) :
    (enter language table extension).lookup key =
      if key = Text.lowercase extension then some language else table.lookup key := by
  unfold enter
  by_cases same : key = Text.lowercase extension
  · rw [if_pos same, List.lookup_cons, beq_iff_eq.mpr same]
  · rw [if_neg same, List.lookup_cons, beq_eq_false_iff_ne.mpr same]
    exact lookup_filter_ne same

theorem lookup_foldl_enter (table : ExtensionTable) (language : Language)
    (extensions : List String) (key : String) :
    (extensions.foldl (enter language) table).lookup key =
      if key ∈ extensions.map Text.lowercase then some language else table.lookup key := by
  induction extensions generalizing table with
  | nil => rfl
  | cons extension rest inductionHypothesis =>
    rw [List.foldl_cons, inductionHypothesis, lookup_enter, List.map_cons]
    by_cases inRest : key ∈ rest.map Text.lowercase
    · rw [if_pos inRest, if_pos (List.mem_cons_of_mem _ inRest)]
    · rw [if_neg inRest]
      simp only [List.mem_cons, inRest, or_false]

/-- A language is found under its own extensions once it is entered, and nothing else changes. -/
theorem lookup_enterAll (table : ExtensionTable) (language : Language) (key : String) :
    (enterAll table language).lookup key =
      if key ∈ language.extensions then some language else table.lookup key := by
  have lower : language.extensions.map Text.lowercase = language.extensions :=
    (List.map_congr_left fun _ member => Language.lowercase_of_mem_extensions member).trans
      (List.map_id _)
  rw [enterAll, lookup_foldl_enter, lower]

end ExtensionTable

namespace Catalog

/-- The table of a catalog finds the selected languages under their extensions. -/
theorem lookup_table_eq_some_iff {catalog : Catalog} {key : String} {language : Language} :
    catalog.table.lookup key = some language ↔
      language ∈ catalog.selected ∧ key ∈ language.extensions := by
  obtain ⟨selected⟩ := catalog
  show (selected.foldl ExtensionTable.enterAll []).lookup key = some language ↔
    language ∈ selected ∧ key ∈ language.extensions
  induction selected using List.reverseRecOn with
  | nil => simp
  | append_singleton earlier last inductionHypothesis =>
    rw [List.foldl_append, List.foldl_cons, List.foldl_nil, ExtensionTable.lookup_enterAll,
      List.mem_append, List.mem_singleton]
    split
    · next inLast =>
      constructor
      · intro same
        obtain rfl := Option.some.inj same
        exact ⟨.inr rfl, inLast⟩
      · rintro ⟨_, isExtension⟩
        rw [Language.eq_of_mem_extensions inLast isExtension]
    · next notLast =>
      rw [inductionHypothesis]
      constructor
      · exact fun ⟨isEarlier, isExtension⟩ => ⟨.inl isEarlier, isExtension⟩
      · rintro ⟨isEarlier | rfl, isExtension⟩
        · exact ⟨isEarlier, isExtension⟩
        · exact absurd isExtension notLast

theorem selected_of_ofLanguages {languages : List Language} {ontology : Ontology}
    {catalog : Catalog} (isCatalog : ofLanguages languages ontology = .ok catalog) :
    catalog.selected = languages := by
  unfold ofLanguages at isCatalog
  split at isCatalog
  · cases isCatalog
  · rw [← Except.ok.inj isCatalog]

/-- A catalog finds its languages under the extensions under which they are known, if the Kelvin
sign is read as k. -/
theorem ofExtension?_eq_some_iff {catalog : Catalog} {extension : String} {language : Language} :
    catalog.ofExtension? extension = some language ↔
      Language.ofExtension? (Text.withoutKelvin extension) = some language ∧
        language ∈ catalog.selected := by
  rw [ofExtension?, lookup_table_eq_some_iff, Language.ofExtension?_eq_some_iff, and_comm]
  refine and_congr_left fun _ => ⟨fun member => ?_, fun member => ?_⟩
  · rwa [(Text.lowercase_eq_iff (Language.isLower_of_mem_extensions member)).mp rfl]
  · rwa [(Text.lowercase_eq_iff (Language.isLower_of_mem_extensions member)).mpr rfl]

theorem canParse_eq_isSome (catalog : Catalog) (extension : String) :
    catalog.canParse extension = (catalog.ofExtension? extension).isSome := by
  unfold canParse ofExtension?
  induction catalog.table with
  | nil => rfl
  | cons entry rest inductionHypothesis =>
    rw [List.any_cons, inductionHypothesis, List.lookup_cons, BEq.comm]
    cases Text.lowercase extension == entry.1
    · rfl
    · rfl

/-- The two ways to find a language agree if the Kelvin sign is read as k: a catalog finds exactly
its own languages, and it tells whether it finds one. So they agree on every extension and on every
path without the Kelvin sign. -/
theorem finds_iff {languages : List Language} {ontology : Ontology} {catalog : Catalog}
    (isCatalog : ofLanguages languages ontology = .ok catalog) :
    (∀ extension language, catalog.ofExtension? extension = some language ↔
      Language.ofExtension? (Text.withoutKelvin extension) = some language ∧
        language ∈ languages) ∧
    (∀ extension, catalog.canParse extension = true ↔ ∃ language ∈ languages,
      Language.ofExtension? (Text.withoutKelvin extension) = some language) ∧
    (∀ extension language, Text.kelvinSign ∉ extension.toList →
      (catalog.ofExtension? extension = some language ↔
        Language.ofExtension? extension = some language ∧ language ∈ languages)) ∧
    ∀ path language, (∀ extension, Path.extension? path = some extension →
        Text.kelvinSign ∉ extension.toList) →
      (catalog.ofPath? path = some language ↔
        Language.ofPath? path = some language ∧ language ∈ languages) := by
  have selected := selected_of_ofLanguages isCatalog
  have finds (extension : String) (language : Language) :
      catalog.ofExtension? extension = some language ↔
        Language.ofExtension? (Text.withoutKelvin extension) = some language ∧
          language ∈ languages := by
    rw [ofExtension?_eq_some_iff, selected]
  have findsPlain (extension : String) (language : Language)
      (plain : Text.kelvinSign ∉ extension.toList) :
      catalog.ofExtension? extension = some language ↔
        Language.ofExtension? extension = some language ∧ language ∈ languages := by
    rw [finds, Text.withoutKelvin_eq_self plain]
  refine ⟨finds, fun extension => ?_, findsPlain, fun path language plain => ?_⟩
  · rw [canParse_eq_isSome, Option.isSome_iff_exists]
    simp only [finds, and_comm]
  · unfold ofPath? Language.ofPath?
    cases hasExtension : Path.extension? path with
    | none => simp
    | some extension =>
      rw [Option.bind_some, Option.bind_some, findsPlain extension language (plain _ hasExtension)]

/-- The catalog of all languages of a sample vocabulary finds Ruby with an ending in mixed case. -/
theorem finds_ruby_of_sample : ∃ catalog,
    complete ClassifiedFile.sampleOntology = .ok catalog ∧
      catalog.ofPath? "lib/Tasks.RaKe" = some .ruby ∧
      Language.ofPath? "lib/Tasks.RaKe" = some .ruby := by
  have isCatalog : complete ClassifiedFile.sampleOntology = .ok ⟨Language.all⟩ := by decide +kernel
  have found : Language.ofPath? "lib/Tasks.RaKe" = some .ruby := by decide +kernel
  refine ⟨⟨Language.all⟩, isCatalog, ?_, found⟩
  exact ((finds_iff isCatalog).2.2.2 _ _ (by decide +kernel)).mpr ⟨found, Language.mem_all _⟩

/-- With the Kelvin sign in an extension, the catalog finds a language that is else not known. -/
theorem finds_kelvin_of_sample : ∃ catalog,
    complete ClassifiedFile.sampleOntology = .ok catalog ∧
      catalog.ofExtension? "ra\u212ae" = some .ruby ∧
      Language.ofExtension? "ra\u212ae" = none := by
  have isCatalog : complete ClassifiedFile.sampleOntology = .ok ⟨Language.all⟩ := by decide +kernel
  exact ⟨_, isCatalog, ofExtension?_eq_some_iff.mpr ⟨by decide +kernel, Language.mem_all _⟩,
    by decide +kernel⟩

end Catalog

end CodeGraph
