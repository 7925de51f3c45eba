/-
This file proves that identifiers tell apart what they stand for.

An identifier is made of the hexadecimal digits of a digest, and these determine the digest. Of the
digest itself nothing is known or assumed but what is said in each theorem: that there is no
collision among some messages (`Digest.CollisionFree`). So everything else is about messages, which
are the bytes of texts with zero bytes between them. The bytes of a text determine the text. A zero
byte stands for no character but the zero character, as every byte of a longer encoding has its
highest bit set; so in a text without this character there is none.

Of bytes with a zero byte among them one can read off what stands before the first zero byte and
what follows it, and just so what stands behind the last one. Within a file the message of an
entity is read from its start, behind the message of the file, which is the same for all. Across
files it is read from its end. The line may hold zero bytes itself, but there are always four of
them; before them stand the name and the class, each behind the last zero byte that is left
(`parts_eq_of_entityMessage_eq`). Identifiers of files and of entities begin differently.
-/
import CodeGraph.Graph.Identifier

namespace CodeGraph

/-! ### Bytes of texts -/

namespace Text.Utf8

theorem toByteArray_eq_utf8Encode (text : String) :
    text.toByteArray = text.toList.utf8Encode := by
  rw [← String.toByteArray_ofList, String.ofList_toList]

/-- Listing the bytes of an array collects them from an index on. -/
theorem toList_loop_eq (bytes : ByteArray) (index : Nat) (found : List UInt8) :
    ByteArray.toList.loop bytes index found = found.reverse ++ bytes.data.toList.drop index := by
  fun_induction ByteArray.toList.loop bytes index found with
  | case1 index found inside inductionHypothesis =>
    have bounded : index < bytes.data.size := inside
    have first : bytes.get! index = bytes.data.toList[index] := by
      rw [ByteArray.get!, getElem!_pos bytes.data index bounded, Array.getElem_toList]
    rw [inductionHypothesis, List.drop_eq_getElem_cons bounded, List.reverse_cons,
      List.append_assoc, List.singleton_append, first]
  | case2 index found outside =>
    rw [List.drop_of_length_le (Nat.le_of_not_lt outside), List.append_nil]

/-- The bytes of a text are those of its characters, one after the other. -/
theorem encode_eq_flatMap (text : String) :
    encode text = text.toList.flatMap String.utf8EncodeChar := by
  rw [encode, String.toUTF8_eq_toByteArray, toByteArray_eq_utf8Encode, ByteArray.toList,
    toList_loop_eq, List.drop_zero, List.reverse_nil, List.nil_append, List.utf8Encode,
    List.toList_data_toByteArray]

/-- Texts with the same bytes are equal. -/
theorem encode_injective {left right : String} (same : encode left = encode right) :
    left = right := by
  rw [encode_eq_flatMap, encode_eq_flatMap] at same
  rw [← String.toByteArray_inj, toByteArray_eq_utf8Encode, toByteArray_eq_utf8Encode,
    List.utf8Encode, List.utf8Encode, same]

/-- A zero byte stands for the zero character only. -/
theorem eq_zero_of_mem_utf8EncodeChar {character : Char}
    (member : 0 ∈ String.utf8EncodeChar character) : character = '\x00' := by
  unfold String.utf8EncodeChar at member
  simp only at member
  split at member
  · next ascii =>
    have zero := congrArg UInt8.toNat (List.mem_singleton.mp member)
    rw [UInt8.toNat_ofNat', Nat.mod_eq_of_lt (by omega)] at zero
    exact Char.ext (UInt32.toNat_inj.mp zero.symm)
  all_goals
    -- every byte of a longer encoding has its highest bit set
    exfalso
    repeat' split at member
    all_goals
      simp only [List.mem_cons, List.not_mem_nil, or_false, ← UInt8.toNat_inj,
        UInt8.toNat_ofNat', UInt8.toNat_zero] at member
      omega

end Text.Utf8

/-- Whether a text is free of the zero character, so that a zero byte can end it. -/
def HoldsNoZero (text : String) : Prop := '\x00' ∉ text.toList

instance (text : String) : Decidable (HoldsNoZero text) :=
  inferInstanceAs (Decidable ('\x00' ∉ text.toList))

theorem HoldsNoZero.not_mem_encode {text : String} (clean : HoldsNoZero text) :
    0 ∉ Text.Utf8.encode text := by
  rw [Text.Utf8.encode_eq_flatMap]
  intro member
  obtain ⟨character, inside, zero⟩ := List.mem_flatMap.mp member
  exact clean (Text.Utf8.eq_zero_of_mem_utf8EncodeChar zero ▸ inside)

/-! ### Digests -/

namespace Digest

/-- No two of the given messages have the same digest. -/
def CollisionFree (messages : List (List UInt8)) : Prop :=
  ∀ left ∈ messages, ∀ right ∈ messages, sha256 left = sha256 right → left = right

instance (messages : List (List UInt8)) : Decidable (CollisionFree messages) :=
  inferInstanceAs (Decidable (∀ left ∈ messages, ∀ right ∈ messages,
    sha256 left = sha256 right → left = right))

theorem CollisionFree.mono {messages others : List (List UInt8)} (free : CollisionFree others)
    (subset : messages ⊆ others) : CollisionFree messages :=
  fun left leftMember right rightMember =>
    free left (subset leftMember) right (subset rightMember)

theorem hexDigit_injective : ∀ left < 16, ∀ right < 16,
    hexDigit left = hexDigit right → left = right := by decide

/-- Bytes with the same digits are equal. -/
theorem hexadecimal_injective {left right : List UInt8}
    (same : hexadecimal left = hexadecimal right) : left = right := by
  have digits := String.ofList_inj.mp same
  clear same
  induction left generalizing right with
  | nil =>
    cases right with
    | nil => rfl
    | cons => cases digits
  | cons byte rest inductionHypothesis =>
    cases right with
    | nil => cases digits
    | cons other others =>
      rw [List.flatMap_cons, List.flatMap_cons] at digits
      obtain ⟨pair, later⟩ := List.append_inj digits rfl
      obtain ⟨high, low⟩ : _ ∧ _ := by simpa using pair
      have bounded := byte.toNat_lt
      have otherBounded := other.toNat_lt
      have sameHigh := hexDigit_injective _ (by omega) _ (by omega) high
      have sameLow := hexDigit_injective _ (Nat.mod_lt _ (by decide)) _
        (Nat.mod_lt _ (by decide)) low
      rw [UInt8.toNat_inj.mp (by omega : byte.toNat = other.toNat), inductionHypothesis later]

end Digest

/-! ### Messages -/

namespace Identifier

open Text Digest

/-- What stands before the first zero byte can be read off, and what follows it. -/
theorem append_inj_of_first_zero {before front after back : List UInt8} (clean : 0 ∉ before)
    (otherClean : 0 ∉ front) (same : before ++ 0 :: after = front ++ 0 :: back) :
    before = front ∧ after = back := by
  induction before generalizing front with
  | nil =>
    cases front with
    | nil => exact ⟨rfl, (List.cons.inj same).2⟩
    | cons head rest => exact absurd ((List.cons.inj same).1 ▸ List.mem_cons_self) otherClean
  | cons byte others inductionHypothesis =>
    cases front with
    | nil => exact absurd ((List.cons.inj same).1 ▸ List.mem_cons_self) clean
    | cons head rest =>
      have ⟨sameHead, sameRest⟩ := List.cons.inj same
      have ⟨sameOthers, sameAfter⟩ := inductionHypothesis
        (fun member => clean (List.mem_cons_of_mem _ member))
        (fun member => otherClean (List.mem_cons_of_mem _ member)) sameRest
      exact ⟨by rw [sameHead, sameOthers], sameAfter⟩

/-- What stands after the last zero byte can be read off, and what comes before it. -/
theorem append_inj_of_last_zero {before front after back : List UInt8} (clean : 0 ∉ after)
    (otherClean : 0 ∉ back) (same : before ++ 0 :: after = front ++ 0 :: back) :
    before = front ∧ after = back := by
  have reversed := congrArg List.reverse same
  rw [List.reverse_append, List.reverse_append, List.reverse_cons, List.reverse_cons,
    List.append_assoc, List.append_assoc, List.singleton_append, List.singleton_append] at reversed
  have ⟨sameAfter, sameBefore⟩ := append_inj_of_first_zero (by simpa using clean)
    (by simpa using otherClean) reversed
  exact ⟨List.reverse_inj.mp sameBefore, List.reverse_inj.mp sameAfter⟩

/-- The message of an entity is that of its file with three more parts. -/
theorem entityMessage_eq (repository path className canonicalName : String) (line : Nat) :
    entityMessage repository path className canonicalName line =
      fileMessage repository path ++ 0 :: (Utf8.encode className ++ 0 ::
        (Utf8.encode canonicalName ++ 0 :: lineBytes line)) := by
  simp [entityMessage, fileMessage]

/-- Within a file a message determines the class and the canonical name. -/
theorem entityMessage_inj {repository path className otherClass name otherName : String}
    {line otherLine : Nat} (clean : HoldsNoZero className) (otherClean : HoldsNoZero otherClass)
    (same : entityMessage repository path className name line =
      entityMessage repository path otherClass otherName otherLine) :
    className = otherClass ∧ name = otherName := by
  rw [entityMessage_eq, entityMessage_eq] at same
  have parts := (List.cons.inj (List.append_cancel_left same)).2
  have ⟨sameClass, sameRest⟩ :=
    append_inj_of_first_zero clean.not_mem_encode otherClean.not_mem_encode parts
  have ⟨sameName, _⟩ := List.append_inj' sameRest rfl
  exact ⟨Utf8.encode_injective sameClass, Utf8.encode_injective sameName⟩

/-- Across files a message determines that of the file, the class, the name and the bytes of the
line, if the class and the name can be told apart from what follows them. -/
theorem parts_eq_of_entityMessage_eq
    {repository otherRepository path otherPath className otherClass name otherName : String}
    {line otherLine : Nat} (clean : HoldsNoZero className) (otherClean : HoldsNoZero otherClass)
    (cleanName : HoldsNoZero name) (otherCleanName : HoldsNoZero otherName)
    (same : entityMessage repository path className name line =
      entityMessage otherRepository otherPath otherClass otherName otherLine) :
    fileMessage repository path = fileMessage otherRepository otherPath ∧
      className = otherClass ∧ name = otherName ∧ lineBytes line = lineBytes otherLine := by
  have fromTheEnd (repository path className name : String) (line : Nat) :
      entityMessage repository path className name line =
        ((fileMessage repository path ++ 0 :: Utf8.encode className) ++ 0 :: Utf8.encode name) ++
          0 :: lineBytes line := by
    simp [entityMessage_eq]
  rw [fromTheEnd, fromTheEnd] at same
  -- the line may hold zero bytes, but there are always four of them
  have ⟨beforeLine, sameLine⟩ := List.append_inj' same rfl
  have ⟨beforeName, sameName⟩ := append_inj_of_last_zero cleanName.not_mem_encode
    otherCleanName.not_mem_encode beforeLine
  have ⟨sameFile, sameClass⟩ := append_inj_of_last_zero clean.not_mem_encode
    otherClean.not_mem_encode beforeName
  exact ⟨sameFile, Utf8.encode_injective sameClass, Utf8.encode_injective sameName,
    (List.cons.inj sameLine).2⟩

/-- Entities with the same identifier have the same digest. -/
theorem sha256_eq_of_entity_eq
    {repository otherRepository path otherPath className otherClass name otherName : String}
    {line otherLine : Nat}
    (same : entity repository path className name line =
      entity otherRepository otherPath otherClass otherName otherLine) :
    sha256 (entityMessage repository path className name line) =
      sha256 (entityMessage otherRepository otherPath otherClass otherName otherLine) :=
  hexadecimal_injective (String.append_right_inj _ |>.mp same)

/-- No file has the identifier of an entity. -/
theorem file_ne_entity (repository path otherRepository otherPath className name : String)
    (line : Nat) : file repository path ≠ entity otherRepository otherPath className name line := by
  intro same
  have first := congrArg (fun id => id.toList.head?) same
  simp [file, entity] at first

end Identifier

end CodeGraph
