/-
This file proves that decoding and encoding are inverse to each other: bytes are decoded to a text
exactly if they are the encoding of that text.

Between the two stands the table of well-formed byte sequences (`StandFor`), with a constructor for
each of its rows. The rows bound the second byte, and these bounds are what leaves out the
surrogates, the code points that are too large and the encodings that are longer than they need be.
In numbers, each continuation byte is its payload behind two bits that mark it, and the code point
is put together from payloads; so what has to be shown for a row is linear arithmetic. A sequence
of the table is the encoding of the character that it stands for (`StandFor.utf8EncodeChar_eq`),
the decoder goes over it and adds that character (`StandFor.decodeFrom_append`), and the encoding
of every character is such a sequence (`standFor_utf8EncodeChar`).

With that one direction is an induction on the characters and the other one goes along the steps of
the decoder: whatever it decodes, the encodings of the characters it has added are the bytes it has
gone over (`flatMap_of_decodeFrom`).
-/
import CodeGraph.Proofs.Graph.Identifier

namespace CodeGraph.Text.Utf8

/-! ### Bytes as numbers -/

theorem isContinuation_iff {byte : UInt8} :
    isContinuation byte = true ↔ 0x80 ≤ byte.toNat ∧ byte.toNat ≤ 0xbf := by
  simp [isContinuation, UInt8.le_iff_toNat_le]

/-- The bounds of a second byte are narrower behind two of the first bytes. -/
theorem isSecond_iff {lowFirst highFirst lowest highest first second : UInt8}
    (apart : lowFirst ≠ highFirst) (lowBound : 0x80 ≤ lowest.toNat)
    (highBound : highest.toNat ≤ 0xbf) :
    (if first = lowFirst then decide (lowest ≤ second) && decide (second ≤ 0xbf)
      else if first = highFirst then decide (0x80 ≤ second) && decide (second ≤ highest)
      else isContinuation second) = true ↔
      isContinuation second = true ∧ (first.toNat = lowFirst.toNat → lowest.toNat ≤ second.toNat) ∧
        (first.toNat = highFirst.toNat → second.toNat ≤ highest.toNat) := by
  rw [isContinuation_iff, UInt8.toNat_inj, UInt8.toNat_inj]
  by_cases isLow : first = lowFirst
  · subst isLow
    simp [apart, UInt8.le_iff_toNat_le]
    omega
  · by_cases isHigh : first = highFirst
    · subst isHigh
      simp [isLow, UInt8.le_iff_toNat_le]
      omega
    · simp [isLow, isHigh, isContinuation_iff]

theorem isSecondOfThree_iff {first second : UInt8} :
    isSecondOfThree first second = true ↔
      isContinuation second = true ∧ (first.toNat = 0xe0 → 0xa0 ≤ second.toNat) ∧
        (first.toNat = 0xed → second.toNat ≤ 0x9f) :=
  isSecond_iff (by decide) (by decide) (by decide)

theorem isSecondOfFour_iff {first second : UInt8} :
    isSecondOfFour first second = true ↔
      isContinuation second = true ∧ (first.toNat = 0xf0 → 0x90 ≤ second.toNat) ∧
        (first.toNat = 0xf4 → second.toNat ≤ 0x8f) :=
  isSecond_iff (by decide) (by decide) (by decide)

/-- A continuation byte is its payload behind the two bits that mark it. -/
theorem toNat_of_isContinuation {byte : UInt8} (continues : isContinuation byte = true) :
    byte.toNat = 0x80 + payload byte ∧ payload byte < 0x40 := by
  have := isContinuation_iff.mp continues
  unfold payload
  omega

theorem ofNat_eq_of_toNat_eq (byte : UInt8) {value : Nat} (same : byte.toNat = value) :
    UInt8.ofNat value = byte := by
  rw [← same, UInt8.ofNat_toNat]

/-! ### The table of well-formed sequences -/

/-- The bytes are a well-formed sequence that stands for the code point. -/
inductive StandFor : List UInt8 → Nat → Prop where
  | one {first : UInt8} (ascii : first.toNat < 0x80) : StandFor [first] first.toNat
  | two {first second : UInt8} (low : 0xc2 ≤ first.toNat) (high : first.toNat ≤ 0xdf)
      (isSecond : isContinuation second = true) :
      StandFor [first, second] (first.toNat % 0x20 * 0x40 + payload second)
  | three {first second third : UInt8} (low : 0xe0 ≤ first.toNat) (high : first.toNat ≤ 0xef)
      (isSecond : isSecondOfThree first second = true) (isThird : isContinuation third = true) :
      StandFor [first, second, third]
        ((first.toNat % 0x10 * 0x40 + payload second) * 0x40 + payload third)
  | four {first second third fourth : UInt8} (low : 0xf0 ≤ first.toNat)
      (high : first.toNat ≤ 0xf4) (isSecond : isSecondOfFour first second = true)
      (isThird : isContinuation third = true) (isFourth : isContinuation fourth = true) :
      StandFor [first, second, third, fourth]
        (((first.toNat % 0x08 * 0x40 + payload second) * 0x40 + payload third) * 0x40
          + payload fourth)

namespace StandFor

variable {bytes : List UInt8} {value : Nat}

theorem congr {other : Nat} (stand : StandFor bytes value) (same : value = other) :
    StandFor bytes other :=
  same ▸ stand

/-- A well-formed sequence stands for no surrogate and nothing beyond the code points. -/
theorem isValidChar (stand : StandFor bytes value) : value.isValidChar := by
  show value < 0xd800 ∨ 0xdfff < value ∧ value < 0x110000
  cases stand with
  | one ascii => omega
  | two low high isSecond =>
    have := toNat_of_isContinuation isSecond
    omega
  | three low high isSecond isThird =>
    have ⟨continues, above, below⟩ := isSecondOfThree_iff.mp isSecond
    have := toNat_of_isContinuation continues
    have := toNat_of_isContinuation isThird
    omega
  | four low high isSecond isThird isFourth =>
    have ⟨continues, above, below⟩ := isSecondOfFour_iff.mp isSecond
    have := toNat_of_isContinuation continues
    have := toNat_of_isContinuation isThird
    have := toNat_of_isContinuation isFourth
    omega

/-- A well-formed sequence is the encoding of the character that it stands for. -/
theorem utf8EncodeChar_eq (stand : StandFor bytes value) :
    String.utf8EncodeChar (Char.ofNat value) = bytes := by
  have same : (Char.ofNat value).val.toNat = value := by
    rw [Char.ofNat, dif_pos stand.isValidChar]
    rfl
  unfold String.utf8EncodeChar
  simp only [same]
  cases stand with
  | one ascii => rw [if_pos (by omega), UInt8.ofNat_toNat]
  | @two first second low high isSecond =>
    have := toNat_of_isContinuation isSecond
    rw [if_neg (by omega), if_pos (by omega), ofNat_eq_of_toNat_eq first (by omega),
      ofNat_eq_of_toNat_eq second (by omega)]
  | @three first second third low high isSecond isThird =>
    have ⟨continues, above, below⟩ := isSecondOfThree_iff.mp isSecond
    have := toNat_of_isContinuation continues
    have := toNat_of_isContinuation isThird
    rw [if_neg (by omega), if_neg (by omega), if_pos (by omega),
      ofNat_eq_of_toNat_eq first (by omega), ofNat_eq_of_toNat_eq second (by omega),
      ofNat_eq_of_toNat_eq third (by omega)]
  | @four first second third fourth low high isSecond isThird isFourth =>
    have ⟨continues, above, below⟩ := isSecondOfFour_iff.mp isSecond
    have := toNat_of_isContinuation continues
    have := toNat_of_isContinuation isThird
    have := toNat_of_isContinuation isFourth
    rw [if_neg (by omega), if_neg (by omega), if_neg (by omega),
      ofNat_eq_of_toNat_eq first (by omega), ofNat_eq_of_toNat_eq second (by omega),
      ofNat_eq_of_toNat_eq third (by omega), ofNat_eq_of_toNat_eq fourth (by omega)]

/-- The decoder goes over a well-formed sequence and adds the character that it stands for. -/
theorem decodeFrom_append (stand : StandFor bytes value) (index : Nat) (found : List Char)
    (rest : List UInt8) :
    decodeFrom index found (bytes ++ rest) =
      decodeFrom (index + bytes.length) (Char.ofNat value :: found) rest := by
  cases stand with
  | @one first ascii =>
    have isAscii : first < 0x80 := ascii
    rw [List.cons_append, decodeFrom.eq_def]
    simp only [List.nil_append, if_pos isAscii, List.length_singleton]
  | @two first second low high isSecond =>
    have notAscii : ¬first < 0x80 := by simp [UInt8.lt_iff_toNat_lt]; omega
    have inRange : 0xc2 ≤ first ∧ first ≤ 0xdf := ⟨low, high⟩
    rw [List.cons_append, decodeFrom.eq_def]
    simp only [List.cons_append, List.nil_append, if_neg notAscii, if_pos inRange, if_pos isSecond,
      List.length_cons, List.length_nil]
  | @three first second third low high isSecond isThird =>
    have notAscii : ¬first < 0x80 := by simp [UInt8.lt_iff_toNat_lt]; omega
    have notTwo : ¬(0xc2 ≤ first ∧ first ≤ 0xdf) := by simp [UInt8.le_iff_toNat_le]; omega
    have inRange : 0xe0 ≤ first ∧ first ≤ 0xef := ⟨low, high⟩
    rw [List.cons_append, decodeFrom.eq_def]
    simp only [List.cons_append, List.nil_append, if_neg notAscii, if_neg notTwo, if_pos inRange,
      if_pos isSecond, if_pos isThird, List.length_cons, List.length_nil]
  | @four first second third fourth low high isSecond isThird isFourth =>
    have notAscii : ¬first < 0x80 := by simp [UInt8.lt_iff_toNat_lt]; omega
    have notTwo : ¬(0xc2 ≤ first ∧ first ≤ 0xdf) := by simp [UInt8.le_iff_toNat_le]; omega
    have notThree : ¬(0xe0 ≤ first ∧ first ≤ 0xef) := by simp [UInt8.le_iff_toNat_le]; omega
    have inRange : 0xf0 ≤ first ∧ first ≤ 0xf4 := ⟨low, high⟩
    rw [List.cons_append, decodeFrom.eq_def]
    simp only [List.cons_append, List.nil_append, if_neg notAscii, if_neg notTwo, if_neg notThree,
      if_pos inRange, if_pos isSecond, if_pos isThird, if_pos isFourth, List.length_cons,
      List.length_nil]

/-- A well-formed sequence in front of encodings is one more encoding in front. -/
theorem exists_flatMap_append (stand : StandFor bytes value) {found characters : List Char}
    {rest : List UInt8}
    (read : ∃ tail, characters = (Char.ofNat value :: found).reverse ++ tail ∧
      tail.flatMap String.utf8EncodeChar = rest) :
    ∃ tail, characters = found.reverse ++ tail ∧
      tail.flatMap String.utf8EncodeChar = bytes ++ rest := by
  obtain ⟨tail, rfl, rfl⟩ := read
  refine ⟨Char.ofNat value :: tail, ?_, ?_⟩
  · rw [List.reverse_cons, List.append_assoc, List.singleton_append]
  · rw [List.flatMap_cons, stand.utf8EncodeChar_eq]

end StandFor

/-- The encoding of a character is a well-formed sequence that stands for it. -/
theorem standFor_utf8EncodeChar (character : Char) :
    StandFor (String.utf8EncodeChar character) character.toNat := by
  have valid : character.toNat < 0xd800 ∨ 0xdfff < character.toNat ∧ character.toNat < 0x110000 :=
    character.valid
  unfold String.utf8EncodeChar
  simp only [Char.toNat_val]
  generalize character.toNat = value at valid
  split
  · next small =>
    refine StandFor.congr (.one ?_) ?_
    all_goals simp
    all_goals omega
  · split
    · refine StandFor.congr (.two ?_ ?_ (isContinuation_iff.mpr ?_)) ?_
      all_goals simp [payload]
      all_goals omega
    · split
      · refine StandFor.congr (.three ?_ ?_ (isSecondOfThree_iff.mpr ?_)
          (isContinuation_iff.mpr ?_)) ?_
        all_goals simp [payload, isContinuation_iff]
        all_goals omega
      · refine StandFor.congr (.four ?_ ?_ (isSecondOfFour_iff.mpr ?_) (isContinuation_iff.mpr ?_)
          (isContinuation_iff.mpr ?_)) ?_
        all_goals simp [payload, isContinuation_iff]
        all_goals omega

/-! ### Decoding and encoding -/

/-- Decoded characters are those found before and some whose encodings are the bytes. -/
theorem flatMap_of_decodeFrom {bytes : List UInt8} {index : Nat} {found characters : List Char}
    (decoded : decodeFrom index found bytes = .ok characters) :
    ∃ tail, characters = found.reverse ++ tail ∧ tail.flatMap String.utf8EncodeChar = bytes := by
  fun_induction decodeFrom index found bytes with
  | case1 index found =>
    obtain rfl := Except.ok.inj decoded
    exact ⟨[], (List.append_nil _).symm, rfl⟩
  | case2 index found first rest isAscii inductionHypothesis =>
    exact (StandFor.one isAscii).exists_flatMap_append (inductionHypothesis decoded)
  | case4 index found first notAscii inRange second rest isSecond inductionHypothesis =>
    exact (StandFor.two inRange.1 inRange.2 isSecond).exists_flatMap_append
      (inductionHypothesis decoded)
  | case8 index found first notAscii notTwo inRange second isSecond third rest isThird
      inductionHypothesis =>
    exact (StandFor.three inRange.1 inRange.2 isSecond isThird).exists_flatMap_append
      (inductionHypothesis decoded)
  | case14 index found first notAscii notTwo notThree inRange second isSecond third isThird fourth
      rest isFourth inductionHypothesis =>
    exact (StandFor.four inRange.1 inRange.2 isSecond isThird isFourth).exists_flatMap_append
      (inductionHypothesis decoded)
  | _ => cases decoded

/-- The decoder goes over encodings of characters. -/
theorem decodeFrom_flatMap_append (characters : List Char) (index : Nat) (found : List Char)
    (rest : List UInt8) :
    decodeFrom index found (characters.flatMap String.utf8EncodeChar ++ rest) =
      decodeFrom (index + (characters.flatMap String.utf8EncodeChar).length)
        (characters.reverse ++ found) rest := by
  induction characters generalizing index found with
  | nil => rfl
  | cons character others inductionHypothesis =>
    rw [List.flatMap_cons, List.append_assoc,
      (standFor_utf8EncodeChar character).decodeFrom_append, inductionHypothesis, Char.ofNat_toNat,
      List.length_append, Nat.add_assoc, List.reverse_cons, List.append_assoc,
      List.singleton_append]

/-- Bytes are decoded to a text exactly if they are its encoding. -/
theorem decode_eq_ok_iff {bytes : List UInt8} {text : String} :
    decode bytes = .ok text ↔ encode text = bytes := by
  rw [encode_eq_flatMap, decode]
  constructor
  · intro decoded
    cases characters : decodeFrom 0 [] bytes with
    | error fault => rw [characters] at decoded; cases decoded
    | ok found =>
      obtain ⟨tail, same, encoded⟩ := flatMap_of_decodeFrom characters
      obtain rfl : found = tail := same
      rw [characters] at decoded
      obtain rfl : String.ofList found = text := Except.ok.inj decoded
      rw [String.toList_ofList, encoded]
  · rintro rfl
    rw [← List.append_nil (text.toList.flatMap _), decodeFrom_flatMap_append, decodeFrom,
      List.append_nil, List.reverse_reverse, Except.map, String.ofList_toList]

/-- A file with the encoding of a text is read as that text. -/
theorem readable?_encode (text : String) : readable? (some (encode text)) = some text := by
  rw [readable?, Option.bind_some, decode_eq_ok_iff.mpr rfl]
  rfl

end CodeGraph.Text.Utf8
