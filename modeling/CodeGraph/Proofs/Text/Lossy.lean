/-
This file proves that lossy decoding goes over a slash: the text of bytes with a slash among them
is the text of the bytes before it, the slash, and the text of the bytes behind it.

Bytes that are no text are encodings of characters with a fault behind them. A fault within the
bytes stays what it is when more bytes follow. One that the end of the bytes makes could become
something else, if what follows went on with the encoding; but a slash continues no encoding, so
with a slash behind it the decoder stops at the same place, and what it takes to be faulty ends
before the slash. `StartsFault` says both of bytes that begin with a fault. That every failure of
the decoder is of this sort is proved along its steps, with the table of well-formed sequences for
the characters before the fault. The proof for a whole text then goes by induction on the number of
bytes: behind a fault less is left, and the slash still belongs to what is left.
-/
import CodeGraph.Proofs.Text.Utf8

namespace CodeGraph.Text.Utf8

/-! ### Faults -/

/-- The decoder goes no further than the start of the bytes, whatever it has found before. -/
def StopsDecoding (bytes : List UInt8) (faultyBytes : Option Nat) : Prop :=
  ∀ index found, decodeFrom index found bytes = .error ⟨index, faultyBytes⟩

/-- The bytes start with a fault. It takes up some of the bytes, all of them if the end of the bytes
makes it, and it takes up the same bytes when a slash follows. -/
structure StartsFault (bytes : List UInt8) (faultyBytes : Option Nat) : Prop where
  stops : StopsDecoding bytes faultyBytes
  stopsBeforeSlash : ∀ others,
    StopsDecoding (bytes ++ 0x2f :: others) (some (faultyBytes.getD bytes.length))
  pos : 0 < faultyBytes.getD bytes.length
  le_length : faultyBytes.getD bytes.length ≤ bytes.length

/-- A well-formed sequence in front of encodings and a fault is one more encoding in front. -/
theorem StandFor.exists_startsFault_append {bytes rest : List UInt8} {value : Nat}
    {faultyBytes : Option Nat} (stand : StandFor bytes value)
    (read : ∃ (characters : List Char) (faulty : List UInt8),
      rest = characters.flatMap String.utf8EncodeChar ++ faulty ∧
        StartsFault faulty faultyBytes) :
    ∃ (characters : List Char) (faulty : List UInt8),
      bytes ++ rest = characters.flatMap String.utf8EncodeChar ++ faulty ∧
        StartsFault faulty faultyBytes := by
  obtain ⟨characters, faulty, rfl, starts⟩ := read
  refine ⟨Char.ofNat value :: characters, faulty, ?_, starts⟩
  rw [List.flatMap_cons, stand.utf8EncodeChar_eq, List.append_assoc]

/-- Bytes that are no text are encodings of characters with a fault behind them. -/
theorem exists_startsFault_of_decodeFrom {bytes : List UInt8} {index : Nat} {found : List Char}
    {fault : Fault} (failed : decodeFrom index found bytes = .error fault) :
    ∃ (characters : List Char) (faulty : List UInt8),
      bytes = characters.flatMap String.utf8EncodeChar ++ faulty ∧
        StartsFault faulty fault.faultyBytes := by
  have notContinuation : isContinuation 0x2f = false := by decide
  have notSecondOfThree (first : UInt8) : isSecondOfThree first 0x2f = false := by
    simp [isSecondOfThree, notContinuation]
  have notSecondOfFour (first : UInt8) : isSecondOfFour first 0x2f = false := by
    simp [isSecondOfFour, notContinuation]
  fun_induction decodeFrom index found bytes with
  | case1 => cases failed
  | case2 index found first rest isAscii inductionHypothesis =>
    exact (StandFor.one isAscii).exists_startsFault_append (inductionHypothesis failed)
  | case4 index found first notAscii inRange second rest isSecond inductionHypothesis =>
    exact (StandFor.two inRange.1 inRange.2 isSecond).exists_startsFault_append
      (inductionHypothesis failed)
  | case8 index found first notAscii notTwo inRange second isSecond third rest isThird
      inductionHypothesis =>
    exact (StandFor.three inRange.1 inRange.2 isSecond isThird).exists_startsFault_append
      (inductionHypothesis failed)
  | case14 index found first notAscii notTwo notThree inRange second isSecond third isThird fourth
      rest isFourth inductionHypothesis =>
    exact (StandFor.four inRange.1 inRange.2 isSecond isThird isFourth).exists_startsFault_append
      (inductionHypothesis failed)
  | _ =>
    -- the decoder stops after the same comparisons whatever stands behind the faulty bytes
    obtain rfl := Except.error.inj failed
    refine ⟨[], _, rfl, fun index found => ?_, fun others index found => ?_, ?_, ?_⟩
    · unfold decodeFrom
      grind
    · simp only [List.cons_append, List.nil_append]
      unfold decodeFrom
      grind
    · simp
    · simp

/-! ### Lossy decoding -/

theorem decodeLossily_encode (text : String) : decodeLossily (encode text) = text := by
  have decoded : decode (encode text) = .ok text := decode_eq_ok_iff.mpr rfl
  rw [decodeLossily]
  split
  · next other same => exact Except.ok.inj (same.symm.trans decoded)
  · next fault failed => cases failed.symm.trans decoded

theorem decodeLossily_flatMap (characters : List Char) :
    decodeLossily (characters.flatMap String.utf8EncodeChar) = String.ofList characters := by
  rw [← decodeLossily_encode (String.ofList characters), encode_eq_flatMap, String.toList_ofList]

/-- The replacement character stands for a fault, before it the characters that are encoded, and
behind it the text of what is left. -/
theorem decodeLossily_append_of_stopsDecoding (characters : List Char) {faulty : List UInt8}
    {faultyBytes : Option Nat} (stops : StopsDecoding faulty faultyBytes) :
    decodeLossily (characters.flatMap String.utf8EncodeChar ++ faulty) =
      String.ofList characters ++ "\uFFFD" ++
        decodeLossily (faulty.drop (faultyBytes.getD faulty.length)) := by
  let encodings := characters.flatMap String.utf8EncodeChar
  have failed : decode (encodings ++ faulty) = .error ⟨encodings.length, faultyBytes⟩ := by
    rw [decode, decodeFrom_flatMap_append, stops, Nat.zero_add]
    rfl
  have sound : soundText (encodings ++ faulty) ⟨encodings.length, faultyBytes⟩ =
      String.ofList characters := by
    have decoded : decode encodings = .ok (String.ofList characters) :=
      decode_eq_ok_iff.mpr (by rw [encode_eq_flatMap, String.toList_ofList])
    rw [soundText, List.take_left, decoded]
    rfl
  rw [decodeLossily]
  split
  · next text decoded => cases decoded.symm.trans failed
  · next fault isFault =>
    obtain rfl := Except.error.inj (isFault.symm.trans failed)
    rw [sound]
    split
    · next count isCount =>
      obtain rfl : faultyBytes = some count := isCount
      rw [List.drop_length_add_append, Option.getD_some]
    · next cutOff =>
      obtain rfl : faultyBytes = none := cutOff
      have nothing : decodeLossily [] = "" := decodeLossily_flatMap []
      rw [Option.getD_none, List.drop_length, nothing]

/-- The text of encodings of characters and more bytes has the characters in front. -/
theorem decodeLossily_flatMap_append (characters : List Char) (rest : List UInt8) :
    decodeLossily (characters.flatMap String.utf8EncodeChar ++ rest) =
      String.ofList characters ++ decodeLossily rest := by
  cases decoded : decodeFrom 0 [] rest with
  | ok others =>
    obtain ⟨others, _, rfl⟩ := flatMap_of_decodeFrom decoded
    rw [← List.flatMap_append, decodeLossily_flatMap, decodeLossily_flatMap, String.ofList_append]
  | error fault =>
    obtain ⟨others, faulty, rfl, starts⟩ := exists_startsFault_of_decodeFrom decoded
    rw [← List.append_assoc, ← List.flatMap_append,
      decodeLossily_append_of_stopsDecoding _ starts.stops,
      decodeLossily_append_of_stopsDecoding _ starts.stops, String.ofList_append,
      String.append_assoc, String.append_assoc, String.append_assoc]

/-- Lossy decoding goes over a slash. -/
theorem decodeLossily_append_slash (before after : List UInt8) :
    decodeLossily (before ++ 0x2f :: after) =
      decodeLossily before ++ "/" ++ decodeLossily after := by
  have slash : (0x2f : UInt8) :: after = ['/'].flatMap String.utf8EncodeChar ++ after := rfl
  cases decoded : decodeFrom 0 [] before with
  | ok characters =>
    obtain ⟨characters, _, rfl⟩ := flatMap_of_decodeFrom decoded
    rw [decodeLossily_flatMap_append, slash, decodeLossily_flatMap_append, decodeLossily_flatMap,
      String.append_assoc]
  | error fault =>
    -- what is left behind the fault is shorter, and the slash is not part of the fault
    obtain ⟨characters, faulty, isBefore, starts⟩ := exists_startsFault_of_decodeFrom decoded
    have ⟨stops, stopsBeforeSlash, pos, within⟩ := starts
    have shorter : (faulty.drop (fault.faultyBytes.getD faulty.length)).length < before.length := by
      rw [isBefore, List.length_drop, List.length_append]
      omega
    have left := decodeLossily_append_slash
      (faulty.drop (fault.faultyBytes.getD faulty.length)) after
    rw [isBefore, List.append_assoc,
      decodeLossily_append_of_stopsDecoding _ (stopsBeforeSlash after), Option.getD_some,
      List.drop_append_of_le_length within, left, decodeLossily_append_of_stopsDecoding _ stops]
    simp only [String.append_assoc]
  termination_by before.length
  decreasing_by exact shorter

end CodeGraph.Text.Utf8
