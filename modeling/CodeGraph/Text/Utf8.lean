/-
This file decodes bytes as UTF-8. Decoding accepts exactly the shortest encodings of the
Unicode scalar values, and otherwise says where the first fault is: either some bytes that
start no encoding, or an encoding that the end of the input cuts off. Lossy decoding puts the
replacement character in the place of every fault and always gives a text.
-/

namespace CodeGraph.Text.Utf8

/-- Why bytes are not UTF-8: the number of sound bytes before the fault, and the number of
faulty bytes, which is absent when the input ends within an encoding. -/
structure Fault where
  soundBytes : Nat
  faultyBytes : Option Nat
  deriving Repr, DecidableEq

/-- The fault in words. -/
def Fault.message (fault : Fault) : String :=
  match fault.faultyBytes with
  | some count => s!"invalid utf-8 sequence of {count} bytes from index {fault.soundBytes}"
  | none => s!"incomplete utf-8 byte sequence from index {fault.soundBytes}"

/-- A byte that continues an encoding. -/
def isContinuation (byte : UInt8) : Bool := 0x80 ≤ byte && byte ≤ 0xbf

/-- The six low bits of a continuation byte. -/
def payload (byte : UInt8) : Nat := byte.toNat % 0x40

/-- Which second bytes may follow a first byte of a three-byte encoding. -/
def isSecondOfThree (first second : UInt8) : Bool :=
  if first = 0xe0 then 0xa0 ≤ second && second ≤ 0xbf
  else if first = 0xed then 0x80 ≤ second && second ≤ 0x9f
  else isContinuation second

/-- Which second bytes may follow a first byte of a four-byte encoding. -/
def isSecondOfFour (first second : UInt8) : Bool :=
  if first = 0xf0 then 0x90 ≤ second && second ≤ 0xbf
  else if first = 0xf4 then 0x80 ≤ second && second ≤ 0x8f
  else isContinuation second

/-- Decodes the bytes from an index on; the characters found so far are kept in reverse. -/
def decodeFrom (index : Nat) (found : List Char) : List UInt8 → Except Fault (List Char)
  | [] => .ok found.reverse
  | first :: rest =>
    if first < 0x80 then decodeFrom (index + 1) (Char.ofNat first.toNat :: found) rest
    else if 0xc2 ≤ first ∧ first ≤ 0xdf then
      match rest with
      | [] => .error ⟨index, none⟩
      | second :: rest =>
        if isContinuation second then
          decodeFrom (index + 2)
            (Char.ofNat (first.toNat % 0x20 * 0x40 + payload second) :: found) rest
        else .error ⟨index, some 1⟩
    else if 0xe0 ≤ first ∧ first ≤ 0xef then
      match rest with
      | [] => .error ⟨index, none⟩
      | second :: rest =>
        if isSecondOfThree first second then
          match rest with
          | [] => .error ⟨index, none⟩
          | third :: rest =>
            if isContinuation third then
              decodeFrom (index + 3)
                (Char.ofNat ((first.toNat % 0x10 * 0x40 + payload second) * 0x40
                  + payload third) :: found) rest
            else .error ⟨index, some 2⟩
        else .error ⟨index, some 1⟩
    else if 0xf0 ≤ first ∧ first ≤ 0xf4 then
      match rest with
      | [] => .error ⟨index, none⟩
      | second :: rest =>
        if isSecondOfFour first second then
          match rest with
          | [] => .error ⟨index, none⟩
          | third :: rest =>
            if isContinuation third then
              match rest with
              | [] => .error ⟨index, none⟩
              | fourth :: rest =>
                if isContinuation fourth then
                  decodeFrom (index + 4)
                    (Char.ofNat (((first.toNat % 0x08 * 0x40 + payload second) * 0x40
                      + payload third) * 0x40 + payload fourth) :: found) rest
                else .error ⟨index, some 3⟩
            else .error ⟨index, some 2⟩
        else .error ⟨index, some 1⟩
    else .error ⟨index, some 1⟩

/-- Decodes bytes as UTF-8. -/
def decode (bytes : List UInt8) : Except Fault String :=
  (decodeFrom 0 [] bytes).map String.ofList

/-- A fault within the input takes up some of its bytes. -/
theorem pos_of_decodeFrom {index : Nat} {found : List Char} {bytes : List UInt8} {fault : Fault}
    {count : Nat} (failed : decodeFrom index found bytes = .error fault)
    (faulty : fault.faultyBytes = some count) : 0 < bytes.length ∧ 0 < count := by
  fun_induction decodeFrom index found bytes
  all_goals first | cases failed | skip
  all_goals first | cases faulty | skip
  all_goals grind

theorem length_drop_lt_of_decode {bytes : List UInt8} {fault : Fault} {count : Nat}
    (failed : decode bytes = .error fault) (faulty : fault.faultyBytes = some count) :
    (bytes.drop (fault.soundBytes + count)).length < bytes.length := by
  rw [decode] at failed
  cases decoded : decodeFrom 0 [] bytes with
  | ok characters => rw [decoded] at failed; cases failed
  | error other =>
    rw [decoded] at failed
    obtain rfl : other = fault := Except.error.inj failed
    have := pos_of_decodeFrom decoded faulty
    rw [List.length_drop]
    omega

/-- The text before a fault. -/
def soundText (bytes : List UInt8) (fault : Fault) : String :=
  (decode (bytes.take fault.soundBytes)).toOption.getD ""

/-- Decodes bytes as UTF-8 with the replacement character in the place of every fault. -/
def decodeLossily (bytes : List UInt8) : String :=
  match _failed : decode bytes with
  | .ok text => text
  | .error fault =>
    soundText bytes fault ++ "\uFFFD" ++ match _faulty : fault.faultyBytes with
      | some count => decodeLossily (bytes.drop (fault.soundBytes + count))
      | none => ""
  termination_by bytes.length
  decreasing_by exact length_drop_lt_of_decode _failed _faulty

/-- The text of a file with the given bytes, which are absent if the file cannot be read. -/
def readable? (bytes : Option (List UInt8)) : Option String :=
  bytes.bind fun bytes => (decode bytes).toOption

/-- The bytes of a text in UTF-8. -/
def encode (text : String) : List UInt8 := text.toUTF8.toList

end CodeGraph.Text.Utf8
