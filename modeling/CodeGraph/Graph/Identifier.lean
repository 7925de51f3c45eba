/-
This file gives files and entities their identifiers. An identifier is the digest of a message
that says what it stands for; the parts of a message end with a zero byte, so that texts
without one can be told apart in it.
-/
import CodeGraph.Digest.Sha256
import CodeGraph.Text.Utf8

namespace CodeGraph.Identifier

open Text

/-- The bytes of a line number, the highest first. -/
def lineBytes (line : Nat) : List UInt8 := Digest.bytesOfWord (UInt32.ofNat line)

/-- The message that stands for a file of a repository. -/
def fileMessage (repository path : String) : List UInt8 :=
  Utf8.encode repository ++ 0 :: Utf8.encode path

/-- The message that stands for an entity. -/
def entityMessage (repository path className canonicalName : String) (line : Nat) :
    List UInt8 :=
  ([repository, path, className, canonicalName].flatMap fun part => Utf8.encode part ++ [0])
    ++ lineBytes line

/-- The identifier of a file. -/
def file (repository path : String) : String :=
  "file:" ++ Digest.hexadecimal (Digest.sha256 (fileMessage repository path))

/-- The identifier of an entity. -/
def entity (repository path className canonicalName : String) (line : Nat) : String :=
  "entity:"
    ++ Digest.hexadecimal
      (Digest.sha256 (entityMessage repository path className canonicalName line))

end CodeGraph.Identifier
