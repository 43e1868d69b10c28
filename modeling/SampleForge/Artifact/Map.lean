import SampleForge.Digest.Blake3
import SampleForge.KeyMap
import SampleForge.Text.Digits

/-!
# Generated files

A generated file has a *content*, text or bytes.  An *artifact map* holds the contents by path, in
the order of the paths.

The `fingerprint` of a map is the digest of a stream of bytes (`stream`).  Each path and each body
stands in the stream behind its length, so the stream shows where one ends and the next begins.
-/

namespace SampleForge

open Text (hexBytes)

/-- The content of a generated file. -/
inductive Content where
  | text (s : String)
  | binary (bytes : List UInt8)
  deriving DecidableEq

/-- The bytes of a text. -/
def textBytes (s : String) : List UInt8 := s.toByteArray.data.toList

namespace Content

/-- The bytes of a content. -/
def bytes : Content → List UInt8
  | .text s => textBytes s
  | .binary bytes => bytes

/-- The text of a content that is text. -/
def text? : Content → Option String
  | .text s => some s
  | .binary _ => none

/-- What is shown for bytes. -/
def placeholder : String := "Static or binary file content is not shown."

/-- What is shown for a content: text as it is, and a placeholder for bytes. -/
def shown : Content → String
  | .text s => s
  | .binary _ => placeholder

end Content

/-- The contents of generated files by path. -/
abbrev ArtifactMap := KeyMap Content

namespace ArtifactMap

/-- What is shown for each file. -/
def shown (files : ArtifactMap) : KeyMap String := files.mapValues Content.shown

/-- A length as eight bytes, the least significant first. -/
def lengthBytes (n : Nat) : List UInt8 :=
  (List.range 8).map fun i => UInt8.ofNat (n >>> (8 * i))

/-- Bytes behind their length. -/
def framed (bytes : List UInt8) : List UInt8 := lengthBytes bytes.length ++ bytes

/-- The bytes that stand for all paths and bodies. -/
def stream (files : ArtifactMap) : List UInt8 :=
  files.toList.flatMap fun file => framed (textBytes file.1) ++ framed file.2.bytes

/-- The digest of all paths and bodies. -/
def fingerprint (files : ArtifactMap) : String := hexBytes (Blake3.digest files.stream)

section Tests

example : framed [7, 8] = [2, 0, 0, 0, 0, 0, 0, 0, 7, 8] := by decide
example : Content.bytes (.text "é") = [0xC3, 0xA9] := by decide +kernel

end Tests

end ArtifactMap

end SampleForge
