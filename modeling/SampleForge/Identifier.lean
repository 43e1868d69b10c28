import SampleForge.Text.Case
import SampleForge.Text.Pieces

/-!
# Identifiers as words

An identifier such as `listBooks`, `list_books` or `List-Books` is a list of words.  A word ends
at a separator (`_`, `-`, `.` or a blank character) and before a capital that follows a small
letter or an ASCII digit.  Words are kept in small letters, and none is empty.

Two spellings are made of the words: `upperCamel` capitalises and joins them, `lowerUnderscore`
puts an underscore between them.
-/

namespace SampleForge.Identifier

open Text (isBlank isCapital isSmall joinWith lowerChar upperChar)

/-- Whether a character stands between words. -/
def isSeparator (c : Char) : Bool := c = '_' || c = '-' || c = '.' || isBlank c

/-- Whether a capital after this character starts a word. -/
def endsWord (c : Char) : Bool := isSmall c || c.isDigit

/-- The word collected so far, unless it is empty. -/
def closeWord (word : List Char) : List (List Char) := if word.isEmpty then [] else [word]

/-- The words of the characters that are left, after a word that has begun.  `ended` says whether a
capital here starts a new one. -/
def wordsFrom (word : List Char) (ended : Bool) : List Char → List (List Char)
  | [] => closeWord word
  | c :: cs =>
      if isSeparator c then closeWord word ++ wordsFrom [] false cs
      else if isCapital c && ended then
        closeWord word ++ wordsFrom (lowerChar c) (endsWord c) cs
      else wordsFrom (word ++ lowerChar c) (endsWord c) cs

/-- The words of an identifier, in small letters. -/
def words (identifier : String) : List String :=
  (wordsFrom [] false identifier.toList).map String.ofList

/-- A word with its first letter made a capital. -/
def capitalise (word : String) : String :=
  match word.toList with
  | [] => ""
  | c :: cs => String.ofList (upperChar c ++ cs)

/-- The words joined with a capital at the start of each. -/
def upperCamel (identifier : String) : String :=
  joinWith "" ((words identifier).map capitalise)

/-- The words joined with underscores. -/
def lowerUnderscore (identifier : String) : String := joinWith "_" (words identifier)

section Tests

example : words "listBooks.v1Beta" = ["list", "books", "v1", "beta"] := by decide +kernel
example : upperCamel "list_books" = "ListBooks" := by decide +kernel
example : lowerUnderscore "HTTPServer" = "httpserver" := by decide +kernel

end Tests

end SampleForge.Identifier
