import DataContract.Text.CharSet
import DataContract.Text.Split

/-!
# White space, words and trimming

White space is the Unicode property White_Space and nothing else: it contains the no-break space,
the line separator and the ideographic space, and it does not contain the zero-width space or the
byte order mark.  A *word* is a maximal run of other characters.

`wordsOf` cuts a text into its words, and `trim` removes the white space at both ends.  Both work
on lists of characters, where their laws are short, and are lifted to `String`.
-/

namespace DataContract.Text

/-- The property White_Space. -/
def blankSet : CharSet where
  solid :=
    [(0x09, 0x0D), (0x20, 0x20), (0x85, 0x85), (0xA0, 0xA0), (0x1680, 0x1680), (0x2000, 0x200A),
     (0x2028, 0x2029), (0x202F, 0x202F), (0x205F, 0x205F), (0x3000, 0x3000)]

/-- Whether `c` is white space. -/
def isBlank (c : Char) : Bool := blankSet.contains c

/-- The words of a list of characters, in order. -/
def wordChars (cs : List Char) : List (List Char) :=
  (splitWhere isBlank cs).filter fun piece => !piece.isEmpty

/-- The words of a text, in order: the maximal runs of characters that are not white space. -/
def wordsOf (s : String) : List String := (wordChars s.toList).map String.ofList

/-- The characters without the white space at either end. -/
def trimChars (cs : List Char) : List Char :=
  ((cs.dropWhile isBlank).reverse.dropWhile isBlank).reverse

/-- The text without the white space at either end. -/
def trim (s : String) : String := String.ofList (trimChars s.toList)

end DataContract.Text
