import SqlGrader.Text.Basic
import SqlGrader.Text.Property.Ranges
import SqlGrader.Text.Property.Alphanumeric
import SqlGrader.Text.Property.Word
/-!
# Letters, digits and the characters of words

Two classes of characters are told apart. An unquoted name goes on with *alphanumeric* characters:
letters and numbers. A word of running text, whose ends are word boundaries, is made of *word
characters*: letters, decimal digits, combining marks and connectors such as the underscore. Inside
ASCII the two differ in the underscore only. Beyond it each has a table of its own.
-/

namespace SqlGrader.Text

/-- Letters and numbers of any script. -/
def isAlphanumeric (c : Char) : Bool :=
  if c.toNat < 128 then c.isAlphanum else inRanges Property.alphanumeric c.toNat

/-- The characters that words of running text consist of. -/
def isWordChar (c : Char) : Bool :=
  if c.toNat < 128 then c.isAlphanum || c == '_' else inRanges Property.word c.toNat

end SqlGrader.Text
