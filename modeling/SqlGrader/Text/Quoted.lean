import SqlGrader.Text.Basic
import SqlGrader.Text.Property.Ranges
import SqlGrader.Text.Property.Unseen
/-!
# Texts in diagnostics

In a diagnostic a text stands in double quotes. Quotes, backslashes and everything that would not be
seen as it is are escaped: control characters, white space other than plain spaces, unassigned code
points and marks that would change the character before them.
-/

namespace SqlGrader.Text

/-- The hexadecimal digits of a number in small letters. -/
def hexText (n : Nat) : Text := Nat.toDigits 16 n

/-- Whether a character cannot be seen for itself. -/
def isUnseen (c : Char) : Bool :=
  c.toNat < 0x20 || inRanges Property.unseen c.toNat

/-- A character within a diagnostic. -/
def escapedChar (c : Char) : Text :=
  if c = '"' || c = '\\' then ['\\', c]
  else if c = '\n' then ['\\', 'n']
  else if c = '\r' then ['\\', 'r']
  else if c = '\t' then ['\\', 't']
  else if c = '\x00' then ['\\', '0']
  else if isUnseen c then ['\\', 'u', '\x7b'] ++ hexText c.toNat ++ ['\x7d']
  else [c]

/-- A text in quotes. -/
def quoted (t : Text) : Text := '"' :: t.flatMap escapedChar ++ ['"']

end SqlGrader.Text
