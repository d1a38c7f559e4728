import SqlGrader.Text.Basic
/-!
# Texts as bytes

The UTF-8 encoding of a text, and cuts of a text at a byte offset. Characters have one to four
bytes, so there are offsets that no text ends at.
-/

namespace SqlGrader.Text

/-- The bytes of the UTF-8 encoding. -/
def bytes (t : Text) : List UInt8 := t.flatMap String.utf8EncodeChar

/-- The texts before and after a byte offset that is neither inside of a character nor beyond the
end. -/
def splitAtByte? : (offset : Nat) → Text → Option (Text × Text)
  | 0, t => some ([], t)
  | _ + 1, [] => none
  | n + 1, c :: cs =>
    if c.utf8Size ≤ n + 1 then
      (splitAtByte? (n + 1 - c.utf8Size) cs).map fun p => (c :: p.1, p.2)
    else none

end SqlGrader.Text
