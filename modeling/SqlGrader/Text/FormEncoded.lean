import SqlGrader.Text.Digit
/-!
# Form-encoded texts

The query of an address holds parameters between ampersands, each a name and a value around the
first equals sign. In both a plus sign stands for a space, and a percent sign with two hexadecimal
digits for a byte.
-/

namespace SqlGrader.Text.FormEncoded

/-- The text that is meant. A byte becomes the character of its number, so that ASCII is read as it
was meant; a percent sign without two digits stands for itself. -/
def decode : Text → Text
  | [] => []
  | '%' :: a :: b :: cs =>
    match hexValue? a, hexValue? b with
    | some m, some n => Char.ofNat (16 * m + n) :: decode cs
    | _, _ => '%' :: decode (a :: b :: cs)
  | '+' :: cs => ' ' :: decode cs
  | c :: cs => c :: decode cs

/-- One parameter. Without an equals sign its value is empty. -/
def parameter (t : Text) : Text × Text :=
  match cutAt? '=' t with
  | some (name, value) => (decode name, decode value)
  | none => (decode t, [])

/-- The names and values that a query holds, in order. -/
def parameters (query : Text) : List (Text × Text) :=
  ((splitAt '&' query).filter fun t => !t.isEmpty).map parameter

end SqlGrader.Text.FormEncoded
