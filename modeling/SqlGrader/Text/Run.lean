import SqlGrader.Text.Letter
/-!
# Runs of word characters

A text falls into maximal runs of word characters and the gaps between them. A word boundary lies at
the ends of the runs and nowhere else, so whatever is looked for "as a whole word" is looked for
among the runs. Texts that the lexer refuses are read this way.
-/

namespace SqlGrader

/-- A maximal stretch of characters of one class. -/
structure Run where
  isWord : Bool
  text : Text
  deriving Repr, DecidableEq

namespace Run

/-- Puts a character in front of the runs of the text after it. -/
def push (c : Char) : List Run → List Run
  | [] => [⟨Text.isWordChar c, [c]⟩]
  | r :: rs =>
    if r.isWord = Text.isWordChar c then ⟨r.isWord, c :: r.text⟩ :: rs
    else ⟨Text.isWordChar c, [c]⟩ :: r :: rs

/-- The maximal runs of a text, in order. -/
def ofText : Text → List Run
  | [] => []
  | c :: cs => push c (ofText cs)

/-- The text that the runs were taken from. -/
def toText (rs : List Run) : Text := rs.flatMap (·.text)

@[simp] theorem toText_push (c : Char) (rs : List Run) : toText (push c rs) = c :: toText rs := by
  cases rs with
  | nil => rfl
  | cons r rs =>
    simp only [push]
    split <;> simp [toText]

@[simp] theorem toText_ofText (t : Text) : toText (ofText t) = t := by
  induction t with
  | nil => rfl
  | cons c cs ih => simp [ofText, ih]

/-- Whether the run lies between words and holds white space only. -/
def isBlankGap (r : Run) : Bool := !r.isWord && r.text.all Text.isBlank

/-- The capital of a letter, where a letter outside ASCII that folds to an ASCII letter counts as
that letter: the long s is an S and the Kelvin sign is a K. -/
def foldChar (c : Char) : Char :=
  if c = '\u017f' then 'S' else if c = '\u212a' then 'K' else c.toUpper

/-- Whether the run is the word `w`, written in capitals, up to case folding. -/
def isWordText (r : Run) (w : Text) : Bool := r.isWord && r.text.map foldChar == w

end Run

end SqlGrader
