import SqlGrader.Sql.Keyword
import SqlGrader.Text.Run
/-!
# Statements read word by word

A statement that leaves a quote or a comment open has no tokens. It is still brought to a normal
form by changing its text, without regard to quotes: closed comments become spaces, white space
becomes single spaces, and what stands at the ends is dropped; then each word that is a keyword is
written in capitals. White space and words are those of running text in any script.

Each change replaces the matches of a pattern, which is given with it. Patterns match as the library
`regex` documents them: one match after another from left to right, `*?` as few characters as can
be, of alternatives the first one that leads to a match, and white space, word characters and letter
case by the Unicode tables.
-/

namespace SqlGrader.Wordwise

/-- Each closed block comment replaced by a space, from left to right: the pattern
`(?s)/\*.*?\*/`. -/
def dropBlockComments : Text → Text
  | [] => []
  | c :: cs =>
    if c = '/' && cs.head? == some '*' then
      match _h : Text.cut? ['*', '/'] cs.tail with
      | some (_, rest) => ' ' :: dropBlockComments rest
      | none => c :: cs
    else c :: dropBlockComments cs
termination_by t => t.length
decreasing_by
  · have ht := congrArg List.length (Text.eq_append_of_cut? _h)
    have := List.length_tail (l := cs)
    simp only [List.length_append, List.length_cons, List.length_nil] at ht ⊢
    omega
  · simp

/-- Each line comment replaced by a space; the line end is kept: the pattern `--[^\n]*`. -/
def dropLineComments : Text → Text
  | [] => []
  | c :: cs =>
    if c = '-' && cs.head? == some '-' then ' ' :: dropLineComments (cs.dropWhile (· != '\n'))
    else c :: dropLineComments cs
termination_by t => t.length
decreasing_by
  · have := (List.dropWhile_suffix (l := cs) (· != '\n')).length_le
    simp only [List.length_cons]
    omega
  · simp

/-- Each stretch of white space replaced by a space: the pattern `\s+`. A stretch that goes on from
before the text has been replaced already. -/
def collapseBlanks (goesOn : Bool) : Text → Text
  | [] => []
  | c :: cs =>
    if Text.isBlank c then
      if goesOn then collapseBlanks true cs else ' ' :: collapseBlanks true cs
    else c :: collapseBlanks false cs

/-- The run in capitals if it is a keyword. -/
def foldRun (r : Run) : Text :=
  if r.isWord && Keyword.isFoldable (r.text.map Run.foldChar) then Text.upper r.text else r.text

/-- The keywords among the words in capitals, all else as it is: the pattern `(?i)\b(?:w|..|w)\b` of
all words `w` that are folded. A match has word boundaries at both ends and none inside, since the
words hold no other characters, so it is a whole run. -/
def foldKeywords (t : Text) : Text := (Run.ofText t).flatMap foldRun

/-- The text without comments and with single spaces, its ends free of white space and its end free
of semicolons. -/
def clean (sql : Text) : Text :=
  let text := collapseBlanks false (dropLineComments (dropBlockComments sql))
  Text.dropEndWhile (fun c => c == ';' || Text.isBlank c) (Text.trim text)

/-- The normal form of a statement that is read word by word. -/
def normalize (sql : Text) : Text := foldKeywords (clean sql)

end SqlGrader.Wordwise
