import SqlGrader.Sql.Lexer
import SqlGrader.Sql.Wordwise
/-!
# Normal forms

The form of a statement in which two statements are compared as texts: no comments, single spaces,
capitals for words whose letter case carries no meaning, no semicolons at the end. Names and quoted
texts keep their letters.

Every statement has a normal form. It is rendered from the tokens where there are any; a statement
that cannot be read as tokens is read word by word.
-/

namespace SqlGrader

/-- How a statement was read. -/
inductive Reading
  | tokens
  | wordwise
  deriving Repr, DecidableEq

def Reading.name : Reading → String
  | .tokens => "tokenized"
  | .wordwise => "regex"

structure NormalForm where
  text : Text
  reading : Reading
  deriving Repr, DecidableEq

namespace NormalForm

/-- Whether the token is a semicolon. -/
def isTerminator (t : Token) : Bool := t.kind == .symbol && t.text == [';']

/-- The tokens without the semicolons at the end. -/
def dropTerminators (ts : List Token) : List Token :=
  (ts.reverse.dropWhile isTerminator).reverse

/-- The normal form of a statement that has these tokens. -/
def ofTokens (ts : List Token) : Text := Token.renderFolded (dropTerminators ts)

/-- The normal form of a statement and how it was read. -/
def ofStatement (sql : Text) : NormalForm :=
  match tokenize sql with
  | .ok ts => ⟨ofTokens ts, .tokens⟩
  | .error _ => ⟨Wordwise.normalize sql, .wordwise⟩

end NormalForm

/-- The text of the normal form. -/
def normalize (sql : Text) : Text := (NormalForm.ofStatement sql).text

end SqlGrader
