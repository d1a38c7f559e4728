import SqlGrader.Sql.Keyword
/-!
# Tokens

A statement as a list of tokens, each of which remembers whether anything stood before it that is
not a token: white space or a comment. `render` writes tokens back with one space in each of those
places, and `splitTopLevel` cuts a list at separators outside of parentheses.

Parenthesis depth never goes below zero: a closing parenthesis without an opening one leaves it
there.
-/

namespace SqlGrader

inductive TokenKind
  /-- An unquoted name or a keyword. -/
  | word
  /-- A name in double quotes, the quotes included. -/
  | quotedName
  /-- A string in single quotes, the quotes included. -/
  | stringLiteral
  | number
  | openParen
  | closeParen
  | comma
  /-- An operator or any other punctuation. -/
  | symbol
  deriving Repr, DecidableEq

structure Token where
  kind : TokenKind
  text : Text
  /-- Whether white space or a comment stands before the token. -/
  spaced : Bool
  deriving Repr, DecidableEq

namespace Token

/-- Whether the token is the unquoted word `w`, given in capitals. -/
def isWord (t : Token) (w : String) : Bool :=
  t.kind == .word && Text.upper t.text == w.toList

/-- Whether the token is one of the unquoted words `ws`, given in capitals. -/
def isAnyWord (t : Token) (ws : List String) : Bool := ws.any t.isWord

/-- Whether letter case carries no meaning in the token. -/
def isFoldable (t : Token) : Bool := t.kind == .word && Keyword.isFoldable t.text

/-- The text, in capitals where letter case carries no meaning. -/
def foldedText (t : Token) : Text := if t.isFoldable then Text.upper t.text else t.text

/-- The token with its text in capitals where letter case carries no meaning. -/
def folded (t : Token) : Token := { t with text := t.foldedText }

def isParen (t : Token) : Bool := t.kind == .openParen || t.kind == .closeParen

/-- Parenthesis depth after the token. -/
def depthAfter (depth : Nat) (t : Token) : Nat :=
  match t.kind with
  | .openParen => depth + 1
  | .closeParen => depth - 1
  | _ => depth

/-- The text with a space before it where the token is spaced. -/
def spacedText (t : Token) : Text := if t.spaced then ' ' :: t.text else t.text

/-- The texts of the tokens, with one space where something stood between two of them. -/
def render : List Token → Text
  | [] => []
  | t :: ts => t.text ++ ts.flatMap spacedText

/-- The texts of the tokens in a form that does not depend on the case of keywords. -/
def renderFolded (ts : List Token) : Text := render (ts.map folded)

/-- Puts a token at the start of the first piece. -/
def consHead (t : Token) : List (List Token) → List (List Token)
  | [] => [[t]]
  | piece :: pieces => (t :: piece) :: pieces

/-- The pieces between separators, empty ones included. The separator test has a state of its own
and sees the tokens at depth zero that are not parentheses, in order. -/
def piecesFrom {σ : Type} (test : σ → Token → σ × Bool) :
    σ → (depth : Nat) → List Token → List (List Token)
  | _, _, [] => [[]]
  | s, depth, t :: ts =>
    if t.isParen || depth != 0 then consHead t (piecesFrom test s (t.depthAfter depth) ts)
    else
      let (s', separates) := test s t
      if separates then [] :: piecesFrom test s' depth ts
      else consHead t (piecesFrom test s' depth ts)

/-- The non-empty pieces between the separators outside of parentheses. -/
def splitTopLevelWith {σ : Type} (test : σ → Token → σ × Bool) (start : σ) (ts : List Token) :
    List (List Token) :=
  (piecesFrom test start 0 ts).filter fun piece => !piece.isEmpty

/-- The non-empty pieces between the tokens that satisfy `separates` outside of parentheses. -/
def splitTopLevel (separates : Token → Bool) (ts : List Token) : List (List Token) :=
  splitTopLevelWith (fun (_ : Unit) t => ((), separates t)) () ts

end Token

end SqlGrader
