import SqlGrader.Text.Basic
import SqlGrader.Text.Property.Ranges
import SqlGrader.Text.Property.Lowercase
import SqlGrader.Text.Property.Cased
/-!
# Lower case

Names are compared in lower case, whatever their script. Two letters need more than the table of
single characters: the dotted capital I becomes two characters, and a capital sigma takes its final
form where it ends a word, that is, after a cased letter and not before one.
-/

namespace SqlGrader.Text

/-- Whether the character has upper or lower case. -/
def isCased (c : Char) : Bool :=
  if c.toNat < 128 then c.isAlpha else inRanges Property.cased c.toNat

/-- Whether the character is passed over when a cased neighbour is looked for. -/
def isCaseIgnorable (c : Char) : Bool :=
  if c.toNat < 128 then c == '\'' || c == '.' || c == ':' || c == '^' || c == '`'
  else inRanges Property.caseIgnorable c.toNat

/-- Whether the first character that is not passed over has case. -/
def startsCased (t : Text) : Bool :=
  match t.dropWhile isCaseIgnorable with
  | [] => false
  | c :: _ => isCased c

/-- Lower case of one character away from its neighbours. -/
def lowercaseChar (c : Char) : Text :=
  if c.toNat < 128 then [c.toLower]
  else if c = 'İ' then ['i', Char.ofNat 0x307]
  else match Property.lowercase.findSome? (·.map? c.toNat) with
    | some n => [Char.ofNat n]
    | none => [c]

/-- Lower case of a text that follows the reversed text `before`. -/
def lowercaseAfter : (before : Text) → Text → Text
  | _, [] => []
  | before, c :: cs =>
    let small :=
      if c = 'Σ' then
        if startsCased before && !startsCased cs then ['ς'] else ['σ']
      else lowercaseChar c
    small ++ lowercaseAfter (c :: before) cs

/-- Lower case in every script. -/
def lowercase (t : Text) : Text := lowercaseAfter [] t

end SqlGrader.Text
