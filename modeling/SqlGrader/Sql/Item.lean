import SqlGrader.Sql.Lexer
/-!
# Items and conditions

A clause is a list of items between commas, or a list of conditions between `AND` and `OR`; neither
is looked for inside of parentheses. The `AND` that belongs to a `BETWEEN` joins no conditions.

A clause text that leaves a quote or a comment open is cut by looking at its characters.
-/

namespace SqlGrader.Items

def isComma (t : Token) : Bool := t.kind == .comma

/-- Puts a character at the start of the first piece. -/
def consHead (c : Char) : List Text → List Text
  | [] => [[c]]
  | piece :: pieces => (c :: piece) :: pieces

/-- The pieces of a text that is read in an open quote, if any, and at a parenthesis depth. The
depth has no bounds; to count in a word of 32 bits comes to the same as long as fewer than `2 ^ 31`
parentheses are open. -/
def scanFrom (quote : Option Char) (depth : Int) : Text → List Text
  | [] => [[]]
  | c :: cs =>
    match quote with
    | some q => consHead c (scanFrom (if c = q then none else some q) depth cs)
    | none =>
      if c = '\'' || c = '"' then consHead c (scanFrom (some c) depth cs)
      else if c = '(' then consHead c (scanFrom none (depth + 1) cs)
      else if c = ')' then consHead c (scanFrom none (depth - 1) cs)
      else if c = ',' && depth == 0 then [] :: scanFrom none depth cs
      else consHead c (scanFrom none depth cs)

/-- The texts without white space at their ends, empty ones left out. -/
def trimmed (pieces : List Text) : List Text :=
  (pieces.map Text.trim).filter fun piece => !piece.isEmpty

/-- The items of a text between commas outside of quotes and parentheses. A parenthesis that closes
too much hides the commas after it. -/
def scan (t : Text) : List Text := trimmed (scanFrom none 0 t)

/-- The items of a clause text. -/
def ofText (t : Text) : List Text :=
  match tokenize t with
  | .ok ts => (Token.splitTopLevel isComma ts).map Token.render
  | .error _ => scan t

end SqlGrader.Items

namespace SqlGrader.Conditions

/-- Whether a token joins two conditions. The state says that a `BETWEEN` waits for its `AND`. -/
def joinsConditions (between : Bool) (t : Token) : Bool × Bool :=
  if t.isWord "BETWEEN" then (true, false)
  else if t.isWord "AND" && between then (false, false)
  else (between, t.isWord "AND" || t.isWord "OR")

/-- The conditions of a token list. -/
def split (ts : List Token) : List (List Token) := Token.splitTopLevelWith joinsConditions false ts

/-- The rest after a connective with white space on both sides, where the text starts so. -/
def afterConnective? (t : Text) : Option Text :=
  let word := Text.trimStart t
  let rest? := (Text.dropStartIgnoringCase? "AND".toList word).or
    (Text.dropStartIgnoringCase? "OR".toList word)
  match rest? with
  | some (c :: cs) => if Text.isBlank c then some (Text.trimStart cs) else none
  | _ => none

theorem length_afterConnective?_lt {t rest : Text} (h : afterConnective? t = some rest) :
    rest.length < t.length := by
  have trimStart_le (s : Text) : (Text.trimStart s).length ≤ s.length :=
    (List.dropWhile_suffix Text.isBlank).length_le
  have drop_le {w s r : Text} (hd : Text.dropStartIgnoringCase? w s = some r) :
      r.length ≤ s.length := by
    unfold Text.dropStartIgnoringCase? at hd
    split at hd <;> simp_all
    simp [← hd]
  unfold afterConnective? at h
  simp only at h
  split at h
  next c cs hc =>
    have hle : (c :: cs).length ≤ (Text.trimStart t).length := by
      rcases Option.or_eq_some_iff.1 hc with h1 | h1
      · exact drop_le h1
      · exact drop_le h1.2
    split at h
    · have h2 := trimStart_le cs
      have h3 := trimStart_le t
      simp only [Option.some.injEq] at h
      rw [← h]
      simp only [List.length_cons] at hle
      omega
    · simp at h
  next => simp at h

/-- The pieces of a text between connectives with white space on both sides. -/
def scanFrom : Text → List Text
  | [] => [[]]
  | c :: cs =>
    if Text.isBlank c then
      match _h : afterConnective? (c :: cs) with
      | some rest => [] :: scanFrom rest
      | none => Items.consHead c (scanFrom cs)
    else Items.consHead c (scanFrom cs)
termination_by t => t.length
decreasing_by
  · exact length_afterConnective?_lt _h
  · simp
  · simp

/-- The conditions of a clause text. -/
def ofText (t : Text) : List Text :=
  match tokenize t with
  | .ok ts => (split ts).map Token.render
  | .error _ => Items.trimmed (scanFrom t)

end SqlGrader.Conditions
