import SqlGrader.Proofs.Sql.Rendering
/-!
# Slices of a statement

Clauses, items and conditions are written from slices of a statement's tokens and read again later.
The text of a slice is written from left to right, with a space in front of each spaced token once
anything has been written, and with its keywords in capitals if that is asked for. What is read then
are the tokens of the slice: no two neighbours run together, none falls apart and none is lost. Only
the gap in front of the first token is gone.
-/

namespace SqlGrader.Token

variable {t : Token} {ts slice : List Token} {sql : Text}

/-- The token with its text in capitals, if they are asked for and letter case carries no meaning in
it. -/
def foldedIf (fold : Bool) (t : Token) : Token := if fold then t.folded else t

/-- Writes tokens behind what has been written. -/
def writeAfter (fold : Bool) (out : Text) : List Token → Text
  | [] => out
  | t :: ts =>
    let gap := if t.spaced && !out.isEmpty then [' '] else []
    writeAfter fold (out ++ gap ++ (t.foldedIf fold).text) ts

/-- The text of tokens as it is written, one token after the other. -/
def write (fold : Bool) (ts : List Token) : Text := writeAfter fold [] ts

@[simp] theorem spaced_foldedIf (fold : Bool) (t : Token) :
    (t.foldedIf fold).spaced = t.spaced := by
  cases fold <;> rfl

/-- Behind a text that is not empty every spaced token gets its space. -/
theorem writeAfter_of_ne_nil {out : Text} (fold : Bool) (started : out ≠ []) (ts : List Token) :
    writeAfter fold out ts = out ++ trail (ts.map (foldedIf fold)) := by
  induction ts generalizing out with
  | nil => simp [writeAfter]
  | cons t ts ih =>
      have gap : (if t.spaced && !out.isEmpty then [' '] else []) ++ (t.foldedIf fold).text =
          (t.foldedIf fold).spacedText := by
        cases spaced : t.spaced <;> simp [spacedText, spaced, started]
      rw [writeAfter, ih (by simp [started]), List.append_assoc out, gap, List.map_cons, trail_cons,
        List.append_assoc]

/-- What is written is the rendered text, as long as the first token has one. -/
theorem write_eq_render (fold : Bool) (texts : ∀ t ∈ ts.head?, t.text ≠ []) :
    write fold ts = render (ts.map (foldedIf fold)) := by
  cases ts with
  | nil => rfl
  | cons t ts =>
      have started : (t.foldedIf fold).text ≠ [] := by
        have given := texts t rfl
        cases fold
        · exact given
        · change t.foldedText ≠ []
          unfold foldedText
          split <;> simpa [Text.upper] using given
      rw [write, writeAfter, List.map_cons, render_cons]
      simpa using writeAfter_of_ne_nil fold started ts

theorem Legible.map_foldedIf (fold : Bool) (legible : Legible ts) :
    Legible (ts.map (foldedIf fold)) := by
  cases fold with
  | false =>
      have same : ts.map (foldedIf false) = ts := List.map_id ts
      rwa [same]
  | true => exact legible.map_folded

theorem Legible.head_text_ne_nil (legible : Legible ts) : ∀ t ∈ ts.head?, t.text ≠ [] := by
  cases ts with
  | nil => simp
  | cons t ts => simpa using legible.1.text_ne_nil

/-- What is written of a slice of a statement's tokens is their rendered text, and it has the tokens
of the slice: in capitals where they are asked for and letter case carries no meaning, and each
spaced as in the statement but for the first one. -/
theorem tokenize_write_slice (fold : Bool) (read : tokenize sql = .ok ts) (part : slice <:+: ts) :
    write fold slice = render (slice.map (foldedIf fold)) ∧
      tokenize (write fold slice) = .ok (atStart (slice.map (foldedIf fold))) := by
  obtain ⟨before, after, rfl⟩ := part
  have legible : Legible slice := (legible_of_tokenize read).append_left.append_right
  have rendered := write_eq_render fold legible.head_text_ne_nil
  refine ⟨rendered, ?_⟩
  rw [rendered]
  exact tokenize_render (legible.map_foldedIf fold)

/-- A slice that starts with a keyword behind a comment. The point after a number stays apart from
it, although a point may belong to a number. -/
theorem tokenize_write_slice_touching :
    tokenize "x/**/select 1e5.e3::a".toList =
        .ok ([⟨.word, ['x'], false⟩] ++ [⟨.word, "select".toList, true⟩,
          ⟨.number, "1e5".toList, true⟩, ⟨.symbol, ['.'], false⟩, ⟨.word, "e3".toList, false⟩] ++
          [⟨.symbol, "::".toList, false⟩, ⟨.word, ['a'], false⟩]) ∧
      tokenize (write true [⟨.word, "select".toList, true⟩, ⟨.number, "1e5".toList, true⟩,
          ⟨.symbol, ['.'], false⟩, ⟨.word, "e3".toList, false⟩]) =
        .ok [⟨.word, "SELECT".toList, false⟩, ⟨.number, "1e5".toList, true⟩,
          ⟨.symbol, ['.'], false⟩, ⟨.word, "e3".toList, false⟩] := by
  have read : tokenize "x/**/select 1e5.e3::a".toList =
      .ok ([⟨.word, ['x'], false⟩] ++ [⟨.word, "select".toList, true⟩,
        ⟨.number, "1e5".toList, true⟩, ⟨.symbol, ['.'], false⟩, ⟨.word, "e3".toList, false⟩] ++
        [⟨.symbol, "::".toList, false⟩, ⟨.word, ['a'], false⟩]) := by decide +kernel
  exact ⟨read, (tokenize_write_slice true read (List.infix_append _ _ _)).2.trans
    (congrArg Except.ok (by decide +kernel))⟩

end SqlGrader.Token
