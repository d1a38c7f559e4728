import SqlGrader.Sql.Item
import SqlGrader.Sql.TableRef
/-!
# Projection items

What a statement selects, item by item: a canonical expression and the alias that names it. A
`DISTINCT` at the start counts as an item of its own, an `ALL` says nothing.
-/

namespace SqlGrader

structure ProjectionItem where
  expression : Text
  aliasName : Option Text
  deriving Repr, DecidableEq

namespace ProjectionItem

/-- The item with its alias replaced by a fixed one, so that only its presence shows. -/
def token (i : ProjectionItem) : Text :=
  if i.aliasName.isSome then i.expression ++ " AS <alias>".toList else i.expression

/-- The rest after a word with white space after it, where the text starts so. -/
def afterWord? (word : String) (t : Text) : Option Text :=
  match Text.dropStartIgnoringCase? word.toList t with
  | some (c :: cs) => if Text.isBlank c then some (Text.trimStart cs) else none
  | _ => none

/-- The item that a text is. -/
def ofText (s : Scope) (t : Text) : ProjectionItem :=
  match tokenize t with
  | .ok ts =>
    let (body, aliasName) := Alias.splitEnd ts
    ⟨s.canonicalTokens false body, aliasName⟩
  | .error _ => ⟨normalize t, none⟩

/-- The items of a projection. -/
def ofProjection (s : Scope) (projection : Text) : List ProjectionItem :=
  let t := Text.trim projection
  match afterWord? "DISTINCT" t with
  | some rest => ⟨"DISTINCT".toList, none⟩ :: (Items.ofText rest).map (ofText s)
  | none =>
    let rest := (afterWord? "ALL" t).getD t
    (Items.ofText rest).map (ofText s)

end ProjectionItem

end SqlGrader
