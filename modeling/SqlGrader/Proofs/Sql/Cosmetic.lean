import SqlGrader.Proofs.Sql.NormalForm
import SqlGrader.Sql.Statement
/-!
# What readers of clauses do not see

A change of tokens is *neutral* if the kinds stay, and the words that the parts of
a statement are found by. Sections, items and conditions of a token list commute
with every neutral change. A change is *cosmetic* if the texts stay as well, up to
the case of keywords. Capitals for keywords and gaps between tokens are such
changes. Aliases and canonical texts do not see them.
-/

namespace SqlGrader

/-- The words that sections, joins, conditions and aliases are found by. -/
def Keyword.structural : List String :=
  ["SELECT", "FROM", "WHERE", "GROUP", "BY", "HAVING", "ORDER", "LIMIT", "OFFSET", "FETCH",
   "WINDOW", "JOIN", "INNER", "LEFT", "RIGHT", "FULL", "CROSS", "NATURAL", "OUTER", "UNION",
   "INTERSECT", "EXCEPT", "BETWEEN", "AND", "OR", "AS", "END", "DISTINCT", "ALL", "ON", "USING"]

end SqlGrader

namespace SqlGrader.Token

variable {t : Token} {ts : List Token} {f : Token → Token}

/-- The token with no gap in front of it. -/
def unspaced (t : Token) : Token := { t with spaced := false }

/-- A change of tokens that keeps the parts of a statement where they are. -/
structure Neutral (f : Token → Token) : Prop where
  kind (t : Token) : (f t).kind = t.kind
  isWord (t : Token) {w : String} (known : w ∈ Keyword.structural) : (f t).isWord w = t.isWord w
  isDot (t : Token) : Scope.isDot (f t) = Scope.isDot t
  isTerminator (t : Token) : NormalForm.isTerminator (f t) = NormalForm.isTerminator t
  unspaced (t : Token) : f t.unspaced = (f t).unspaced

/-- A change of tokens that no reader of clauses sees. -/
structure Cosmetic (f : Token → Token) : Prop where
  kind (t : Token) : (f t).kind = t.kind
  foldedText (t : Token) : (f t).foldedText = t.foldedText
  unspaced (t : Token) : f t.unspaced = (f t).unspaced

theorem cosmetic_folded : Cosmetic folded := ⟨fun _ => rfl, foldedText_folded, fun _ => rfl⟩

theorem cosmetic_unspaced : Cosmetic unspaced := ⟨fun _ => rfl, fun _ => rfl, fun _ => rfl⟩

theorem isDot_folded (t : Token) : Scope.isDot t.folded = Scope.isDot t := by
  simp only [Scope.isDot, text_folded, foldedText]
  split
  next fold =>
    have noLetter : ('.' : Char).isAlpha = false := rfl
    cases text : t.text with
    | nil => rfl
    | cons c cs =>
        rw [Bool.eq_iff_iff]
        simp [Text.upper, Text.toUpper_eq_iff noLetter]
  next => rfl

namespace Cosmetic

variable (cosmetic : Cosmetic f)
include cosmetic

theorem upper_text (t : Token) : Text.upper (f t).text = Text.upper t.text := by
  rw [← upper_foldedText, cosmetic.foldedText, upper_foldedText]

theorem isWord (t : Token) (w : String) : (f t).isWord w = t.isWord w := by
  rw [Token.isWord, cosmetic.kind, cosmetic.upper_text, Token.isWord]

theorem isAnyWord (t : Token) (ws : List String) : (f t).isAnyWord ws = t.isAnyWord ws := by
  rw [Token.isAnyWord, Token.isAnyWord, funext (cosmetic.isWord t)]

theorem holds (words : List String) (t : Token) :
    Keyword.holds words (f t).text = Keyword.holds words t.text := by
  simp only [Keyword.holds, cosmetic.upper_text]

theorem isDot (t : Token) : Scope.isDot (f t) = Scope.isDot t := by
  rw [← isDot_folded, ← isDot_folded t]
  simp only [Scope.isDot, text_folded, cosmetic.foldedText]

theorem isTerminator (t : Token) : NormalForm.isTerminator (f t) = NormalForm.isTerminator t := by
  rw [← NormalForm.isTerminator_folded, ← NormalForm.isTerminator_folded t]
  simp only [NormalForm.isTerminator, kind_folded, text_folded, cosmetic.kind, cosmetic.foldedText]

theorem neutral : Neutral f :=
  ⟨cosmetic.kind, fun t w _ => cosmetic.isWord t w, cosmetic.isDot, cosmetic.isTerminator,
    cosmetic.unspaced⟩

end Cosmetic

namespace Neutral

variable (neutral : Neutral f)
include neutral

theorem isAnyWord (t : Token) {ws : List String} (known : ∀ w ∈ ws, w ∈ Keyword.structural) :
    (f t).isAnyWord ws = t.isAnyWord ws := by
  rw [Token.isAnyWord, Token.isAnyWord, Bool.eq_iff_iff, List.any_eq_true, List.any_eq_true]
  refine exists_congr fun w => and_congr_right fun mem => ?_
  rw [neutral.isWord t (known w mem)]

theorem isParen (t : Token) : (f t).isParen = t.isParen := by
  rw [Token.isParen, neutral.kind, Token.isParen]

theorem depthAfter (t : Token) (depth : Nat) : (f t).depthAfter depth = t.depthAfter depth := by
  rw [Token.depthAfter, neutral.kind, Token.depthAfter]

theorem map_atStart (ts : List Token) : (atStart ts).map f = atStart (ts.map f) := by
  cases ts with
  | nil => rfl
  | cons t ts => exact congrArg (· :: ts.map f) (neutral.unspaced t)

end Neutral

/-- What does not see a change of tokens holds for all of two lists that it makes the same. -/
theorem forall_of_map_eq {P : Token → Prop} {us : List Token}
    (blind : ∀ t : Token, P (f t) ↔ P t) (same : ts.map f = us.map f) (all : ∀ t ∈ ts, P t) :
    ∀ u ∈ us, P u := by
  intro u mem
  have changed : f u ∈ ts.map f := by
    rw [same]
    exact List.mem_map_of_mem mem
  obtain ⟨t, mem', here⟩ := List.mem_map.mp changed
  rw [← blind, ← here, blind]
  exact all t mem'

/-! ### Pieces -/

theorem map_consHead (f : Token → Token) (t : Token) (pieces : List (List Token)) :
    consHead (f t) (pieces.map (List.map f)) = (consHead t pieces).map (List.map f) := by
  cases pieces <;> rfl

namespace Neutral

variable (neutral : Neutral f)
include neutral

theorem piecesFrom {σ : Type} (test : σ → Token → σ × Bool)
    (blind : ∀ s t, test s (f t) = test s t) (s : σ) (depth : Nat) (ts : List Token) :
    piecesFrom test s depth (ts.map f) = (piecesFrom test s depth ts).map (List.map f) := by
  induction ts generalizing s depth with
  | nil => rfl
  | cons t ts ih =>
      simp only [List.map_cons, Token.piecesFrom, neutral.isParen, neutral.depthAfter, blind, ih]
      split
      · exact map_consHead f t _
      · split
        · rfl
        · exact map_consHead f t _

theorem splitTopLevelWith {σ : Type} (test : σ → Token → σ × Bool)
    (blind : ∀ s t, test s (f t) = test s t) (s : σ) (ts : List Token) :
    splitTopLevelWith test s (ts.map f) = (splitTopLevelWith test s ts).map (List.map f) := by
  have empty : (fun piece : List Token => !piece.isEmpty) ∘ List.map f =
      fun piece => !piece.isEmpty := by
    funext piece
    cases piece <;> rfl
  rw [Token.splitTopLevelWith, neutral.piecesFrom test blind, List.filter_map, empty]
  rfl

theorem isComma (t : Token) : Items.isComma (f t) = Items.isComma t := by
  rw [Items.isComma, neutral.kind, Items.isComma]

theorem joinsConditions (between : Bool) (t : Token) :
    Conditions.joinsConditions between (f t) = Conditions.joinsConditions between t := by
  have between : (f t).isWord "BETWEEN" = t.isWord "BETWEEN" := neutral.isWord t (by decide)
  have conjunction : (f t).isWord "AND" = t.isWord "AND" := neutral.isWord t (by decide)
  have disjunction : (f t).isWord "OR" = t.isWord "OR" := neutral.isWord t (by decide)
  simp only [Conditions.joinsConditions, between, conjunction, disjunction]

theorem head? (ts : List Token) :
    (ts.map f).head?.any Scope.isDot = ts.head?.any Scope.isDot ∧
      (ts.map f).head?.all (·.kind != .openParen) = ts.head?.all (·.kind != .openParen) := by
  cases ts <;> simp [neutral.isDot, neutral.kind]

theorem closesOwn (depth : Nat) (ts : List Token) :
    Statement.closesOwn depth (ts.map f) = Statement.closesOwn depth ts := by
  induction ts generalizing depth with
  | nil => rfl
  | cons t ts ih =>
      simp only [List.map_cons, Statement.closesOwn, neutral.kind, neutral.depthAfter, ih]

end Neutral


namespace Cosmetic

variable (cosmetic : Cosmetic f)
include cosmetic

/-! ### Aliases -/

theorem aliasName (t : Token) : Alias.nameOf (f t) = Alias.nameOf t := by
  have lower (u : Token) : Text.lowercase u.foldedText = Text.lowercase u.text := by
    unfold Token.foldedText
    split
    · exact Text.lowercase_upper u.text
    · rfl
  have text (noWord : t.kind ≠ .word) : (f t).text = t.text := by
    have same := cosmetic.foldedText t
    have noFold (u : Token) (kind : u.kind ≠ .word) : u.foldedText = u.text :=
      if_neg fun fold => kind (isFoldable_word fold)
    rwa [noFold _ (by rwa [cosmetic.kind]), noFold t noWord] at same
  cases kind : t.kind with
  | quotedName => simp only [Alias.nameOf, cosmetic.kind, kind, text (by simp [kind])]
  | _ =>
      simp only [Alias.nameOf, cosmetic.kind, kind]
      rw [← lower, cosmetic.foldedText, lower]

theorem standsAlone (t : Token) : Alias.standsAlone (f t) = Alias.standsAlone t := by
  simp only [Alias.standsAlone, Keyword.isReserved, Keyword.isFunction, cosmetic.kind,
    cosmetic.holds]

theorem endsExpression (t : Token) : Alias.endsExpression (f t) = Alias.endsExpression t := by
  simp only [Alias.endsExpression, Keyword.isReserved, cosmetic.kind, cosmetic.holds,
    cosmetic.isWord]

theorem splitEnd (ts : List Token) :
    Alias.splitEnd (ts.map f) = ((Alias.splitEnd ts).1.map f, (Alias.splitEnd ts).2) := by
  simp only [Alias.splitEnd, ← List.map_reverse]
  match ts.reverse with
  | [] => rfl
  | [_] => rfl
  | last :: before :: rest =>
      have name : Alias.isName (f last) = Alias.isName last := by
        rw [Alias.isName, cosmetic.kind, Alias.isName]
      simp only [List.map_cons, name, cosmetic.isWord, List.isEmpty_map, cosmetic.aliasName,
        cosmetic.standsAlone, cosmetic.endsExpression]
      split_ifs <;> simp

/-! ### Canonical texts -/

theorem ofToken (t : Token) : Piece.ofToken (f t) = Piece.ofToken t := by
  rw [Piece.ofToken, cosmetic.kind, cosmetic.foldedText, Piece.ofToken]

theorem lookup (entries : List (Text × Text)) (word : t.kind = .word) :
    entries.lookup (Text.lowercase (f t).text) = entries.lookup (Text.lowercase t.text) := by
  have name := cosmetic.aliasName t
  simp only [Alias.nameOf, cosmetic.kind, word] at name
  rw [name]

omit cosmetic in
/-- A look-up that is made for words only does not see the change. -/
theorem lookup_if {lookup : Text → Option Text} {applies : Bool} (words : applies → t.kind = .word)
    (blind : t.kind = .word → lookup (f t).text = lookup t.text) :
    (if applies then lookup (f t).text else none) = if applies then lookup t.text else none := by
  split
  next here => exact blind (words here)
  next => rfl

theorem pieces (s : Scope) (withAliases : Bool) :
    ∀ (afterDot : Bool) (ts : List Token),
      s.pieces withAliases afterDot (ts.map f) = s.pieces withAliases afterDot ts
  | _, [] => rfl
  | afterDot, t :: ts => by
      have ih : ∀ dot, s.pieces withAliases dot (ts.map f) = s.pieces withAliases dot ts :=
        fun dot => pieces s withAliases dot ts
      obtain ⟨dots, parens⟩ := cosmetic.neutral.head? ts
      have qualifier := @lookup_if t f s.table?
        (t.kind == .word && ts.head?.any Scope.isDot && !afterDot)
        (by simp +contextual) (cosmetic.lookup s.qualifiers)
      have reference := @lookup_if t f s.expression?
        (withAliases && t.kind == .word && !ts.head?.any Scope.isDot && !afterDot &&
          ts.head?.all (·.kind != .openParen))
        (by simp +contextual) (cosmetic.lookup s.projectionAliases)
      rw [List.map_cons, Scope.pieces.eq_def, Scope.pieces.eq_def s withAliases afterDot (t :: ts)]
      simp only [cosmetic.kind, cosmetic.isDot, dots, parens, qualifier, reference,
        cosmetic.ofToken, ih]
      cases ts with
      | nil => rfl
      | cons next rest =>
          simp only [List.map_cons, pieces s withAliases true rest]

theorem canonicalTokens (s : Scope) (withAliases : Bool) (ts : List Token) :
    s.canonicalTokens withAliases (ts.map f) = s.canonicalTokens withAliases ts := by
  rw [Scope.canonicalTokens, cosmetic.pieces, Scope.canonicalTokens]

end Cosmetic

end SqlGrader.Token
