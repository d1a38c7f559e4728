import SqlGrader.Proofs.Sql.ClauseTokens
/-!
# Tokens and their neighbours

What a word stands for depends on the tokens next to it: a qualifier has a point
after it, a reference to a projection alias has none on either side. Fragments are
cut where no point is, so what tokens of a clause have next to them they have next
to them in its fragments. Two scopes read a fragment alike if each of its tokens
stands for the same in both.
-/

namespace SqlGrader.Token

variable {ts us piece : List Token} {t u : Token} {before after : Option Token}
  {P Q : Option Token → Token → Option Token → Prop}

/-- Whether every token of a list has a property that sees the tokens on both sides of it. The token
in front of the list is `before`, if there is one. -/
def Throughout (P : Option Token → Token → Option Token → Prop) :
    (before : Option Token) → List Token → Prop
  | _, [] => True
  | before, t :: ts => P before t ts.head? ∧ Throughout P (some t) ts

namespace Throughout

instance decidable [∀ before t after, Decidable (P before t after)] :
    (before : Option Token) → (ts : List Token) → Decidable (Throughout P before ts)
  | _, [] => isTrue trivial
  | _, t :: ts =>
    have := decidable (some t) ts
    inferInstanceAs (Decidable (_ ∧ _))

theorem imp (all : Throughout P before ts) (imp : ∀ b t a, t ∈ ts → P b t a → Q b t a) :
    Throughout Q before ts := by
  induction ts generalizing before with
  | nil => trivial
  | cons t ts ih =>
      exact ⟨imp _ t _ (by simp) all.1, ih all.2 fun b u a mem => imp b u a (by simp [mem])⟩

theorem of_forall (all : ∀ t ∈ ts, ∀ b a, P b t a) : Throughout P before ts := by
  induction ts generalizing before with
  | nil => trivial
  | cons t ts ih => exact ⟨all t (by simp) _ _, ih fun u mem => all u (by simp [mem])⟩

/-- The gap before the first token matters to a property as little as it matters to that of one
token. -/
theorem atStart (blind : ∀ b t a, P b t a → P b t.unspaced a)
    (first : ∀ t u a, P (some t) u a → P (some t.unspaced) u a)
    (all : Throughout P before ts) : Throughout P before (atStart ts) := by
  cases ts with
  | nil => trivial
  | cons t ts =>
      refine ⟨blind _ t _ all.1, ?_⟩
      cases ts with
      | nil => trivial
      | cons u us => exact ⟨first t u _ all.2.1, all.2.2⟩

end Throughout

/-- Whether a property stays where a list is cut, as long as no point follows the cut. -/
structure Local (P : Option Token → Token → Option Token → Prop) : Prop where
  front : ∀ {b t a}, P b t a → P none t a
  back : ∀ {b t u}, ¬ Scope.isDot u → P b t (some u) → P b t none

/-- Whether a list is a stretch of another one that no point follows. -/
def Stretch (piece ts : List Token) : Prop :=
  ∃ before after, ts = before ++ piece ++ after ∧ ∀ u ∈ after.head?, ¬ Scope.isDot u

namespace Stretch

theorem refl (ts : List Token) : Stretch ts ts := ⟨[], [], by simp, by simp⟩

theorem trans (inner : Stretch piece us) (outer : Stretch us ts) : Stretch piece ts := by
  obtain ⟨a, b, rfl, ends⟩ := inner
  obtain ⟨c, d, rfl, ends'⟩ := outer
  refine ⟨c ++ a, b ++ d, by simp, ?_⟩
  cases b with
  | nil => exact ends'
  | cons v vs => exact ends

theorem isInfix (stretch : Stretch piece ts) : piece <:+: ts := by
  obtain ⟨a, b, rfl, -⟩ := stretch
  exact ⟨a, b, rfl⟩

end Stretch

theorem Throughout.append_left (loc : Local P) (ends : ∀ u ∈ us.head?, ¬ Scope.isDot u)
    (all : Throughout P before (ts ++ us)) : Throughout P before ts := by
  induction ts generalizing before with
  | nil => trivial
  | cons t ts ih =>
      obtain ⟨here, rest⟩ := all
      refine ⟨?_, ih rest⟩
      cases ts with
      | cons u ts => exact here
      | nil =>
          cases us with
          | nil => exact here
          | cons u us => exact loc.back (ends u (by simp)) here

theorem Throughout.append_right (loc : Local P) (all : Throughout P before (us ++ ts)) :
    Throughout P none ts := by
  induction us generalizing before with
  | cons u us ih => exact ih all.2
  | nil =>
      cases ts with
      | nil => trivial
      | cons t ts => exact ⟨loc.front all.1, all.2⟩

/-- What holds throughout a list holds throughout its stretches. -/
theorem Throughout.of_stretch (loc : Local P) (stretch : Stretch piece ts)
    (all : Throughout P before ts) : Throughout P none piece := by
  obtain ⟨a, b, rfl, ends⟩ := stretch
  rw [List.append_assoc] at all
  exact (all.append_right loc).append_left loc ends

/-! ### Where fragments are cut -/

namespace Clean

variable (clean : Clean ts)
include clean

theorem not_isDot (mem : t ∈ ts) (other : t.kind ≠ .symbol) : ¬ Scope.isDot t :=
  fun dot => other (clean.kind_of_isDot mem dot)

/-- A cut in front of a token that is no symbol makes a stretch. -/
theorem stretch_of_append {us vs ws : List Token} (whole : ts = us ++ vs ++ ws)
    (ends : ∀ u ∈ ws.head?, u.kind ≠ .symbol) : Stretch vs ts := by
  refine ⟨us, ws, whole, fun u head => ?_⟩
  refine clean.not_isDot ?_ (ends u head)
  rw [whole]
  exact List.mem_append_right _ (List.mem_of_mem_head? head)

theorem stretch_item (mem : piece ∈ splitTopLevel Items.isComma ts) : Stretch piece ts := by
  obtain ⟨us, ws, whole, ends⟩ := splitTopLevelWith_cut mem
  refine clean.stretch_of_append whole fun u head => ?_
  obtain ⟨-, comma⟩ := ends u head
  have kind : u.kind = .comma := by simpa [Items.isComma] using comma
  simp [kind]

theorem stretch_condition (mem : piece ∈ Conditions.split ts) : Stretch piece ts := by
  obtain ⟨us, ws, whole, ends⟩ := splitTopLevelWith_cut mem
  refine clean.stretch_of_append whole fun u head => ?_
  obtain ⟨between, joins⟩ := ends u head
  have word : u.isWord "AND" ∨ u.isWord "OR" := by
    unfold Conditions.joinsConditions at joins
    split_ifs at joins
    simpa using joins
  have kind : u.kind = .word := word.elim kind_of_isWord kind_of_isWord
  simp [kind]

theorem stretch_unwrapped : Stretch (unwrapped ts) ts := by
  cases ts with
  | nil => exact .refl []
  | cons t ts =>
      rw [unwrapped]
      split
      next parens =>
        simp only [Bool.and_eq_true] at parens
        obtain ⟨l, last, closing⟩ := (Option.any_eq_true _ _).mp parens.1.1.2
        have whole : t :: ts = [t] ++ ts.dropLast ++ [l] := by
          rw [List.append_assoc, List.dropLast_append_getLast? l last]
          rfl
        refine clean.stretch_of_append whole fun u head => ?_
        obtain rfl := Option.some.inj head
        rw [beq_iff_eq] at closing
        simp [closing]
      next => exact .refl _

theorem stretch_splitEnd : Stretch (Alias.splitEnd ts).1 ts := by
  have whole : ts = ts.reverse.reverse := (List.reverse_reverse ts).symm
  unfold Alias.splitEnd
  split
  next last before rest ends =>
    have name : Alias.isName last → last.kind ≠ .symbol := by
      intro named symbol
      simp [Alias.isName, symbol] at named
    split
    · exact .refl ts
    next named =>
      rw [Bool.not_eq_true, Bool.not_eq_false'] at named
      split
      next as =>
        have parts : ts = [] ++ rest.reverse ++ [before, last] := by
          rw [whole, ends]
          simp
        refine clean.stretch_of_append parts fun u head => ?_
        obtain rfl := Option.some.inj head
        simp [kind_of_isWord (Bool.and_eq_true_iff.mp as).1]
      · split
        · have parts : ts = [] ++ (before :: rest).reverse ++ [last] := by
            rw [whole, ends]
            simp
          refine clean.stretch_of_append parts fun u head => ?_
          obtain rfl := Option.some.inj head
          exact name named
        · exact .refl ts
  next => exact .refl ts

end Clean

end SqlGrader.Token

namespace SqlGrader.Scope

open Token

variable {s s' : Scope} {withAliases : Bool} {f : Token → Token} {ts : List Token}

/-! ### What a token stands for -/

/-- The table that a token qualifies with, in front of the token `next`. -/
def qualifier? (s : Scope) (afterDot : Bool) (t : Token) (next : Option Token) : Option Text :=
  if t.kind == .word && next.any isDot && !afterDot then s.table? t.text else none

/-- The expression that a token refers to by a projection alias, in front of the token `next`. -/
def reference? (s : Scope) (withAliases afterDot : Bool) (t : Token) (next : Option Token) :
    Option Text :=
  if withAliases && t.kind == .word && !next.any isDot && !afterDot &&
      next.all (·.kind != .openParen) then
    s.expression? t.text
  else none

theorem pieces_cons (s : Scope) (withAliases afterDot : Bool) (t : Token) (ts : List Token) :
    s.pieces withAliases afterDot (t :: ts) =
      match s.qualifier? afterDot t ts.head?, s.reference? withAliases afterDot t ts.head? with
      | some table, _ =>
        if s.singleTable then
          match ts with
          | [] => []
          | _ :: rest => s.pieces withAliases true rest
        else .word table :: s.pieces withAliases (isDot t) ts
      | none, some expression => .word expression :: s.pieces withAliases (isDot t) ts
      | none, none => .ofToken t :: s.pieces withAliases (isDot t) ts := by
  rw [pieces.eq_def]
  rfl

/-- Whether a token stands for the same in one scope as its image does in another one. -/
structure ReadsAlike (f : Token → Token) (s s' : Scope) (withAliases : Bool)
    (before : Option Token) (t : Token) (after : Option Token) : Prop where
  qualifier : s'.qualifier? (before.any isDot) (f t) (after.map f) =
    s.qualifier? (before.any isDot) t after
  reference : s'.reference? withAliases (before.any isDot) (f t) (after.map f) =
    s.reference? withAliases (before.any isDot) t after
  /-- A token that stands for itself is kept. -/
  itself : s.qualifier? (before.any isDot) t after = none →
    s.reference? withAliases (before.any isDot) t after = none →
      Piece.ofToken (f t) = Piece.ofToken t

/-- Tokens that stand for the same make the same pieces. -/
theorem pieces_congr (dots : ∀ t, isDot (f t) = isDot t) (single : s'.singleTable = s.singleTable) :
    ∀ (before : Option Token) (ts : List Token),
      Throughout (ReadsAlike f s s' withAliases) before ts →
        s'.pieces withAliases (before.any isDot) (ts.map f) =
          s.pieces withAliases (before.any isDot) ts
  | _, [], _ => rfl
  | before, t :: ts, ⟨here, rest⟩ => by
      have later := pieces_congr dots single (some t) ts rest
      rw [Option.any_some] at later
      rw [List.map_cons, pieces_cons, pieces_cons, List.head?_map, here.qualifier, here.reference,
        dots, later, single]
      cases qualifier : s.qualifier? (before.any isDot) t ts.head? with
      | none =>
          cases reference : s.reference? withAliases (before.any isDot) t ts.head? with
          | none => simp only [here.itself qualifier reference]
          | some expression => rfl
      | some table =>
          -- The point after a qualifier is passed over, so what follows it stands after a point.
          match ts, rest with
          | [], _ => rfl
          | point :: others, ⟨_, rest'⟩ =>
            have after := pieces_congr dots single (some point) others rest'
            have isPoint : isDot point = true := by
              unfold qualifier? at qualifier
              split at qualifier
              next applies =>
                simpa using (Bool.and_eq_true_iff.mp (Bool.and_eq_true_iff.mp applies).1).2
              next => cases qualifier
            rw [Option.any_some, isPoint] at after
            simp only [List.map_cons, after]

theorem canonicalTokens_congr (dots : ∀ t, isDot (f t) = isDot t)
    (single : s'.singleTable = s.singleTable)
    (alike : Throughout (ReadsAlike f s s' withAliases) none ts) :
    s'.canonicalTokens withAliases (ts.map f) = s.canonicalTokens withAliases ts := by
  have pieces := pieces_congr dots single none ts alike
  rw [Option.any_none] at pieces
  rw [canonicalTokens, canonicalTokens, pieces]

/-- Where no reference to a projection alias is replaced, only the tables in scope matter. -/
theorem canonicalTokens_of_tables (qualifiers : s'.qualifiers = s.qualifiers)
    (single : s'.singleTable = s.singleTable) (ts : List Token) :
    s'.canonicalTokens false ts = s.canonicalTokens false ts := by
  have alike : Throughout (ReadsAlike id s s' false) none ts := by
    refine .of_forall fun t _ before after => ⟨?_, rfl, fun _ _ => rfl⟩
    simp only [Option.map_id, id, qualifier?, table?, qualifiers]
  have same := canonicalTokens_congr (f := id) (fun _ => rfl) single alike
  rwa [List.map_id] at same

theorem canonical_of_tables (qualifiers : s'.qualifiers = s.qualifiers)
    (single : s'.singleTable = s.singleTable) (t : Text) :
    s'.canonical false t = s.canonical false t := by
  unfold canonical
  cases tokenize t with
  | ok ts => exact canonicalTokens_of_tables qualifiers single ts
  | error e => rfl

end SqlGrader.Scope
