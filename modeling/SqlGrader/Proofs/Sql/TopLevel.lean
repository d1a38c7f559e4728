import SqlGrader.Proofs.Sql.Cosmetic
import SqlGrader.Proofs.Sql.Splitting
/-!
# Outside of parentheses

Separators and marks count only outside of parentheses. A list in which none of them stands there
is one piece, whatever its parentheses hold.
-/

namespace SqlGrader.Token

variable {t : Token} {ts us : List Token} {test : Token → Bool} {depth : Nat}

/-- No token outside of the parentheses satisfies the test. -/
def NoneOutside (test : Token → Bool) (depth : Nat) (ts : List Token) : Prop :=
  ∀ (i : Nat) (inside : i < ts.length), depthAt depth (ts.take i) = 0 → test ts[i] = false

instance (test : Token → Bool) (depth : Nat) (ts : List Token) :
    Decidable (NoneOutside test depth ts) :=
  inferInstanceAs (Decidable (∀ (i : Nat) (_ : i < ts.length), _ → _))

theorem noneOutside_nil : NoneOutside test depth [] :=
  fun _ inside => absurd inside (Nat.not_lt_zero _)

theorem noneOutside_cons :
    NoneOutside test depth (t :: ts) ↔
      (depth = 0 → test t = false) ∧ NoneOutside test (t.depthAfter depth) ts := by
  constructor
  · intro none
    exact ⟨none 0 (Nat.zero_lt_succ _), fun i inside => none (i + 1) (Nat.succ_lt_succ inside)⟩
  · rintro ⟨first, later⟩ (_ | i) inside
    · exact first
    · exact later i (Nat.lt_of_succ_lt_succ inside)

theorem noneOutside_append :
    NoneOutside test depth (ts ++ us) ↔
      NoneOutside test depth ts ∧ NoneOutside test (depthAt depth ts) us := by
  induction ts generalizing depth with
  | nil => exact (and_iff_right noneOutside_nil).symm
  | cons t ts ih =>
      rw [List.cons_append, noneOutside_cons, noneOutside_cons, ih, and_assoc]
      rfl

theorem noneOutside_of_forall (none : ∀ t ∈ ts, test t = false) : NoneOutside test depth ts :=
  fun i inside _ => none ts[i] (List.getElem_mem inside)

theorem noneOutside_map {f : Token → Token} (neutral : Neutral f)
    (blind : ∀ t, test (f t) = test t) :
    NoneOutside test depth (ts.map f) ↔ NoneOutside test depth ts := by
  induction ts generalizing depth with
  | nil => rfl
  | cons t ts ih =>
      rw [List.map_cons, noneOutside_cons, noneOutside_cons, ih, blind, neutral.depthAfter]

/-- What stands before the first separator is the first piece. -/
theorem piecesFrom_append (none : NoneOutside test depth ts) (outside : depthAt depth ts = 0)
    (separates : test t) (noParen : t.isParen = false) (us : List Token) :
    piecesFrom (fun (_ : Unit) t => ((), test t)) () depth (ts ++ t :: us) =
      ts :: piecesFrom (fun (_ : Unit) t => ((), test t)) () 0 us := by
  induction ts generalizing depth with
  | nil =>
      obtain rfl : depth = 0 := outside
      simp [piecesFrom, noParen, separates]
  | cons u ts ih =>
      obtain ⟨first, later⟩ := noneOutside_cons.mp none
      rw [List.cons_append, piecesFrom]
      split
      · rw [ih later outside]
        rfl
      next here =>
        rw [Bool.or_eq_true, not_or, Bool.not_eq_true, bne_iff_ne, not_not] at here
        have same := depthAfter_of_not_isParen depth here.1
        rw [same] at later
        have outside' : depthAt depth ts = 0 := by rwa [← same]
        simp only [first here.2, Bool.false_eq_true, if_false, ih later outside']
        rfl

/-- Without a separator there is one piece. -/
theorem piecesFrom_of_noneOutside (none : NoneOutside test depth ts) :
    piecesFrom (fun (_ : Unit) t => ((), test t)) () depth ts = [ts] := by
  induction ts generalizing depth with
  | nil => rfl
  | cons t ts ih =>
      obtain ⟨first, later⟩ := noneOutside_cons.mp none
      rw [piecesFrom]
      split
      · rw [ih later]
        rfl
      next here =>
        rw [Bool.or_eq_true, not_or, Bool.not_eq_true, bne_iff_ne, not_not] at here
        rw [depthAfter_of_not_isParen depth here.1] at later
        simp only [first here.2, Bool.false_eq_true, if_false, ih later]
        rfl

theorem splitTopLevel_of_noneOutside (none : NoneOutside test 0 ts) (nonempty : ts ≠ []) :
    splitTopLevel test ts = [ts] := by
  rw [splitTopLevel, splitTopLevelWith, piecesFrom_of_noneOutside none]
  simpa using nonempty

/-- The first piece is left out if it is empty. -/
theorem splitTopLevel_append (none : NoneOutside test 0 ts) (outside : depthAt 0 ts = 0)
    (separates : test t) (noParen : t.isParen = false) (us : List Token) :
    splitTopLevel test (ts ++ t :: us) =
      [ts].filter (fun piece => !piece.isEmpty) ++ splitTopLevel test us := by
  rw [splitTopLevel, splitTopLevelWith, piecesFrom_append none outside separates noParen,
    splitTopLevel, splitTopLevelWith, List.filter_cons, List.filter_cons]
  split <;> rfl

/-! ### Items -/

/-- The tokens of items with commas between them. -/
def listed (items : List (List Token)) : List Token := [⟨.comma, [','], false⟩].intercalate items

theorem piecesFrom_listed {items : List (List Token)} (nonempty : items ≠ [])
    (apart : ∀ item ∈ items, NoneOutside Items.isComma 0 item)
    (closed : ∀ item ∈ items.dropLast, depthAt 0 item = 0) :
    piecesFrom (fun (_ : Unit) t => ((), Items.isComma t)) () 0 (listed items) = items := by
  induction items with
  | nil => exact absurd rfl nonempty
  | cons item items ih =>
      rw [List.forall_mem_cons] at apart
      cases items with
      | nil => rw [listed, List.intercalate_singleton, piecesFrom_of_noneOutside apart.1]
      | cons next items =>
          rw [List.dropLast_cons_of_ne_nil (by simp), List.forall_mem_cons] at closed
          rw [listed, List.intercalate_cons_cons, List.append_assoc, List.singleton_append,
            piecesFrom_append apart.1 closed.1 rfl rfl, ← listed, ih (by simp) apart.2 closed.2]

/-- Items are what stands between the commas. -/
theorem splitTopLevel_listed {items : List (List Token)}
    (apart : ∀ item ∈ items, NoneOutside Items.isComma 0 item)
    (closed : ∀ item ∈ items.dropLast, depthAt 0 item = 0) :
    splitTopLevel Items.isComma (listed items) = items.filter fun item => !item.isEmpty := by
  rcases eq_or_ne items [] with rfl | nonempty
  · rfl
  · rw [splitTopLevel, splitTopLevelWith, piecesFrom_listed nonempty apart closed]

end SqlGrader.Token
