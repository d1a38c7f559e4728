import SqlGrader.Proofs.Sql.Joins
/-!
# The clauses of statements that differ in what readers do not see

The sections of twins correspond: they open with the same words, and their texts
are akin. So the two sets of clauses are akin clause by clause, and one of them
has a clause if the other one has it.
-/

namespace SqlGrader.Join

open Token

variable {f : Token → Token} {a b : Text} {as bs : List Text}

/-- Texts of twins that start with the keywords of a join. -/
def Twins (f : Token → Token) (a b : Text) : Prop :=
  ∃ modifiers j body us, Twin f (modifiers ++ j :: body) us ∧
    (∀ m ∈ modifiers, Boundary.isJoinModifier m) ∧ j.isWord "JOIN" ∧
      a = render (modifiers ++ j :: body) ∧ b = render us

/-- Whether the table that a join text names can be read. -/
def Readable (a : Text) : Prop := ∀ x, ofText? a = some x → ∃ ts, tokenize x.targetText = .ok ts

theorem Twins.textsAkin (twins : Twins f a b) (cosmetic : Cosmetic f) (cut : CutAlike a b) :
    TextsAkin f a b := by
  obtain ⟨modifiers, j, body, us, twin, all, join, rfl, rfl⟩ := twins
  exact textsAkin_of_twin cosmetic twin all join cut

theorem Twins.cutAlike (twins : Twins folded a b) (readable : Readable a) : CutAlike a b := by
  obtain ⟨modifiers, j, body, us, twin, all, join, rfl, rfl⟩ := twins
  exact cutAlike_of_twin twin all join readable

theorem textsAkin_of_twins (cosmetic : Cosmetic f) (twins : List.Forall₂ (Twins f) as bs)
    (cut : List.Forall₂ CutAlike as bs) : List.Forall₂ (TextsAkin f) as bs := by
  induction twins with
  | nil => exact .nil
  | cons here _ ih =>
      obtain ⟨first, others⟩ := List.forall₂_cons.mp cut
      exact .cons (here.textsAkin cosmetic first) (ih others)

theorem cutAlike_of_twins (twins : List.Forall₂ (Twins folded) as bs)
    (readable : ∀ a ∈ as, Readable a) : List.Forall₂ CutAlike as bs := by
  induction twins with
  | nil => exact .nil
  | cons here _ ih =>
      rw [List.forall_mem_cons] at readable
      exact .cons (here.cutAlike readable.1) (ih readable.2)

end SqlGrader.Join

namespace SqlGrader.Section

open Token

variable {ts us : List Token} {s s' : Section} {f : Token → Token}

/-- Sections that open with the same words and have twins as their tokens. -/
def Corresponds (f : Token → Token) (s s' : Section) : Prop :=
  s.boundary = s'.boundary ∧ Twin f s.content s'.content

/-- The sections of twins correspond one by one. -/
theorem corresponds (cosmetic : Cosmetic f) (twin : Twin f ts us) :
    List.Forall₂ (fun s s' => s ∈ ofTokens ts ∧ Corresponds f s s') (ofTokens ts)
      (ofTokens us) := by
  have same : (ofTokens ts).map (map f) = (ofTokens us).map (map f) := by
    have left := congrArg Prod.snd (splitFrom_map cosmetic.neutral none 0 ts)
    rw [twin.same, splitFrom_map cosmetic.neutral none 0 us] at left
    exact left.symm
  refine (forall₂_of_map_eq same (P := (· ∈ ofTokens ts)) (Q := (· ∈ ofTokens us))
    (fun _ mem => mem) (fun _ mem => mem)).imp ?_
  rintro s s' ⟨mem, mem', here⟩
  have boundary := congrArg Section.boundary here
  refine ⟨mem, boundary, ?_⟩
  refine twin.of_within (content_within mem) (content_within mem') ?_
  rw [← content_map, here, content_map]

/-- The texts of corresponding joins are those of twins. -/
theorem joins_twins (mem : s ∈ ofTokens ts) (pair : Corresponds f s s')
    (slot : s.boundary.slot = .clause .joins) :
    Join.Twins f (render s.content) (render s'.content) := by
  obtain ⟨modifiers, j, body, whole, all, join⟩ := splitFrom_joins none 0 ts mem slot
  have twin := pair.2
  rw [whole] at twin ⊢
  exact ⟨modifiers, j, body, s'.content, twin, all, join, rfl, rfl⟩

end SqlGrader.Section

namespace SqlGrader.ClauseSet

open Token

variable {ts us : List Token} {c d : ClauseSet} {ps qs : List (ClauseKind × Text)}
  {p q : ClauseKind × Text} {f : Token → Token} {joined : Text → Text → Prop}
  {related : ClauseKind → Text → Text → Prop}

/-! ### Clauses part by part -/

/-- Parts of one kind, both empty or neither, whose texts are related. -/
structure PartsRelated (related : ClauseKind → Text → Text → Prop) (p q : ClauseKind × Text) :
    Prop where
  kind : p.1 = q.1
  isEmpty : p.2.isEmpty = q.2.isEmpty
  texts : related p.1 p.2 q.2

theorem PartsRelated.counts (pair : PartsRelated related p q) (kind : ClauseKind) :
    (p.1 == kind && !p.2.isEmpty) = (q.1 == kind && !q.2.isEmpty) := by
  rw [pair.kind, pair.isEmpty]

theorem firstOf_related (pairs : List.Forall₂ (PartsRelated related) ps qs) {kind : ClauseKind}
    (empty : related kind [] []) : related kind (firstOf kind ps) (firstOf kind qs) := by
  induction pairs with
  | nil => exact empty
  | @cons p q ps qs pair _ ih =>
      have counts := pair.counts kind
      unfold firstOf at ih ⊢
      rw [List.find?_cons, List.find?_cons, ← counts]
      cases counted : p.1 == kind && !p.2.isEmpty with
      | true =>
          rw [Bool.and_eq_true, beq_iff_eq] at counted
          exact counted.1 ▸ pair.texts
      | false => exact ih

/-- What holds of the parts one by one holds of the clauses. -/
theorem related_ofParts (reading : Reading) (pairs : List.Forall₂ (PartsRelated related) ps qs)
    (empty : ∀ kind ≠ .joins, related kind [] []) :
    (∀ kind ≠ .joins,
        related kind ((ofParts reading ps).text kind) ((ofParts reading qs).text kind)) ∧
      List.Forall₂ (related .joins) (ofParts reading ps).joins (ofParts reading qs).joins := by
  constructor
  · intro kind noJoins
    cases kind with
    | joins => exact absurd rfl noJoins
    | _ => exact firstOf_related pairs (empty _ noJoins)
  · simp only [ofParts, List.forall₂_map_left_iff, List.forall₂_map_right_iff]
    induction pairs with
    | nil => exact .nil
    | @cons p q ps qs pair _ ih =>
        have counts := pair.counts .joins
        rw [List.filter_cons, List.filter_cons, ← counts]
        split
        next counted =>
          rw [Bool.and_eq_true, beq_iff_eq] at counted
          exact .cons (counted.1 ▸ pair.texts) ih
        next => exact ih

/-- Sets of clauses with the same empty texts and as many joins have the same clauses. -/
theorem isPresent_congr
    (texts : ∀ kind ≠ .joins, (c.text kind).isEmpty = (d.text kind).isEmpty)
    (joins : c.joins.length = d.joins.length) (kind : ClauseKind) :
    c.isPresent kind = d.isPresent kind := by
  cases kind with
  | joins =>
      have none : c.joins.isEmpty = d.joins.isEmpty := by
        rw [Bool.eq_iff_iff, List.isEmpty_iff_length_eq_zero, joins,
          List.isEmpty_iff_length_eq_zero]
      rw [isPresent, isPresent, none]
  | _ => exact congrArg not (texts _ (by simp))

theorem hasCore_congr (present : ∀ kind, c.isPresent kind = d.isPresent kind) :
    c.hasCore = d.hasCore :=
  congrArg₂ or (congrArg₂ or (present .projection) (present .source)) (present .filter)

/-- Related parts make sets of the same clauses. -/
theorem isPresent_related (reading : Reading) (pairs : List.Forall₂ (PartsRelated related) ps qs)
    (kind : ClauseKind) :
    (ofParts reading ps).isPresent kind = (ofParts reading qs).isPresent kind := by
  have sized : List.Forall₂ (PartsRelated fun _ a b => a.isEmpty = b.isEmpty) ps qs :=
    pairs.imp fun _ _ pair => ⟨pair.kind, pair.isEmpty, pair.isEmpty⟩
  obtain ⟨texts, joins⟩ := related_ofParts reading sized fun _ _ => rfl
  exact isPresent_congr texts joins.length_eq kind

/-! ### Clauses of twins -/

/-- Parts of one kind whose texts are akin, those of joins as joins. -/
def PartsAkin (f : Token → Token) (joined : Text → Text → Prop) (p q : ClauseKind × Text) : Prop :=
  p.1 = q.1 ∧ SqlGrader.Akin f p.2 q.2 ∧ (p.1 = .joins → joined p.2 q.2)

/-- Sets of clauses whose texts are akin, those of joins as joins. -/
structure Akin (f : Token → Token) (joined : Text → Text → Prop) (c d : ClauseSet) : Prop where
  text (kind : ClauseKind) (noJoins : kind ≠ .joins) :
    SqlGrader.Akin f (c.text kind) (d.text kind)
  joins : List.Forall₂ joined c.joins d.joins

/-- Akin parts make akin sets of clauses. -/
theorem akin_ofParts (reading : Reading) (pairs : List.Forall₂ (PartsAkin f joined) ps qs) :
    (ofParts reading ps).Akin f joined (ofParts reading qs) := by
  have related : List.Forall₂ (PartsRelated fun kind a b =>
      SqlGrader.Akin f a b ∧ (kind = .joins → joined a b)) ps qs :=
    pairs.imp fun _ _ pair => ⟨pair.1, pair.2.1.isEmpty_eq, pair.2⟩
  obtain ⟨texts, joins⟩ := related_ofParts reading related fun kind noJoins =>
    ⟨.nil, fun same => absurd same noJoins⟩
  exact ⟨fun kind noJoins => (texts kind noJoins).1, joins.imp fun _ _ pair => pair.2 rfl⟩

/-- The clauses of twins are akin. -/
theorem akin_ofTokens (cosmetic : Cosmetic f) (twin : Twin f ts us) :
    (ofTokens ts).Akin f (Join.Twins f) (ofTokens us) := by
  refine akin_ofParts .tokens (List.rel_filterMap ?_ (Section.corresponds cosmetic twin))
  rintro s s' ⟨mem, pair⟩
  have boundary := pair.1
  unfold Section.part?
  rw [← boundary]
  cases slot : s.boundary.slot with
  | unscored => exact .none
  | clause kind =>
      refine .some ⟨rfl, .of_twin pair.2, ?_⟩
      rintro rfl
      exact Section.joins_twins mem pair slot

end SqlGrader.ClauseSet
