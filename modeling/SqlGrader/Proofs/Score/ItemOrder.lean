import Mathlib.Algebra.BigOperators.Group.Finset.Basic
import Mathlib.Algebra.Order.BigOperators.Group.Finset
import Mathlib.Data.Bool.Count
import SqlGrader.Proofs.Score.UnitInterval
/-!
# The order of select lists

Items are paired in the order of the reference, each with the first candidate that is left and
credits it most. The order of the candidates never matters, and neither does any order for how many
items are paired. How many of them have the full credit depends on the order of the reference only
where an expression is contested: one select list has it more often than the other, which has it
too, and has it both with an alias and without one. There an item may take the candidate that a
later one would have matched in full.
-/

namespace SqlGrader.ComponentMatch

/-! ### Items of one expression -/

/-- The credits of items of one expression, of which it is known whether they have an alias, where
`named` candidates with an alias and `plain` ones without are left. -/
def creditsOf : List Bool → (named plain : Nat) → List Credit
  | [], _, _ => []
  | true :: bs, named + 1, plain => .full :: creditsOf bs named plain
  | true :: bs, 0, plain + 1 => .expressionOnly :: creditsOf bs 0 plain
  | false :: bs, named, plain + 1 => .full :: creditsOf bs named plain
  | false :: bs, named + 1, 0 => .expressionOnly :: creditsOf bs named 0
  | _ :: bs, 0, 0 => .none :: creditsOf bs 0 0

section

variable (bs : List Bool) (named plain : Nat)

/-- Every item is paired as long as a candidate is left. -/
theorem count_paired_creditsOf :
    (creditsOf bs named plain).count .full + (creditsOf bs named plain).count .expressionOnly =
      min bs.length (named + plain) := by
  fun_induction creditsOf bs named plain <;> simp <;> omega

/-- Where the candidates suffice, or the items are all of one kind, each item has the full credit as
long as there is a candidate of its kind. -/
theorem count_full_creditsOf (settled : bs.length ≤ named + plain ∨ named + plain = 0 ∨
    bs.count true = 0 ∨ bs.count false = 0) :
    (creditsOf bs named plain).count .full =
      min (bs.count true) named + min (bs.count false) plain := by
  have total : bs.count true + bs.count false = bs.length := List.count_true_add_count_false bs
  fun_induction creditsOf bs named plain <;> simp [List.count_cons] at settled total ⊢ <;> grind

theorem count_full_replicate_true (k : Nat) :
    (creditsOf (List.replicate k true ++ bs) named plain).count .full =
      min k named + (creditsOf bs (named - k) (plain - (k - named))).count .full := by
  induction k generalizing named plain with
  | zero => simp
  | succ k ih =>
      rw [List.replicate_succ, List.cons_append]
      obtain _ | named := named
      · obtain _ | plain := plain
        · simp [creditsOf, ih]
        · simp [creditsOf, ih]
      · simp [creditsOf, ih]; omega

theorem count_full_replicate_false (k : Nat) :
    (creditsOf (List.replicate k false ++ bs) named plain).count .full =
      min k plain + (creditsOf bs (named - (k - plain)) (plain - k)).count .full := by
  induction k generalizing named plain with
  | zero => simp
  | succ k ih =>
      rw [List.replicate_succ, List.cons_append]
      obtain _ | plain := plain
      · obtain _ | named := named
        · simp [creditsOf, ih]
        · simp [creditsOf, ih]
      · simp [creditsOf, ih]; omega

end

theorem perm_of_count {cs bs : List Bool} (named : cs.count true = bs.count true)
    (plain : cs.count false = bs.count false) : cs.Perm bs :=
  List.perm_iff_count.2 fun b => by cases b <;> assumption

/-- Items of both kinds, of which there are more than candidates, can be put into orders in which
different numbers of them have the full credit. -/
theorem exists_orders_of_contested {bs : List Bool} {named plain : Nat}
    (fewer : named + plain < bs.length) (any : 0 < named + plain)
    (kinds : ∀ b, 0 < bs.count b) :
    ∃ cs ds : List Bool, cs.Perm bs ∧ ds.Perm bs ∧
      (creditsOf cs named plain).count .full < (creditsOf ds named plain).count .full := by
  have total := List.count_true_add_count_false bs
  have someNamed := kinds true
  have somePlain := kinds false
  -- First those that find a candidate of their kind, then the others.
  let best := List.replicate (min (bs.count true) named) true ++
    (List.replicate (min (bs.count false) plain) false ++
      (List.replicate (bs.count true - named) true ++
        List.replicate (bs.count false - plain) false))
  have perm : best.Perm bs := by
    apply perm_of_count
    · simp [best, List.count_replicate]; omega
    · simp [best, List.count_replicate]; omega
  have many : min (bs.count true) named + min (bs.count false) plain ≤
      (creditsOf best named plain).count .full := by
    simp only [best, count_full_replicate_true, count_full_replicate_false]
    omega
  -- Those of one kind first: they take candidates of the other kind where theirs do not suffice.
  by_cases takes : named < bs.count true ∧ 0 < plain
  · refine ⟨List.replicate (bs.count true) true ++ List.replicate (bs.count false) false, best,
      perm_of_count (by simp [List.count_replicate]) (by simp [List.count_replicate]), perm,
      Nat.lt_of_lt_of_le ?_ many⟩
    rw [count_full_replicate_true, ← List.append_nil (List.replicate _ false),
      count_full_replicate_false]
    simp only [creditsOf, List.count_nil]
    omega
  · refine ⟨List.replicate (bs.count false) false ++ List.replicate (bs.count true) true, best,
      perm_of_count (by simp [List.count_replicate]) (by simp [List.count_replicate]), perm,
      Nat.lt_of_lt_of_le ?_ many⟩
    rw [count_full_replicate_false, ← List.append_nil (List.replicate _ true),
      count_full_replicate_true]
    simp only [creditsOf, List.count_nil]
    omega

/-! ### All expressions -/

/-- How often items with an expression stand in a select list, with an alias or without one. -/
def itemCount (e : Text) (named : Bool) (items : List ProjectionItem) : Nat :=
  (items.map credited).count (e, named)

/-- How often an expression stands in a select list. -/
def occurrences (e : Text) (items : List ProjectionItem) : Nat :=
  itemCount e true items + itemCount e false items

/-- Whether the items of an expression have an alias, one after the other. -/
def kindsOf (e : Text) (items : List ProjectionItem) : List Bool :=
  (items.filter (·.expression = e)).map (·.aliasName.isSome)

theorem count_kindsOf (e : Text) (named : Bool) (items : List ProjectionItem) :
    (kindsOf e items).count named = itemCount e named items := by
  rw [kindsOf, itemCount, List.count, List.countP_map, List.countP_filter, List.count,
    List.countP_map]
  apply List.countP_congr
  intro i _
  simp [credited, and_comm]

theorem length_kindsOf (e : Text) (items : List ProjectionItem) :
    (kindsOf e items).length = occurrences e items := by
  rw [occurrences, ← count_kindsOf, ← count_kindsOf, List.count_true_add_count_false]

theorem Credit.ofPair_eq_full {i j : ProjectionItem} :
    ofPair i j = full ↔ credited j = credited i := by
  rw [ofPair, credited, credited, Prod.mk.injEq]
  split <;> grind

theorem Credit.ofPair_eq_expressionOnly {i j : ProjectionItem} :
    ofPair i j = expressionOnly ↔ credited j = (i.expression, !i.aliasName.isSome) := by
  rw [ofPair, credited, Prod.mk.injEq]
  split <;> grind

section

variable {r : ProjectionItem} {credit : Credit} {key : Text × Bool}

/-- Candidates of one credit are those that are credited for the same. -/
theorem any_ofPair (ofKey : ∀ j, Credit.ofPair r j = credit ↔ credited j = key)
    (ps : List ProjectionItem) :
    ps.any (Credit.ofPair r · == credit) = true ↔ 0 < itemCount key.1 key.2 ps := by
  rw [itemCount, List.count_pos_iff, List.any_eq_true]
  simp [ofKey]

theorem itemCount_eraseP (ofKey : ∀ j, Credit.ofPair r j = credit ↔ credited j = key)
    (ps : List ProjectionItem) (e : Text) (named : Bool) :
    itemCount e named (ps.eraseP (Credit.ofPair r · == credit)) =
      itemCount e named ps - if key = (e, named) then 1 else 0 := by
  have test : (Credit.ofPair r · == credit) = (· == key) ∘ credited :=
    funext fun j => by simpa using ofKey j
  rw [itemCount, itemCount, test, ← List.eraseP_map, ← List.erase_eq_eraseP', List.count_erase]
  simp only [beq_iff_eq]

end

/-- What becomes of the first item: it has a credit, and the candidates that are left are the same
but for one of its expression at most. -/
theorem pairing_cons (r : ProjectionItem) (rs ps : List ProjectionItem) :
    ∃ credit left, Credit.pairing (r :: rs) ps = credit :: Credit.pairing rs left ∧
      (∀ e ≠ r.expression, ∀ named, itemCount e named left = itemCount e named ps) ∧
      ∀ bs, creditsOf (r.aliasName.isSome :: bs) (itemCount r.expression true ps)
          (itemCount r.expression false ps) =
        credit :: creditsOf bs (itemCount r.expression true left)
          (itemCount r.expression false left) := by
  have full := fun j => Credit.ofPair_eq_full (i := r) (j := j)
  have half := fun j => Credit.ofPair_eq_expressionOnly (i := r) (j := j)
  rw [Credit.pairing]
  split
  next found =>
    rw [any_ofPair full] at found
    refine ⟨_, _, rfl, fun e other named => ?_, fun bs => ?_⟩
    · simp [itemCount_eraseP full, credited, other.symm]
    · obtain ⟨n, more⟩ := Nat.exists_eq_add_one_of_ne_zero (Nat.ne_of_gt found)
      cases kind : r.aliasName.isSome <;>
        simp_all [itemCount_eraseP full, credited, creditsOf]
  split
  next none found =>
    rw [any_ofPair full, Nat.not_lt, Nat.le_zero] at none
    rw [any_ofPair half] at found
    refine ⟨_, _, rfl, fun e other named => ?_, fun bs => ?_⟩
    · simp [itemCount_eraseP half, other.symm]
    · obtain ⟨n, more⟩ := Nat.exists_eq_add_one_of_ne_zero (Nat.ne_of_gt found)
      cases kind : r.aliasName.isSome <;>
        simp_all [itemCount_eraseP half, credited, creditsOf]
  next none none' =>
    rw [any_ofPair full, Nat.not_lt, Nat.le_zero] at none
    rw [any_ofPair half, Nat.not_lt, Nat.le_zero] at none'
    refine ⟨_, _, rfl, fun e other named => rfl, fun bs => ?_⟩
    cases kind : r.aliasName.isSome <;> simp_all [credited, creditsOf]

theorem kindsOf_cons (e : Text) (r : ProjectionItem) (rs : List ProjectionItem) :
    kindsOf e (r :: rs) =
      if r.expression = e then r.aliasName.isSome :: kindsOf e rs else kindsOf e rs := by
  simp only [kindsOf, List.filter_cons, decide_eq_true_eq]
  split <;> rfl

/-- Items of different expressions do not compete: credits are given expression by expression. -/
theorem count_pairing (credit : Credit) (all : Finset Text) (rs ps : List ProjectionItem)
    (within : ∀ r ∈ rs, r.expression ∈ all) :
    (Credit.pairing rs ps).count credit =
      ∑ e ∈ all, (creditsOf (kindsOf e rs) (itemCount e true ps) (itemCount e false ps)).count
        credit := by
  induction rs generalizing ps with
  | nil => simp [Credit.pairing, kindsOf, creditsOf]
  | cons r rs ih =>
      obtain ⟨here, rest⟩ := List.forall_mem_cons.1 within
      obtain ⟨first, left, pairs, others, own⟩ := pairing_cons r rs ps
      rw [pairs, List.count_cons, ih left rest, ← Finset.add_sum_erase all _ here,
        ← Finset.add_sum_erase all _ here, kindsOf_cons, if_pos rfl, own, List.count_cons,
        Nat.add_right_comm]
      congr 1
      apply Finset.sum_congr rfl
      intro e mem
      have other := Finset.ne_of_mem_erase mem
      rw [kindsOf_cons, if_neg other.symm, others e other, others e other]

/-- The expressions of two select lists. -/
def expressionsOf (rs ps : List ProjectionItem) : Finset Text :=
  ((rs ++ ps).map (·.expression)).toFinset

theorem mem_expressionsOf {rs ps : List ProjectionItem} {i : ProjectionItem}
    (mem : i ∈ rs ∨ i ∈ ps) : i.expression ∈ expressionsOf rs ps := by
  rw [expressionsOf, List.mem_toFinset]
  exact List.mem_map_of_mem (List.mem_append.2 mem)

theorem itemCount_perm {is js : List ProjectionItem} (perm : is.Perm js) (e : Text) (named : Bool) :
    itemCount e named is = itemCount e named js :=
  (perm.map credited).count_eq (e, named)

theorem kindsOf_append (e : Text) (is js : List ProjectionItem) :
    kindsOf e (is ++ js) = kindsOf e is ++ kindsOf e js := by
  rw [kindsOf, List.filter_append, List.map_append, kindsOf, kindsOf]

/-- The items of one expression can be put into any order of their kinds, the others staying in
theirs. -/
theorem exists_perm_of_kinds {e : Text} {rs : List ProjectionItem} {bs : List Bool}
    (perm : bs.Perm (kindsOf e rs)) :
    ∃ rs' : List ProjectionItem, rs'.Perm rs ∧ kindsOf e rs' = bs ∧
      ∀ e' ≠ e, kindsOf e' rs' = kindsOf e' rs := by
  let isOwn (i : ProjectionItem) : Bool := i.expression = e
  have aligned : List.Forall₂ (fun b i => b = i.aliasName.isSome) (kindsOf e rs)
      (rs.filter isOwn) :=
    List.forall₂_map_left_iff.2 (List.forall₂_same.2 fun i _ => rfl)
  obtain ⟨own, kinds, reordered⟩ := List.perm_comp_forall₂ perm aligned
  have ofOwn : ∀ i ∈ own, i.expression = e := fun i mem =>
    of_decide_eq_true (List.mem_filter.1 (reordered.subset mem)).2
  have split := List.filter_append_perm isOwn rs
  refine ⟨own ++ rs.filter (!isOwn ·), (reordered.append_right _).trans split, ?_,
    fun e' ne => ?_⟩
  · have none : kindsOf e (rs.filter (!isOwn ·)) = [] := by
      simp [kindsOf, isOwn]
    have same : bs = own.map (·.aliasName.isSome) := by
      rw [← List.forall₂_eq_eq_eq]
      exact List.forall₂_map_right_iff.2 kinds
    rw [kindsOf_append, none, List.append_nil, kindsOf,
      List.filter_eq_self.2 (by simpa using ofOwn), same]
  · have none : kindsOf e' own = [] := by
      rw [kindsOf, List.map_eq_nil_iff, List.filter_eq_nil_iff]
      intro i mem
      simpa [ofOwn i mem] using ne.symm
    rw [kindsOf_append, none, List.nil_append, kindsOf, List.filter_filter, kindsOf]
    congr 1
    apply List.filter_congr
    intro i _
    simp only [isOwn]
    grind

/-! ### Contested expressions -/

/-- Whether an expression stands in one select list more often than in the other, which has it too,
and stands there both with an alias and without one. -/
def Contested (e : Text) (many few : List ProjectionItem) : Prop :=
  0 < occurrences e few ∧ occurrences e few < occurrences e many ∧
    0 < itemCount e true many ∧ 0 < itemCount e false many

instance (e : Text) (many few : List ProjectionItem) : Decidable (Contested e many few) :=
  inferInstanceAs (Decidable (_ ∧ _))

/-- Whether no expression of the reference is contested, whichever side has more of it. -/
def Uncontested (rs ps : List ProjectionItem) : Prop :=
  ∀ r ∈ rs, ¬ Contested r.expression rs ps ∧ ¬ Contested r.expression ps rs

instance (rs ps : List ProjectionItem) : Decidable (Uncontested rs ps) :=
  inferInstanceAs (Decidable (∀ r ∈ rs, _))

theorem exists_of_occurrences {e : Text} {rs : List ProjectionItem} (some : 0 < occurrences e rs) :
    ∃ r ∈ rs, r.expression = e := by
  rw [← length_kindsOf, kindsOf, List.length_map, List.length_pos_iff_exists_mem] at some
  obtain ⟨r, mem⟩ := some
  exact ⟨r, List.mem_of_mem_filter mem, of_decide_eq_true (List.mem_filter.1 mem).2⟩

theorem uncontested_iff {rs ps : List ProjectionItem} :
    Uncontested rs ps ↔ ∀ e, ¬ Contested e rs ps ∧ ¬ Contested e ps rs := by
  refine ⟨fun free e => ?_, fun free r _ => free r.expression⟩
  constructor
  · intro contested
    obtain ⟨r, mem, rfl⟩ := exists_of_occurrences (Nat.zero_lt_of_lt contested.2.1)
    exact (free r mem).1 contested
  · intro contested
    obtain ⟨r, mem, rfl⟩ := exists_of_occurrences contested.1
    exact (free r mem).2 contested

/-- How many items of an expression both select lists have of the same kind. -/
def agreed (e : Text) (rs ps : List ProjectionItem) : Nat :=
  min (itemCount e true rs) (itemCount e true ps) +
    min (itemCount e false rs) (itemCount e false ps)

theorem agreed_comm (e : Text) (rs ps : List ProjectionItem) : agreed e rs ps = agreed e ps rs := by
  rw [agreed, agreed, Nat.min_comm, Nat.min_comm (itemCount e false rs)]

section

variable {all : Finset Text} {rs ps : List ProjectionItem}

/-- As many items are paired as both select lists have of each expression. -/
theorem count_paired (within : ∀ r ∈ rs, r.expression ∈ all) :
    (Credit.pairing rs ps).count .full + (Credit.pairing rs ps).count .expressionOnly =
      ∑ e ∈ all, min (occurrences e rs) (occurrences e ps) := by
  rw [count_pairing .full all rs ps within, count_pairing .expressionOnly all rs ps within,
    ← Finset.sum_add_distrib]
  apply Finset.sum_congr rfl
  intro e _
  rw [count_paired_creditsOf, length_kindsOf, occurrences, occurrences]

/-- Where the reference has no contested expression, the numbers of items of each kind tell how many
have the full credit. -/
theorem count_full (within : ∀ r ∈ rs, r.expression ∈ all) (free : ∀ e, ¬ Contested e rs ps) :
    (Credit.pairing rs ps).count .full = ∑ e ∈ all, agreed e rs ps := by
  rw [count_pairing .full all rs ps within]
  apply Finset.sum_congr rfl
  intro e _
  have settled := free e
  rw [count_full_creditsOf, count_kindsOf, count_kindsOf, agreed]
  rw [length_kindsOf, count_kindsOf, count_kindsOf]
  simp only [Contested, occurrences] at settled ⊢
  omega

/-- A contested expression of the reference lets its items be put into two orders that differ in how
many have the full credit. -/
theorem exists_orders {e : Text} (contested : Contested e rs ps) :
    ∃ rs' rs'' : List ProjectionItem, rs'.Perm rs ∧ rs''.Perm rs ∧
      (Credit.pairing rs' ps).count .full < (Credit.pairing rs'' ps).count .full := by
  obtain ⟨any, fewer, someNamed, somePlain⟩ := contested
  have kinds : ∀ b, 0 < (kindsOf e rs).count b := fun b => by
    rw [count_kindsOf]
    cases b <;> assumption
  obtain ⟨cs, ds, permC, permD, less⟩ :=
    exists_orders_of_contested (by rwa [length_kindsOf]) any kinds
  obtain ⟨rs', perm', kinds', others'⟩ := exists_perm_of_kinds permC
  obtain ⟨rs'', perm'', kinds'', others''⟩ := exists_perm_of_kinds permD
  refine ⟨rs', rs'', perm', perm'', ?_⟩
  have mem : ∀ {is : List ProjectionItem}, is.Perm rs →
      ∀ i ∈ is, i.expression ∈ expressionsOf rs ps :=
    fun perm i mem => mem_expressionsOf (.inl (perm.subset mem))
  rw [count_pairing .full _ rs' ps (mem perm'), count_pairing .full _ rs'' ps (mem perm'')]
  obtain ⟨r, here, rfl⟩ := exists_of_occurrences (Nat.zero_lt_of_lt fewer)
  apply Finset.sum_lt_sum
  · intro e' _
    by_cases own : e' = r.expression
    · rw [own, kinds', kinds'']
      exact less.le
    · rw [others' e' own, others'' e' own]
  · refine ⟨r.expression, mem_expressionsOf (.inl here), ?_⟩
    rw [kinds', kinds'']
    exact less

end

/-! ### Scores -/

theorem length_pairing (rs ps : List ProjectionItem) :
    (Credit.pairing rs ps).length = rs.length := by
  induction rs generalizing ps with
  | nil => rfl
  | cons r rs ih =>
      obtain ⟨credit, left, pairs, -⟩ := pairing_cons r rs ps
      rw [pairs, List.length_cons, ih, List.length_cons]

theorem Credit.length_eq (credits : List Credit) :
    credits.length =
      credits.count .full + credits.count .expressionOnly + credits.count .none := by
  induction credits with
  | nil => rfl
  | cons credit credits ih => cases credit <;> simp [ih] <;> omega

/-- The mean credit by how many items have which. -/
theorem Credit.mean_eq {credits : List Credit} (some : credits ≠ []) :
    (mean credits : Rat) =
      (credits.count .full + 7 / 10 * credits.count .expressionOnly) / credits.length := by
  have positive : (credits.length : Rat) ≠ 0 :=
    Nat.cast_ne_zero.2 (mt List.length_eq_zero_iff.1 some)
  have sum : (credits.map (Credit.value : Credit → Rat)).sum =
      credits.count .full + 7 / 10 * credits.count .expressionOnly := by
    clear some positive
    induction credits with
    | nil => simp
    | cons credit credits ih =>
        rw [List.map_cons, List.sum_cons, ih]
        cases credit with
        | none => simp [value, Scale.ofNat]
        | expressionOnly => simp [value, Scale.ratio, Scale.ofNat]; ring
        | full => simp [value, Scale.ofNat]; ring
  rw [mean, Scale.sum_eq, sum]
  split
  next all =>
    have full : ∀ credit ∈ credits, credit = .full := by simpa using all
    have count := List.count_eq_length.2 fun credit mem => (full credit mem).symm
    have none : credits.count .expressionOnly = 0 := by
      apply List.count_eq_zero.2
      intro mem
      have other := full _ mem
      contradiction
    rw [count, none, Nat.cast_zero, mul_zero, add_zero, div_self positive]
    exact Nat.cast_one
  next => rfl

/-- Two pairings have the same numbers of items with each credit. -/
structure SameCredits (left right : List Credit) : Prop where
  full : left.count .full = right.count .full
  expressionOnly : left.count .expressionOnly = right.count .expressionOnly

theorem SameCredits.mean {left right : List Credit} (same : SameCredits left right)
    (lengths : left.length = right.length) : (Credit.mean left : Rat) = Credit.mean right := by
  by_cases empty : right = []
  · rw [empty, List.length_nil, List.length_eq_zero_iff] at lengths
    rw [empty, lengths]
  · have some : left ≠ [] := by
      rintro rfl
      exact empty (List.length_eq_zero_iff.1 lengths.symm)
    rw [Credit.mean_eq some, Credit.mean_eq empty, same.full, same.expressionOnly, lengths]

/-- Candidates of the same kinds give the same credits. -/
theorem pairing_congr {ps ps' : List ProjectionItem} (rs : List ProjectionItem)
    (same : ∀ e named, itemCount e named ps' = itemCount e named ps) :
    Credit.pairing rs ps' = Credit.pairing rs ps := by
  induction rs generalizing ps ps' with
  | nil => rfl
  | cons r rs ih =>
      have full := fun j => Credit.ofPair_eq_full (i := r) (j := j)
      have half := fun j => Credit.ofPair_eq_expressionOnly (i := r) (j := j)
      have withoutFull (e named) :
          itemCount e named (ps'.eraseP (Credit.ofPair r · == .full)) =
            itemCount e named (ps.eraseP (Credit.ofPair r · == .full)) := by
        rw [itemCount_eraseP full, itemCount_eraseP full, same]
      have withoutHalf (e named) :
          itemCount e named (ps'.eraseP (Credit.ofPair r · == .expressionOnly)) =
            itemCount e named (ps.eraseP (Credit.ofPair r · == .expressionOnly)) := by
        rw [itemCount_eraseP half, itemCount_eraseP half, same]
      simp only [Credit.pairing, any_ofPair full, any_ofPair half, same]
      rw [ih same, ih withoutFull, ih withoutHalf]

section

variable {rs ps rs' ps' : List ProjectionItem}

theorem occurrences_perm (perm : rs'.Perm rs) (e : Text) :
    occurrences e rs' = occurrences e rs := by
  rw [occurrences, occurrences, itemCount_perm perm, itemCount_perm perm]

theorem agreed_perm (left : rs'.Perm rs) (right : ps'.Perm ps) (e : Text) :
    agreed e rs' ps' = agreed e rs ps := by
  simp only [agreed, itemCount_perm left, itemCount_perm right]

theorem contested_perm (left : rs'.Perm rs) (right : ps'.Perm ps) (e : Text) :
    Contested e rs' ps' ↔ Contested e rs ps := by
  simp only [Contested, occurrences_perm left, occurrences_perm right, itemCount_perm left]

theorem within_left (perm : rs'.Perm rs) : ∀ i ∈ rs', i.expression ∈ expressionsOf rs ps :=
  fun _ mem => mem_expressionsOf (.inl (perm.subset mem))

theorem within_right (perm : ps'.Perm ps) : ∀ i ∈ ps', i.expression ∈ expressionsOf rs ps :=
  fun _ mem => mem_expressionsOf (.inr (perm.subset mem))

/-- How many items are paired depends on no order, and not on which list is the reference. -/
theorem count_paired_perm (left : rs'.Perm rs) (right : ps'.Perm ps) :
    (Credit.pairing rs' ps').count .full + (Credit.pairing rs' ps').count .expressionOnly =
        ∑ e ∈ expressionsOf rs ps, min (occurrences e rs) (occurrences e ps) ∧
      (Credit.pairing ps' rs').count .full + (Credit.pairing ps' rs').count .expressionOnly =
        ∑ e ∈ expressionsOf rs ps, min (occurrences e rs) (occurrences e ps) := by
  rw [count_paired (within_left left), count_paired (within_right right)]
  constructor <;> apply Finset.sum_congr rfl <;> intro e _
  · rw [occurrences_perm left, occurrences_perm right]
  · rw [occurrences_perm left, occurrences_perm right, Nat.min_comm]

/-- Without contested expressions the same goes for how many have the full credit. -/
theorem count_full_perm (free : Uncontested rs ps) (left : rs'.Perm rs) (right : ps'.Perm ps) :
    (Credit.pairing rs' ps').count .full = ∑ e ∈ expressionsOf rs ps, agreed e rs ps ∧
      (Credit.pairing ps' rs').count .full = ∑ e ∈ expressionsOf rs ps, agreed e rs ps := by
  rw [uncontested_iff] at free
  rw [count_full (within_left left) fun e => mt (contested_perm left right e).1 (free e).1,
    count_full (within_right right) fun e => mt (contested_perm right left e).1 (free e).2]
  constructor <;> apply Finset.sum_congr rfl <;> intro e _
  · rw [agreed_perm left right]
  · rw [agreed_perm right left, agreed_comm]

theorem sameCredits_of_uncontested (free : Uncontested rs ps) (left : rs'.Perm rs)
    (right : ps'.Perm ps) :
    SameCredits (Credit.pairing rs' ps') (Credit.pairing rs ps) ∧
      SameCredits (Credit.pairing ps' rs') (Credit.pairing rs ps) := by
  obtain ⟨paired, paired'⟩ := count_paired_perm left right
  obtain ⟨full, full'⟩ := count_full_perm free left right
  have paired₀ := (count_paired_perm (.refl rs) (.refl ps)).1
  have full₀ := (count_full_perm free (.refl rs) (.refl ps)).1
  exact ⟨⟨by omega, by omega⟩, ⟨by omega, by omega⟩⟩

/-- Where no order and no exchange changes how many items have the full credit, no expression is
contested. -/
theorem uncontested_of_sameCredits
    (same : ∀ rs' ps' : List ProjectionItem, rs'.Perm rs → ps'.Perm ps →
      SameCredits (Credit.pairing rs' ps') (Credit.pairing rs ps) ∧
        SameCredits (Credit.pairing ps' rs') (Credit.pairing rs ps)) :
    Uncontested rs ps := by
  rw [uncontested_iff]
  intro e
  constructor
  · intro contested
    obtain ⟨rs', rs'', perm', perm'', less⟩ := exists_orders contested
    have left := (same rs' ps perm' (.refl ps)).1.full
    have right := (same rs'' ps perm'' (.refl ps)).1.full
    omega
  · intro contested
    obtain ⟨ps', ps'', perm', perm'', less⟩ := exists_orders contested
    have left := (same rs ps' (.refl rs) perm').2.full
    have right := (same rs ps'' (.refl rs) perm'').2.full
    omega

end

/-- What the order of two select lists of one length has to do with their pairing. -/
structure OrderFree (rs ps : List ProjectionItem) : Prop where
  /-- The order of the candidates does not matter. -/
  candidates (ps' : List ProjectionItem) (right : ps'.Perm ps) :
    Credit.pairing rs ps' = Credit.pairing rs ps
  /-- As many items stay without a partner in any order, whichever list is the reference. -/
  unpaired (rs' ps' : List ProjectionItem) (left : rs'.Perm rs) (right : ps'.Perm ps) :
    (Credit.pairing rs' ps').count .none = (Credit.pairing rs ps).count .none ∧
      (Credit.pairing ps' rs').count .none = (Credit.pairing rs ps).count .none
  /-- As many items have each credit in any order, whichever list is the reference, unless an
  expression is contested. -/
  credits : Uncontested rs ps ↔ ∀ rs' ps' : List ProjectionItem, rs'.Perm rs → ps'.Perm ps →
    SameCredits (Credit.pairing rs' ps') (Credit.pairing rs ps) ∧
      SameCredits (Credit.pairing ps' rs') (Credit.pairing rs ps)
  score (free : Uncontested rs ps) (rs' ps' : List ProjectionItem) (left : rs'.Perm rs)
    (right : ps'.Perm ps) :
    (projectionScore rs' ps' : Rat) = projectionScore rs ps ∧
      (projectionScore ps' rs' : Rat) = projectionScore rs ps

/-- The order of select lists does not matter where no expression is contested, and no order
matters for how many items are paired. -/
theorem projectionScore_orderFree (rs ps : List ProjectionItem) (lengths : rs.length = ps.length) :
    OrderFree rs ps := by
  refine ⟨fun ps' right => pairing_congr rs fun e named => itemCount_perm right e named,
    fun rs' ps' left right => ?_, ⟨fun free rs' ps' left right => ?_, uncontested_of_sameCredits⟩,
    fun free rs' ps' left right => ?_⟩
  · obtain ⟨paired, paired'⟩ := count_paired_perm left right
    have paired₀ := (count_paired_perm (.refl rs) (.refl ps)).1
    have total := Credit.length_eq (Credit.pairing rs' ps')
    have total' := Credit.length_eq (Credit.pairing ps' rs')
    have total₀ := Credit.length_eq (Credit.pairing rs ps)
    rw [length_pairing] at total total' total₀
    have lengthLeft := left.length_eq
    have lengthRight := right.length_eq
    constructor <;> omega
  · exact sameCredits_of_uncontested free left right
  · obtain ⟨same, same'⟩ := sameCredits_of_uncontested free left right
    have lengthLeft := left.length_eq
    have lengthRight := right.length_eq
    have left' : rs'.length = ps'.length := by omega
    rw [projectionScore, projectionScore, projectionScore, if_neg (not_not.2 left'),
      if_neg (not_not.2 left'.symm), if_neg (not_not.2 lengths)]
    constructor
    · exact same.mean (by rw [length_pairing, length_pairing, lengthLeft])
    · exact same'.mean (by rw [length_pairing, length_pairing, lengthRight, lengths])

/-- The items that a statement selects. -/
def selected (sql : String) : List ProjectionItem := (Statement.ofText sql.toList).projection

/-- One expression as often on both sides, with an alias and without one, and another one. -/
theorem projectionScore_orderFree_aliased :
    (selected "SELECT a x, a, b FROM t").length = (selected "SELECT b y, a, a z FROM t").length ∧
      Uncontested (selected "SELECT a x, a, b FROM t") (selected "SELECT b y, a, a z FROM t") ∧
      OrderFree (selected "SELECT a x, a, b FROM t") (selected "SELECT b y, a, a z FROM t") := by
  have left : selected "SELECT a x, a, b FROM t" =
      [⟨['a'], some ['x']⟩, ⟨['a'], none⟩, ⟨['b'], none⟩] := by decide +kernel
  have right : selected "SELECT b y, a, a z FROM t" =
      [⟨['b'], some ['y']⟩, ⟨['a'], none⟩, ⟨['a'], some ['z']⟩] := by decide +kernel
  rw [left, right]
  exact ⟨rfl, by decide, projectionScore_orderFree _ _ rfl⟩

/-- The order matters for a contested expression: here the item with the alias takes the only
candidate if it comes first. -/
theorem projectionScore_reordered_ne :
    (selected "SELECT e, e AS a FROM t").Perm (selected "SELECT e AS a, e FROM t") ∧
      (selected "SELECT e AS a, e FROM t").length = (selected "SELECT e, x FROM t").length ∧
      ¬ SameCredits
        (Credit.pairing (selected "SELECT e, e AS a FROM t") (selected "SELECT e, x FROM t"))
        (Credit.pairing (selected "SELECT e AS a, e FROM t") (selected "SELECT e, x FROM t")) ∧
      ¬ SameCredits
        (Credit.pairing (selected "SELECT e, x FROM t") (selected "SELECT e AS a, e FROM t"))
        (Credit.pairing (selected "SELECT e AS a, e FROM t") (selected "SELECT e, x FROM t")) ∧
      projectionScore (selected "SELECT e, e AS a FROM t") (selected "SELECT e, x FROM t") =
        (1 / 2 : Rat) ∧
      projectionScore (selected "SELECT e AS a, e FROM t") (selected "SELECT e, x FROM t") =
        (7 / 20 : Rat) := by
  have aliasFirst : selected "SELECT e AS a, e FROM t" =
      [⟨['e'], some ['a']⟩, ⟨['e'], none⟩] := by decide +kernel
  have aliasLast : selected "SELECT e, e AS a FROM t" =
      [⟨['e'], none⟩, ⟨['e'], some ['a']⟩] := by decide +kernel
  have candidates : selected "SELECT e, x FROM t" =
      [⟨['e'], none⟩, ⟨['x'], none⟩] := by decide +kernel
  rw [aliasFirst, aliasLast, candidates]
  refine ⟨List.Perm.swap _ _ _, rfl, fun same => ?_, fun same => ?_, by decide +kernel,
    by decide +kernel⟩
  · exact absurd same.full (by decide)
  · exact absurd same.full (by decide)

end SqlGrader.ComponentMatch
