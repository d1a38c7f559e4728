import SqlGrader.Proofs.Sql.Groups
import SqlGrader.Proofs.Sql.Pieces
/-!
# A section with another body

The sections of a statement up to the words that open one of them do not depend on what follows
these words. So a section may be given another body: as long as nothing opens in it, the sections
around it stay, and the clauses are the same but for the one that is read from it.
-/

namespace SqlGrader.Boundary

open Token

variable {t : Token} {front opening : List Token} {current : Option Slot} {b : Boundary}

theorem joinWidth?_cons (modifier : isJoinModifier t) (ts : List Token) :
    joinWidth? (t :: ts) = (joinWidth? ts).map (· + 1) := by
  simp only [joinWidth?, List.takeWhile_cons_of_pos modifier, List.length_cons,
    List.drop_succ_cons]
  split
  · split <;> rfl
  · rfl

theorem joinWidth?_append_of_mem (mem : t ∈ front) (other : ¬ isJoinModifier t)
    (ts us : List Token) : joinWidth? (front ++ ts) = joinWidth? (front ++ us) := by
  induction front with
  | nil => cases mem
  | cons u front ih =>
      by_cases modifier : isJoinModifier u
      · have later : t ∈ front := (List.mem_cons.mp mem).resolve_left fun same =>
          other (same ▸ modifier)
        rw [List.cons_append, List.cons_append, joinWidth?_cons modifier,
          joinWidth?_cons modifier, ih later]
      · simp only [joinWidth?, List.cons_append, List.takeWhile_cons_of_neg modifier,
          List.length_nil, List.drop_zero]

/-- The words of a boundary do not reach beyond a token that is no modifier of a join. -/
theorem at?_append_of_mem (mem : t ∈ front) (other : ¬ isJoinModifier t) (current : Option Slot)
    (u : Token) (ts us : List Token) :
    at? current u (front ++ ts) = at? current u (front ++ us) := by
  obtain ⟨v, rest, rfl⟩ := List.exists_cons_of_ne_nil (List.ne_nil_of_mem mem)
  have width := joinWidth?_append_of_mem (List.mem_cons_of_mem u mem) other ts us
  simp only [List.cons_append] at width
  simp only [at?, List.cons_append, List.head?_cons, width]

/-- Only joins and limits are kept with words of their boundary. -/
theorem Opening.kept_eq_false {kind : ClauseKind} (opens : Opening current b opening)
    (slot : b.slot = .clause kind) (noJoins : kind ≠ .joins) (noLimit : kind ≠ .limit) :
    b.kept = false := by
  cases opens with
  | rows => exact absurd (Slot.clause.inj slot).symm noLimit
  | join => exact absurd (Slot.clause.inj slot).symm noJoins
  | _ => rfl

/-- The last word of a boundary is no modifier of a join. -/
theorem Opening.exists_not_isJoinModifier (opens : Opening current b opening) :
    ∃ t ∈ opening, ¬ isJoinModifier t := by
  have other {t : Token} {w : String} (word : t.isWord w) (known : w ∉ joinModifiers) :
      ¬ isJoinModifier t := by
    rw [isJoinModifier, isAnyWord_eq word, List.contains_iff_mem]
    exact known
  cases opens with
  | select word => exact ⟨_, List.mem_singleton_self _, other word (by decide)⟩
  | sole known word =>
      have apart : ∀ p ∈ soleWords, p.1 ∉ joinModifiers := by decide
      exact ⟨_, List.mem_singleton_self _, other word (apart _ known)⟩
  | before _ _ next => exact ⟨_, by simp, other next (by decide)⟩
  | rows known word =>
      have apart : ∀ w ∈ ["OFFSET", "FETCH"], w ∉ joinModifiers := by decide
      exact ⟨_, List.mem_singleton_self _, other word (apart _ known)⟩
  | window word => exact ⟨_, List.mem_singleton_self _, other word (by decide)⟩
  | join _ word => exact ⟨_, by simp, not_isJoinModifier_of_join word⟩

end SqlGrader.Boundary

namespace SqlGrader.Section

open Token

variable {ts us rest lead : List Token} {done later : List Section} {s : Section}
  {current : Option Slot} {depth : Nat}

/-! ### What stands before a body -/

/-- The tokens up to a body are split as they are whatever follows them, and the body is what stays
in its section. -/
theorem splitFrom_replace (split : splitFrom current depth ts = (lead, done ++ s :: later)) :
    ∃ rest, ts = lead ++ (done.flatMap tokens ++ (s.opening ++ (s.body ++ rest))) ∧
      splitFrom (some s.boundary.slot) 0 (s.body ++ rest) = (s.body, later) ∧
      ∀ us, splitFrom current depth (lead ++ (done.flatMap tokens ++ (s.opening ++ us))) =
        (lead, done ++ ⟨s.boundary, s.opening, (splitFrom (some s.boundary.slot) 0 us).1⟩ ::
          (splitFrom (some s.boundary.slot) 0 us).2) := by
  fun_induction splitFrom current depth ts generalizing lead done with
  | case1 => simp at split
  | case2 current depth t ts inside body after result ih =>
      obtain ⟨rfl, rfl⟩ := Prod.mk.inj split
      obtain ⟨rest, rfl, stays, replace⟩ := ih result
      refine ⟨rest, rfl, stays, fun us => ?_⟩
      rw [List.cons_append, splitFrom, if_pos inside, replace]
  | case3 => simp at split
  | case4 current depth t ts outside goesOn b opens body after result ih =>
      have words := (Boundary.at?_take opens).1
      have flat : depth = 0 := by simp_all
      subst flat
      obtain ⟨rfl, sections⟩ := Prod.mk.inj split
      cases done with
      | nil =>
          obtain ⟨rfl, rfl⟩ := List.cons.inj sections
          obtain ⟨rest, whole⟩ := (splitFrom_covers (some b.slot) 0 (ts.drop (b.width - 1)))
          rw [result, List.append_assoc] at whole
          refine ⟨after.flatMap tokens ++ rest, ?_, ?_, splitFrom_opening words⟩
          · rw [List.nil_append, List.flatMap_nil, List.nil_append, whole,
              Boundary.at?_take_append_drop opens]
          · rw [whole, result]
      | cons d done =>
          obtain ⟨rfl, rfl⟩ := List.cons.inj sections
          obtain ⟨rest, whole, stays, replace⟩ := ih result
          refine ⟨rest, ?_, stays, fun us => ?_⟩
          · rw [List.nil_append, List.flatMap_cons, tokens, List.append_assoc, List.append_assoc,
              ← whole, Boundary.at?_take_append_drop opens]
          · rw [List.nil_append, List.flatMap_cons, tokens, List.append_assoc, List.append_assoc,
              splitFrom_opening words, replace]
            rfl
  | case5 current depth t ts outside goesOn opens body after result ih =>
      obtain ⟨rfl, rfl⟩ := Prod.mk.inj split
      obtain ⟨rest, rfl, stays, replace⟩ := ih result
      refine ⟨rest, rfl, stays, fun us => ?_⟩
      -- The words of the opening decide whether a boundary reaches them.
      have mem : s ∈ (splitFrom current depth
          (body ++ (done.flatMap tokens ++ (s.opening ++ (s.body ++ rest))))).2 := by
        rw [result]
        simp
      obtain ⟨outer, words⟩ := splitFrom_opened _ _ _ s mem
      obtain ⟨u, here, other⟩ := words.exists_not_isJoinModifier
      have reached : u ∈ body ++ (done.flatMap tokens ++ s.opening) := by simp [here]
      have same := Boundary.at?_append_of_mem reached other current t us (s.body ++ rest)
      simp only [List.append_assoc] at same
      rw [List.cons_append, splitFrom, if_neg outside, if_neg goesOn, same, opens, replace]

/-! ### What stands after a body -/

theorem part?_marked (b : Boundary) (gap : Bool) (opening body : List Token)
    (nonempty : opening ≠ []) :
    part? ⟨b, marked gap opening, body⟩ = part? ⟨b, opening, body⟩ := by
  cases kept : b.kept <;> cases slot : b.slot <;>
    simp [part?, content, kept, slot, ← marked_append nonempty]

/-- Whether a gap stands before the words that end a section does not matter. -/
theorem splitFrom_marked (split : splitFrom current depth ts = ([], later)) (gap : Bool) :
    ∃ later', splitFrom current depth (marked gap ts) = ([], later') ∧
      later'.filterMap part? = later.filterMap part? := by
  cases ts with
  | nil => exact ⟨later, split, rfl⟩
  | cons t ts =>
      have paren : ({ t with spaced := gap } : Token).isParen = t.isParen := rfl
      have ends : endsQuery { t with spaced := gap } = endsQuery t := rfl
      rw [splitFrom] at split
      rw [marked, splitFrom, paren, ends, Boundary.at?_respaced]
      split_ifs at split ⊢ with inside query
      · simp at split
      · exact ⟨[], rfl, by rw [← (Prod.mk.inj split).2]⟩
      · split at split
        next b opens =>
          obtain ⟨-, rfl⟩ := Prod.mk.inj split
          obtain ⟨pos, -⟩ := Boundary.at?_width opens
          obtain ⟨n, width⟩ := Nat.exists_eq_add_of_le' pos
          have same := part?_marked b gap ((t :: ts).take b.width)
            (splitFrom (some b.slot) depth (ts.drop (b.width - 1))).1 (by simp [width])
          rw [width, List.take_succ_cons, marked] at same
          refine ⟨_, rfl, ?_⟩
          rw [List.filterMap_cons, List.filterMap_cons, width, List.take_succ_cons,
            List.take_succ_cons, same]
        next => simp at split

end SqlGrader.Section

namespace SqlGrader

open Token Section

variable {ts pre body post body' post' lead : List Token} {done later : List Section} {s : Section}
  {kind : ClauseKind} {o : Span}

/-! ### The section of a clause -/

/-- The section that the text of a clause is read from, with the tokens before its body and those
after it. -/
structure ClauseCut (ts : List Token) (kind : ClauseKind) (pre body post : List Token) where
  lead : List Token
  done : List Section
  held : Section
  later : List Section
  split : splitFrom none 0 ts = (lead, done ++ held :: later)
  slot : held.boundary.slot = .clause kind
  kept : held.boundary.kept = false
  before : pre = lead ++ (done.flatMap tokens ++ held.opening)
  inside : body = held.body
  whole : ts = pre ++ (body ++ post)
  first : ∀ d ∈ done, d.boundary.slot = .clause kind → render d.content = []

theorem exists_of_spansFrom_eq {place : Nat} {ss : List Section} {front back : List Span}
    (same : spansFrom place ss = front ++ o :: back) :
    ∃ done s later, ss = done ++ s :: later ∧ front = spansFrom place done ∧
      o = s.span (place + (done.flatMap tokens).length) := by
  induction front generalizing place ss with
  | nil =>
      cases ss with
      | nil => cases same
      | cons s ss => exact ⟨[], s, ss, rfl, rfl, (List.cons.inj same).1.symm⟩
  | cons f front ih =>
      cases ss with
      | nil => cases same
      | cons s ss =>
          obtain ⟨rfl, rest⟩ := List.cons.inj same
          obtain ⟨done, s', later, rfl, rfl, rfl⟩ := ih rest
          refine ⟨s :: done, s', later, rfl, rfl, ?_⟩
          rw [List.flatMap_cons, List.length_append, Nat.add_assoc]

/-- The text of a section lies between the words of its boundary and what follows it. -/
theorem slices_of_span (kept : s.boundary.kept = false)
    (width : s.opening.length = s.boundary.width)
    (upto : lead ++ (done.flatMap tokens ++ s.opening) ++ s.body <+: ts)
    (place : o = s.span (lead.length + (done.flatMap tokens).length)) :
    ts.take o.textStart = lead ++ (done.flatMap tokens ++ s.opening) ∧
      (ts.take o.stop).drop o.textStart = s.body ∧
      ts = lead ++ (done.flatMap tokens ++ s.opening) ++ (s.body ++ ts.drop o.stop) := by
  have begins : o.textStart = (lead ++ (done.flatMap tokens ++ s.opening)).length := by
    simp [place, Span.textStart, span, kept, width, Nat.add_assoc]
  have stops : o.stop = (lead ++ (done.flatMap tokens ++ s.opening) ++ s.body).length := by
    simp [place, span, tokens, Nat.add_assoc]
  obtain ⟨rest, rfl⟩ := upto
  rw [begins, stops, List.take_left, List.drop_left, List.drop_left, List.append_assoc]
  exact ⟨List.take_left .., rfl, rfl⟩

/-- Sections that a clause is not read from have no text. -/
theorem render_eq_nil_of_spans {ss : List Section} (upto : lead ++ ss.flatMap tokens <+: ts)
    (widths : ∀ d ∈ ss, d.opening.length = d.boundary.width)
    (others : ∀ a ∈ spansFrom lead.length ss,
      (!(a.boundary.slot == .clause kind && !(a.text ts).isEmpty)) = true) :
    ∀ d ∈ ss, d.boundary.slot = .clause kind → render d.content = [] := by
  intro d mem clause
  have texts := map_spansFrom (fun b t => b.slot == .clause kind && !t.isEmpty) upto widths
  have value := List.mem_map_of_mem (f := fun d : Section =>
    d.boundary.slot == .clause kind && !(render d.content).isEmpty) mem
  rw [← texts] at value
  obtain ⟨a, earlier, value⟩ := List.mem_map.mp value
  have empty := others a earlier
  rw [value] at empty
  simpa [clause] using empty

/-- The clause is read from the first section of its kind with a text. -/
theorem exists_clauseCut (found : clauseSpan? ts kind = some o) (noJoins : kind ≠ .joins)
    (noLimit : kind ≠ .limit) :
    Nonempty (ClauseCut ts kind (ts.take o.textStart) ((ts.take o.stop).drop o.textStart)
      (ts.drop o.stop)) := by
  obtain ⟨here, front, back, same, others⟩ := List.find?_eq_some_iff_append.mp found
  obtain ⟨done, s, later, sections, rfl, place⟩ := exists_of_spansFrom_eq same
  have widths : ∀ d ∈ done ++ s :: later, d.opening.length = d.boundary.width := by
    intro d mem
    rw [← sections] at mem
    exact width_of_mem_splitFrom mem
  have covers := splitFrom_covers none 0 ts
  rw [← ofTokens, sections, List.flatMap_append, List.flatMap_cons] at covers
  generalize start : (splitFrom none 0 ts).1 = lead at *
  have mem : s ∈ ofTokens ts := by simp [sections]
  obtain ⟨outer, words⟩ := splitFrom_opened none 0 ts s mem
  have slot : s.boundary.slot = .clause kind := by
    simp only [place, Bool.and_eq_true, beq_iff_eq] at here
    exact here.1
  have kept := words.kept_eq_false slot noJoins noLimit
  have upto : lead ++ (done.flatMap tokens ++ s.opening) ++ s.body <+: ts := by
    refine List.IsPrefix.trans ⟨later.flatMap tokens, ?_⟩ covers
    simp [tokens]
  obtain ⟨before, inside, whole⟩ := slices_of_span kept (widths s (by simp)) upto place
  rw [before, inside]
  have front : lead ++ done.flatMap tokens <+: ts := by
    refine List.IsPrefix.trans ⟨s.opening ++ s.body, ?_⟩ upto
    simp
  have first := render_eq_nil_of_spans front
    (fun d mem => widths d (List.mem_append_left _ mem)) others
  exact ⟨lead, done, s, later, Prod.ext start sections, slot, kept, rfl, rfl, whole, first⟩

/-! ### The ordering -/

/-- The ordering is the first part of its kind with a text, and no other clause is read from it. -/
theorem ClauseSet.ofParts_ordering {front back : List (ClauseKind × Text)} {x : Text}
    (reading : Reading) (absent : ∀ p ∈ front, p.1 = .ordering → p.2 = []) (y : Text)
    (left : x ≠ []) (right : y ≠ []) :
    (ofParts reading (front ++ (.ordering, x) :: back)).ordering = x ∧
      ofParts reading (front ++ (.ordering, y) :: back) =
        { ofParts reading (front ++ (.ordering, x) :: back) with ordering := y } := by
  have none : (front.find? fun p => p.1 == .ordering && !p.2.isEmpty) = none := by
    simpa using absent
  constructor
  · simp [ofParts, firstOf, List.find?_append, none, left]
  · simp [ofParts, firstOf, List.find?_append, none, right]

/-- A section that the ordering is read from is a part of its text. -/
theorem parts_ordering (slot : s.boundary.slot = .clause .ordering)
    (kept : s.boundary.kept = false) (done later : List Section) :
    (done ++ s :: later).filterMap part? =
      done.filterMap part? ++ (.ordering, render s.body) :: later.filterMap part? := by
  have part : s.part? = some (.ordering, render s.body) := by
    simp [part?, slot, content, kept]
  rw [List.filterMap_append, List.filterMap_cons_some part]

/-- Another body of the ordering changes the ordering only, if it stays in its section. -/
theorem ClauseCut.ordering (cut : ClauseCut ts .ordering pre body post)
    (stays : ∀ later, splitFrom (some (.clause .ordering)) 0 (body ++ post) = (body, later) →
      ∃ later', splitFrom (some (.clause .ordering)) 0 (body' ++ post') = (body', later') ∧
        later'.filterMap part? = later.filterMap part?)
    (left : render body ≠ []) (right : render body' ≠ []) :
    (ClauseSet.ofTokens ts).ordering = render body ∧
      ClauseSet.ofTokens (pre ++ (body' ++ post')) =
        { ClauseSet.ofTokens ts with ordering := render body' } := by
  obtain ⟨lead, done, s, later, split, slot, kept, rfl, rfl, whole, first⟩ := cut
  obtain ⟨rest, same, held, replace⟩ := splitFrom_replace split
  obtain rfl : post = rest := by simpa [whole] using same
  rw [slot] at held
  obtain ⟨later', held', others⟩ := stays later held
  have split' :
      splitFrom none 0 (lead ++ (done.flatMap tokens ++ (s.opening ++ (body' ++ post')))) =
        (lead, done ++ ⟨s.boundary, s.opening, body'⟩ :: later') := by
    rw [replace, slot, held']
  have absent : ∀ p ∈ done.filterMap part?, p.1 = .ordering → p.2 = [] := by
    intro p mem
    obtain ⟨d, earlier, part⟩ := List.mem_filterMap.mp mem
    unfold part? at part
    split at part
    next clause =>
      obtain rfl := Option.some.inj part
      rintro rfl
      exact first d earlier clause
    next => cases part
  have before : lead ++ (done.flatMap tokens ++ s.opening) ++ (body' ++ post') =
      lead ++ (done.flatMap tokens ++ (s.opening ++ (body' ++ post'))) := by
    simp only [List.append_assoc]
  rw [ClauseSet.ofTokens, ClauseSet.ofTokens, before, Section.ofTokens, Section.ofTokens, split,
    split', parts_ordering slot kept,
    parts_ordering (s := ⟨s.boundary, s.opening, body'⟩) slot kept, others]
  exact ClauseSet.ofParts_ordering .tokens absent (render body') left right

end SqlGrader
