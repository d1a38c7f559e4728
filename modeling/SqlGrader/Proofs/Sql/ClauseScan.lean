import SqlGrader.Proofs.Sql.Sections
import SqlGrader.Sql.ClauseScan
/-!
# Places of the scan

Read from place to place, a token list has the clauses of its sections: what the scan finds at a
place is the boundary of the tokens from there on, and every slice that it takes lies in the list.
-/

namespace SqlGrader.ClauseSet

variable {cs : ClauseSet}

theorem orElse_nil (old : Text) : orElse old [] = old := by
  cases old <;> rfl

theorem firstOf_append_singleton (k : ClauseKind) (parts : List (ClauseKind × Text))
    (kind : ClauseKind) (text : Text) :
    firstOf k (parts ++ [(kind, text)]) =
      orElse (firstOf k parts) (if kind = k then text else []) := by
  have counts : ∀ p, parts.find? (fun p => p.1 == k && !p.2.isEmpty) = some p →
      p.2.isEmpty = false := by
    intro p found
    have counted := List.find?_some found
    simpa using (Bool.and_eq_true_iff.mp counted).2
  unfold firstOf
  rw [List.find?_append]
  cases found : parts.find? fun p => p.1 == k && !p.2.isEmpty with
  | some p => simp [orElse, counts p found]
  | none =>
      by_cases same : kind = k
      · cases text <;> simp [orElse, same]
      · simp [orElse, same]

/-- The clauses of parts that are added one after the other. -/
def recordAll (cs : ClauseSet) (parts : List (ClauseKind × Text)) : ClauseSet :=
  parts.foldl (fun cs p => cs.record p.1 p.2) cs

/-- To add a part is to have one more at the end. -/
theorem record_ofParts (parts : List (ClauseKind × Text)) (kind : ClauseKind) (text : Text) :
    (ofParts .tokens parts).record kind text = ofParts .tokens (parts ++ [(kind, text)]) := by
  by_cases empty : text.isEmpty
  · obtain rfl := List.isEmpty_iff.mp empty
    simp [record, ofParts, firstOf_append_singleton, orElse_nil]
  · cases kind <;>
      simp [record, ofParts, empty, firstOf_append_singleton, orElse_nil]

theorem recordAll_recordAll (cs : ClauseSet) (parts later : List (ClauseKind × Text)) :
    (cs.recordAll parts).recordAll later = cs.recordAll (parts ++ later) :=
  List.foldl_append.symm

theorem recordAll_empty (parts : List (ClauseKind × Text)) :
    recordAll .empty parts = ofParts .tokens parts := by
  induction parts using List.reverseRecOn with
  | nil => rfl
  | append_singleton parts p ih =>
      rw [← record_ofParts, ← ih, recordAll, List.foldl_append]
      rfl

end SqlGrader.ClauseSet

namespace SqlGrader.ClauseScan

open Token

variable {ts us : List Token} {t : Token} {place start stop : Nat} {s : State}

theorem drop_eq_cons (rest : ts.drop place = t :: us) :
    ts[place]? = some t ∧ ts.drop (place + 1) = us ∧ place < ts.length := by
  have inside : place < ts.length := by
    by_contra beyond
    rw [List.drop_of_length_le (Nat.le_of_not_lt beyond)] at rest
    cases rest
  rw [List.drop_eq_getElem_cons inside] at rest
  obtain ⟨rfl, next⟩ := List.cons.inj rest
  exact ⟨List.getElem?_eq_getElem inside, next, inside⟩

/-- The place after the words of a boundary. -/
theorem drop_width {current : Option Slot} {b : Boundary} (rest : ts.drop place = t :: us)
    (opens : Boundary.at? current t us = some b) :
    ts.drop (place + b.width) = us.drop (b.width - 1) ∧ place + b.width ≤ ts.length := by
  have length := congrArg List.length rest
  have fits := (Boundary.at?_take opens).2
  rw [List.length_drop, List.length_cons] at length
  exact ⟨by rw [← List.drop_drop, rest, Boundary.at?_drop opens], by omega⟩

theorem slice?_eq (ordered : start ≤ stop) (fits : stop ≤ ts.length) :
    slice? ts start stop = some ((ts.drop start).take (stop - start)) :=
  if_pos ⟨ordered, fits⟩

/-! ### What opens at a place -/

theorem joinWidth?_eq (inside : place ≤ ts.length) :
    joinWidth? ts place = some (Boundary.joinWidth? (ts.drop place)) := by
  have whole : slice? ts place ts.length = some (ts.drop place) := by
    rw [slice?_eq inside (Nat.le_refl _), List.take_of_length_le (by simp)]
  rw [joinWidth?, whole, Option.bind_some, Boundary.joinWidth?]
  split
  next n first =>
    obtain ⟨within, same⟩ := List.findIdx?_eq_some_iff_findIdx_eq.mp first
    have length : ((ts.drop place).takeWhile Boundary.isJoinModifier).length = n := by
      rw [List.takeWhile_eq_take_findIdx_not, same, List.length_take_of_le (Nat.le_of_lt within)]
    have here : ts[place + n]? = some (ts.drop place)[n] := by
      rw [← List.getElem?_drop, List.getElem?_eq_getElem within]
    simp only [length, here, List.drop_eq_getElem_cons within, Option.map_some]
  next missing =>
    have all : (ts.drop place).takeWhile Boundary.isJoinModifier = ts.drop place :=
      List.takeWhile_eq_self_iff.mpr (by simpa using List.findIdx?_eq_none_iff.mp missing)
    rw [all, List.drop_length]

/-- What the scan finds where a boundary is. -/
def Found.ofBoundary (b : Boundary) : Found :=
  ⟨if b.kept && b.slot == .clause .limit then 0 else b.width, b.slot, b.kept⟩

/-- The section that a boundary at a place opens. -/
def Opened.ofBoundary (b : Boundary) (place : Nat) : Opened :=
  ⟨b.slot, if b.kept then place else place + b.width⟩

/-- What is passed is the width of the boundary, but for the words of a limit that are kept. -/
theorem passed_ofBoundary {current : Option Slot} {b : Boundary} {opening : List Token}
    (opens : Boundary.Opening current b opening) :
    max (Found.ofBoundary b).passed 1 = b.width ∧
      (b.kept = false → (Found.ofBoundary b).passed = b.width) := by
  cases opens <;> simp [Found.ofBoundary]

theorem found?_eq (rest : ts.drop place = t :: us) (current : Option Slot) :
    found? ts place current = some ((Boundary.at? current t us).map .ofBoundary) := by
  obtain ⟨here, next, inside⟩ := drop_eq_cons rest
  have width := joinWidth?_eq (Nat.le_of_lt inside)
  rw [rest] at width
  have byFollows : ts[place + 1]?.any (·.isWord "BY") = us.head?.any (·.isWord "BY") := by
    rw [← next, List.head?_drop]
  by_cases word : t.kind = .word
  · simp only [found?, here, Option.bind_some, byFollows, width, Boundary.at?, word,
      bne_self_eq_false, Bool.false_eq_true, if_false, apply_ite (Option.map Found.ofBoundary),
      apply_ite some, Option.map_some, Option.map_map, Option.map_none]
    rfl
  · rw [Section.at?_of_kind_ne word]
    simp [found?, here, word]

/-! ### The steps of the scan -/

theorem run?_end (beyond : ts.length ≤ s.place) :
    run? ts s = close? ts s.clauses s.current (min s.place ts.length) := by
  rw [run?]
  split
  next => rfl
  next here => simp [List.getElem?_eq_none beyond] at here

/-- A parenthesis and what stands inside of parentheses are passed. -/
theorem run?_inside (here : ts[s.place]? = some t) (inside : t.isParen || s.depth != 0) :
    run? ts s = run? ts { s with place := s.place + 1, depth := t.depthAfter s.depth } := by
  rw [run?]
  split
  next missing => cases missing.symm.trans here
  next u found =>
    obtain rfl := Option.some.inj (found.symm.trans here)
    cases kind : u.kind with
    | openParen | closeParen => simp [depthAfter, kind]
    | _ => simp_all [isParen, depthAfter]

section Outside

variable (here : ts[s.place]? = some t) (noParen : t.isParen = false) (flat : s.depth = 0)
include here noParen flat

theorem run?_query (ends : s.current.isSome && Section.endsQuery t) :
    run? ts s = close? ts s.clauses s.current (min s.place ts.length) := by
  rw [run?]
  split
  next => rfl
  next u found =>
    obtain rfl := Option.some.inj (found.symm.trans here)
    cases kind : u.kind <;> simp_all [isParen]

variable (goesOn : ¬ (s.current.isSome && Section.endsQuery t) = true)
include goesOn

theorem run?_pass (nothing : found? ts s.place (s.current.map (·.slot)) = some none) :
    run? ts s = run? ts { s with place := s.place + 1 } := by
  rw [run?]
  split
  next missing => cases missing.symm.trans here
  next u found =>
    obtain rfl := Option.some.inj (found.symm.trans here)
    cases kind : u.kind with
    | openParen | closeParen => simp [isParen, kind] at noParen
    | _ => simp only [flat, if_true, if_neg goesOn, nothing]

theorem run?_open {f : Found} (opens : found? ts s.place (s.current.map (·.slot)) = some (some f)) :
    run? ts s = (close? ts s.clauses s.current s.place).bind fun clauses =>
      run? ts
        { place := s.place + max f.passed 1
          depth := 0
          current := some ⟨f.slot, if f.kept then s.place else s.place + f.passed⟩
          clauses := clauses } := by
  rw [run?]
  split
  next missing => cases missing.symm.trans here
  next u found =>
    obtain rfl := Option.some.inj (found.symm.trans here)
    cases kind : u.kind with
    | openParen | closeParen => simp [isParen, kind] at noParen
    | _ => simp only [flat, if_true, if_neg goesOn, opens]

end Outside

/-- At a boundary the open section is closed and the next one opened. -/
theorem run?_boundary {depth : Nat} {current : Option Opened} {b : Boundary}
    (rest : ts.drop place = t :: us) (outside : ¬ (t.isParen || depth != 0) = true)
    (goesOn : ¬ (current.isSome && Section.endsQuery t) = true)
    (opens : Boundary.at? (current.map (·.slot)) t us = some b) (clauses : ClauseSet) :
    run? ts ⟨place, depth, current, clauses⟩ =
      (close? ts clauses current place).bind fun cs =>
        run? ts ⟨place + b.width, depth, some (.ofBoundary b place), cs⟩ := by
  obtain ⟨here, -, -⟩ := drop_eq_cons rest
  have flat : t.isParen = false ∧ depth = 0 := by simpa using outside
  have found := found?_eq rest (current.map (·.slot))
  rw [opens, Option.map_some] at found
  obtain ⟨passed, dropped⟩ := passed_ofBoundary (Boundary.at?_take opens).1
  have opened : (⟨b.slot, if b.kept then place else place + (Found.ofBoundary b).passed⟩ : Opened) =
      .ofBoundary b place := by
    cases kept : b.kept with
    | true => simp [Opened.ofBoundary, kept]
    | false => simp [Opened.ofBoundary, kept, dropped kept]
  rw [run?_open here flat.1 flat.2 goesOn found, passed, flat.2, ← opened]
  rfl

/-! ### The whole scan -/

/-- To close a section is to add its text. -/
theorem close?_section (sec : Section) {more : List Token}
    (rest : ts.drop place = sec.opening ++ (sec.body ++ more)) (fits : place ≤ ts.length)
    (width : sec.boundary.width = sec.opening.length) (clauses : ClauseSet) :
    close? ts clauses
        (some (.ofBoundary sec.boundary place))
        (place + sec.boundary.width + sec.body.length) =
      some (clauses.recordAll sec.part?.toList) := by
  have length : (ts.drop place).length = ts.length - place := List.length_drop
  rw [rest, List.length_append, List.length_append, ← width] at length
  have text : slice? ts (if sec.boundary.kept then place else place + sec.boundary.width)
      (place + sec.boundary.width + sec.body.length) = some sec.content := by
    rw [slice?_eq (by split <;> omega) (by omega), Section.content]
    split
    next =>
      have whole : place + sec.boundary.width + sec.body.length - place =
          (sec.opening ++ sec.body).length := by
        rw [List.length_append, ← width]
        omega
      rw [rest, ← List.append_assoc, whole, List.take_left]
    next =>
      have after : ts.drop (place + sec.boundary.width) = sec.body ++ more := by
        rw [← List.drop_drop, rest, width, List.drop_left]
      rw [after, Nat.add_sub_cancel_left, List.take_left]
  obtain ⟨⟨slot, n, kept⟩, opening, body⟩ := sec
  cases slot with
  | unscored => rfl
  | clause kind => exact (congrArg (Option.map _) text).trans rfl

/-- From any state on the scan closes the open section where the sections of the tokens say, and
adds the texts of those that follow. The induction is on the sections. -/
theorem run?_eq (slot : Option Slot) (depth : Nat) (us : List Token) (place : Nat)
    (rest : ts.drop place = us) (fits : place ≤ ts.length) (current : Option Opened)
    (slots : current.map (·.slot) = slot) (clauses : ClauseSet) :
    run? ts ⟨place, depth, current, clauses⟩ =
      (close? ts clauses current (place + (Section.splitFrom slot depth us).1.length)).map fun cs =>
        cs.recordAll ((Section.splitFrom slot depth us).2.filterMap Section.part?) := by
  fun_induction Section.splitFrom slot depth us generalizing place current clauses with
  | case1 slot depth =>
      have beyond : ts.length ≤ place := List.drop_eq_nil_iff.mp rest
      obtain rfl := Nat.le_antisymm fits beyond
      rw [run?_end (Nat.le_refl _), Nat.min_self]
      exact Option.map_id'.symm
  | case2 slot depth t us inside body later result ih =>
      obtain ⟨here, next, within⟩ := drop_eq_cons rest
      rw [run?_inside here inside, ih _ next within current slots, result, List.length_cons,
        Nat.add_right_comm, Nat.add_assoc place]
  | case3 slot depth t us outside query =>
      obtain ⟨here, next, within⟩ := drop_eq_cons rest
      have flat : t.isParen = false ∧ depth = 0 := by simpa using outside
      subst slots
      rw [run?_query here flat.1 flat.2 (by simpa using query), Nat.min_eq_left fits]
      exact Option.map_id'.symm
  | case4 slot depth t us outside goesOn b opens body later result ih =>
      subst slots
      have words := (Boundary.at?_take opens).1
      obtain ⟨after, inside⟩ := drop_width rest opens
      obtain ⟨more, whole⟩ := (Section.splitFrom_within (some b.slot) depth
        (us.drop (b.width - 1))).1
      rw [result] at whole
      have taken : ts.drop place = (t :: us).take b.width ++ (body ++ more) := by
        rw [whole, rest, Boundary.at?_take_append_drop opens]
      have next (cs : ClauseSet) :
          run? ts ⟨place + b.width, depth, some (.ofBoundary b place), cs⟩ =
            some (cs.recordAll
              ((⟨b, (t :: us).take b.width, body⟩ :: later).filterMap Section.part?)) := by
        have closed := close?_section ⟨b, (t :: us).take b.width, body⟩ taken fits
          words.length_eq.symm cs
        have later' := ih _ after inside (some (.ofBoundary b place)) rfl cs
        rw [result] at later'
        rw [later', closed, Option.map_some, ClauseSet.recordAll_recordAll]
        cases kept : Section.part? ⟨b, (t :: us).take b.width, body⟩ <;>
          simp [kept]
      rw [run?_boundary rest outside (by simpa using goesOn) opens]
      simp only [next, List.length_nil, Nat.add_zero]
      exact Option.map_eq_bind.symm
  | case5 slot depth t us outside goesOn opens body later result ih =>
      obtain ⟨here, next, within⟩ := drop_eq_cons rest
      have flat : t.isParen = false ∧ depth = 0 := by simpa using outside
      subst slots
      have found := found?_eq rest (current.map (·.slot))
      rw [opens, Option.map_none] at found
      rw [run?_pass here flat.1 flat.2 (by simpa using goesOn) found,
        ih _ next within current rfl, result, List.length_cons, Nat.add_right_comm,
        Nat.add_assoc place]

/-- The scan never leaves the tokens, and it reads the clauses of their sections. -/
theorem clauses?_eq (ts : List Token) : clauses? ts = some (ClauseSet.ofTokens ts) := by
  have closed (stop : Nat) : close? ts .empty none stop = some .empty := rfl
  rw [clauses?, run?_eq none 0 ts 0 rfl (Nat.zero_le _) none rfl .empty, closed, Option.map_some,
    ClauseSet.recordAll_empty]
  rfl

end SqlGrader.ClauseScan
