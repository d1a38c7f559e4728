import SqlGrader.Proofs.Sql.Tiling
import Mathlib.Data.List.Find
/-!
# Groups in parentheses

What stands in a group decides on no boundary. Two token lists that differ by what one group holds
have the same sections, those after the group moved with it, and the same texts but for the
section that the group stands in. The sections around a group are computed once, before anything
stands in it.
-/

namespace SqlGrader

open Token Section

/-! ### Sections around a group -/

/-- The sections of tokens with a group between `pre` and `post`, whatever the group holds: those
that end before it, the one that it stands in, and those that open after it. -/
structure Frame (pre post : List Token) where
  lead : List Token
  front : List Section
  held : Option Section
  back : List Token
  later : List Section
  before : lead ++ front.flatMap tokens <+: pre
  up : ∀ s ∈ held, lead ++ front.flatMap tokens ++ s.tokens = pre
  after : back ++ later.flatMap tokens <+: post
  widths : ∀ s ∈ front ++ held.toList ++ later, s.opening.length = s.boundary.width

namespace Span

/-- The place of the same token where `new` tokens stand after `place` in place of `old` ones. -/
def movedPlace (place old new i : Nat) : Nat := if i ≤ place then i else i - old + new

/-- The section where `new` tokens stand after `place` in place of `old` ones. -/
def moved (place old new : Nat) (s : Span) : Span :=
  { s with start := movedPlace place old new s.start, stop := movedPlace place old new s.stop }

/-- Whether the token at a place is one of the text of the section. -/
def Holds (s : Span) (place : Nat) : Prop := s.textStart ≤ place ∧ place < s.stop

instance (s : Span) (place : Nat) : Decidable (s.Holds place) := inferInstanceAs (Decidable (_ ∧ _))

end Span

namespace Frame

variable {pre post group : List Token}

/-- The section that the group stands in. -/
def around (f : Frame pre post) (group : List Token) (s : Section) : Section :=
  { s with body := s.body ++ (group ++ f.back) }

/-- The sections with the group. -/
def sections (f : Frame pre post) (group : List Token) : List Section :=
  f.front ++ (f.held.toList.map (f.around group) ++ f.later)

/-- The places of the sections, given how many tokens the group has. -/
def places (f : Frame pre post) (n : Nat) : List Span :=
  spansFrom f.lead.length f.front ++
    (f.held.toList.map (fun s =>
        ⟨s.boundary, pre.length - s.tokens.length, pre.length + n + f.back.length⟩) ++
      spansFrom (pre.length + n + f.back.length) f.later)

end Frame

/-- Tokens with a group in parentheses between them. -/
def withGroup (pre post : List Token) (opening closing : Bool) (ts : List Token) : List Token :=
  pre ++ (parenthesized opening closing ts ++ post)

variable {pre post u v : List Token}

theorem length_parenthesized (opening closing : Bool) (ts : List Token) :
    (parenthesized opening closing ts).length = ts.length + 2 := by
  simp [parenthesized]

theorem spansFrom_append (place : Nat) (ss later : List Section) :
    spansFrom place (ss ++ later) =
      spansFrom place ss ++ spansFrom (place + (ss.flatMap tokens).length) later := by
  induction ss generalizing place with
  | nil => rfl
  | cons s ss ih =>
      rw [List.cons_append, spansFrom, spansFrom, ih, List.flatMap_cons, List.length_append,
        Nat.add_assoc, List.cons_append]

/-- The scan passes over a group and goes on in the section that it stands in. -/
theorem splitFrom_group (balanced : Balanced u) (opening closing : Bool) (current : Option Slot)
    (depth : Nat) (post : List Token) :
    splitFrom current depth (parenthesized opening closing u ++ post) =
      (parenthesized opening closing u ++ (splitFrom current depth post).1,
        (splitFrom current depth post).2) := by
  have stays := stays_parenthesized balanced opening closing current depth post
  have flat : depthAt depth (parenthesized opening closing u) = depth := by
    rw [parenthesized, depthAt, List.foldl_cons, ← depthAt, depthAt_append, balanced.depthAt_eq]
    rfl
  rw [splitFrom_stays stays, flat]

theorem width_of_mem_splitFrom {current : Option Slot} {depth : Nat} {ts : List Token} {s : Section}
    (mem : s ∈ (splitFrom current depth ts).2) : s.opening.length = s.boundary.width := by
  obtain ⟨outer, words⟩ := splitFrom_opened current depth ts s mem
  exact words.length_eq

theorem startsApart_group (opening closing : Bool) (ts post : List Token) :
    StartsApart (parenthesized opening closing ts ++ post) := by
  intro t first
  obtain rfl := Option.some.inj first
  simp

namespace Frame

/-- Where the query ends before the group. -/
def behind (pre post : List Token) : Frame pre post where
  lead := (splitFrom none 0 pre).1
  front := (splitFrom none 0 pre).2
  held := none
  back := []
  later := []
  before := splitFrom_covers none 0 pre
  up := by simp
  after := List.nil_prefix
  widths := by simpa using fun s mem => width_of_mem_splitFrom mem

/-- Where no section is open before the group. -/
def ahead (pre post : List Token) : Frame pre post where
  lead := pre
  front := []
  held := none
  back := (splitFrom none (depthAt 0 pre) post).1
  later := (splitFrom none (depthAt 0 pre) post).2
  before := by simp
  up := by simp
  after := splitFrom_covers none (depthAt 0 pre) post
  widths := by simpa using fun s mem => width_of_mem_splitFrom mem

/-- Where the section `s` is open before the group. -/
def inside (post : List Token) {lead : List Token} {done : List Section} {s : Section}
    (alone : splitFrom none 0 pre = (lead, done ++ [s]))
    (whole : lead ++ done.flatMap tokens ++ s.tokens = pre) : Frame pre post where
  lead := lead
  front := done
  held := some s
  back := (splitFrom (some s.boundary.slot) (depthAt 0 pre) post).1
  later := (splitFrom (some s.boundary.slot) (depthAt 0 pre) post).2
  before := ⟨s.tokens, whole⟩
  up := by simpa using whole
  after := splitFrom_covers (some s.boundary.slot) (depthAt 0 pre) post
  widths := by
    intro s' mem
    rcases List.mem_append.mp mem with earlier | later
    · have found : s' ∈ (splitFrom none 0 pre).2 := by
        rw [alone]
        simpa using earlier
      exact width_of_mem_splitFrom found
    · exact width_of_mem_splitFrom later

/-- Whether the frame tells the sections whatever the group holds. -/
def Surrounds (f : Frame pre post) (opening closing : Bool) : Prop :=
  ∀ ts, Balanced ts →
    ofTokens (withGroup pre post opening closing ts) =
        f.sections (parenthesized opening closing ts) ∧
      spans (withGroup pre post opening closing ts) = f.places (ts.length + 2)

/-- The last section before the group goes on with it. -/
theorem inside_surrounds {opening closing : Bool} {lead : List Token} {done : List Section}
    {s : Section} (alone : splitFrom none 0 pre = (lead, done ++ [s]))
    (whole : lead ++ done.flatMap tokens ++ s.tokens = pre)
    (same : ∀ rest, StartsApart rest →
      splitFrom none 0 (pre ++ rest) =
        (lead, done ++
          ⟨s.boundary, s.opening,
            s.body ++ (splitFrom (some s.boundary.slot) (depthAt 0 pre) rest).1⟩ ::
          (splitFrom (some s.boundary.slot) (depthAt 0 pre) rest).2)) :
    (inside post alone whole).Surrounds opening closing := by
  intro ts balanced
  rw [ofTokens, spans, ofTokens, withGroup, same _ (startsApart_group opening closing ts post),
    splitFrom_group balanced]
  refine ⟨by simp [sections, around, inside], ?_⟩
  have reach := congrArg List.length whole
  simp only [tokens, List.length_append] at reach
  have place : lead.length + (done.flatMap tokens).length = pre.length - s.tokens.length := by
    simp only [tokens, List.length_append]
    omega
  have stop : pre.length - s.tokens.length +
      (tokens ⟨s.boundary, s.opening, s.body ++ (parenthesized opening closing ts ++
        (splitFrom (some s.boundary.slot) (depthAt 0 pre) post).1)⟩).length =
      pre.length + (ts.length + 2) +
        (splitFrom (some s.boundary.slot) (depthAt 0 pre) post).1.length := by
    simp only [tokens, List.length_append, length_parenthesized]
    omega
  rw [spansFrom_append, spansFrom, place, span, stop]
  rfl

end Frame

/-- The sections around a group do not depend on what it holds. -/
theorem exists_frame (pre post : List Token) (opening closing : Bool) :
    ∃ f : Frame pre post, f.Surrounds opening closing := by
  have apart (ts : List Token) := startsApart_group opening closing ts post
  cases continues none 0 pre with
  | ended same =>
      refine ⟨.behind pre post, fun ts balanced => ?_⟩
      rw [ofTokens, spans, ofTokens, withGroup, same _ (apart ts)]
      simp [Frame.behind, Frame.sections, Frame.places, spansFrom]
  | body same =>
      refine ⟨.ahead pre post, fun ts balanced => ?_⟩
      rw [ofTokens, spans, ofTokens, withGroup, same _ (apart ts), splitFrom_group balanced]
      simp [Frame.ahead, Frame.sections, Frame.places, spansFrom, length_parenthesized,
        Nat.add_assoc]
  | last lead done s whole same =>
      have alone := same [] startsApart_nil
      rw [List.append_nil, splitFrom, List.append_nil] at alone
      rw [List.flatMap_append, List.flatMap_singleton, ← List.append_assoc] at whole
      exact ⟨.inside post alone whole.symm, Frame.inside_surrounds alone whole.symm same⟩

/-! ### Places around a group -/

section Places

variable {n place old new : Nat} {ss : List Section} {s : Span}

theorem bounds_of_mem_spansFrom (mem : s ∈ spansFrom n ss) :
    n ≤ s.start ∧ s.start ≤ s.stop ∧ s.stop ≤ n + (ss.flatMap tokens).length := by
  induction ss generalizing n with
  | nil => cases mem
  | cons s' ss ih =>
      rw [List.flatMap_cons, List.length_append]
      rcases List.mem_cons.mp mem with rfl | mem
      · exact ⟨Nat.le_refl _, Nat.le_add_right _ _, Nat.add_le_add_left (Nat.le_add_right _ _) n⟩
      · obtain ⟨low, ordered, high⟩ := ih mem
        exact ⟨by omega, ordered, by omega⟩

theorem Span.moved_of_le (ordered : s.start ≤ s.stop) (fits : s.stop ≤ place) :
    s.moved place old new = s := by
  simp [Span.moved, Span.movedPlace, fits, ordered.trans fits]

/-- Sections that end before the place stay where they are. -/
theorem map_moved_before (fits : n + (ss.flatMap tokens).length ≤ place) :
    (spansFrom n ss).map (Span.moved place old new) = spansFrom n ss := by
  refine (List.map_congr_left fun s mem => ?_).trans (List.map_id _)
  obtain ⟨-, ordered, high⟩ := bounds_of_mem_spansFrom mem
  exact s.moved_of_le ordered (high.trans fits)

/-- Sections that start after the tokens that are replaced move with them. -/
theorem map_moved_after (later : place + old < n) :
    (spansFrom n ss).map (Span.moved place old new) = spansFrom (n - old + new) ss := by
  induction ss generalizing n with
  | nil => rfl
  | cons s ss ih =>
      have start : Span.movedPlace place old new n = n - old + new := if_neg (by omega)
      have stop : Span.movedPlace place old new (n + s.tokens.length) =
          n - old + new + s.tokens.length := by
        rw [Span.movedPlace, if_neg (by omega)]
        omega
      have next : n + s.tokens.length - old + new = n - old + new + s.tokens.length := by omega
      rw [spansFrom, List.map_cons, ih (by omega), next, spansFrom, Span.moved, span, start, stop]
      rfl

/-- A section around the tokens that are replaced starts where it did. -/
theorem Span.moved_around (b : Boundary) (place old new k m : Nat) :
    Span.moved place old new ⟨b, place - k, place + (old + 2) + m⟩ =
      ⟨b, place - k, place + (new + 2) + m⟩ := by
  have start : Span.movedPlace place old new (place - k) = place - k := if_pos (Nat.sub_le _ _)
  have stop : Span.movedPlace place old new (place + (old + 2) + m) = place + (new + 2) + m := by
    rw [Span.movedPlace, if_neg (by omega)]
    omega
  rw [Span.moved, start, stop]

end Places

namespace Frame

variable {group : List Token} {opening closing : Bool} {s : Span}

/-- What the group holds moves the sections after it, and no other. -/
theorem places_moved (f : Frame pre post) (old new : Nat) :
    f.places (new + 2) = (f.places (old + 2)).map (Span.moved pre.length old new) := by
  have fits := f.before.length_le
  rw [List.length_append] at fits
  have base : pre.length + (old + 2) + f.back.length - old + new =
      pre.length + (new + 2) + f.back.length := by omega
  rw [places, places, List.map_append, List.map_append, map_moved_before fits,
    map_moved_after (by omega), base, List.map_map]
  congr 2
  exact List.map_congr_left fun s _ => (Span.moved_around s.boundary _ old new _ _).symm

/-- The text of a section that ends before the group. -/
theorem text_front (f : Frame pre post) (group : List Token) :
    (spansFrom f.lead.length f.front).map (Span.text (pre ++ (group ++ post))) =
      f.front.map fun s => render s.content :=
  map_spansFrom (fun _ t => t) (f.before.trans (List.prefix_append _ _)) fun s mem =>
    f.widths s (by simp [mem])

theorem text_later (f : Frame pre post) (group : List Token) :
    (spansFrom (pre.length + group.length + f.back.length) f.later).map
        (Span.text (pre ++ (group ++ post))) =
      f.later.map fun s => render s.content := by
  have whole : pre ++ group ++ f.back ++ f.later.flatMap tokens <+: pre ++ (group ++ post) := by
    simpa [List.append_assoc] using f.after
  have texts := map_spansFrom (fun _ t => t) whole fun s mem => f.widths s (by simp [mem])
  rwa [List.length_append, List.length_append] at texts

theorem text_held (f : Frame pre post) (group : List Token) {s : Section} (held : s ∈ f.held) :
    Span.text (pre ++ (group ++ post))
        ⟨s.boundary, pre.length - s.tokens.length, pre.length + group.length + f.back.length⟩ =
      render (s.content ++ (group ++ f.back)) := by
  have up := f.up s held
  have length := congrArg List.length up
  rw [List.length_append] at length
  have all : f.lead ++ f.front.flatMap tokens ++ (f.around group s).tokens =
      pre ++ (group ++ f.back) :=
    calc
      _ = f.lead ++ f.front.flatMap tokens ++ s.tokens ++ (group ++ f.back) := by
        simp [around, tokens]
      _ = pre ++ (group ++ f.back) := congrArg (· ++ (group ++ f.back)) up
  have whole : f.lead ++ f.front.flatMap tokens ++ (f.around group s).tokens <+:
      pre ++ (group ++ post) := by
    have back : f.back <+: post := (List.prefix_append _ _).trans f.after
    rw [all, List.prefix_append_right_inj, List.prefix_append_right_inj]
    exact back
  have place : (f.around group s).span (f.lead ++ f.front.flatMap tokens).length =
      ⟨s.boundary, pre.length - s.tokens.length, pre.length + group.length + f.back.length⟩ := by
    have stop : (f.lead ++ f.front.flatMap tokens).length + (f.around group s).tokens.length =
        pre.length + group.length + f.back.length := by
      have longer := congrArg List.length all
      simp only [List.length_append] at longer ⊢
      omega
    rw [span, stop, ← length, Nat.add_sub_cancel]
    rfl
  have content : (f.around group s).content = s.content ++ (group ++ f.back) := by
    unfold content
    cases kept : s.boundary.kept <;> simp [around, kept]
  rw [← place, text_span whole (f.widths s (by simp [Option.mem_def.mp held])), content]

/-- The text of a section is the same whatever the group holds, unless it stands in the section:
then the text has what it holds at its place. -/
theorem text_of_mem (f : Frame pre post) (opening closing : Bool) (u v : List Token)
    (mem : s ∈ f.places (u.length + 2)) :
    (¬ s.Holds pre.length ∧
      (s.moved pre.length u.length v.length).text (withGroup pre post opening closing v) =
        s.text (withGroup pre post opening closing u)) ∨
    (s.Holds pre.length ∧ ∃ front back,
      s.text (withGroup pre post opening closing u) =
        render (front ++ (parenthesized opening closing u ++ back)) ∧
      (s.moved pre.length u.length v.length).text (withGroup pre post opening closing v) =
        render (front ++ (parenthesized opening closing v ++ back))) := by
  have groupLength := length_parenthesized opening closing
  -- A section ends before the group, holds it or starts after it.
  rw [places, List.mem_append, List.mem_append] at mem
  rcases mem with front | held | later
  · obtain ⟨-, ordered, high⟩ := bounds_of_mem_spansFrom front
    have fits := f.before.length_le
    rw [List.length_append] at fits
    refine .inl ⟨fun holds => absurd holds.2 (by omega), ?_⟩
    have same := (f.text_front (parenthesized opening closing v)).trans
      (f.text_front (parenthesized opening closing u)).symm
    rw [s.moved_of_le ordered (by omega)]
    exact List.map_inj_left.mp same s front
  · obtain ⟨s', mem, rfl⟩ := List.mem_map.mp held
    have isHeld : s' ∈ f.held := Option.mem_toList.mp mem
    have reach := congrArg List.length (f.up s' isHeld)
    have width := f.widths s' (by simp [Option.mem_def.mp isHeld])
    simp only [tokens, List.length_append] at reach
    refine .inr ⟨⟨?_, ?_⟩, s'.content, f.back, ?_, ?_⟩
    · simp only [Span.textStart, tokens, List.length_append]
      split <;> omega
    · show pre.length < pre.length + (u.length + 2) + f.back.length
      omega
    · rw [← groupLength u]
      exact f.text_held _ isHeld
    · rw [Span.moved_around, ← groupLength v]
      exact f.text_held _ isHeld
  · obtain ⟨low, -, -⟩ := bounds_of_mem_spansFrom later
    refine .inl ⟨fun holds => ?_, ?_⟩
    · have begun := holds.1
      unfold Span.textStart at begun
      split at begun <;> omega
    · have base : pre.length + (u.length + 2) + f.back.length - u.length + v.length =
          pre.length + (v.length + 2) + f.back.length := by omega
      have textsU := f.text_later (parenthesized opening closing u)
      have textsV := f.text_later (parenthesized opening closing v)
      have moves : (spansFrom (pre.length + (u.length + 2) + f.back.length) f.later).map
          (Span.moved pre.length u.length v.length) = _ := map_moved_after (by omega)
      rw [groupLength] at textsU textsV
      rw [← base, ← moves, List.map_map] at textsV
      exact List.map_inj_left.mp (textsV.trans textsU.symm) s later

end Frame

/-! ### Clauses around a group -/

/-- Texts that differ by what a group in them holds only. -/
def DifferInGroup (opening closing : Bool) (u v : List Token) (x y : Text) : Prop :=
  ∃ front back, x = render (front ++ (parenthesized opening closing u ++ back)) ∧
    y = render (front ++ (parenthesized opening closing v ++ back))

theorem DifferInGroup.ne_nil {opening closing : Bool} {x y : Text}
    (differ : DifferInGroup opening closing u v x y) : x ≠ [] ∧ y ≠ [] := by
  have some_ (front back w : List Token) :
      render (front ++ (parenthesized opening closing w ++ back)) ≠ [] := by
    have mem : (⟨.openParen, ['('], opening⟩ : Token) ∈
        front ++ (parenthesized opening closing w ++ back) := by
      simp [parenthesized]
    exact render_ne_nil_of_mem mem (List.cons_ne_nil _ _)
  obtain ⟨front, back, rfl, rfl⟩ := differ
  exact ⟨some_ front back u, some_ front back v⟩

/-- The section that the text of a clause is read from: the first of its kind with a text. -/
def clauseSpan? (ts : List Token) (kind : ClauseKind) : Option Span :=
  (spans ts).find? fun s => s.boundary.slot == .clause kind && !(s.text ts).isEmpty

theorem text_eq_clauseSpan {kind : ClauseKind} (noJoins : kind ≠ .joins) (ts : List Token) :
    (ClauseSet.ofTokens ts).text kind = (clauseSpan? ts kind).elim [] (Span.text ts) := by
  rw [ClauseSet.text_eq_firstText noJoins, ← textsOf_spans, ClauseSet.firstText, Span.textsOf,
    List.find?_map, List.find?_filter]
  simp only [Bool.decide_and, Bool.decide_eq_true, Function.comp_apply]
  rw [← clauseSpan?]
  cases clauseSpan? ts kind <;> rfl

/-- Where the same tokens stand before and after a group in parentheses, what it holds decides on
no section: there are the same ones, those after the group moved with it. The texts of sections
are the same, but for the one that the group is part of, which differs by what the group holds.
Each clause is read from the same section, and so is each join. -/
theorem sections_of_group (pre post : List Token) (opening closing : Bool) {u v : List Token}
    (hu : Balanced u) (hv : Balanced v) :
    let ts := withGroup pre post opening closing u
    let us := withGroup pre post opening closing v
    let move := Span.moved pre.length u.length v.length
    spans us = (spans ts).map move ∧
      (∀ s ∈ spans ts,
        (¬ s.Holds pre.length → (move s).text us = s.text ts) ∧
        (s.Holds pre.length → DifferInGroup opening closing u v (s.text ts) ((move s).text us))) ∧
      (∀ kind, kind ≠ .joins →
        (ClauseSet.ofTokens ts).text kind = (clauseSpan? ts kind).elim [] (Span.text ts) ∧
        (ClauseSet.ofTokens us).text kind =
          (clauseSpan? ts kind).elim [] fun s => (move s).text us) ∧
      (ClauseSet.ofTokens ts).joins = Span.textsOf ts .joins (spans ts) ∧
      (ClauseSet.ofTokens us).joins =
        ((spans ts).filter fun s => s.boundary.slot == .clause .joins).map
          fun s => (move s).text us := by
  intro ts us move
  obtain ⟨f, framed⟩ := exists_frame pre post opening closing
  have moved : spans us = (spans ts).map move := by
    rw [(framed v hv).2, (framed u hu).2]
    exact f.places_moved u.length v.length
  have texts : ∀ s ∈ spans ts,
      (¬ s.Holds pre.length → (move s).text us = s.text ts) ∧
      (s.Holds pre.length → DifferInGroup opening closing u v (s.text ts) ((move s).text us)) := by
    intro s mem
    rw [(framed u hu).2] at mem
    rcases f.text_of_mem opening closing u v mem with ⟨outside, same⟩ | ⟨inside, differ⟩
    · exact ⟨fun _ => same, fun inside => absurd inside outside⟩
    · exact ⟨fun outside => absurd inside outside, fun _ => differ⟩
  refine ⟨moved, texts, fun kind noJoins => ⟨text_eq_clauseSpan noJoins ts, ?_⟩, ?_, ?_⟩
  · -- The group is a text of its own, so what it holds makes no section empty.
    have empty : ∀ s ∈ spans ts, ((move s).text us).isEmpty = (s.text ts).isEmpty := by
      intro s mem
      by_cases inside : s.Holds pre.length
      · obtain ⟨left, right⟩ := ((texts s mem).2 inside).ne_nil
        rw [List.isEmpty_eq_false_iff.mpr left, List.isEmpty_eq_false_iff.mpr right]
      · rw [(texts s mem).1 inside]
    have same : clauseSpan? us kind = (clauseSpan? ts kind).map move := by
      rw [clauseSpan?, moved, List.find?_map, clauseSpan?]
      refine congrArg (Option.map move) (List.find?_congr fun s mem => ?_)
      rw [Function.comp_apply, empty s mem]
      rfl
    rw [text_eq_clauseSpan noJoins us, same]
    cases clauseSpan? ts kind <;> rfl
  · rw [ClauseSet.joins_eq_textsOf, textsOf_spans]
  · rw [ClauseSet.joins_eq_textsOf, ← textsOf_spans, moved, Span.textsOf, List.filter_map,
      List.map_map]
    rfl

/-- A condition that a group is part of, and an order after it. -/
def memberOf (ts : List Token) : List Token :=
  withGroup (["SELECT", "a", "FROM", "t", "WHERE", "b", "IN"].map spacedWord)
    (["ORDER", "BY", "a"].map spacedWord) true false ts

def subquery : List Token := ["SELECT", "c", "FROM", "s", "WHERE", "d"].map spacedWord

theorem sections_of_group_subquery :
    Balanced subquery ∧ Balanced [] ∧
      spans (memberOf []) = (spans (memberOf subquery)).map (Span.moved 7 6 0) ∧
      ∀ s ∈ spans (memberOf subquery),
        ¬ s.Holds 7 → (s.moved 7 6 0).text (memberOf []) = s.text (memberOf subquery) := by
  have query : Balanced subquery := by decide
  have nothing : Balanced [] := by decide
  have same := sections_of_group (["SELECT", "a", "FROM", "t", "WHERE", "b", "IN"].map spacedWord)
    (["ORDER", "BY", "a"].map spacedWord) true false query nothing
  exact ⟨query, nothing, same.1, fun s mem => (same.2.1 s mem).1⟩

end SqlGrader
