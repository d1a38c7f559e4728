import SqlGrader.Proofs.Sql.ClauseScan
import SqlGrader.Proofs.Sql.SectionTexts
import Mathlib.Data.List.Chain
/-!
# Sections tile the query

Told by places, the sections of a token list are determined by the words in it: the first opens at
the first boundary outside of parentheses, each goes on to the next boundary that opens inside of
it, and the last stops where the query ends. The clauses that the scan reads are the texts of these
sections.
-/

namespace SqlGrader

/-- A section as places of the token list: its boundary, the place of its first word, and the place
that it stops before. -/
structure Span where
  boundary : Boundary
  start : Nat
  stop : Nat
  deriving Repr, DecidableEq

namespace Span

/-- The place that the text of the section starts at. -/
def textStart (s : Span) : Nat := if s.boundary.kept then s.start else s.start + s.boundary.width

def text (ts : List Token) (s : Span) : Text :=
  Token.render ((ts.drop s.textStart).take (s.stop - s.textStart))

/-- The texts of the sections of a kind. -/
def textsOf (ts : List Token) (kind : ClauseKind) (spans : List Span) : List Text :=
  (spans.filter fun s => s.boundary.slot == .clause kind).map (text ts)

end Span

/-! ### What it means to tile -/

/-- Whether the words of a boundary that opens inside of the section `current` stand at a place,
outside of parentheses. -/
def OpensAt (ts : List Token) (current : Option Slot) (b : Boundary) (place : Nat) : Prop :=
  Token.depthAt 0 (ts.take place) = 0 ∧
    ∃ opening, opening <+: ts.drop place ∧ Boundary.Opening current b opening

/-- Whether the query ends at a place: there the tokens end, or outside of parentheses a semicolon
or a set operator stands. -/
def EndsAt (ts : List Token) (place : Nat) : Prop :=
  place = ts.length ∨
    Token.depthAt 0 (ts.take place) = 0 ∧ ∃ t ∈ ts[place]?, Section.endsQuery t

/-- Spans that are the sections of the tokens. -/
structure Tiles (ts : List Token) (spans : List Span) : Prop where
  /-- Before the first section no boundary is found where no section is open. -/
  before : ∀ place, (∀ s ∈ spans.head?, place < s.start) → ∀ b, ¬ OpensAt ts none b place
  first : ∀ s ∈ spans.head?, OpensAt ts none s.boundary s.start
  /-- Each section starts where the one before it stops, and there it opens. -/
  next : spans.IsChain fun s s' =>
    s'.start = s.stop ∧ OpensAt ts (some s.boundary.slot) s'.boundary s'.start
  last : ∀ s ∈ spans.getLast?, EndsAt ts s.stop
  bounds : ∀ s ∈ spans, s.start + s.boundary.width ≤ s.stop ∧ s.stop ≤ ts.length
  /-- After its first words a section holds no boundary that opens inside of it. -/
  closed : ∀ s ∈ spans, ∀ place, s.start + s.boundary.width ≤ place → place < s.stop →
    ∀ b, ¬ OpensAt ts (some s.boundary.slot) b place
  /-- The query does not end inside of a section. -/
  unended : ∀ s ∈ spans, ∀ place, s.start ≤ place → place < s.stop → ¬ EndsAt ts place
  apart : spans.Pairwise fun s s' => s.stop ≤ s'.start

/-! ### What happens at a place -/

section Places

variable {ts us : List Token} {t : Token} {current : Option Slot} {b b' : Boundary}
  {place start stop stop' : Nat}

theorem opensAt_iff (rest : ts.drop place = t :: us) :
    OpensAt ts current b place ↔
      Token.depthAt 0 (ts.take place) = 0 ∧ Boundary.at? current t us = some b := by
  rw [OpensAt, Boundary.at?_eq_some_iff, rest]

theorem endsAt_iff (rest : ts.drop place = t :: us) :
    EndsAt ts place ↔ Token.depthAt 0 (ts.take place) = 0 ∧ Section.endsQuery t := by
  obtain ⟨here, -, inside⟩ := ClauseScan.drop_eq_cons rest
  simp [EndsAt, here, Nat.ne_of_lt inside]

theorem OpensAt.exists_drop (opens : OpensAt ts current b place) :
    ∃ t us, ts.drop place = t :: us := by
  obtain ⟨-, opening, front, words⟩ := opens
  refine List.exists_cons_of_ne_nil fun nothing => words.ne_nil ?_
  rw [nothing] at front
  exact List.prefix_nil.mp front

theorem OpensAt.lt_length (opens : OpensAt ts current b place) : place < ts.length := by
  obtain ⟨t, us, rest⟩ := opens.exists_drop
  exact (ClauseScan.drop_eq_cons rest).2.2

theorem EndsAt.le_length (ends : EndsAt ts place) : place ≤ ts.length := by
  rcases ends with rfl | ⟨-, t, here, -⟩
  · exact Nat.le_refl _
  · exact Nat.le_of_lt (List.getElem?_eq_some_iff.mp here).1

theorem OpensAt.unique (opens : OpensAt ts current b place) (opens' : OpensAt ts current b' place) :
    b = b' := by
  obtain ⟨t, us, rest⟩ := opens.exists_drop
  rw [opensAt_iff rest] at opens opens'
  exact Option.some.inj (opens.2.symm.trans opens'.2)

theorem OpensAt.width_pos (opens : OpensAt ts current b place) : 0 < b.width := by
  obtain ⟨-, opening, -, words⟩ := opens
  exact words.length_eq ▸ List.length_pos_iff.mpr words.ne_nil

/-- The words of a boundary end no query. -/
theorem OpensAt.not_endsAt (opens : OpensAt ts current b place) {n : Nat} (within : n < b.width) :
    ¬ EndsAt ts (place + n) := by
  obtain ⟨-, opening, ⟨rest, whole⟩, words⟩ := opens
  rw [← words.length_eq] at within
  have after : ts.drop (place + n) = opening[n] :: (opening.drop (n + 1) ++ rest) := by
    rw [← List.drop_drop, ← whole, List.drop_append_of_le_length (Nat.le_of_lt within),
      List.drop_eq_getElem_cons within, List.cons_append]
  rw [endsAt_iff after, Section.endsQuery_of_opening words (List.getElem_mem within)]
  simp

/-- Whether the section `current` is over at a place. Where none is open only the end of the tokens
counts. -/
def Over (ts : List Token) (current : Option Slot) (place : Nat) : Prop :=
  place = ts.length ∨ current.isSome ∧ EndsAt ts place

theorem over_iff (rest : ts.drop place = t :: us) :
    Over ts current place ↔
      current.isSome ∧ Token.depthAt 0 (ts.take place) = 0 ∧ Section.endsQuery t := by
  obtain ⟨-, -, inside⟩ := ClauseScan.drop_eq_cons rest
  rw [Over, endsAt_iff rest, or_iff_right (Nat.ne_of_lt inside)]

theorem OpensAt.not_over (opens : OpensAt ts current b place) : ¬ Over ts current place := by
  have notEnds : ¬ EndsAt ts place := opens.not_endsAt opens.width_pos
  rintro (atEnd | ⟨-, ends⟩)
  · exact notEnds (.inl atEnd)
  · exact notEnds ends

/-- Whether the section `current` goes on from one place to another. -/
def GoesOn (ts : List Token) (current : Option Slot) (start stop : Nat) : Prop :=
  start ≤ stop ∧ ∀ place, start ≤ place → place < stop →
    (∀ b, ¬ OpensAt ts current b place) ∧ ¬ Over ts current place

theorem GoesOn.le_of_happens (goesOn : GoesOn ts current start stop) (later : start ≤ stop')
    (happens : (∃ b, OpensAt ts current b stop') ∨ Over ts current stop') : stop ≤ stop' := by
  by_contra beyond
  obtain ⟨closed, notOver⟩ := goesOn.2 stop' later (Nat.lt_of_not_le beyond)
  rcases happens with ⟨b, opens⟩ | ended
  · exact closed b opens
  · exact notOver ended

end Places

/-! ### Tiles from left to right -/

/-- How a token list is tiled from a place on: the section `current` goes on from `start` to `stop`,
and then the other sections come. -/
inductive TiledFrom (ts : List Token) : Option Slot → (start stop : Nat) → List Span → Prop
  | ended {current : Option Slot} {start stop : Nat} (goesOn : GoesOn ts current start stop)
      (ended : Over ts current stop) : TiledFrom ts current start stop []
  | opens {current : Option Slot} {start place stop : Nat} {b : Boundary} {spans : List Span}
      (goesOn : GoesOn ts current start place) (opens : OpensAt ts current b place)
      (later : TiledFrom ts (some b.slot) (place + b.width) stop spans) :
      TiledFrom ts current start place (⟨b, place, stop⟩ :: spans)

namespace TiledFrom

variable {ts : List Token} {current : Option Slot} {start stop stop' : Nat}
  {spans spans' : List Span}

theorem goesOn (tiled : TiledFrom ts current start stop spans) : GoesOn ts current start stop := by
  cases tiled <;> assumption

theorem happens (tiled : TiledFrom ts current start stop spans) :
    (∃ b, OpensAt ts current b stop) ∨ Over ts current stop := by
  cases tiled with
  | ended _ ended => exact .inr ended
  | opens _ opens => exact .inl ⟨_, opens⟩

/-- There is one way to go on from a place. -/
theorem unique (tiled : TiledFrom ts current start stop spans)
    (tiled' : TiledFrom ts current start stop' spans') : stop = stop' ∧ spans = spans' := by
  induction tiled generalizing stop' spans' with
  | ended goesOn ended =>
      have same := Nat.le_antisymm (goesOn.le_of_happens tiled'.goesOn.1 tiled'.happens)
        (tiled'.goesOn.le_of_happens goesOn.1 (.inr ended))
      subst same
      cases tiled' with
      | ended => exact ⟨rfl, rfl⟩
      | opens _ opens => exact (opens.not_over ended).elim
  | opens goesOn opens later ih =>
      have same := Nat.le_antisymm (goesOn.le_of_happens tiled'.goesOn.1 tiled'.happens)
        (tiled'.goesOn.le_of_happens goesOn.1 (.inl ⟨_, opens⟩))
      subst same
      cases tiled' with
      | ended _ ended => exact (opens.not_over ended).elim
      | opens _ opens' later' =>
          obtain rfl := opens.unique opens'
          obtain ⟨rfl, rfl⟩ := ih later'
          exact ⟨rfl, rfl⟩

/-- A place at which nothing happens is passed. -/
theorem pass (closed : ∀ b, ¬ OpensAt ts current b start) (notOver : ¬ Over ts current start)
    (tiled : TiledFrom ts current (start + 1) stop spans) :
    TiledFrom ts current start stop spans := by
  have further {stop : Nat} (goesOn : GoesOn ts current (start + 1) stop) :
      GoesOn ts current start stop := by
    refine ⟨Nat.le_of_succ_le goesOn.1, fun place reached before => ?_⟩
    rcases Nat.eq_or_lt_of_le reached with rfl | later
    · exact ⟨closed, notOver⟩
    · exact goesOn.2 place later before
  cases tiled with
  | ended goesOn ended => exact .ended (further goesOn) ended
  | opens goesOn opens later => exact .opens (further goesOn) opens later

/-- Of each section: its opening, and how it goes on. -/
theorem of_mem {s : Span} (tiled : TiledFrom ts current start stop spans) (mem : s ∈ spans) :
    stop ≤ s.start ∧ (∃ outer, OpensAt ts outer s.boundary s.start) ∧
      ∃ later, TiledFrom ts (some s.boundary.slot) (s.start + s.boundary.width) s.stop later := by
  induction tiled with
  | ended => cases mem
  | opens goesOn opens later ih =>
      rcases List.mem_cons.mp mem with rfl | mem
      · exact ⟨Nat.le_refl _, ⟨_, opens⟩, _, later⟩
      · obtain ⟨after, rest⟩ := ih mem
        exact ⟨(Nat.le_of_add_right_le later.goesOn.1).trans after, rest⟩

theorem chain (tiled : TiledFrom ts current start stop spans) :
    (∀ s ∈ spans.head?, s.start = stop ∧ OpensAt ts current s.boundary s.start) ∧
      spans.IsChain fun s s' =>
        s'.start = s.stop ∧ OpensAt ts (some s.boundary.slot) s'.boundary s'.start := by
  induction tiled with
  | ended => simp
  | opens goesOn opens later ih => exact ⟨by simpa using opens, ih.2.cons ih.1⟩

theorem apart (tiled : TiledFrom ts current start stop spans) :
    spans.Pairwise fun s s' => s.stop ≤ s'.start := by
  induction tiled with
  | ended => exact .nil
  | opens goesOn opens later ih => exact .cons (fun s mem => (later.of_mem mem).1) ih

theorem last (tiled : TiledFrom ts current start stop spans) :
    ∀ s ∈ spans.getLast?, EndsAt ts s.stop := by
  induction tiled with
  | ended => simp
  | opens goesOn opens later ih =>
      cases later with
      | ended goesOn ended => simpa using ended.elim .inl And.right
      | opens => simpa using ih

theorem tiles (tiled : TiledFrom ts none 0 stop spans) : Tiles ts spans where
  before := by
    intro place before b opens
    cases tiled with
    | ended goesOn ended =>
        have atEnd : stop = ts.length := by simpa [Over] using ended
        exact (goesOn.2 place (Nat.zero_le _) (atEnd ▸ opens.lt_length)).1 b opens
    | opens goesOn => exact (goesOn.2 place (Nat.zero_le _) (by simpa using before)).1 b opens
  first := fun s mem => (tiled.chain.1 s mem).2
  next := tiled.chain.2
  last := tiled.last
  bounds := by
    intro s mem
    obtain ⟨-, -, rest, later⟩ := tiled.of_mem mem
    refine ⟨later.goesOn.1, ?_⟩
    rcases later.happens with ⟨b, opens⟩ | ended
    · exact Nat.le_of_lt opens.lt_length
    · exact (ended.elim .inl And.right : EndsAt ts s.stop).le_length
  closed := by
    intro s mem place reached before
    obtain ⟨-, -, rest, later⟩ := tiled.of_mem mem
    exact (later.goesOn.2 place reached before).1
  unended := by
    intro s mem place reached before ends
    obtain ⟨-, ⟨outer, opens⟩, rest, later⟩ := tiled.of_mem mem
    by_cases within : place < s.start + s.boundary.width
    · obtain ⟨n, rfl⟩ := Nat.exists_eq_add_of_le reached
      exact opens.not_endsAt (Nat.lt_of_add_lt_add_left within) ends
    · exact (later.goesOn.2 place (Nat.le_of_not_lt within) before).2 (.inr ⟨rfl, ends⟩)
  apart := tiled.apart

end TiledFrom

namespace Tiles

variable {ts : List Token} {s : Span} {spans : List Span}

/-- Sections that follow each other tile what comes after the first of them opens. -/
theorem tiledFrom_of_chain
    (next : (s :: spans).IsChain fun s s' =>
      s'.start = s.stop ∧ OpensAt ts (some s.boundary.slot) s'.boundary s'.start)
    (last : ∀ s' ∈ (s :: spans).getLast?, EndsAt ts s'.stop)
    (goesOn : ∀ s' ∈ s :: spans,
      GoesOn ts (some s'.boundary.slot) (s'.start + s'.boundary.width) s'.stop) :
    TiledFrom ts (some s.boundary.slot) (s.start + s.boundary.width) s.stop spans := by
  induction spans generalizing s with
  | nil => exact .ended (goesOn s (by simp)) (.inr ⟨rfl, last s (by simp)⟩)
  | cons s' spans ih =>
      obtain ⟨⟨follows, opens⟩, chain⟩ := List.isChain_cons_cons.mp next
      have later := ih chain (by simpa using last) fun u mem =>
        goesOn u (List.mem_cons_of_mem s mem)
      have here := goesOn s (by simp)
      rw [← follows] at here ⊢
      exact .opens here opens later

theorem tiledFrom (tiles : Tiles ts spans) : ∃ stop, TiledFrom ts none 0 stop spans := by
  have noneOver {place : Nat} (inside : place < ts.length) : ¬ Over ts none place := by
    simp [Over, Nat.ne_of_lt inside]
  cases spans with
  | nil =>
      have goesOn : GoesOn ts none 0 ts.length := ⟨Nat.zero_le _, fun place _ inside =>
        ⟨tiles.before place (by simp), noneOver inside⟩⟩
      exact ⟨ts.length, .ended goesOn (.inl rfl)⟩
  | cons s spans =>
      have opens := tiles.first s rfl
      refine ⟨s.start, .opens ⟨Nat.zero_le _, fun place _ earlier => ⟨?_, ?_⟩⟩ opens ?_⟩
      · exact tiles.before place (by simpa using earlier)
      · exact noneOver (earlier.trans opens.lt_length)
      · refine tiledFrom_of_chain tiles.next tiles.last fun s' mem =>
          ⟨(tiles.bounds s' mem).1, ?_⟩
        intro place reached before
        have within := Nat.le_of_add_right_le reached
        refine ⟨tiles.closed s' mem place reached before, fun ended => ?_⟩
        exact tiles.unended s' mem place within before (ended.elim .inl And.right)

end Tiles

/-! ### The sections of a token list -/

namespace Section

variable {ts us lead : List Token} {ss : List Section}

/-- The section, which starts at a place. -/
def span (place : Nat) (s : Section) : Span := ⟨s.boundary, place, place + s.tokens.length⟩

/-- The sections as they follow each other from a place on. -/
def spansFrom : (place : Nat) → List Section → List Span
  | _, [] => []
  | place, s :: ss => s.span place :: spansFrom (place + s.tokens.length) ss

/-- The sections of a token list as places of it. -/
def spans (ts : List Token) : List Span :=
  spansFrom (splitFrom none 0 ts).1.length (ofTokens ts)

theorem depthAt_take_add (place n : Nat) (ts : List Token) :
    Token.depthAt 0 (ts.take (place + n)) =
      Token.depthAt (Token.depthAt 0 (ts.take place)) ((ts.drop place).take n) := by
  rw [List.take_add, Token.depthAt_append]

/-- The sections that the tokens are split into tile them. -/
theorem tiledFrom_splitFrom (current : Option Slot) (depth : Nat) (us : List Token) (place : Nat)
    (rest : ts.drop place = us) (deep : Token.depthAt 0 (ts.take place) = depth)
    (fits : place ≤ ts.length) :
    TiledFrom ts current place (place + (splitFrom current depth us).1.length)
      (spansFrom (place + (splitFrom current depth us).1.length)
        (splitFrom current depth us).2) := by
  have stay (current : Option Slot) (place : Nat) : GoesOn ts current place place :=
    ⟨Nat.le_refl _, fun _ later before => absurd later (Nat.not_le_of_lt before)⟩
  have onward {place : Nat} {t : Token} {us : List Token} (rest : ts.drop place = t :: us) :
      Token.depthAt 0 (ts.take (place + 1)) =
        t.depthAfter (Token.depthAt 0 (ts.take place)) := by
    rw [depthAt_take_add, rest]
    rfl
  fun_induction splitFrom current depth us generalizing place with
  | case1 current depth =>
      have atEnd : place = ts.length := Nat.le_antisymm fits (List.drop_eq_nil_iff.mp rest)
      exact .ended (stay current place) (.inl atEnd)
  | case2 current depth t us inside body later result ih =>
      obtain ⟨-, next, within⟩ := ClauseScan.drop_eq_cons rest
      have tiled := ih (place + 1) next ((onward rest).trans (by rw [deep])) within
      rw [result, Nat.add_right_comm] at tiled
      refine tiled.pass (fun b opens => ?_) fun ended => ?_
      · rw [opensAt_iff rest, deep] at opens
        simp only [opens.1, bne_self_eq_false, Bool.or_false] at inside
        rw [at?_of_kind_ne (Token.kind_of_isParen inside)] at opens
        cases opens.2
      · rw [over_iff rest, deep] at ended
        simp only [ended.2.1, bne_self_eq_false, Bool.or_false] at inside
        rw [endsQuery_of_isParen inside] at ended
        cases ended.2.2
  | case3 current depth t us outside query =>
      have flat : t.isParen = false ∧ depth = 0 := by simpa using outside
      rw [Bool.and_eq_true] at query
      exact .ended (stay current place)
        ((over_iff rest).mpr ⟨query.1, deep.trans flat.2, query.2⟩)
  | case4 current depth t us outside goesOn b opens body later result ih =>
      have flat : t.isParen = false ∧ depth = 0 := by simpa using outside
      have words := (Boundary.at?_take opens).1
      obtain ⟨after, inside⟩ := ClauseScan.drop_width rest opens
      have deep' : Token.depthAt 0 (ts.take (place + b.width)) = depth := by
        rw [depthAt_take_add, rest, Token.depthAt_of_words _ words.words, deep]
      have tiled := ih (place + b.width) after deep' inside
      have stop : place + (⟨b, (t :: us).take b.width, body⟩ : Section).tokens.length =
          place + b.width + body.length := by
        rw [tokens, List.length_append, words.length_eq, Nat.add_assoc]
      rw [result] at tiled
      refine .opens (stay current place) ((opensAt_iff rest).mpr ⟨deep.trans flat.2, opens⟩) ?_
      rwa [List.length_nil, Nat.add_zero, stop]
  | case5 current depth t us outside goesOn opens body later result ih =>
      have flat : t.isParen = false ∧ depth = 0 := by simpa using outside
      obtain ⟨-, next, within⟩ := ClauseScan.drop_eq_cons rest
      have kept := Token.depthAfter_of_not_isParen depth flat.1
      have tiled := ih (place + 1) next ((onward rest).trans (by rw [deep, kept])) within
      rw [result, Nat.add_right_comm] at tiled
      refine tiled.pass (fun b opens' => ?_) fun ended => ?_
      · rw [opensAt_iff rest, opens] at opens'
        cases opens'.2
      · rw [over_iff rest] at ended
        exact goesOn (by simp [ended])

theorem spans_tile (ts : List Token) : Tiles ts (spans ts) := by
  have tiled : TiledFrom ts none 0 _ _ :=
    tiledFrom_splitFrom none 0 ts 0 rfl rfl (Nat.zero_le _)
  rw [Nat.zero_add] at tiled
  exact tiled.tiles

/-! ### The texts of the sections -/

theorem text_span {s : Section} (whole : lead ++ s.tokens <+: ts)
    (width : s.opening.length = s.boundary.width) :
    (s.span lead.length).text ts = Token.render s.content := by
  obtain ⟨more, rfl⟩ := whole
  have after : (lead ++ s.tokens ++ more).drop (lead.length + s.boundary.width) =
      s.body ++ more := by
    rw [← width, tokens, List.append_assoc, List.append_assoc, ← List.drop_drop, List.drop_left,
      List.drop_left]
  have rest : (lead ++ s.tokens ++ more).drop lead.length = s.tokens ++ more := by
    rw [List.append_assoc, List.drop_left]
  rw [Span.text, Span.textStart, content, span]
  split
  next => rw [rest, Nat.add_sub_cancel_left, List.take_left, tokens]
  next =>
    have stop : lead.length + s.tokens.length - (lead.length + s.boundary.width) =
        s.body.length := by
      rw [tokens, List.length_append, width]
      omega
    rw [after, stop, List.take_left]

/-- The texts of sections, read off their places. -/
theorem map_spansFrom {α : Type} (f : Boundary → Text → α)
    (whole : lead ++ ss.flatMap tokens <+: ts)
    (widths : ∀ s ∈ ss, s.opening.length = s.boundary.width) :
    (spansFrom lead.length ss).map (fun s => f s.boundary (s.text ts)) =
      ss.map fun s => f s.boundary (Token.render s.content) := by
  induction ss generalizing lead with
  | nil => rfl
  | cons s ss ih =>
      rw [List.forall_mem_cons] at widths
      rw [List.flatMap_cons, ← List.append_assoc] at whole
      have here := text_span ((List.prefix_append _ _).trans whole) widths.1
      have later := ih whole widths.2
      have boundary : (s.span lead.length).boundary = s.boundary := rfl
      rw [List.length_append] at later
      rw [spansFrom, List.map_cons, List.map_cons, here, later, boundary]

theorem textsOf_spansFrom (kind : ClauseKind) (whole : lead ++ ss.flatMap tokens <+: ts)
    (widths : ∀ s ∈ ss, s.opening.length = s.boundary.width) :
    Span.textsOf ts kind (spansFrom lead.length ss) = textsOf kind ss := by
  have pairs := congrArg (List.filter fun p => p.1.slot == Slot.clause kind)
    (map_spansFrom Prod.mk whole widths)
  rw [List.filter_map, List.filter_map] at pairs
  have texts := congrArg (List.map Prod.snd) pairs
  rw [List.map_map, List.map_map] at texts
  exact texts

theorem textsOf_spans (kind : ClauseKind) (ts : List Token) :
    Span.textsOf ts kind (spans ts) = textsOf kind (ofTokens ts) := by
  refine textsOf_spansFrom kind (splitFrom_covers none 0 ts) fun s mem => ?_
  obtain ⟨outer, words⟩ := splitFrom_opened none 0 ts s mem
  exact words.length_eq

end Section

/-- The sections of a token list tile its query, and nothing else does. The scan never leaves the
tokens: a clause has the first text of its sections that is not empty, and the joins are the texts
of all of theirs. -/
theorem ClauseSet.ofTokens_tiles (ts : List Token) :
    (∀ spans, Tiles ts spans ↔ spans = Section.spans ts) ∧
      ClauseScan.clauses? ts = some (ofTokens ts) ∧
      (∀ kind, kind ≠ .joins →
        (ofTokens ts).text kind = firstText (Span.textsOf ts kind (Section.spans ts))) ∧
      (ofTokens ts).joins = Span.textsOf ts .joins (Section.spans ts) := by
  refine ⟨fun spans => ⟨fun tiles => ?_, ?_⟩, ClauseScan.clauses?_eq ts,
    fun kind noJoins => ?_, ?_⟩
  · obtain ⟨stop, tiled⟩ := tiles.tiledFrom
    obtain ⟨stop', tiled'⟩ := (Section.spans_tile ts).tiledFrom
    exact (tiled.unique tiled').2
  · rintro rfl
    exact Section.spans_tile ts
  · rw [Section.textsOf_spans, text_eq_firstText noJoins]
  · rw [Section.textsOf_spans, joins_eq_textsOf]

end SqlGrader
