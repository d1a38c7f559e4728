import SqlGrader.Proofs.Sql.ClauseTokens
import SqlGrader.Proofs.Sql.TopLevel
/-!
# Where the pieces between separators lie

Told by places, the pieces of a token list are slices of it, one after the other and never empty.
Between two of them stands a separator at least, and what none of them holds are the separators
outside of parentheses and nothing else. Each piece starts outside of parentheses, so within it no
separator counts: a piece is split into itself, and so is an item that is read again from its text.
-/

namespace SqlGrader

/-- A piece by the place of its first token and the place that it stops before. -/
structure Extent where
  start : Nat
  stop : Nat
  deriving Repr, DecidableEq

namespace Extent

def tokens (ts : List Token) (e : Extent) : List Token := (ts.drop e.start).take (e.stop - e.start)

def Holds (e : Extent) (place : Nat) : Prop := e.start ≤ place ∧ place < e.stop

/-- The extent from one place to another, if there is anything between them. -/
def between (start stop : Nat) : List Extent := if start < stop then [⟨start, stop⟩] else []

theorem mem_between {e : Extent} {start stop : Nat} :
    e ∈ between start stop ↔ e = ⟨start, stop⟩ ∧ start < stop := by
  rw [between]
  split <;> simp_all

end Extent

namespace Token

variable {t : Token} {ts us before piece : List Token} {separates : Token → Bool}
  {place first : Nat} {es : List Extent} {sql item : Text}

/-- Whether a separator stands at a place, outside of parentheses. -/
def SeparatesAt (separates : Token → Bool) (ts : List Token) (place : Nat) : Prop :=
  depthAt 0 (ts.take place) = 0 ∧ ∃ t ∈ ts[place]?, t.isParen = false ∧ separates t

/-- Extents that are, from the place `first` on, those of the pieces between separators. -/
structure Extents (separates : Token → Bool) (ts : List Token) (first : Nat) (es : List Extent) :
    Prop where
  bounds : ∀ e ∈ es, first ≤ e.start ∧ e.start < e.stop ∧ e.stop ≤ ts.length
  /-- They come in order, with a place at least between neighbours. -/
  apart : es.Pairwise fun e e' => e.stop < e'.start
  outermost : ∀ e ∈ es, depthAt 0 (ts.take e.start) = 0
  outside : ∀ place, first ≤ place → place < ts.length →
    ((∀ e ∈ es, ¬ e.Holds place) ↔ SeparatesAt separates ts place)

/-- The extents of the pieces, in a pass over the places that keeps the depth and the place where
the open piece starts. -/
def extentsFrom (separates : Token → Bool) : (place depth start : Nat) → List Token → List Extent
  | place, _, start, [] => Extent.between start place
  | place, depth, start, t :: ts =>
    if t.isParen || depth != 0 then extentsFrom separates (place + 1) (t.depthAfter depth) start ts
    else if separates t then
      Extent.between start place ++ extentsFrom separates (place + 1) depth (place + 1) ts
    else extentsFrom separates (place + 1) depth start ts

theorem separatesAt_append_cons :
    SeparatesAt separates (before ++ t :: us) before.length ↔
      depthAt 0 before = 0 ∧ t.isParen = false ∧ separates t := by
  simp [SeparatesAt]

/-! ### One step of the pass -/

/-- Where no separator comes any more the last piece goes on to the end. -/
theorem extents_end (start : depthAt 0 (ts.take first) = 0)
    (none : ∀ place, first ≤ place → place < ts.length → ¬ SeparatesAt separates ts place) :
    Extents separates ts first (Extent.between first ts.length) := by
  constructor
  · rintro e mem
    obtain ⟨rfl, some⟩ := Extent.mem_between.mp mem
    exact ⟨Nat.le_refl _, some, Nat.le_refl _⟩
  · rw [Extent.between]
    split <;> simp
  · rintro e mem
    obtain ⟨rfl, -⟩ := Extent.mem_between.mp mem
    exact start
  · intro place later inside
    refine iff_of_false (fun free => ?_) (none place later inside)
    exact free _ (Extent.mem_between.mpr ⟨rfl, Nat.lt_of_le_of_lt later inside⟩) ⟨later, inside⟩

/-- A separator closes the piece before it, and the next piece may start behind it. -/
theorem Extents.close (later : Extents separates ts (place + 1) es)
    (here : SeparatesAt separates ts place) (ordered : first ≤ place)
    (start : depthAt 0 (ts.take first) = 0)
    (none : ∀ place', first ≤ place' → place' < place → ¬ SeparatesAt separates ts place') :
    Extents separates ts first (Extent.between first place ++ es) := by
  have inside : place < ts.length := by
    obtain ⟨-, t, found, -⟩ := here
    exact (List.getElem?_eq_some_iff.mp found).1
  constructor
  · intro e mem
    rcases List.mem_append.mp mem with mem | mem
    · obtain ⟨rfl, some⟩ := Extent.mem_between.mp mem
      exact ⟨Nat.le_refl _, some, Nat.le_of_lt inside⟩
    · obtain ⟨low, bounds⟩ := later.bounds e mem
      exact ⟨by omega, bounds⟩
  · refine List.pairwise_append.mpr ⟨?_, later.apart, fun e mem e' mem' => ?_⟩
    · rw [Extent.between]
      split <;> simp
    · obtain ⟨rfl, -⟩ := Extent.mem_between.mp mem
      exact (later.bounds e' mem').1
  · intro e mem
    rcases List.mem_append.mp mem with mem | mem
    · obtain ⟨rfl, -⟩ := Extent.mem_between.mp mem
      exact start
    · exact later.outermost e mem
  · intro place' low within
    rcases Nat.lt_trichotomy place' place with front | rfl | back
    · refine iff_of_false (fun free => ?_) (none place' low front)
      have held : ⟨first, place⟩ ∈ Extent.between first place :=
        Extent.mem_between.mpr ⟨rfl, Nat.lt_of_le_of_lt low front⟩
      exact free _ (List.mem_append_left _ held) ⟨low, front⟩
    · refine iff_of_true (fun e mem holds => ?_) here
      rcases List.mem_append.mp mem with mem | mem
      · obtain ⟨rfl, -⟩ := Extent.mem_between.mp mem
        exact Nat.lt_irrefl _ holds.2
      · exact Nat.not_succ_le_self _ ((later.bounds e mem).1.trans holds.1)
    · rw [← later.outside place' back within, List.forall_mem_append]
      refine and_iff_right fun e mem holds => ?_
      obtain ⟨rfl, -⟩ := Extent.mem_between.mp mem
      exact Nat.lt_asymm back holds.2

/-- The slice that a piece between two places is. -/
theorem map_tokens_between (before us : List Token) (first : Nat) :
    (Extent.between first before.length).map (Extent.tokens (before ++ us)) =
      [before.drop first].filter fun piece => !piece.isEmpty := by
  rw [Extent.between]
  split
  next some =>
    have slice : Extent.tokens (before ++ us) ⟨first, before.length⟩ = before.drop first := by
      simp [Extent.tokens, List.drop_append_of_le_length (Nat.le_of_lt some)]
    simp [slice, some]
  next none => simp [List.drop_of_length_le (Nat.le_of_not_lt none)]

/-! ### The whole pass -/

/-- What the pass keeps: from the start of the open piece on it has met no separator. -/
theorem extents_extentsFrom (before us : List Token) (ordered : first ≤ before.length)
    (start : depthAt 0 ((before ++ us).take first) = 0)
    (none : ∀ place, first ≤ place → place < before.length →
      ¬ SeparatesAt separates (before ++ us) place) :
    Extents separates (before ++ us) first
      (extentsFrom separates before.length (depthAt 0 before) first us) := by
  induction us generalizing before first with
  | nil =>
      rw [List.append_nil] at start none ⊢
      exact extents_end start none
  | cons t us ih =>
      have whole : before ++ t :: us = (before ++ [t]) ++ us := by simp
      have deeper : depthAt 0 (before ++ [t]) = t.depthAfter (depthAt 0 before) := by
        rw [depthAt_append]
        rfl
      have here : SeparatesAt separates (before ++ t :: us) before.length ↔ _ :=
        separatesAt_append_cons
      -- The piece goes on over a token that does not separate.
      have goesOn (nothing : ¬ SeparatesAt separates (before ++ t :: us) before.length) :
          Extents separates (before ++ t :: us) first
            (extentsFrom separates (before.length + 1) (t.depthAfter (depthAt 0 before)) first
              us) := by
        have next := ih (before ++ [t]) (show first ≤ (before ++ [t]).length by simp; omega)
          (by rwa [← whole])
        rw [← whole, deeper, List.length_append, List.length_singleton] at next
        refine next fun place later within => ?_
        rcases Nat.lt_succ_iff_lt_or_eq.mp within with within | rfl
        · exact none place later within
        · exact nothing
      rw [extentsFrom]
      split
      next deep =>
        refine goesOn fun separator => ?_
        obtain ⟨flat, noParen, -⟩ := here.mp separator
        simp [flat, noParen] at deep
      next flat =>
        rw [Bool.or_eq_true, not_or, Bool.not_eq_true, bne_iff_ne, not_not] at flat
        have same := depthAfter_of_not_isParen (depthAt 0 before) flat.1
        split
        next separator =>
          have separates' := here.mpr ⟨flat.2, flat.1, separator⟩
          have next := ih (before ++ [t])
            (show before.length + 1 ≤ (before ++ [t]).length by simp) (by
              rw [← whole, List.take_length_add_append, List.take_succ_cons, List.take_zero, deeper,
                same, flat.2]) (by simp; omega)
          rw [← whole, deeper, same, List.length_append, List.length_singleton] at next
          exact next.close separates' ordered start none
        next other =>
          rw [← same]
          refine goesOn fun separator => ?_
          exact other (here.mp separator).2.2

/-- The slices are the pieces, where the open piece has begun with what stands before. -/
theorem map_tokens_extentsFrom (separates : Token → Bool) (before us : List Token) (depth : Nat)
    (ordered : first ≤ before.length) :
    ∃ p ps, piecesFrom (fun (_ : Unit) t => ((), separates t)) () depth us = p :: ps ∧
      (extentsFrom separates before.length depth first us).map (Extent.tokens (before ++ us)) =
        ((before.drop first ++ p) :: ps).filter fun piece => !piece.isEmpty := by
  induction us generalizing before depth first with
  | nil =>
      refine ⟨[], [], rfl, ?_⟩
      rw [extentsFrom, map_tokens_between, List.append_nil]
  | cons t us ih =>
      have whole : before ++ t :: us = (before ++ [t]) ++ us := by simp
      have goesOn (depth : Nat) : ∃ p ps,
          consHead t (piecesFrom (fun (_ : Unit) t => ((), separates t)) () depth us) = p :: ps ∧
          (extentsFrom separates (before.length + 1) depth first us).map
              (Extent.tokens (before ++ t :: us)) =
            ((before.drop first ++ p) :: ps).filter fun piece => !piece.isEmpty := by
        obtain ⟨p, ps, pieces, slices⟩ :=
          ih (before ++ [t]) depth (show first ≤ (before ++ [t]).length by simp; omega)
        rw [← whole, List.length_append, List.length_singleton,
          List.drop_append_of_le_length ordered] at slices
        refine ⟨t :: p, ps, by rw [pieces]; rfl, ?_⟩
        rw [slices, List.append_assoc]
        rfl
      simp only [piecesFrom, extentsFrom]
      split
      · exact goesOn _
      split
      · obtain ⟨p, ps, pieces, slices⟩ :=
          ih (before ++ [t]) depth (show before.length + 1 ≤ (before ++ [t]).length by simp)
        rw [← whole, List.length_append, List.length_singleton,
          List.drop_of_length_le (by simp)] at slices
        refine ⟨[], p :: ps, by rw [pieces], ?_⟩
        rw [List.map_append, slices, map_tokens_between, List.append_nil, List.nil_append,
          ← List.filter_append]
        rfl
      · exact goesOn _

/-- The pieces of a token list and where they lie. -/
theorem exists_extents (separates : Token → Bool) (ts : List Token) :
    ∃ es, Extents separates ts 0 es ∧ splitTopLevel separates ts = es.map (Extent.tokens ts) := by
  obtain ⟨p, ps, pieces, slices⟩ :=
    map_tokens_extentsFrom separates [] ts 0 (Nat.le_refl 0)
  refine ⟨extentsFrom separates 0 0 0 ts, extents_extentsFrom [] ts (Nat.le_refl _) rfl ?_, ?_⟩
  · intro place _ inside
    exact absurd inside (Nat.not_lt_zero _)
  · rw [splitTopLevel, splitTopLevelWith, pieces]
    exact slices.symm

/-! ### A second split -/

/-- The test does not see parentheses. -/
theorem splitTopLevel_congr {test : Token → Bool}
    (same : ∀ t : Token, t.isParen = false → test t = separates t) (ts : List Token) :
    splitTopLevel test ts = splitTopLevel separates ts := by
  have pieces (depth : Nat) : piecesFrom (fun (_ : Unit) t => ((), test t)) () depth ts =
      piecesFrom (fun (_ : Unit) t => ((), separates t)) () depth ts := by
    induction ts generalizing depth with
    | nil => rfl
    | cons t ts ih =>
        simp only [piecesFrom, ih]
        split
        · rfl
        next here =>
          rw [Bool.or_eq_true, not_or, Bool.not_eq_true] at here
          rw [same t here.1]
  rw [splitTopLevel, splitTopLevelWith, pieces, splitTopLevel, splitTopLevelWith]

theorem splitTopLevel_of_not_separatesAt (nonempty : ts ≠ [])
    (none : ∀ place, ¬ SeparatesAt separates ts place) : splitTopLevel separates ts = [ts] := by
  have blind : splitTopLevel (fun t => !t.isParen && separates t) ts = splitTopLevel separates ts :=
    splitTopLevel_congr (fun t noParen => by simp [noParen]) ts
  rw [← blind]
  refine splitTopLevel_of_noneOutside (fun place inside flat => ?_) nonempty
  by_contra separator
  rw [Bool.not_eq_false, Bool.and_eq_true, Bool.not_eq_true'] at separator
  exact none place ⟨flat, ts[place], List.getElem?_eq_getElem inside, separator⟩

theorem Extents.tokens_ne_nil (extents : Extents separates ts first es) {e : Extent}
    (mem : e ∈ es) : e.tokens ts ≠ [] := by
  obtain ⟨-, some, fits⟩ := extents.bounds e mem
  refine List.ne_nil_of_length_pos ?_
  rw [Extent.tokens, List.length_take, List.length_drop]
  omega

/-- Within a piece there is no separator outside of parentheses. -/
theorem Extents.not_separatesAt (extents : Extents separates ts 0 es) {e : Extent} (mem : e ∈ es)
    (place : Nat) : ¬ SeparatesAt separates (e.tokens ts) place := by
  rintro ⟨flat, t, here, separator⟩
  obtain ⟨-, some, fits⟩ := extents.bounds e mem
  have inside := (List.getElem?_eq_some_iff.mp here).1
  simp only [Extent.tokens, List.length_take, List.length_drop] at inside
  have front : (e.tokens ts).take place = (ts.drop e.start).take place := by
    rw [Extent.tokens, List.take_take, Nat.min_eq_left (by omega)]
  have same : (e.tokens ts)[place]? = ts[e.start + place]? := by
    rw [Extent.tokens, List.getElem?_take, if_pos (by omega), List.getElem?_drop]
  have depth : depthAt 0 (ts.take (e.start + place)) = 0 := by
    rwa [List.take_add, depthAt_append, extents.outermost e mem, ← front]
  have shifted : SeparatesAt separates ts (e.start + place) := ⟨depth, t, same ▸ here, separator⟩
  exact (extents.outside _ (Nat.zero_le _) (by omega)).mpr shifted e mem
    ⟨Nat.le_add_right _ _, by omega⟩

/-- A piece is split into itself. -/
theorem splitTopLevel_piece (mem : piece ∈ splitTopLevel separates ts) :
    splitTopLevel separates piece = [piece] := by
  obtain ⟨es, extents, whole⟩ := exists_extents separates ts
  rw [whole] at mem
  obtain ⟨e, within, rfl⟩ := List.mem_map.mp mem
  exact splitTopLevel_of_not_separatesAt (extents.tokens_ne_nil within)
    (extents.not_separatesAt within)

/-- The gap before the first token does not matter. -/
theorem SeparatesAt.of_atStart (blind : ∀ t : Token, separates t.unspaced = separates t)
    (separator : SeparatesAt separates (atStart ts) place) : SeparatesAt separates ts place := by
  cases ts with
  | nil => exact separator
  | cons t ts =>
      cases place with
      | zero =>
          obtain ⟨flat, u, here, noParen, separates'⟩ := separator
          obtain rfl := Option.some.inj here
          exact ⟨flat, t, rfl, noParen, blind t ▸ separates'⟩
      | succ place => exact separator

/-- The items of a text that has tokens, read again from their own texts. -/
theorem ofText_item (read : tokenize sql = .ok ts) (mem : item ∈ Items.ofText sql) :
    Items.ofText item = [item] := by
  have items : Items.ofText sql = (splitTopLevel Items.isComma ts).map render := by
    rw [Items.ofText, read]
  rw [items] at mem
  obtain ⟨piece, inside, rfl⟩ := List.mem_map.mp mem
  have legible : Legible piece :=
    (legible_of_tokenize read).of_isInfix (splitTopLevelWith_within inside)
  obtain ⟨es, extents, whole⟩ := exists_extents Items.isComma ts
  rw [whole] at inside
  obtain ⟨e, within, rfl⟩ := List.mem_map.mp inside
  have nonempty : atStart (e.tokens ts) ≠ [] := by
    have some := extents.tokens_ne_nil within
    cases whole : e.tokens ts with
    | nil => exact absurd whole some
    | cons t us => simp [atStart]
  have single : splitTopLevel Items.isComma (atStart (e.tokens ts)) = [atStart (e.tokens ts)] :=
    splitTopLevel_of_not_separatesAt nonempty fun place separator =>
      extents.not_separatesAt within place (separator.of_atStart fun _ => rfl)
  rw [items_render legible, single, List.map_singleton, render_atStart]

/-- Splitting at separators outside of parentheses loses nothing and is final. The pieces are slices
in order and never empty, and what they leave out are the separators outside of parentheses and
nothing else. A piece is split into itself, and so is an item of a text that has tokens. -/
theorem splitTopLevel_lossless :
    (∀ (separates : Token → Bool) (ts : List Token),
      (∃ es, Extents separates ts 0 es ∧
        splitTopLevel separates ts = es.map (Extent.tokens ts)) ∧
      ∀ piece ∈ splitTopLevel separates ts, splitTopLevel separates piece = [piece]) ∧
    ∀ (sql : Text) (ts : List Token), tokenize sql = .ok ts →
      ∀ item ∈ Items.ofText sql, Items.ofText item = [item] := by
  constructor
  · intro separates ts
    exact ⟨exists_extents separates ts, fun piece mem => splitTopLevel_piece mem⟩
  · intro sql ts read item mem
    exact ofText_item read mem

/-- An item with a comma in parentheses, between two commas nothing, and an item with a parenthesis
that closes nothing. -/
theorem splitTopLevel_lossless_unbalanced :
    tokenize "(a, b),,c)".toList =
        .ok [⟨.openParen, ['('], false⟩, ⟨.word, ['a'], false⟩, ⟨.comma, [','], false⟩,
          ⟨.word, ['b'], true⟩, ⟨.closeParen, [')'], false⟩, ⟨.comma, [','], false⟩,
          ⟨.comma, [','], false⟩, ⟨.word, ['c'], false⟩, ⟨.closeParen, [')'], false⟩] ∧
      "(a, b)".toList ∈ Items.ofText "(a, b),,c)".toList ∧
      Items.ofText "(a, b)".toList = ["(a, b)".toList] := by
  have read : tokenize "(a, b),,c)".toList =
      .ok [⟨.openParen, ['('], false⟩, ⟨.word, ['a'], false⟩, ⟨.comma, [','], false⟩,
        ⟨.word, ['b'], true⟩, ⟨.closeParen, [')'], false⟩, ⟨.comma, [','], false⟩,
        ⟨.comma, [','], false⟩, ⟨.word, ['c'], false⟩, ⟨.closeParen, [')'], false⟩] := by
    decide +kernel
  have mem : "(a, b)".toList ∈ Items.ofText "(a, b),,c)".toList := by decide +kernel
  exact ⟨read, mem, splitTopLevel_lossless.2 _ _ read _ mem⟩

end Token

end SqlGrader
