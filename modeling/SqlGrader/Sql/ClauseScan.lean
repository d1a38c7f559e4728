import SqlGrader.Sql.Section
/-!
# Clauses read from place to place

The clauses of a token list, read off it in one pass over its places. The pass keeps the depth of
parentheses and the section that is open with the place where its text starts. Where the next
section opens, where the query ends and at the end of the tokens the text of the open section is
written, which is that of a slice. There are no clauses if a slice or a place is out of the list.
-/

namespace SqlGrader

/-- Takes a text for a clause that has none. -/
def ClauseSet.orElse (old new : Text) : Text := if old.isEmpty then new else old

/-- Adds the text of a section that is not empty: of its clause the first one counts, and of joins
all of them. -/
def ClauseSet.record (cs : ClauseSet) (kind : ClauseKind) (text : Text) : ClauseSet :=
  if text.isEmpty then cs
  else match kind with
    | .projection => { cs with projection := orElse cs.projection text }
    | .source => { cs with source := orElse cs.source text }
    | .filter => { cs with filter := orElse cs.filter text }
    | .joins => { cs with joins := cs.joins ++ [text] }
    | .grouping => { cs with grouping := orElse cs.grouping text }
    | .ordering => { cs with ordering := orElse cs.ordering text }
    | .having => { cs with having := orElse cs.having text }
    | .limit => { cs with limit := orElse cs.limit text }

/-- No clauses, read from tokens. -/
def ClauseSet.empty : ClauseSet := ⟨[], [], [], [], [], [], [], [], .tokens⟩

namespace ClauseScan

/-- The tokens between two places of the list. -/
def slice? (ts : List Token) (start stop : Nat) : Option (List Token) :=
  if start ≤ stop ∧ stop ≤ ts.length then some ((ts.drop start).take (stop - start)) else none

/-- What a scan finds at a place: how many tokens to pass, the section that opens, and whether its
text starts at the place. -/
structure Found where
  passed : Nat
  slot : Slot
  kept : Bool
  deriving Repr, DecidableEq

/-- The number of tokens of `JOIN` with the modifiers before it, if they stand at the place. -/
def joinWidth? (ts : List Token) (place : Nat) : Option (Option Nat) :=
  (slice? ts place ts.length).bind fun rest =>
    match rest.findIdx? fun t => !Boundary.isJoinModifier t with
    | some n => ts[place + n]?.map fun t => if t.isWord "JOIN" then some (n + 1) else none
    | none => some none

/-- What opens at a place inside of the section `current`. The words of a limit that its text keeps
are not passed. -/
def found? (ts : List Token) (place : Nat) (current : Option Slot) : Option (Option Found) :=
  ts[place]?.bind fun t =>
    let byFollows := ts[place + 1]?.any (·.isWord "BY")
    if t.kind != .word then some none
    else if t.isWord "SELECT" && current.isNone then some (some ⟨1, .clause .projection, false⟩)
    else if t.isWord "FROM" then some (some ⟨1, .clause .source, false⟩)
    else if t.isWord "WHERE" then some (some ⟨1, .clause .filter, false⟩)
    else if t.isWord "GROUP" && byFollows then some (some ⟨2, .clause .grouping, false⟩)
    else if t.isWord "HAVING" then some (some ⟨1, .clause .having, false⟩)
    else if t.isWord "ORDER" && byFollows then some (some ⟨2, .clause .ordering, false⟩)
    else if t.isWord "LIMIT" then some (some ⟨1, .clause .limit, false⟩)
    else if t.isAnyWord ["OFFSET", "FETCH"] && current != some (.clause .limit) then
      some (some ⟨0, .clause .limit, true⟩)
    else if t.isWord "WINDOW" then some (some ⟨1, .unscored, false⟩)
    else if (Boundary.listsTables current && Boundary.isJoinModifier t) || t.isWord "JOIN" then
      (joinWidth? ts place).map (·.map fun n => ⟨n, .clause .joins, true⟩)
    else some none

/-- The section that is open, and the place where its text starts. -/
structure Opened where
  slot : Slot
  start : Nat
  deriving Repr, DecidableEq

/-- Where the scan stands, and the clauses of the sections that it has closed. -/
structure State where
  place : Nat
  depth : Nat
  current : Option Opened
  clauses : ClauseSet
  deriving Repr, DecidableEq

/-- The clauses with the text of the open section, which stops at a place. -/
def close? (ts : List Token) (clauses : ClauseSet) (current : Option Opened) (stop : Nat) :
    Option ClauseSet :=
  match current with
  | some ⟨.clause kind, start⟩ =>
    (slice? ts start stop).map fun part => clauses.record kind (Token.render part)
  | _ => some clauses

/-- The clauses, from a state of the scan on. -/
def run? (ts : List Token) (s : State) : Option ClauseSet :=
  match _here : ts[s.place]? with
  | none => close? ts s.clauses s.current (min s.place ts.length)
  | some t =>
    match t.kind with
    | .openParen => run? ts { s with place := s.place + 1, depth := s.depth + 1 }
    | .closeParen => run? ts { s with place := s.place + 1, depth := s.depth - 1 }
    | _ =>
      if s.depth = 0 then
        if s.current.isSome && Section.endsQuery t then
          close? ts s.clauses s.current (min s.place ts.length)
        else
          match found? ts s.place (s.current.map (·.slot)) with
          | none => none
          | some none => run? ts { s with place := s.place + 1 }
          | some (some f) =>
            (close? ts s.clauses s.current s.place).bind fun clauses =>
              run? ts
                { place := s.place + max f.passed 1
                  depth := s.depth
                  current := some ⟨f.slot, if f.kept then s.place else s.place + f.passed⟩
                  clauses := clauses }
      else run? ts { s with place := s.place + 1 }
termination_by ts.length - s.place
decreasing_by
  all_goals
    obtain ⟨inside, -⟩ := List.getElem?_eq_some_iff.1 _here
    omega

/-- The clauses of a token list. -/
def clauses? (ts : List Token) : Option ClauseSet := run? ts ⟨0, 0, none, .empty⟩

end ClauseScan

end SqlGrader
