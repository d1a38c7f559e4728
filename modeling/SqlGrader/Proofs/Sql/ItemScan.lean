import SqlGrader.Proofs.Sql.ClauseTokens
import SqlGrader.Proofs.Sql.Openings
import SqlGrader.Proofs.Sql.Quotes
/-!
# Items that are cut out of characters

The items of a text that leaves something open are cut out of its characters, with the open quote
and the open parentheses counted. On a text that can be read, holds no comment and closes no
parenthesis too much, this finds the same items as the cut between tokens: each is the text of the
same tokens, with the white space between them as it was written.
-/

namespace SqlGrader.Items

open Token Lexer

variable {c : Char} {quote : Option Char} {x y rest t : Text} {xs ys : List Text} {spaced : Bool}
  {depth depth' : Nat} {u : Token} {ts p : List Token} {ps : List (List Token)}

/-! ### One step of the cut -/

theorem free_of_blank (blank : isGapChar c) : ∀ d ∈ outside none [c], d ∉ ['(', ')', ','] := by
  rw [outside_blank blank]
  intro d mem mark
  obtain rfl := List.mem_singleton.mp mem
  have noGap : ['(', ')', ','].all (!isGapChar ·) := by decide
  simpa [blank] using List.all_eq_true.mp noGap d mark

/-- Pieces of a text and pieces of its tokens, such that each piece of the text is read as its
piece of the tokens. The text starts with its first piece. -/
inductive Cut (spaced : Bool) (t : Text) : List Text → List (List Token) → Prop
  | pieces {x : Text} {xs : List Text} {p : List Token} {ps : List (List Token)} (start : x <+: t)
      (first : ReadsTo spaced x p) (others : List.Forall₂ (ReadsTo false) xs ps) :
      Cut spaced t (x :: xs) (p :: ps)

namespace Cut

theorem gap (cut : Cut true rest xs ps) (blank : isGapChar c) :
    Cut spaced (c :: rest) (consHead c xs) ps := by
  cases cut with
  | pieces start first others =>
      exact .pieces (List.cons_prefix_cons.mpr ⟨rfl, start⟩) (.gap blank first) others

/-- A token goes to the first piece on both sides. -/
theorem token (cut : Cut false rest xs ps) (reads : u.ReadsBefore rest) (plain : u.Plain) :
    Cut u.spaced (u.text ++ rest) (u.text.foldr consHead xs) (Token.consHead u ps) := by
  cases cut with
  | @pieces x xs p ps start first others =>
      have whole (z : Text) : z.foldr consHead (x :: xs) = (z ++ x) :: xs := by
        induction z with
        | nil => rfl
        | cons c z ih => rw [List.foldr_cons, ih]; rfl
      obtain ⟨more, rfl⟩ := start
      have alone : u.ReadsBefore x := reads.echo (.of_isPrefix x more)
      rw [whole]
      exact .pieces ⟨more, by rw [List.append_assoc]⟩ (.token alone plain first) others

theorem forall₂ (cut : Cut false t xs ps) : List.Forall₂ (ReadsTo false) xs ps := by
  cases cut with
  | pieces _ first others => exact .cons first others

theorem separate (cut : Cut false rest xs ps) : Cut spaced t ([] :: xs) ([] :: ps) := by
  cases cut with
  | pieces _ first others => exact .pieces List.nil_prefix (.nil spaced) (.cons first others)

end Cut

/-- Characters that neither separate nor open or close a parenthesis outside of quotes go to the
first piece. -/
theorem scanFrom_append (free : ∀ c ∈ outside quote x, c ∉ ['(', ')', ',']) (depth : Int) :
    scanFrom quote depth (x ++ rest) =
      x.foldr consHead (scanFrom (quoteBehind quote x) depth rest) := by
  induction x generalizing quote with
  | nil => rfl
  | cons c x ih =>
      have step : scanFrom quote depth (c :: (x ++ rest)) =
          consHead c (scanFrom (quoteAfter quote c) depth (x ++ rest)) := by
        cases quote with
        | some q => rfl
        | none =>
            by_cases opens : c = '\'' ∨ c = '"'
            · simp [scanFrom, quoteAfter, opens]
            · have stays : quoteAfter none c = none := if_neg (by simpa using opens)
              have other := free c (by simp [outside, stays])
              simp only [List.mem_cons, List.not_mem_nil, or_false, not_or] at other
              simp [scanFrom, stays, not_or.mp opens, other]
      have later : ∀ d ∈ outside (quoteAfter quote c) x, d ∉ ['(', ')', ','] := by
        intro d mem
        apply free d
        rw [outside]
        split
        · exact List.mem_cons_of_mem c mem
        · exact mem
      rw [List.cons_append, step, ih later]
      rfl

/-- A token that does not separate goes to the first piece. -/
theorem piecesFrom_token (kept : u.isParen ∨ depth ≠ 0 ∨ isComma u = false) (ts : List Token) :
    piecesFrom (fun (_ : Unit) t => ((), isComma t)) () depth (u :: ts) =
      Token.consHead u
        (piecesFrom (fun (_ : Unit) t => ((), isComma t)) () (u.depthAfter depth) ts) := by
  rw [piecesFrom]
  split
  · rfl
  next here =>
    have outermost : u.isParen = false ∧ depth = 0 := by simpa using here
    have other : isComma u = false := by
      rcases kept with paren | deep | other
      · simp [outermost.1] at paren
      · exact absurd outermost.2 deep
      · exact other
    simp [other, depthAfter_of_not_isParen depth outermost.1]

/-- Characters that are no parentheses outside of quotes leave as many of them open. -/
theorem staysOpen_of_free (stays : StaysOpen depth (x ++ y)) (closed : quoteBehind none x = none)
    (free : ∀ c ∈ outside none x, c ∉ ['(', ')', ',']) : StaysOpen depth y := by
  have none (m : Char) (mark : m ∈ ['(', ')', ',']) : (outside none x).count m = 0 :=
    List.count_eq_zero.mpr fun mem => free m mem mark
  apply stays.later closed
  rw [none ')' (by simp), none '(' (by simp)]

/-! ### The whole cut -/

/-- Whether the cut of a text and the cut of its tokens go together at a depth. -/
def CutsAlike (spaced : Bool) (t : Text) (depth : Nat) (ts : List Token) : Prop :=
  Cut spaced t (scanFrom none depth t)
    (piecesFrom (fun (_ : Unit) t => ((), isComma t)) () depth ts)

namespace CutsAlike

theorem gap (later : CutsAlike true rest depth ts) (blank : isGapChar c) :
    CutsAlike spaced (c :: rest) depth ts := by
  have step : scanFrom none depth (c :: rest) = consHead c (scanFrom none depth rest) := by
    have closed : quoteBehind none [c] = none := quoteAfter_blank blank
    have whole : scanFrom none depth ([c] ++ rest) = _ :=
      scanFrom_append (free_of_blank blank) depth
    rwa [closed] at whole
  rw [CutsAlike, step]
  exact Cut.gap later blank

variable (reads : u.ReadsBefore rest) (plain : u.Plain)
include reads plain

/-- Most tokens neither separate nor change the depth. -/
theorem kept (later : CutsAlike false rest depth ts)
    (free : ∀ c ∈ outside none u.text, c ∉ ['(', ')', ','])
    (other : u.isParen = false ∧ isComma u = false) :
    CutsAlike u.spaced (u.text ++ rest) depth (u :: ts) := by
  rw [CutsAlike, scanFrom_append free, (role_of_reads reads).closed,
    piecesFrom_token (.inr (.inr other.2)), depthAfter_of_not_isParen depth other.1]
  exact later.token reads plain

theorem opening (later : CutsAlike false rest (depth + 1) ts) (kind : u.kind = .openParen)
    (text : u.text = ['(']) : CutsAlike u.spaced (u.text ++ rest) depth (u :: ts) := by
  have deeper : u.depthAfter depth = depth + 1 := by simp [depthAfter, kind]
  have step : scanFrom none depth (u.text ++ rest) =
      u.text.foldr consHead (scanFrom none (depth + 1 : Nat) rest) := by
    simp [text, scanFrom]
  rw [CutsAlike, step, piecesFrom_token (.inl (by simp [isParen, kind])), deeper]
  exact later.token reads plain

theorem closing (later : CutsAlike false rest depth ts) (kind : u.kind = .closeParen)
    (text : u.text = [')']) : CutsAlike u.spaced (u.text ++ rest) (depth + 1) (u :: ts) := by
  have shallower : u.depthAfter (depth + 1) = depth := by simp [depthAfter, kind]
  have step : scanFrom none (depth + 1 : Nat) (u.text ++ rest) =
      u.text.foldr consHead (scanFrom none depth rest) := by
    simp [text, scanFrom]
  rw [CutsAlike, step, piecesFrom_token (.inl (by simp [isParen, kind])), shallower]
  exact later.token reads plain

/-- A comma separates outside of parentheses only. -/
theorem comma (later : CutsAlike false rest depth ts) (kind : u.kind = .comma)
    (text : u.text = [',']) : CutsAlike u.spaced (u.text ++ rest) depth (u :: ts) := by
  have noParen : u.isParen = false := by simp [isParen, kind]
  have separates : isComma u := by simp [isComma, kind]
  cases depth with
  | zero =>
      have step : scanFrom none (0 : Nat) (u.text ++ rest) =
          [] :: scanFrom none (0 : Nat) rest := by
        simp [text, scanFrom]
      rw [CutsAlike, step, piecesFrom]
      simp only [noParen, separates, bne_self_eq_false, Bool.or_self, if_true]
      exact Cut.separate later
  | succ depth =>
      have deep : (depth : Int) + 1 ≠ 0 := by omega
      have step : scanFrom none (depth + 1 : Nat) (u.text ++ rest) =
          u.text.foldr consHead (scanFrom none (depth + 1 : Nat) rest) := by
        simp [text, scanFrom, deep]
      rw [CutsAlike, step, piecesFrom_token (.inr (.inl (Nat.succ_ne_zero depth))),
        depthAfter_of_not_isParen _ noParen]
      exact later.token reads plain

end CutsAlike

/-- As long as no parenthesis closes too much both cuts go together. The induction is on the reading
of the text, with a case for each kind of token. -/
theorem cutsAlike_of_readsTo (reading : ReadsTo spaced t ts) (stays : StaysOpen depth t) :
    CutsAlike spaced t depth ts := by
  induction reading generalizing depth with
  | nil spaced => exact .pieces List.nil_prefix (.nil spaced) .nil
  | @gap spaced c rest ts blank _ ih =>
      have later : StaysOpen depth rest :=
        staysOpen_of_free (x := [c]) stays (quoteAfter_blank blank) (free_of_blank blank)
      exact (ih later).gap blank
  | @token u rest ts reads plain _ ih =>
      have role := role_of_reads reads
      have closed := role.closed
      cases role with
      | quoted kind _ inside =>
          have free : ∀ c ∈ outside none u.text, c ∉ ['(', ')', ','] := by simp [inside]
          apply (ih (staysOpen_of_free stays closed free)).kept reads plain free
          rcases kind with kind | kind <;> simp [isParen, isComma, kind]
      | plain kind unmarked =>
          have free : ∀ c ∈ outside none u.text, c ∉ ['(', ')', ','] := by
            intro c mem mark
            apply unmarked c (outside_subset none u.text mem)
            exact List.mem_cons_of_mem _ (List.mem_cons_of_mem _ mark)
          apply (ih (staysOpen_of_free stays closed free)).kept reads plain free
          rcases kind with kind | kind | kind <;> simp [isParen, isComma, kind]
      | opening kind text =>
          have later : StaysOpen (depth + 1) rest := by
            apply stays.later closed
            rw [text]
            rfl
          exact (ih later).opening reads plain kind text
      | closing kind text =>
          have isOpen : 1 ≤ depth := by
            have closes := stays.append closed ((List.mem_inits [] rest).mpr List.nil_prefix)
            simpa [text, outside, quoteAfter] using closes
          obtain ⟨depth, rfl⟩ := Nat.exists_eq_add_of_le' isOpen
          have later : StaysOpen depth rest := by
            apply stays.later closed
            rw [text]
            rfl
          exact (ih later).closing reads plain kind text
      | comma kind text =>
          have later : StaysOpen depth rest := by
            apply stays.later closed
            rw [text]
            rfl
          exact (ih later).comma reads plain kind text

/-! ### Items -/

/-- Whether a text is read back as the item: its tokens, rendered, are the item. -/
def ReadsBackAs (text item : Text) : Prop := ∃ ts, tokenize text = .ok ts ∧ render ts = item

/-- Pieces without tokens are blank, and all others are read as the same tokens once trimmed. -/
theorem forall₂_trimmed (others : List.Forall₂ (ReadsTo false) xs ps) :
    List.Forall₂ ReadsBackAs (trimmed xs) ((ps.filter fun p => !p.isEmpty).map render) := by
  rw [trimmed]
  induction others with
  | nil => exact .nil
  | @cons x p xs ps here _ ih =>
      have neat := here.trim
      rw [List.map_cons]
      by_cases none : p = []
      · subst none
        rw [here.trim_eq_nil, List.filter_cons_of_neg (by simp), List.filter_cons_of_neg (by simp)]
        exact ih
      · have some : Text.trim x ≠ [] := by
          intro empty
          rw [empty] at neat
          exact marked_ne_nil none false neat.eq_nil
        rw [List.filter_cons_of_pos (by simpa using some),
          List.filter_cons_of_pos (by simpa using none), List.map_cons]
        exact .cons ⟨_, tokenize_of_scan neat.scan, render_marked false p⟩ ih

/-- On a text that can be read, without a comment, with no other white space outside of quotes than
the lexer passes over, and in which no front closes more parentheses outside of quotes than it
opens, the cut between characters finds as many items as the cut between tokens, and each is read
back as the item in its place. -/
theorem forall₂_scan_ofText (read : tokenize t = .ok ts) (uncommented : holdsComment none t = false)
    (blanks : ∀ c ∈ outside none t, Text.isBlank c → isGapChar c) (stays : StaysOpen 0 t) :
    List.Forall₂ ReadsBackAs (scan t) (ofText t) := by
  have reading := readsTo_of_scan (scan_of_tokenize read) uncommented blanks
  have cut : Cut false t (scanFrom none 0 t)
      (piecesFrom (fun (_ : Unit) t => ((), isComma t)) () 0 ts) :=
    cutsAlike_of_readsTo reading stays
  rw [ofText, read]
  exact forall₂_trimmed cut.forall₂

/-- A comma in parentheses, nothing between two commas, a quote of one kind in one of the other
kind, a doubled quote beside a comma and a parenthesis, and white space around an item. -/
def quotedItems : Text := "f(a,\t b),, \"x'y\" ||'it''s, (' \n,c".toList

theorem forall₂_scan_ofText_quoted :
    tokenize quotedItems = .ok (tokensOf quotedItems) ∧ holdsComment none quotedItems = false ∧
      (∀ c ∈ outside none quotedItems, Text.isBlank c → isGapChar c) ∧ StaysOpen 0 quotedItems ∧
      List.Forall₂ ReadsBackAs (["f(a,\t b)", "\"x'y\" ||'it''s, ('", "c"].map String.toList)
        (["f(a, b)", "\"x'y\" ||'it''s, ('", "c"].map String.toList) := by
  have read : tokenize quotedItems = .ok (tokensOf quotedItems) := by decide +kernel
  have uncommented : holdsComment none quotedItems = false := by decide +kernel
  have blanks : ∀ c ∈ outside none quotedItems, Text.isBlank c → isGapChar c := by
    have all : (outside none quotedItems).all fun c => !Text.isBlank c || isGapChar c := by
      decide +kernel
    intro c mem blank
    simpa [blank] using List.all_eq_true.mp all c mem
  have stays : StaysOpen 0 quotedItems := by decide +kernel
  have items := forall₂_scan_ofText read uncommented blanks stays
  have scanned : scan quotedItems =
      ["f(a,\t b)", "\"x'y\" ||'it''s, ('", "c"].map String.toList := by decide +kernel
  have cut : ofText quotedItems =
      ["f(a, b)", "\"x'y\" ||'it''s, ('", "c"].map String.toList := by decide +kernel
  rw [scanned, cut] at items
  exact ⟨read, uncommented, blanks, stays, items⟩

end SqlGrader.Items
