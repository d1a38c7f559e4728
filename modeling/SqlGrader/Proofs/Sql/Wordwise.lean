import SqlGrader.Proofs.Text.Cuts
import SqlGrader.Proofs.Text.Runs
import SqlGrader.Proofs.Text.Trim
import SqlGrader.Sql.Wordwise
/-!
# The word-by-word normal form is stable

Reading a statement word by word replaces comments and white space by spaces and
changes the case of letters, and no step brings back what a step before it took
away: a mark of two characters in the result stood in the statement already. A
text that came out of `Wordwise.normalize` is *tidy*, and on tidy texts nothing
is left to clean. With its keywords in capitals too it is *settled*, and the
settled texts are those that are their own normal form.
-/

namespace SqlGrader.Wordwise

variable {c d : Char} {s t u : Text}

/-! ### Texts with parts replaced by spaces -/

/-- The second text is the first, letter case aside, with stretches of it
replaced by spaces. -/
inductive Redacted : Text → Text → Prop
  | nil : Redacted [] []
  | keep {c d : Char} {t u : Text} :
      c.toUpper = d.toUpper → Redacted t u → Redacted (c :: t) (d :: u)
  | space (gone : Text) {t u : Text} : Redacted t u → Redacted (gone ++ t) (' ' :: u)

namespace Redacted

theorem of_upper (same : Text.upper t = Text.upper u) : Redacted t u := by
  induction u generalizing t with
  | nil =>
      have : t = [] := by simpa [Text.upper] using same
      exact this ▸ .nil
  | cons d u ih =>
      cases t with
      | nil => simp [Text.upper] at same
      | cons c t =>
          simp only [Text.upper, List.map_cons, List.cons.injEq] at same
          exact .keep same.1 (ih same.2)

theorem uncons (redacted : Redacted t (d :: u)) (mark : d ≠ ' ') :
    ∃ c t', t = c :: t' ∧ c.toUpper = d.toUpper ∧ Redacted t' u := by
  cases redacted with
  | keep same rest => exact ⟨_, _, rfl, same, rest⟩
  | space => exact absurd rfl mark

/-- A part of the second text comes from a part of the first. -/
theorem split {v : Text} (redacted : Redacted t (u ++ v)) :
    ∃ t₁ t₂, t = t₁ ++ t₂ ∧ Redacted t₁ u ∧ Redacted t₂ v := by
  induction u generalizing t with
  | nil => exact ⟨[], t, rfl, .nil, redacted⟩
  | cons d u ih =>
      cases redacted with
      | keep same rest =>
          obtain ⟨t₁, t₂, rfl, left, right⟩ := ih rest
          exact ⟨_ :: t₁, t₂, rfl, .keep same left, right⟩
      | space gone rest =>
          obtain ⟨t₁, t₂, rfl, left, right⟩ := ih rest
          exact ⟨gone ++ t₁, t₂, (List.append_assoc ..).symm, .space gone left, right⟩

/-- What has no letters and no spaces is where it was. -/
theorem of_caseless {mark : Text} (caseless : ∀ d ∈ mark, d.isAlpha = false ∧ d ≠ ' ')
    (redacted : Redacted t mark) :
    t = mark := by
  induction mark generalizing t with
  | nil =>
      cases redacted
      rfl
  | cons d mark ih =>
      have here := caseless d (by simp)
      obtain ⟨c, t', rfl, same, rest⟩ := redacted.uncons here.2
      rw [Text.eq_of_toUpper_eq same here.1, ih (fun d mem => caseless d (by simp [mem])) rest]

end Redacted

/-! ### Comment marks -/

/-- No line comment starts in the text. -/
def NoLineComment (t : Text) : Prop := ¬ ['-', '-'] <:+: t

/-- No block comment starts and ends in the text. -/
def NoBlockComment (t : Text) : Prop :=
  ∀ before body after, t ≠ before ++ (['/', '*'] ++ (body ++ (['*', '/'] ++ after)))

theorem NoLineComment.redacted (free : NoLineComment t) (redacted : Redacted t u) :
    NoLineComment u := by
  rintro ⟨before, after, rfl⟩
  rw [List.append_assoc] at redacted
  obtain ⟨t₁, t₂, rfl, -, rest⟩ := redacted.split
  obtain ⟨mark, t₃, rfl, mark', -⟩ := rest.split
  obtain rfl := mark'.of_caseless (by simp)
  exact free ⟨t₁, t₃, by simp⟩

theorem NoBlockComment.redacted (free : NoBlockComment t) (redacted : Redacted t u) :
    NoBlockComment u := by
  rintro before body after rfl
  obtain ⟨t₁, t₂, rfl, -, rest⟩ := redacted.split
  obtain ⟨opening, t₃, rfl, opening', rest⟩ := rest.split
  obtain ⟨inner, t₄, rfl, -, rest⟩ := rest.split
  obtain ⟨closing, t₅, rfl, closing', -⟩ := rest.split
  obtain rfl := opening'.of_caseless (by simp)
  obtain rfl := closing'.of_caseless (by simp)
  exact free t₁ inner t₅ rfl

theorem NoLineComment.of_isInfix (free : NoLineComment t) (part : u <:+: t) : NoLineComment u :=
  fun mark => free (mark.trans part)

theorem NoBlockComment.of_isInfix (free : NoBlockComment t) (part : u <:+: t) :
    NoBlockComment u := by
  obtain ⟨before, after, rfl⟩ := part
  rintro before' body after' rfl
  exact free (before ++ before') body (after' ++ after) (by simp)

/-! ### What each step leaves -/

theorem head_dropBlockComments (t : Text) :
    (dropBlockComments t).head? = t.head? ∨ (dropBlockComments t).head? = some ' ' := by
  fun_cases dropBlockComments t <;> simp

theorem noBlockComment_dropBlockComments (t : Text) : NoBlockComment (dropBlockComments t) := by
  fun_induction dropBlockComments t with
  | case1 =>
      intro before body after same
      simp at same
  | case2 c cs opens body rest closes ih =>
      intro before inner after same
      cases before with
      | nil => simp at same
      | cons b before => exact ih before inner after (List.cons.inj same).2
  | case3 c cs opens unclosed =>
      intro before inner after same
      refine Text.cut?_ne_none ?_ unclosed
      match before with
      | [] =>
          rw [(List.cons.inj same).2]
          exact ⟨inner, after, by simp⟩
      | [_] =>
          simp [(List.cons.inj same).2] at opens
      | _ :: _ :: before =>
          rw [(List.cons.inj same).2]
          exact ⟨before ++ (['/', '*'] ++ inner), after, by simp⟩
  | case4 c cs other ih =>
      intro before inner after same
      cases before with
      | nil =>
          obtain ⟨rfl, rest⟩ := List.cons.inj same
          rcases head_dropBlockComments cs with head | head
          · rw [rest] at head
            exact other (by simp [← head])
          · rw [rest] at head
            simp at head
      | cons b before => exact ih before inner after (List.cons.inj same).2

theorem head_dropLineComments (t : Text) :
    (dropLineComments t).head? = t.head? ∨ (dropLineComments t).head? = some ' ' := by
  fun_cases dropLineComments t <;> simp

theorem redacted_dropLineComments (t : Text) : Redacted t (dropLineComments t) := by
  fun_induction dropLineComments t with
  | case1 => exact .nil
  | case2 c cs opens ih =>
      have whole : c :: cs = (c :: cs.takeWhile (· != '\n')) ++ cs.dropWhile (· != '\n') := by
        rw [List.cons_append, List.takeWhile_append_dropWhile]
      rw [whole]
      exact .space _ ih
  | case3 c cs other ih => exact .keep rfl ih

theorem noLineComment_dropLineComments (t : Text) : NoLineComment (dropLineComments t) := by
  fun_induction dropLineComments t with
  | case1 => simp [NoLineComment]
  | case2 c cs opens ih =>
      intro part
      rcases List.infix_cons_iff.mp part with ⟨rest, start⟩ | inside
      · simp at start
      · exact ih inside
  | case3 c cs other ih =>
      intro part
      rcases List.infix_cons_iff.mp part with ⟨rest, start⟩ | inside
      · obtain ⟨rfl, rest'⟩ := List.cons.inj start
        rcases head_dropLineComments cs with head | head
        · rw [← rest'] at head
          exact other (by simp [← head])
        · rw [← rest'] at head
          simp at head
      · exact ih inside

/-- Every blank is a space with something else after it. -/
def SingleSpaced : Text → Prop
  | [] => True
  | c :: cs =>
    (Text.isBlank c → c = ' ' ∧ ¬ cs.head?.any Text.isBlank) ∧ SingleSpaced cs

theorem singleSpaced_collapseBlanks (goesOn : Bool) (t : Text) :
    SingleSpaced (collapseBlanks goesOn t) ∧
      (goesOn → ¬ (collapseBlanks goesOn t).head?.any Text.isBlank) := by
  fun_induction collapseBlanks goesOn t with
  | case1 => simp [SingleSpaced]
  | case2 c cs blank ih => exact ih
  | case3 goesOn c cs blank here ih => exact ⟨⟨fun _ => ⟨rfl, ih.2 rfl⟩, ih.1⟩, by simp [here]⟩
  | case4 goesOn c cs other ih => exact ⟨⟨fun blank => absurd blank other, ih.1⟩, by simp [other]⟩

/-- White space that goes on from before the text is gone. -/
theorem redacted_collapseBlanks (t : Text) :
    Redacted t (collapseBlanks false t) ∧
      ∃ gone rest, t = gone ++ rest ∧ Redacted rest (collapseBlanks true t) := by
  induction t with
  | nil => exact ⟨.nil, [], [], rfl, .nil⟩
  | cons c cs ih =>
      obtain ⟨kept, gone, rest, rfl, after⟩ := ih
      by_cases blank : Text.isBlank c
      · simp only [collapseBlanks, blank, if_true]
        exact ⟨.space (c :: gone) after, c :: gone, rest, rfl, after⟩
      · simp only [collapseBlanks, blank]
        exact ⟨.keep rfl kept, [], _, rfl, .keep rfl kept⟩

/-! ### Tidy texts -/

/-- A text in which nothing is left to clean. -/
structure Tidy (t : Text) : Prop where
  noLineComment : NoLineComment t
  noBlockComment : NoBlockComment t
  singleSpaced : SingleSpaced t
  head_not_blank : ∀ c ∈ t.head?, ¬ Text.isBlank c
  last_not_blank : ∀ c ∈ t.getLast?, ¬ Text.isBlank c
  last_not_semicolon : ∀ c ∈ t.getLast?, c ≠ ';'

namespace SingleSpaced

theorem of_suffix (spaced : SingleSpaced t) (part : u <:+ t) : SingleSpaced u := by
  obtain ⟨before, rfl⟩ := part
  induction before with
  | nil => exact spaced
  | cons c before ih => exact ih spaced.2

theorem of_isPrefix (spaced : SingleSpaced t) (part : u <+: t) : SingleSpaced u := by
  obtain ⟨after, rfl⟩ := part
  induction u with
  | nil => trivial
  | cons c u ih =>
      refine ⟨fun blank => ⟨(spaced.1 blank).1, fun next => (spaced.1 blank).2 ?_⟩, ih spaced.2⟩
      cases u with
      | nil => simp at next
      | cons d u => exact next

theorem of_upper (spaced : SingleSpaced t) (same : Text.upper t = Text.upper u) :
    SingleSpaced u := by
  induction u generalizing t with
  | nil => trivial
  | cons d u ih =>
      cases t with
      | nil => simp [Text.upper] at same
      | cons c t =>
          simp only [Text.upper, List.map_cons, List.cons.injEq] at same
          obtain ⟨here, rest⟩ := same
          refine ⟨fun blank => ?_, ih spaced.2 rest⟩
          have blank' : Text.isBlank c := by
            rwa [← Text.isBlank_toUpper, here, Text.isBlank_toUpper]
          obtain ⟨rfl, alone⟩ := spaced.1 blank'
          refine ⟨(Text.eq_of_toUpper_eq here.symm (by decide)), fun next => alone ?_⟩
          obtain ⟨e, head, nextBlank⟩ := (Option.any_eq_true _ _).mp next
          obtain ⟨e', head', same'⟩ := Text.head?_of_upper_eq rest head
          rw [head', Option.any_some, ← Text.isBlank_toUpper, same', Text.isBlank_toUpper]
          exact nextBlank

end SingleSpaced

theorem not_of_mem_getLast?_rdropWhile {p : Char → Bool} (mem : c ∈ (t.rdropWhile p).getLast?) :
    ¬ p c := by
  obtain ⟨nonempty, rfl⟩ := List.mem_getLast?_eq_getLast mem
  exact List.rdropWhile_last_not p t nonempty

/-- What is left of a statement is tidy. -/
theorem tidy_clean (sql : Text) : Tidy (clean sql) := by
  let spaced := collapseBlanks false (dropLineComments (dropBlockComments sql))
  let started := spaced.dropWhile Text.isBlank
  have start : started <:+ spaced := List.dropWhile_suffix _
  have ends : clean sql <+: started :=
    (List.rdropWhile_prefix _ _).trans (List.rdropWhile_prefix _ _)
  have part : clean sql <:+: spaced := ends.isInfix.trans start.isInfix
  have collapsed := redacted_collapseBlanks (dropLineComments (dropBlockComments sql))
  have last : ∀ c ∈ (clean sql).getLast?, ¬ (c == ';' || Text.isBlank c) :=
    fun c mem => not_of_mem_getLast?_rdropWhile mem
  simp only [Bool.or_eq_true, beq_iff_eq, not_or] at last
  constructor
  · exact ((noLineComment_dropLineComments _).redacted collapsed.1).of_isInfix part
  · exact (((noBlockComment_dropBlockComments sql).redacted
      (redacted_dropLineComments _)).redacted collapsed.1).of_isInfix part
  · exact ((singleSpaced_collapseBlanks false _).1.of_suffix start).of_isPrefix ends
  · intro c mem blank
    obtain ⟨after, whole⟩ := ends
    obtain ⟨rest, head⟩ := List.head?_eq_some_iff.mp mem
    rw [head] at whole
    refine Text.not_head?_dropWhile Text.isBlank spaced ?_
    change started.head?.any Text.isBlank
    simp [← whole, blank]
  · exact fun c mem => (last c mem).2
  · exact fun c mem => (last c mem).1

theorem Tidy.of_upper (tidy : Tidy t) (same : Text.upper t = Text.upper u) : Tidy u := by
  have redacted := Redacted.of_upper same
  constructor
  · exact tidy.noLineComment.redacted redacted
  · exact tidy.noBlockComment.redacted redacted
  · exact tidy.singleSpaced.of_upper same
  · intro d mem blank
    obtain ⟨c, mem', case'⟩ := Text.head?_of_upper_eq same mem
    exact tidy.head_not_blank c mem' (by rwa [← Text.isBlank_toUpper, case', Text.isBlank_toUpper])
  · intro d mem blank
    obtain ⟨c, mem', case'⟩ := Text.getLast?_of_upper_eq same mem
    exact tidy.last_not_blank c mem' (by rwa [← Text.isBlank_toUpper, case', Text.isBlank_toUpper])
  · rintro d mem rfl
    obtain ⟨c, mem', case'⟩ := Text.getLast?_of_upper_eq same mem
    exact tidy.last_not_semicolon c mem' (Text.eq_of_toUpper_eq case' (by decide))

theorem dropBlockComments_of_free (free : NoBlockComment t) : dropBlockComments t = t := by
  fun_induction dropBlockComments t with
  | case1 => rfl
  | case2 c cs opens body rest closes =>
      simp only [Bool.and_eq_true, decide_eq_true_eq, beq_iff_eq] at opens
      obtain ⟨rfl, starts⟩ := opens
      obtain ⟨inside, rfl⟩ := List.head?_eq_some_iff.mp starts
      have whole := Text.eq_append_of_cut? closes
      rw [List.tail_cons] at whole
      exact absurd (by simp [whole]) (free [] body rest)
  | case3 => rfl
  | case4 c cs other ih => rw [ih (free.of_isInfix (List.suffix_cons c cs).isInfix)]

theorem dropLineComments_of_free (free : NoLineComment t) : dropLineComments t = t := by
  fun_induction dropLineComments t with
  | case1 => rfl
  | case2 c cs opens =>
      simp only [Bool.and_eq_true, decide_eq_true_eq, beq_iff_eq] at opens
      obtain ⟨rfl, starts⟩ := opens
      obtain ⟨inside, rfl⟩ := List.head?_eq_some_iff.mp starts
      exact absurd ⟨[], inside, rfl⟩ free
  | case3 c cs other ih => rw [ih (free.of_isInfix (List.suffix_cons c cs).isInfix)]

theorem collapseBlanks_of_singleSpaced (spaced : SingleSpaced t) :
    collapseBlanks false t = t ∧ (¬ t.head?.any Text.isBlank → collapseBlanks true t = t) := by
  induction t with
  | nil => exact ⟨rfl, fun _ => rfl⟩
  | cons c cs ih =>
      obtain ⟨fresh, goesOn⟩ := ih spaced.2
      by_cases blank : Text.isBlank c
      · obtain ⟨rfl, alone⟩ := spaced.1 blank
        simp [collapseBlanks, blank, goesOn alone]
      · simp [collapseBlanks, blank, fresh]

/-- On a tidy text nothing is left to do. -/
theorem clean_of_tidy (tidy : Tidy t) : clean t = t := by
  have ends : Text.Trimmed t := ⟨tidy.head_not_blank, tidy.last_not_blank⟩
  rw [clean, dropBlockComments_of_free tidy.noBlockComment,
    dropLineComments_of_free tidy.noLineComment,
    (collapseBlanks_of_singleSpaced tidy.singleSpaced).1, ends.trim]
  refine Text.dropEndWhile_eq_self fun c mem => ?_
  simp only [Bool.or_eq_true, beq_iff_eq, not_or]
  exact ⟨tidy.last_not_semicolon c mem, tidy.last_not_blank c mem⟩

/-! ### Capitals for keywords -/

theorem foldChar_toUpper (c : Char) : Run.foldChar c.toUpper = Run.foldChar c := by
  obtain same | ⟨small, capital, low, low', -⟩ := Text.toUpper_cases c
  · rw [same]
  · have ascii : ∀ d : Char, d.toNat < 128 → Run.foldChar d = d.toUpper := by
      intro d low
      have noS : d ≠ '\u017f' := by
        rintro rfl
        exact absurd low (by decide)
      have noK : d ≠ '\u212a' := by
        rintro rfl
        exact absurd low (by decide)
      rw [Run.foldChar, if_neg noS, if_neg noK]
    rw [ascii c low, ascii c.toUpper low', Text.toUpper_toUpper]

/-- The run with its text in capitals if it is a keyword. -/
def foldedRun (r : Run) : Run := ⟨r.isWord, foldRun r⟩

theorem upper_foldRun (r : Run) : Text.upper (foldRun r) = Text.upper r.text := by
  unfold foldRun
  split <;> simp

theorem foldRun_foldedRun (r : Run) : foldRun (foldedRun r) = foldRun r := by
  by_cases keyword : r.isWord && Keyword.isFoldable (r.text.map Run.foldChar)
  · have capitals : foldRun r = Text.upper r.text := if_pos keyword
    have same : (Text.upper r.text).map Run.foldChar = r.text.map Run.foldChar := by
      simp [Text.upper, foldChar_toUpper]
    simp only [foldedRun, capitals]
    rw [foldRun, same, if_pos keyword, Text.upper_upper]
  · have kept : foldRun r = r.text := if_neg keyword
    simp only [foldedRun, kept]

theorem upper_foldKeywords (t : Text) : Text.upper (foldKeywords t) = Text.upper t := by
  have runs : ∀ rs : List Run, Text.upper (rs.flatMap foldRun) = Text.upper (Run.toText rs) := by
    intro rs
    induction rs with
    | nil => rfl
    | cons r rs ih =>
        have here := upper_foldRun r
        simp_all [Text.upper, Run.toText]
  rw [foldKeywords, runs, Run.toText_ofText]

theorem foldKeywords_foldKeywords (t : Text) :
    foldKeywords (foldKeywords t) = foldKeywords t := by
  have maximal : Run.Maximal ((Run.ofText t).map foldedRun) :=
    Run.maximal_map (fun _ => rfl) upper_foldRun (Run.maximal_ofText t)
  have folded : foldKeywords t = Run.toText ((Run.ofText t).map foldedRun) := by
    rw [foldKeywords, Run.toText, List.flatMap_map]
    rfl
  have again : foldRun ∘ foldedRun = foldRun := funext foldRun_foldedRun
  conv_lhs => rw [foldKeywords, folded, Run.ofText_toText maximal, List.flatMap_map]
  rw [foldKeywords]
  exact congrArg (List.flatMap · (Run.ofText t)) again

theorem tidy_normalize (sql : Text) : Tidy (normalize sql) :=
  (tidy_clean sql).of_upper (upper_foldKeywords _).symm

/-- A second reading word by word changes nothing. -/
theorem normalize_normalize (sql : Text) : normalize (normalize sql) = normalize sql := by
  conv_lhs => rw [normalize, clean_of_tidy (tidy_normalize sql)]
  exact foldKeywords_foldKeywords _

/-! ### Settled texts -/

/-- Every keyword among the words is in capitals. -/
def InCapitals (t : Text) : Prop :=
  ∀ r ∈ Run.ofText t, r.isWord → Keyword.isFoldable (r.text.map Run.foldChar) →
    Text.upper r.text = r.text

/-- A text in which nothing is left to clean, with its keywords in capitals. -/
structure Settled (t : Text) : Prop extends Tidy t where
  inCapitals : InCapitals t

theorem length_foldRun (r : Run) : (foldRun r).length = r.text.length := by
  simpa [Text.upper] using congrArg List.length (upper_foldRun r)

theorem foldRun_eq_self_iff (r : Run) :
    foldRun r = r.text ↔
      (r.isWord → Keyword.isFoldable (r.text.map Run.foldChar) →
        Text.upper r.text = r.text) := by
  rw [foldRun]
  split
  next keyword =>
    rw [Bool.and_eq_true] at keyword
    exact ⟨fun same _ _ => same, fun capitals => capitals keyword.1 keyword.2⟩
  next other =>
    rw [Bool.and_eq_true, not_and] at other
    exact ⟨fun _ word keyword => absurd keyword (other word), fun _ => rfl⟩

/-- No run grows or shrinks, so the text is kept only if each run is. -/
theorem flatMap_foldRun_eq_iff (rs : List Run) :
    rs.flatMap foldRun = Run.toText rs ↔ ∀ r ∈ rs, foldRun r = r.text := by
  constructor
  · intro same
    induction rs with
    | nil => simp
    | cons r rs ih =>
        rw [List.flatMap_cons, Run.toText, List.flatMap_cons] at same
        obtain ⟨here, rest⟩ := List.append_inj same (length_foldRun r)
        exact List.forall_mem_cons.mpr ⟨here, ih rest⟩
  · exact List.flatMap_congr

theorem foldKeywords_eq_self_iff (t : Text) : foldKeywords t = t ↔ InCapitals t := by
  have runs := flatMap_foldRun_eq_iff (Run.ofText t)
  rw [Run.toText_ofText] at runs
  rw [foldKeywords, runs, InCapitals]
  exact forall₂_congr fun r _ => foldRun_eq_self_iff r

/-- The texts that are kept are the settled ones. -/
theorem normalize_eq_self_iff (t : Text) : normalize t = t ↔ Settled t := by
  constructor
  · intro same
    have tidy : Tidy t := same ▸ tidy_normalize t
    rw [normalize, clean_of_tidy tidy, foldKeywords_eq_self_iff] at same
    exact ⟨tidy, same⟩
  · intro settled
    rw [normalize, clean_of_tidy settled.toTidy, foldKeywords_eq_self_iff]
    exact settled.inCapitals

/-- Read word by word, every text becomes a settled one: no line comment and no closed block comment
is left, white space is single spaces between other characters, no semicolon stands at the end and
the keywords are in capitals. Such a text is not changed any more, and no other text is kept. -/
theorem normalize_settles (sql : Text) :
    normalize (normalize sql) = normalize sql ∧ Settled (normalize sql) ∧
      (normalize sql = sql ↔ Settled sql) := by
  have again := normalize_normalize sql
  exact ⟨again, (normalize_eq_self_iff _).mp again, normalize_eq_self_iff sql⟩

/-- The marks on both sides of a comment do not run together. -/
example : normalize "select a -/*--*/- /*/ b ; ;".toList = "SELECT a - - /*/ b".toList := by
  decide +kernel

end SqlGrader.Wordwise
