import Mathlib.Data.List.Forall2
import SqlGrader.Proofs.Database.Redaction
/-!
# What is shown is shown again

What may be shown of a connection string is a connection string again. Each cut of a second run
falls in the place of the first one: a mask holds no delimiter, a slash without a database behind it
is not shown, and in front of each delimiter the same text stands as before. So nothing changes any
more, and all that the first run changes in a query is the values of its secret parameters.
-/

namespace SqlGrader

open Text

namespace ConnectionUrl

variable {base scheme authority database query parameter : Text} {d : Char}

/-! ### The query -/

/-- How a parameter is shown. -/
inductive ShownAs : Text → Text → Prop
  /-- A parameter without a value. -/
  | plain {name : Text} (noValue : '=' ∉ name) : ShownAs name name
  | kept {name : Text} (value : Text) (first : '=' ∉ name) (known : ¬ isSecretName name) :
      ShownAs (name ++ '=' :: value) (name ++ '=' :: value)
  | masked {name : Text} (value : Text) (secret : isSecretName name) :
      ShownAs (name ++ '=' :: value) (name ++ '=' :: mask)

theorem shownAs_maskParameter (parameter : Text) : ShownAs parameter (maskParameter parameter) := by
  rw [maskParameter]
  cases found : cutAt? '=' parameter with
  | none => exact .plain (notMem_of_cutAt?_eq_none found)
  | some parts =>
      obtain ⟨name, value⟩ := parts
      obtain rfl := eq_append_of_cutAt? found
      simp only
      split
      next secret => exact .masked value secret
      next known => exact .kept value (notMem_of_cutAt? found) known

/-- A parameter is shown in one way only. -/
theorem ShownAs.eq {shown : Text} (shownAs : ShownAs parameter shown) :
    maskParameter parameter = shown := by
  cases shownAs with
  | plain noValue => rw [maskParameter, cutAt?_eq_none noValue]
  | kept value first known =>
      rw [maskParameter, cutAt?_append_cons first]
      exact if_neg known
  | masked value secret => exact maskParameter_secret secret value

theorem maskParameter_maskParameter (parameter : Text) :
    maskParameter (maskParameter parameter) = maskParameter parameter := by
  have shown := shownAs_maskParameter parameter
  generalize maskParameter parameter = result at shown
  cases shown with
  | plain noValue => exact (ShownAs.plain noValue).eq
  | kept value first known => exact (ShownAs.kept value first known).eq
  | masked value secret => exact maskParameter_secret secret mask

theorem notMem_maskParameter (free : '&' ∉ parameter) : '&' ∉ maskParameter parameter := by
  have shown := shownAs_maskParameter parameter
  generalize maskParameter parameter = result at shown
  cases shown with
  | plain | kept => exact free
  | masked value secret => simp [mask, (free_of_isSecretName secret).2]

/-- The parameters of what is shown of a query are those of the query, each as it is shown. -/
theorem splitAt_maskQuery (query : Text) :
    splitAt '&' (maskQuery query) = (splitAt '&' query).map maskParameter := by
  refine splitAt_joinWith_of_free (by simpa using splitAt_ne_nil '&' query) ?_
  rw [List.forall_mem_map]
  exact fun parameter mem => notMem_maskParameter (notMem_of_mem_splitAt mem)

theorem maskQuery_maskQuery (query : Text) : maskQuery (maskQuery query) = maskQuery query := by
  have again : maskParameter ∘ maskParameter = maskParameter := funext maskParameter_maskParameter
  rw [maskQuery, splitAt_maskQuery, List.map_map, again]
  rfl

/-! ### The authority -/

/-- What stands before the last `@`, if there is one, and the address after it. -/
def infoAndAddress (authority : Text) : Option Text × Text :=
  match cutAtLast? '@' authority with
  | some (info, address) => (some info, address)
  | none => (none, authority)

/-- An authority with its password masked. -/
def shownAuthority (authority : Text) : Text :=
  (userAndDisplay (infoAndAddress authority).1).2 ++ (infoAndAddress authority).2

theorem infoAndAddress_append {info address : Text} (free : '@' ∉ address) :
    infoAndAddress (info ++ '@' :: address) = (some info, address) := by
  rw [infoAndAddress, cutAtLast?_append_cons_of_free free]

/-- The user and the address are found where they were. -/
theorem read_shownAuthority (authority : Text) :
    userAndDisplay (infoAndAddress (shownAuthority authority)).1 =
        userAndDisplay (infoAndAddress authority).1 ∧
      (infoAndAddress (shownAuthority authority)).2 = (infoAndAddress authority).2 := by
  cases found : cutAtLast? '@' authority with
  | none =>
      have whole : infoAndAddress authority = (none, authority) := by rw [infoAndAddress, found]
      have shown : shownAuthority authority = authority := by
        rw [shownAuthority, whole]
        rfl
      rw [shown]
      exact ⟨rfl, rfl⟩
  | some parts =>
      obtain ⟨info, address⟩ := parts
      obtain ⟨-, free⟩ := parts_of_cutAtLast? found
      have whole : infoAndAddress authority = (some info, address) := by rw [infoAndAddress, found]
      cases password : cutAt? ':' info with
      | none =>
          have user : userAndDisplay (some info) = (some info, info ++ ['@']) := by
            rw [userAndDisplay, password]
          have shown : shownAuthority authority = info ++ '@' :: address := by
            simp [shownAuthority, whole, user]
          rw [shown, infoAndAddress_append free, whole]
          exact ⟨rfl, rfl⟩
      | some cut =>
          obtain ⟨user, secret⟩ := cut
          have masked (secret : Text) : userAndDisplay (some (user ++ ':' :: secret)) =
              (some user, user ++ ':' :: mask ++ ['@']) := by
            rw [userAndDisplay, cutAt?_append_cons (notMem_of_cutAt? password)]
          obtain rfl := eq_append_of_cutAt? password
          have shown : shownAuthority authority = (user ++ ':' :: mask) ++ '@' :: address := by
            simp [shownAuthority, whole, masked secret]
          rw [shown, infoAndAddress_append free, whole]
          exact ⟨(masked mask).trans (masked secret).symm, rfl⟩

/-- What is shown of an authority is in it or in the mask. -/
theorem mem_shownAuthority (mem : d ∈ shownAuthority authority) :
    d ∈ authority ∨ d ∈ ':' :: mask ++ ['@'] := by
  rw [shownAuthority, infoAndAddress] at mem
  cases found : cutAtLast? '@' authority with
  | none =>
      rw [found] at mem
      exact .inl mem
  | some parts =>
      obtain ⟨info, address⟩ := parts
      obtain ⟨rfl, -⟩ := parts_of_cutAtLast? found
      simp only [found, userAndDisplay] at mem
      cases password : cutAt? ':' info with
      | none =>
          rw [password] at mem
          exact .inl (by simpa using mem)
      | some cut =>
          obtain ⟨user, secret⟩ := cut
          obtain rfl := eq_append_of_cutAt? password
          rw [password] at mem
          simp only [List.mem_append, List.mem_cons] at mem ⊢
          tauto

/-! ### The part before the query -/

/-- What is shown of a database. -/
def shownDatabase (database : Text) : Text := if database.isEmpty then [] else '/' :: database

/-- What may be shown of a scheme, an authority and a database. -/
def ofParts (scheme authority database : Text) : RedactedUrl :=
  let (info, address) := infoAndAddress authority
  { scheme := some scheme
    user := (userAndDisplay info).1
    host := (hostAndPort address).1
    port := (hostAndPort address).2
    database := if database.isEmpty then none else some database
    display := scheme ++ "://".toList ++ (userAndDisplay info).2 ++ address ++
      shownDatabase database }

theorem display_ofParts (scheme authority database : Text) :
    (ofParts scheme authority database).display =
      scheme ++ ':' :: '/' :: '/' :: (shownAuthority authority ++ shownDatabase database) := by
  simp [ofParts, shownAuthority]

theorem ofParts_shownAuthority (scheme authority database : Text) :
    ofParts scheme (shownAuthority authority) database = ofParts scheme authority database := by
  obtain ⟨user, address⟩ := read_shownAuthority authority
  simp only [ofParts, user, address]

/-- Behind the first mark come the authority and, after a slash, the database. -/
theorem redactBase_mark (free : ¬ [':', '/', '/'] <:+: scheme) (rest : Text) :
    redactBase (scheme ++ ':' :: '/' :: '/' :: rest) =
      ofParts scheme ((cutAt? '/' rest).getD (rest, [])).1
        ((cutAt? '/' rest).getD (rest, [])).2 := by
  unfold redactBase
  simp only [cut?_mark free]
  cases cutAt? '/' rest with
  | none | some => rfl

/-- A database is found where it is shown. -/
theorem redactBase_written (free : ¬ [':', '/', '/'] <:+: scheme) (noSlash : '/' ∉ authority)
    (database : Text) :
    redactBase (scheme ++ ':' :: '/' :: '/' :: (authority ++ shownDatabase database)) =
      ofParts scheme authority database := by
  rw [redactBase_mark free]
  cases database with
  | nil =>
      rw [shownDatabase, List.isEmpty_nil, if_pos rfl, List.append_nil, cutAt?_eq_none noSlash]
      rfl
  | cons c cs =>
      rw [shownDatabase, List.isEmpty_cons, if_neg (by simp), cutAt?_append_cons noSlash]
      rfl

/-- The part before the query has these parts. -/
structure HasParts (base scheme authority database : Text) : Prop where
  noMark : ¬ [':', '/', '/'] <:+: scheme
  noSlash : '/' ∉ authority
  within : scheme ++ (authority ++ database) ⊆ base
  redactBase_eq : redactBase base = ofParts scheme authority database

/-- Without a scheme the part before the query is shown as it is. -/
theorem redactBase_cases (base : Text) :
    redactBase base = ⟨none, none, none, none, none, base⟩ ∨
      ∃ scheme authority database, HasParts base scheme authority database := by
  cases found : cut? [':', '/', '/'] base with
  | none =>
      left
      rw [redactBase, found]
  | some parts =>
      right
      obtain ⟨scheme, rest⟩ := parts
      have free : ¬ [':', '/', '/'] <:+: scheme := not_infix_of_cut? (by simp) found
      have whole : base = scheme ++ ':' :: '/' :: '/' :: rest := by
        simpa using eq_append_of_cut? found
      subst whole
      have same := redactBase_mark free rest
      cases slash : cutAt? '/' rest with
      | none =>
          rw [slash] at same
          refine ⟨scheme, rest, [], free, notMem_of_cutAt?_eq_none slash, fun d mem => ?_, same⟩
          simp only [List.mem_append, List.mem_cons] at mem ⊢
          tauto
      | some cut =>
          obtain ⟨authority, database⟩ := cut
          rw [slash] at same
          obtain rfl := eq_append_of_cutAt? slash
          refine ⟨scheme, authority, database, free, notMem_of_cutAt? slash, fun d mem => ?_, same⟩
          simp only [List.mem_append, List.mem_cons] at mem ⊢
          tauto

theorem redactBase_display (base : Text) :
    redactBase (redactBase base).display = redactBase base := by
  rcases redactBase_cases base with same | ⟨scheme, authority, database, parts⟩
  · simp only [same]
  · have noSlash : '/' ∉ shownAuthority authority := by
      intro mem
      rcases mem_shownAuthority mem with mem | mem
      · exact parts.noSlash mem
      · simp [mask] at mem
    calc redactBase (redactBase base).display
        = redactBase (scheme ++ ':' :: '/' :: '/' ::
            (shownAuthority authority ++ shownDatabase database)) := by
          rw [parts.redactBase_eq, display_ofParts]
      _ = ofParts scheme (shownAuthority authority) database :=
          redactBase_written parts.noMark noSlash database
      _ = ofParts scheme authority database := ofParts_shownAuthority scheme authority database
      _ = redactBase base := parts.redactBase_eq.symm

/-- No question mark is shown that was not there. -/
theorem notMem_display (free : '?' ∉ base) : '?' ∉ (redactBase base).display := by
  rcases redactBase_cases base with same | ⟨scheme, authority, database, parts⟩
  · rwa [same]
  · have free' : '?' ∉ scheme ++ (authority ++ database) := fun mem => free (parts.within mem)
    simp only [List.mem_append, not_or] at free'
    have shown : '?' ∉ shownAuthority authority := by
      intro mem
      rcases mem_shownAuthority mem with mem | mem
      · exact free'.2.1 mem
      · simp [mask] at mem
    have ends : '?' ∉ shownDatabase database := by
      rw [shownDatabase]
      split
      · simp
      · simp [free'.2.2]
    rw [parts.redactBase_eq, display_ofParts]
    simp [free'.1, shown, ends]

end ConnectionUrl

namespace RedactedUrl

open ConnectionUrl

/-- The parameters of the query of a connection string. -/
def parameters (url : Text) : List Text := (cutAt? '?' url).elim [] fun p => splitAt '&' p.2

/-- What may be shown of a connection string is the same for what is shown of it. Its query has the
same parameters in the same order, and only the values of the secret ones are masked. -/
theorem ofText_display (url : Text) :
    ofText (ofText url).display = ofText url ∧
      List.Forall₂ ShownAs (parameters url) (parameters (ofText url).display) := by
  cases found : cutAt? '?' url with
  | none =>
      have free := notMem_of_cutAt?_eq_none found
      have free' := notMem_display free
      rw [ofText_of_base free, ofText_of_base free', redactBase_display, parameters, found,
        parameters, cutAt?_eq_none free']
      exact ⟨rfl, .nil⟩
  | some parts =>
      obtain ⟨base, query⟩ := parts
      have free := notMem_of_cutAt? found
      have free' := notMem_display free
      obtain rfl := eq_append_of_cutAt? found
      rw [ofText_of_query free, ofText_of_query free', redactBase_display, maskQuery_maskQuery,
        parameters, found, parameters, cutAt?_append_cons free']
      refine ⟨rfl, ?_⟩
      simp only [Option.elim_some, splitAt_maskQuery]
      exact List.forall₂_map_right_iff.mpr
        (List.forall₂_same.mpr fun parameter _ => shownAs_maskParameter parameter)

/-- The last `@` ends the password, and a name alone is no secret. -/
example : (ofText "pg://a:b@c:d@[::1]:5/?Pass=x=y&pass".toList).display =
    "pg://a:***@[::1]:5?Pass=***&pass".toList := by
  decide +kernel

end RedactedUrl

end SqlGrader
