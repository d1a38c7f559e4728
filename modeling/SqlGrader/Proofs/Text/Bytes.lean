import SqlGrader.Text.Bytes
/-!
# Bytes and characters

An ASCII character is encoded as one byte, its code. All bytes of other characters lie outside of
ASCII. So a class of characters that does not tell apart those outside of ASCII can be looked for
among the bytes, and a text can be cut where such a character was found.
-/

namespace SqlGrader.Text

variable {b : UInt8} {c d : Char} {s t : Text}

/-! ### Offsets -/

theorem utf8Length_append (s t : Text) : (s ++ t).utf8Length = s.utf8Length + t.utf8Length := by
  induction s with
  | nil => simp [utf8Length]
  | cons c cs ih => simp [utf8Length, ih, Nat.add_assoc]

theorem utf8Length_pos (nonempty : t ≠ []) : 0 < t.utf8Length := by
  obtain ⟨c, cs, rfl⟩ := List.exists_cons_of_ne_nil nonempty
  exact Nat.add_pos_left c.utf8Size_pos _

theorem bytes_cons (c : Char) (cs : Text) : bytes (c :: cs) = String.utf8EncodeChar c ++ bytes cs :=
  rfl

theorem length_bytes (t : Text) : t.bytes.length = t.utf8Length := by
  induction t with
  | nil => rfl
  | cons c cs ih =>
      rw [bytes_cons, List.length_append, String.length_utf8EncodeChar, ih, utf8Length]

/-- From where a text ends the bytes are those of what follows. -/
theorem drop_bytes (s t : Text) : (s ++ t).bytes.drop s.utf8Length = t.bytes := by
  rw [bytes, List.flatMap_append, ← length_bytes]
  exact List.drop_left

theorem splitAtByte?_append (s t : Text) :
    splitAtByte? s.utf8Length (s ++ t) = some (s, t) := by
  induction s with
  | nil => simp [utf8Length, splitAtByte?]
  | cons c cs ih =>
      obtain ⟨n, size⟩ := Nat.exists_eq_add_one.2 (Nat.add_pos_left c.utf8Size_pos (utf8Length cs))
      rw [List.cons_append, utf8Length, size, splitAtByte?, if_pos (by omega), ← size,
        Nat.add_sub_cancel_left, ih]
      rfl

/-! ### Characters by their first byte -/

/-- Whether a byte is an ASCII character, or belongs to a character outside of ASCII. -/
def StandsFor (b : UInt8) (c : Char) : Prop :=
  .ofUInt8 b = c ∨ (128 ≤ (Char.ofUInt8 b).toNat ∧ 128 ≤ c.toNat)

theorem toNat_ofUInt8 (b : UInt8) : (Char.ofUInt8 b).toNat = b.toNat := UInt8.toNat_toUInt32 b

theorem standsFor_utf8EncodeChar (mem : b ∈ String.utf8EncodeChar c) : StandsFor b c := by
  rw [String.utf8EncodeChar] at mem
  have code : c.val.toNat = c.toNat := rfl
  simp only [code] at mem
  by_cases ascii : c.toNat ≤ 127
  · rw [if_pos ascii, List.mem_singleton] at mem
    subst mem
    refine .inl (Char.toNat_inj.1 ?_)
    rw [toNat_ofUInt8, UInt8.toNat_ofNat']
    omega
  · refine .inr ⟨?_, by omega⟩
    rw [toNat_ofUInt8]
    rw [if_neg ascii] at mem
    repeat' split at mem
    all_goals
      simp only [List.mem_cons, List.not_mem_nil, or_false] at mem
      rcases mem with rfl | rfl | rfl | rfl
      all_goals
        rw [UInt8.toNat_ofNat']
        omega

theorem utf8EncodeChar_of_ascii (ascii : c.toNat < 128) :
    ∃ b, String.utf8EncodeChar c = [b] ∧ .ofUInt8 b = c := by
  have single : String.utf8EncodeChar c = [UInt8.ofNat c.toNat] := if_pos (by omega : c.toNat ≤ 127)
  refine ⟨_, single, ?_⟩
  have stands : StandsFor (UInt8.ofNat c.toNat) c := standsFor_utf8EncodeChar (by simp [single])
  exact stands.resolve_right (by omega)

theorem utf8Size_of_ascii (ascii : c.toNat < 128) : c.utf8Size = 1 := by
  obtain ⟨b, single, -⟩ := utf8EncodeChar_of_ascii ascii
  rw [← String.length_utf8EncodeChar, single]
  rfl

theorem utf8Length_of_ascii (ascii : ∀ c ∈ t, c.toNat < 128) : t.utf8Length = t.length := by
  induction t with
  | nil => rfl
  | cons c cs ih =>
      obtain ⟨here, later⟩ := List.forall_mem_cons.1 ascii
      rw [utf8Length, utf8Size_of_ascii here, ih later, List.length_cons, Nat.add_comm]

namespace StandsFor

/-- A class that does not tell apart the characters outside of ASCII does not tell a character from
its bytes. -/
theorem test {p : Char → Bool} {v : Bool} (stands : StandsFor b c)
    (outside : ∀ d, 128 ≤ d.toNat → p d = v) : p (.ofUInt8 b) = p c := by
  rcases stands with same | ⟨high, high'⟩
  · rw [same]
  · rw [outside _ high, outside c high']

theorem eq_iff (stands : StandsFor b c) (ascii : d.toNat < 128) : .ofUInt8 b = d ↔ c = d := by
  rcases stands with same | ⟨high, high'⟩
  · rw [same]
  · refine iff_of_false ?_ ?_
    all_goals
      rintro rfl
      omega

end StandsFor

/-- The first byte of a text, with those after it. -/
structure FirstByte (b : UInt8) (bs : List UInt8) (c : Char) (cs : Text) : Prop where
  bytes_eq : bytes (c :: cs) = b :: bs
  stands : StandsFor b c
  rest : c.toNat < 128 → bs = bytes cs

theorem exists_firstByte (c : Char) (cs : Text) : ∃ b bs, FirstByte b bs c cs := by
  obtain ⟨b, bs, found⟩ := List.exists_cons_of_ne_nil (String.utf8EncodeChar_ne_nil (c := c))
  refine ⟨b, bs ++ bytes cs, by rw [bytes_cons, found, List.cons_append], ?_, fun ascii => ?_⟩
  · exact standsFor_utf8EncodeChar (by simp [found])
  · obtain ⟨b', single, -⟩ := utf8EncodeChar_of_ascii ascii
    obtain rfl := (List.cons.inj (found.symm.trans single)).2
    rfl

theorem any_head?_bytes {p : Char → Bool} (outside : ∀ d, 128 ≤ d.toNat → p d = false) (t : Text) :
    t.bytes.head?.any (fun b => p (.ofUInt8 b)) = t.head?.any p := by
  cases t with
  | nil => rfl
  | cons c cs =>
      obtain ⟨b, bs, first⟩ := exists_firstByte c cs
      rw [first.bytes_eq]
      exact first.stands.test outside

end SqlGrader.Text
