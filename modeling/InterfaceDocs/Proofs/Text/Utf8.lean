import InterfaceDocs.Text.Bytes

/-!
# UTF-8, character by character

`Bytes.ofChars` writes characters in UTF-8 one after the other; a text is written by its characters.
The order of texts is that of their bytes, so a list that is sorted as texts is sorted as bytes:

    Bytes.ofString a < Bytes.ofString b ↔ a < b                (ofString_lt_iff)
    compare a b = .lt ↔ Text.Precedes a b                      (compare_eq_lt_iff)
-/

namespace InterfaceDocs

namespace Bytes

/-! ## Characters one after the other -/

/-- The UTF-8 bytes of characters. -/
def ofChars (cs : List Char) : Bytes := cs.flatMap String.utf8EncodeChar

@[simp] theorem ofChars_nil : ofChars [] = [] := rfl

@[simp] theorem ofChars_cons (c : Char) (cs : List Char) :
    ofChars (c :: cs) = String.utf8EncodeChar c ++ ofChars cs := rfl

@[simp] theorem ofChars_append (cs ds : List Char) : ofChars (cs ++ ds) = ofChars cs ++ ofChars ds :=
  List.flatMap_append

theorem ofString_eq_ofChars (t : String) : ofString t = ofChars t.toList := by
  have h : t.toUTF8 = t.toList.utf8Encode := by
    rw [String.utf8Encode_toList]
    rfl
  unfold ofString ofChars
  rw [h, List.utf8Encode]
  simp

theorem val_lt (c : Char) : c.val.toNat < 0x110000 := by
  rcases c.valid with h | ⟨-, h⟩
  · have : c.val.toNat < 0xd800 := h
    omega
  · exact h

/-! ## Order -/

theorem lt_div_mod {m n : Nat} (h : m < n) :
    m / 64 < n / 64 ∨ m / 64 = n / 64 ∧ m % 64 < n % 64 := by
  omega

/-- Numbers compare like their digits to the base 64. -/
theorem lt_digits {m n : Nat} (h : m < n) :
    m / 262144 < n / 262144 ∨ m / 262144 = n / 262144 ∧
      (m / 4096 % 64 < n / 4096 % 64 ∨ m / 4096 % 64 = n / 4096 % 64 ∧
        (m / 64 % 64 < n / 64 % 64 ∨ m / 64 % 64 = n / 64 % 64 ∧ m % 64 < n % 64)) := by
  have hm : m / 64 / 64 = m / 4096 ∧ m / 4096 / 64 = m / 262144 := by omega
  have hn : n / 64 / 64 = n / 4096 ∧ n / 4096 / 64 = n / 262144 := by omega
  rcases lt_div_mod h with h | ⟨h64, h⟩
  · rcases lt_div_mod h with h | ⟨h4096, h⟩
    · rcases lt_div_mod h with h | ⟨h262144, h⟩
      · left; omega
      · right; refine ⟨by omega, .inl ?_⟩; omega
    · rw [hm.1, hn.1] at h4096
      right; refine ⟨by omega, .inr ⟨by omega, .inl h⟩⟩
  · have h4096 : m / 4096 = n / 4096 := by omega
    right; refine ⟨by omega, .inr ⟨by omega, .inr ⟨by omega, h⟩⟩⟩

/-- Of two characters, the lesser one has the lesser bytes, whatever follows. -/
theorem utf8EncodeChar_append_lt {a b : Char} (h : a < b) (s t : Bytes) :
    String.utf8EncodeChar a ++ s < String.utf8EncodeChar b ++ t := by
  have hlt : a.val.toNat < b.val.toNat := h
  have ha := val_lt a
  have hb := val_lt b
  unfold String.utf8EncodeChar
  generalize a.val.toNat = m at *
  generalize b.val.toNat = n at *
  have hd := lt_digits hlt
  dsimp only
  -- one goal for each pair of lengths; only two characters of four bytes need all their digits
  repeat' split
  all_goals
    simp only [List.cons_append, List.nil_append, List.cons_lt_cons_iff, UInt8.lt_iff_toNat_lt,
      ← UInt8.toNat_inj, UInt8.toNat_ofNat']
    simp (disch := omega) only [Nat.mod_eq_of_lt, Nat.add_lt_add_iff_right, Nat.add_right_cancel_iff]
    omega

theorem ofChars_lt {cs ds : List Char} (h : cs < ds) : ofChars cs < ofChars ds := by
  induction h with
  | @nil d ds =>
    rw [ofChars_nil, ofChars_cons]
    cases hd : String.utf8EncodeChar d with
    | nil => exact absurd hd String.utf8EncodeChar_ne_nil
    | cons b bs => exact List.nil_lt_cons ..
  | rel h => exact utf8EncodeChar_append_lt h _ _
  | cons _ ih => exact List.append_left_lt ih

theorem ofString_lt_iff {a b : String} : ofString a < ofString b ↔ a < b := by
  rw [ofString_eq_ofChars, ofString_eq_ofChars]
  constructor
  · intro h
    rcases Decidable.em (a < b) with hab | hab
    · exact hab
    · exfalso
      rcases Decidable.em (b < a) with hba | hba
      · exact List.lt_asymm h (ofChars_lt hba)
      · rw [String.le_antisymm (String.not_lt.1 hba) (String.not_lt.1 hab)] at h
        exact List.lt_irrefl _ h
  · intro h
    exact ofChars_lt h

end Bytes

namespace Text

/-- The order of texts by their bytes. -/
def Precedes (a b : String) : Prop := Bytes.ofString a < Bytes.ofString b

instance (a b : String) : Decidable (Precedes a b) :=
  inferInstanceAs (Decidable (Bytes.ofString a < Bytes.ofString b))

theorem compare_eq_lt_iff {a b : String} : compare a b = .lt ↔ Precedes a b := by
  unfold Precedes
  rw [Bytes.ofString_lt_iff]
  show String.compare a b = .lt ↔ a < b
  unfold String.compare compareOfLessAndEq
  split
  · simp_all
  · split <;> simp_all

theorem precedes_irrefl (a : String) : ¬Precedes a a := List.lt_irrefl _

theorem precedes_asymm {a b : String} (h : Precedes a b) : ¬Precedes b a := List.lt_asymm h

theorem precedes_trans {a b c : String} (h : Precedes a b) (h' : Precedes b c) : Precedes a c :=
  List.lt_trans h h'

theorem ne_of_precedes {a b : String} (h : Precedes a b) : a ≠ b := by
  rintro rfl
  exact precedes_irrefl a h

/-- Two lists in strict order with the same texts are the same list. -/
theorem eq_of_mem_iff {ts us : List String} (ht : ts.Pairwise Precedes) (hu : us.Pairwise Precedes)
    (h : ∀ t, t ∈ ts ↔ t ∈ us) : ts = us := by
  have hperm : ts.Perm us :=
    (List.perm_ext_iff_of_nodup (ht.imp ne_of_precedes) (hu.imp ne_of_precedes)).2 h
  exact hperm.eq_of_pairwise (fun a b _ _ hab hba => absurd hba (precedes_asymm hab)) ht hu

/-- `sortedDistinct` sorts by bytes, and keeps nothing twice. -/
theorem sortedDistinct_precedes (ts : List String) : (sortedDistinct ts).Pairwise Precedes :=
  (sortedDistinct_pairwise ts).imp compare_eq_lt_iff.1

end Text

end InterfaceDocs
