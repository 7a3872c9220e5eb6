/-!
# Texts in pieces

`pieces sep cs` cuts characters at every separator; there is always at least one piece, and joined by
the separator again the pieces give the characters back.
-/

namespace InterfaceDocs.Text

/-! ## Algorithm -/

/-- The pieces between the separators. -/
def pieces (sep : Char) : List Char → List (List Char)
  | [] => [[]]
  | c :: cs =>
    if c = sep then [] :: pieces sep cs
    else
      match pieces sep cs with
      | [] => [[c]]
      | p :: ps => (c :: p) :: ps

/-! ## Lemmas -/

theorem pieces_ne_nil (sep : Char) (cs : List Char) : pieces sep cs ≠ [] := by
  cases cs with
  | nil => simp [pieces]
  | cons c cs =>
    simp only [pieces]
    split
    · simp
    · split <;> simp

theorem intercalate_pieces (sep : Char) (cs : List Char) :
    List.intercalate [sep] (pieces sep cs) = cs := by
  induction cs with
  | nil => rfl
  | cons c cs ih =>
    cases h : pieces sep cs with
    | nil => exact absurd h (pieces_ne_nil sep cs)
    | cons p ps =>
      rw [h] at ih
      by_cases hc : c = sep
      · subst hc
        rw [show pieces c (c :: cs) = [] :: p :: ps by simp [pieces, h], ← ih]
        simp [List.intercalate]
      · cases ps <;> simp_all [pieces, List.intercalate]

theorem pieces_append_sep (sep : Char) (a b : List Char) :
    pieces sep (a ++ sep :: b) = pieces sep a ++ pieces sep b := by
  induction a with
  | nil => simp [pieces]
  | cons c a ih =>
    rw [List.cons_append, pieces, pieces]
    by_cases hc : c = sep
    · rw [if_pos hc, if_pos hc, ih]
      rfl
    · rw [if_neg hc, if_neg hc, ih]
      cases hp : pieces sep a with
      | nil => exact absurd hp (pieces_ne_nil sep a)
      | cons p ps => rfl

theorem pieces_of_not_mem {sep : Char} {cs : List Char} (h : sep ∉ cs) : pieces sep cs = [cs] := by
  induction cs with
  | nil => rfl
  | cons c cs ih =>
    rw [List.mem_cons, not_or] at h
    rw [pieces, if_neg (fun hc => h.1 hc.symm), ih h.2]

/-- No separator stands in a piece. -/
theorem sep_not_mem_piece {sep : Char} {cs p : List Char} (h : p ∈ pieces sep cs) : sep ∉ p := by
  induction cs generalizing p with
  | nil =>
    obtain rfl := List.mem_singleton.1 h
    exact List.not_mem_nil
  | cons c cs ih =>
    rw [pieces] at h
    by_cases hc : c = sep
    · rw [if_pos hc] at h
      rcases List.mem_cons.1 h with rfl | h
      · exact List.not_mem_nil
      · exact ih h
    · rw [if_neg hc] at h
      cases hp : pieces sep cs with
      | nil => exact absurd hp (pieces_ne_nil sep cs)
      | cons q ps =>
        rw [hp] at h ih
        rcases List.mem_cons.1 h with rfl | h
        · rw [List.mem_cons, not_or]
          exact ⟨fun he => hc he.symm, ih List.mem_cons_self⟩
        · exact ih (List.mem_cons_of_mem q h)

theorem pieces_injective {sep : Char} {cs ds : List Char} (h : pieces sep cs = pieces sep ds) :
    cs = ds := by
  rw [← intercalate_pieces sep cs, h, intercalate_pieces]

theorem pieces_append_singleton (sep : Char) (a b : String) :
    pieces sep (a ++ String.singleton sep ++ b).toList =
      pieces sep a.toList ++ pieces sep b.toList := by
  rw [String.toList_append, String.toList_append, List.append_assoc, ← pieces_append_sep]
  simp

/-- Two texts with a separator between them are read back at the last separator. -/
theorem append_singleton_inj {sep : Char} {a a' b b' : String} (hb : sep ∉ b.toList)
    (hb' : sep ∉ b'.toList) :
    a ++ String.singleton sep ++ b = a' ++ String.singleton sep ++ b' ↔ a = a' ∧ b = b' := by
  constructor
  · intro h
    have hp := congrArg (fun t => pieces sep t.toList) h
    simp only [pieces_append_singleton, pieces_of_not_mem hb, pieces_of_not_mem hb'] at hp
    obtain ⟨ha, hb⟩ := List.append_inj' hp rfl
    exact ⟨String.toList_injective (pieces_injective ha),
      String.toList_injective (List.singleton_inj.1 hb)⟩
  · rintro ⟨rfl, rfl⟩
    rfl

/-- Every character is a separator or stands in one of the pieces. -/
theorem exists_piece_of_mem (sep : Char) {c : Char} {cs : List Char} (h : c ∈ cs) :
    c = sep ∨ ∃ p ∈ pieces sep cs, c ∈ p := by
  induction cs with
  | nil => simp at h
  | cons d cs ih =>
    cases hp : pieces sep cs with
    | nil => exact absurd hp (pieces_ne_nil sep cs)
    | cons p ps =>
      rw [hp] at ih
      by_cases hd : d = sep
      · rw [pieces, if_pos hd, hp]
        rcases List.mem_cons.1 h with rfl | hc
        · exact .inl hd
        · exact (ih hc).imp_right fun ⟨q, hq, hcq⟩ => ⟨q, List.mem_cons_of_mem [] hq, hcq⟩
      · rw [pieces, if_neg hd, hp]
        rcases List.mem_cons.1 h with rfl | hc
        · exact .inr ⟨c :: p, List.mem_cons_self, List.mem_cons_self⟩
        · rcases ih hc with hsep | ⟨q, hq, hcq⟩
          · exact .inl hsep
          · right
            rcases List.mem_cons.1 hq with rfl | hq
            · exact ⟨d :: q, List.mem_cons_self, List.mem_cons_of_mem d hcq⟩
            · exact ⟨q, List.mem_cons_of_mem _ hq, hcq⟩

end InterfaceDocs.Text
