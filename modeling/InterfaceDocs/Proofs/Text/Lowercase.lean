import InterfaceDocs.Text.Lowercase

/-!
# Characters that small letters leave alone

Every small letter is at `a` or behind it, so writing a text in small letters brings no character
before `a` into it, such as a space, a hyphen or a digit (`mem_of_mem_lowercase`).
-/

namespace InterfaceDocs.Text

/-- The small letters of the table are characters, at `a` or behind it. -/
theorem small_of_mem_capitals : ∀ k ∈ capitals, 'a'.toNat ≤ k.small ∧
    (k.small + (k.last - k.first) < 0xd800 ∨
      0xdfff < k.small ∧ k.small + (k.last - k.first) < 0x110000) := by
  decide +kernel

theorem smallLetter_eq_or (c : Char) : smallLetter c = c ∨ 'a'.toNat ≤ (smallLetter c).toNat := by
  unfold smallLetter
  cases hfound : capitals.find? (·.has c.toNat) with
  | none => exact .inl rfl
  | some k =>
    right
    obtain ⟨hsmall, hvalid⟩ := small_of_mem_capitals k (List.mem_of_find?_eq_some hfound)
    have hhas := List.find?_some hfound
    simp only [Capitals.has, Bool.and_eq_true, decide_eq_true_eq] at hhas
    have hchar : (k.small + (c.toNat - k.first)).isValidChar := by
      unfold Nat.isValidChar
      omega
    calc 'a'.toNat
      _ ≤ k.small + (c.toNat - k.first) := by omega
      _ = (Char.ofNat (k.small + (c.toNat - k.first))).toNat := by
        rw [Char.ofNat, dif_pos hchar]
        rfl

theorem smallLetters_mem {c d : Char} (h : d ∈ smallLetters c) : d = c ∨ 'a'.toNat ≤ d.toNat := by
  unfold smallLetters at h
  split at h
  · have hmarks : d = 'i' ∨ d = '\u0307' := by simpa using h
    rcases hmarks with rfl | rfl
    · exact .inr (by decide)
    · exact .inr (by decide)
  · obtain rfl := List.mem_singleton.1 h
    exact smallLetter_eq_or c

theorem toNat_smallSigma (before after : List Char) :
    'a'.toNat ≤ (smallSigma before after).toNat := by
  unfold smallSigma
  split <;> decide

theorem mem_of_mem_lowercaseAfter {before cs : List Char} {d : Char}
    (h : d ∈ lowercaseAfter before cs) : d ∈ cs ∨ 'a'.toNat ≤ d.toNat := by
  induction cs generalizing before with
  | nil => cases h
  | cons c cs ih =>
    rw [lowercaseAfter, List.mem_append] at h
    rcases h with h | h
    · split at h
      · obtain rfl := List.mem_singleton.1 h
        exact .inr (toNat_smallSigma before cs)
      · rcases smallLetters_mem h with rfl | hd
        · exact .inl List.mem_cons_self
        · exact .inr hd
    · exact (ih h).imp_left (List.mem_cons_of_mem c)

/-- What stands before `a` in a text in small letters stands in the text. -/
theorem mem_of_mem_lowercase {cs : List Char} {d : Char} (h : d ∈ lowercase cs)
    (hd : d.toNat < 'a'.toNat) : d ∈ cs := by
  rcases mem_of_mem_lowercaseAfter h with h | h
  · exact h
  · omega

end InterfaceDocs.Text
