import InterfaceDocs.Interface

/-!
# Identifiers and paths

A path behind another path and a point is a path, and only then (`isPath_append_point`), so what is
put before the bare names of a document, an `IsStem`, does not decide whether they are paths
(`IsStem.isPath_append`).  The characters of identifiers and paths are few: no point stands in an
identifier, and no number sign in either.
-/

namespace InterfaceDocs.Name

/-! ## Characters -/

theorem continuesIdentifier_of_starts {c : Char} (h : startsIdentifier c) :
    continuesIdentifier c := by
  unfold startsIdentifier at h
  unfold continuesIdentifier Char.isAlphanum
  rw [Bool.or_eq_true] at h
  rcases h with h | h
  · simp [h]
  · simp [h]

theorem continuesIdentifier_of_mem_chars {cs : List Char} (h : isIdentifierChars cs) {c : Char}
    (hc : c ∈ cs) : continuesIdentifier c := by
  cases cs with
  | nil => cases h
  | cons d cs =>
    unfold isIdentifierChars at h
    rw [Bool.and_eq_true] at h
    rcases List.mem_cons.1 hc with rfl | hc
    · exact continuesIdentifier_of_starts h.1
    · exact List.all_eq_true.1 h.2 c hc

theorem continuesIdentifier_of_mem {t : String} (h : isIdentifier t) {c : Char}
    (hc : c ∈ t.toList) : continuesIdentifier c := continuesIdentifier_of_mem_chars h hc

theorem continuesIdentifier_or_point_of_mem {t : String} (h : isPath t) {c : Char}
    (hc : c ∈ t.toList) : continuesIdentifier c ∨ c = '.' := by
  rcases Text.exists_piece_of_mem '.' hc with hpoint | ⟨p, hp, hcp⟩
  · exact .inr hpoint
  · exact .inl (continuesIdentifier_of_mem_chars (List.all_eq_true.1 h p hp) hcp)

theorem point_not_mem {t : String} (h : isIdentifier t) : '.' ∉ t.toList :=
  fun hc => absurd (continuesIdentifier_of_mem h hc) (by decide)

theorem sign_not_mem {t : String} (h : isIdentifier t) : '#' ∉ t.toList :=
  fun hc => absurd (continuesIdentifier_of_mem h hc) (by decide)

theorem sign_not_mem_path {t : String} (h : isPath t) : '#' ∉ t.toList := by
  intro hc
  rcases continuesIdentifier_or_point_of_mem h hc with h | h
  · exact absurd h (by decide)
  · exact absurd h (by decide)

/-! ## Paths -/

theorem isPath_append_point (a b : String) : isPath (a ++ "." ++ b) = (isPath a && isPath b) := by
  have hchars : (a ++ "." ++ b).toList = a.toList ++ '.' :: b.toList := by
    rw [String.toList_append, String.toList_append, List.append_assoc]
    rfl
  unfold isPath
  rw [hchars, Text.pieces_append_sep, List.all_append]

/-! ## What stands before a bare name -/

/-- Nothing, or a path and a point. -/
def IsStem (stem : String) : Prop := stem = "" ∨ ∃ path, isPath path ∧ stem = path ++ "."

theorem IsStem.isPath_append {stem : String} (h : IsStem stem) (name : String) :
    isPath (stem ++ name) = isPath name := by
  rcases h with rfl | ⟨path, hpath, rfl⟩
  · rw [String.empty_append]
  · rw [isPath_append_point, hpath, Bool.true_and]

end InterfaceDocs.Name
