import Std.Data.String.ToNat
import Mathlib.Data.List.Nodup
import InterfaceDocs.Report.Anchor
import InterfaceDocs.Text.Pieces
import InterfaceDocs.Proofs.Text.Lowercase

/-!
# Numbered anchors

The anchor of a heading depends on how many earlier headings have the same slug, and on no others
(`getElem?_anchors`).

    (anchors titles)[i]? =
      titles[i]?.map fun t => number (slug t) (((titles.take i).map slug).count (slug t))

Two anchors may be equal all the same, where one slug looks like another one with a number, as `a-1`
does.  Where no slug does, all anchors are different (`nodup_anchors`); so it is where the titles have
neither hyphens nor spaces (`hyphen_mem_slug`).
-/

namespace InterfaceDocs

namespace Anchors

/-! ## Counting -/

/-- The headings so far had these slugs. -/
def Counts (a : Anchors) (slugs : List String) : Prop := ∀ s, a.getD s 0 = slugs.count s

theorem counts_empty : Counts ∅ [] := fun _ => Std.ExtTreeMap.getD_empty

variable {a : Anchors} {slugs : List String}

/-- One more heading is counted. -/
theorem Counts.claim (h : Counts a slugs) (title : String) :
    (a.claim title).1 = number (slug title) (slugs.count (slug title)) ∧
      Counts (a.claim title).2 (slug title :: slugs) := by
  constructor
  · show number (slug title) (a.getD (slug title) 0) = _
    rw [h]
  · intro s
    show (a.insert (slug title) (a.getD (slug title) 0 + 1)).getD s 0 = _
    rw [Std.ExtTreeMap.getD_insert, h, h, List.count_cons]
    by_cases hs : slug title = s
    · simp [hs]
    · simp [hs]

theorem length_claimAll (a : Anchors) (titles : List String) :
    (a.claimAll titles).length = titles.length := by
  induction titles generalizing a with
  | nil => rfl
  | cons title titles ih =>
    rw [claimAll, List.length_cons, List.length_cons, ih]

theorem Counts.getElem?_claimAll (h : Counts a slugs) (titles : List String) (i : Nat) :
    (a.claimAll titles)[i]? = titles[i]?.map fun t =>
      number (slug t) (slugs.count (slug t) + ((titles.take i).map slug).count (slug t)) := by
  induction titles generalizing a slugs i with
  | nil => rfl
  | cons title titles ih =>
    obtain ⟨hanchor, hnext⟩ := h.claim title
    rw [claimAll]
    cases i with
    | zero =>
      rw [List.getElem?_cons_zero, List.getElem?_cons_zero, hanchor]
      rfl
    | succ i =>
      rw [List.getElem?_cons_succ, List.getElem?_cons_succ, ih hnext]
      refine Option.map_congr fun t _ => ?_
      rw [List.take_succ_cons, List.map_cons, List.count_cons, List.count_cons, Nat.add_right_comm,
        Nat.add_assoc]

end Anchors

theorem length_anchors (titles : List String) : (anchors titles).length = titles.length :=
  Anchors.length_claimAll ∅ titles

/-- **The anchor of a heading is its slug and the number of earlier headings with that slug.** -/
theorem getElem?_anchors (titles : List String) (i : Nat) :
    (anchors titles)[i]? = titles[i]?.map fun t =>
      Anchors.number (slug t) (((titles.take i).map slug).count (slug t)) := by
  unfold anchors
  rw [Anchors.counts_empty.getElem?_claimAll]
  simp

/-! ## Numbers read back -/

theorem isDigit_of_mem_toString {n : Nat} {c : Char} (h : c ∈ (toString n).toList) : c.isDigit := by
  rw [Nat.toString_eq_repr, Nat.toList_repr] at h
  exact Nat.isDigit_of_mem_toDigits (by decide) (by decide) h

theorem hyphen_not_mem_toString (n : Nat) : '-' ∉ (toString n).toList :=
  fun h => absurd (isDigit_of_mem_toString h) (by decide)

namespace Anchors

/-- A slug that looks like another one with a number. -/
def IsNumbered (s : String) : Prop := ∃ base n, n ≠ 0 ∧ s = number base n

theorem number_zero (s : String) : number s 0 = s := if_pos rfl

theorem number_of_ne_zero (s : String) {n : Nat} (h : n ≠ 0) :
    number s n = s ++ String.singleton '-' ++ toString n := if_neg h

/-- Slugs are told apart where both have a number. -/
theorem number_inj_of_ne_zero {s t : String} {n m : Nat} (hn : n ≠ 0) (hm : m ≠ 0)
    (h : number s n = number t m) : s = t ∧ n = m := by
  rw [number_of_ne_zero s hn, number_of_ne_zero t hm, Text.append_singleton_inj
    (hyphen_not_mem_toString n) (hyphen_not_mem_toString m)] at h
  obtain ⟨hst, hnm⟩ := h
  rw [Nat.toString_eq_repr, Nat.toString_eq_repr, Nat.repr_inj] at hnm
  exact ⟨hst, hnm⟩

/-- One slug has different anchors with different numbers. -/
theorem number_right_inj {s : String} {n m : Nat} : number s n = number s m ↔ n = m := by
  have hlonger : ∀ {k : Nat}, k ≠ 0 → s ≠ number s k := by
    intro k hk h
    have hlength := congrArg String.length h
    rw [number_of_ne_zero s hk, String.length_append, String.length_append, String.length_singleton]
      at hlength
    omega
  refine ⟨fun h => ?_, fun h => h ▸ rfl⟩
  by_cases hn : n = 0
  · by_cases hm : m = 0
    · rw [hn, hm]
    · rw [hn, number_zero] at h
      exact absurd h (hlonger hm)
  · by_cases hm : m = 0
    · rw [hm, number_zero] at h
      exact absurd h.symm (hlonger hn)
    · exact (number_inj_of_ne_zero hn hm h).2

/-- Equal anchors have one slug and one number, or one slug is the other one with a number. -/
theorem eq_or_isNumber_of_number_eq {s t : String} {n m : Nat} (h : number s n = number t m) :
    (s = t ∧ n = m) ∨ ∃ k, k ≠ 0 ∧ (s = number t k ∨ t = number s k) := by
  by_cases hn : n = 0
  · subst hn
    rw [number_zero] at h
    by_cases hm : m = 0
    · subst hm
      rw [number_zero] at h
      exact .inl ⟨h, rfl⟩
    · exact .inr ⟨m, hm, .inl h⟩
  · by_cases hm : m = 0
    · subst hm
      rw [number_zero] at h
      exact .inr ⟨n, hn, .inr h.symm⟩
    · exact .inl (number_inj_of_ne_zero hn hm h)

theorem IsNumbered.hyphen_mem {s : String} (h : IsNumbered s) : '-' ∈ s.toList := by
  obtain ⟨base, n, hn, rfl⟩ := h
  rw [number_of_ne_zero base hn]
  simp

theorem toList_toString_ne_nil (n : Nat) : (toString n).toList ≠ [] := by
  rw [Nat.toString_eq_repr, Nat.toList_repr]
  exact Nat.toDigits_ne_nil

/-- A slug with a number ends in a digit. -/
theorem IsNumbered.getLast? {s : String} (h : IsNumbered s) :
    ∃ c, s.toList.getLast? = some c ∧ c.isDigit := by
  obtain ⟨base, n, hn, rfl⟩ := h
  have hne := toList_toString_ne_nil n
  refine ⟨(toString n).toList.getLast hne, ?_, isDigit_of_mem_toString (List.getLast_mem hne)⟩
  rw [number_of_ne_zero base hn, String.toList_append, List.getLast?_append_of_ne_nil _ hne,
    List.getLast?_eq_some_getLast hne]

end Anchors

/-! ## Different anchors -/

/-- An earlier heading with a slug counts for the later ones. -/
theorem count_take_lt {titles : List String} {i j : Nat} (hij : i < j) {t : String}
    (hi : titles[i]? = some t) :
    ((titles.take i).map slug).count (slug t) < ((titles.take j).map slug).count (slug t) := by
  have hstep : ((titles.take (i + 1)).map slug).count (slug t) =
      ((titles.take i).map slug).count (slug t) + 1 := by
    rw [List.take_add_one, hi, List.map_append, List.count_append]
    simp
  have hprefix : (titles.take (i + 1)).map slug <+: (titles.take j).map slug :=
    (List.take_prefix_take_left (by omega)).map slug
  have hle := hprefix.sublist.count_le (slug t)
  omega

/-- Two headings have the same anchor only if one slug is the other one with a number. -/
theorem isNumber_of_anchors_eq {titles : List String} {i j : Nat} (hij : i ≠ j) {t u : String}
    (hi : titles[i]? = some t) (hj : titles[j]? = some u)
    (h : (anchors titles)[i]? = (anchors titles)[j]?) :
    slug t ≠ slug u ∧
      ∃ k, k ≠ 0 ∧ (slug t = Anchors.number (slug u) k ∨ slug u = Anchors.number (slug t) k) := by
  rw [getElem?_anchors, getElem?_anchors, hi, hj, Option.map_some, Option.map_some,
    Option.some_inj] at h
  have hne : slug t ≠ slug u := by
    intro hslug
    rw [hslug, Anchors.number_right_inj] at h
    rcases Nat.lt_or_gt_of_ne hij with hlt | hlt
    · have hcount := count_take_lt hlt hi
      rw [hslug] at hcount
      omega
    · have hcount := count_take_lt hlt hj
      omega
  rcases Anchors.eq_or_isNumber_of_number_eq h with ⟨hslug, -⟩ | hnumber
  · exact absurd hslug hne
  · exact ⟨hne, hnumber⟩

/-- **Anchors are all different where no slug looks like another one with a number.** -/
theorem nodup_anchors {titles : List String} (h : ∀ t ∈ titles, ¬Anchors.IsNumbered (slug t)) :
    (anchors titles).Nodup := by
  rw [List.nodup_iff_getElem?_ne_getElem?]
  intro i j hij hj heq
  rw [length_anchors] at hj
  have hi : i < titles.length := Nat.lt_trans hij hj
  obtain ⟨-, k, hk, hnumber⟩ := isNumber_of_anchors_eq (Nat.ne_of_lt hij)
    (List.getElem?_eq_getElem hi) (List.getElem?_eq_getElem hj) heq
  rcases hnumber with hnumber | hnumber
  · exact h _ (List.getElem_mem hi) ⟨_, k, hk, hnumber⟩
  · exact h _ (List.getElem_mem hj) ⟨_, k, hk, hnumber⟩

/-- The first anchors are those of the first headings. -/
theorem anchors_take (titles : List String) (n : Nat) :
    (anchors titles).take n = anchors (titles.take n) := by
  apply List.ext_getElem?
  intro i
  rw [getElem?_anchors, List.getElem?_take, List.getElem?_take, getElem?_anchors]
  split
  · next hi => rw [List.take_take, Nat.min_eq_left (Nat.le_of_lt hi)]
  · rfl

/-! ## Slugs -/

/-- A slug is made of hyphens, letters and digits. -/
theorem hyphen_or_isAlphanumeric_of_mem_slug {title : String} {c : Char}
    (h : c ∈ (slug title).toList) : c = '-' ∨ Text.isAlphanumeric c := by
  unfold slug at h
  rw [String.toList_ofList] at h
  obtain ⟨d, -, hslug⟩ := List.mem_filterMap.1 h
  unfold slugChar? at hslug
  split at hslug
  · exact .inl (Option.some.inj hslug).symm
  · split at hslug
    · next hkept =>
      obtain rfl := Option.some.inj hslug
      rw [Bool.or_eq_true, decide_eq_true_iff] at hkept
      exact hkept
    · cases hslug

/-- A hyphen in a slug comes from a hyphen or a space in the title. -/
theorem hyphen_mem_slug {title : String} (h : '-' ∈ (slug title).toList) :
    '-' ∈ title.toList ∨ ' ' ∈ title.toList := by
  unfold slug at h
  rw [String.toList_ofList] at h
  obtain ⟨c, hc, hslug⟩ := List.mem_filterMap.1 h
  have hchar : c = '-' ∨ c = ' ' := by
    unfold slugChar? at hslug
    split at hslug
    · next hspace => exact .inr hspace
    · split at hslug
      · exact .inl (Option.some.inj hslug)
      · cases hslug
  rcases hchar with rfl | rfl
  · exact .inl (Text.mem_of_mem_lowercase hc (by decide))
  · exact .inr (Text.mem_of_mem_lowercase hc (by decide))

end InterfaceDocs
