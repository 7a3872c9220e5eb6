import InterfaceDocs.Proofs.Report.Anchor

/-!
# How repeated slugs are numbered

The headings with one slug have the slug, then the slug with the numbers 1, 2, 3, … as their anchors, in
order, whatever headings with other slugs stand between them (`Anchors.Counts.claimAll_of_slug`):

    the anchors of the n headings with slug s  =  [number s 0, number s 1, …, number s (n - 1)]

This leaves one way to the same anchor twice: one slug is that of the other heading with a number behind
it, as `a-1` is of `a` (`anchors_numbered`).
-/

namespace InterfaceDocs

/-! ## One slug at a time -/

namespace Anchors

variable {a : Anchors} {slugs : List String}

/-- The next headings with a slug get the next numbers. -/
theorem Counts.claimAll_of_slug (h : Counts a slugs) (titles : List String) (s : String) :
    ((titles.zip (a.claimAll titles)).filter fun p => slug p.1 = s).map Prod.snd =
      (List.range' (slugs.count s) (titles.countP fun x => slug x = s)).map (number s) := by
  induction titles generalizing a slugs with
  | nil => rfl
  | cons title titles ih =>
    obtain ⟨hanchor, hnext⟩ := h.claim title
    have hrest := ih hnext
    rw [List.count_cons] at hrest
    rw [claimAll, List.zip_cons_cons]
    by_cases hs : slug title = s
    · rw [List.filter_cons_of_pos (by simpa using hs), List.map_cons, hrest,
        List.countP_cons_of_pos (by simpa using hs), List.range'_succ, List.map_cons, hanchor, hs]
      simp
    · rw [List.filter_cons_of_neg (by simpa using hs), hrest,
        List.countP_cons_of_neg (by simpa using hs)]
      simp [hs]

end Anchors

theorem count_map_slug (titles : List String) (s : String) :
    (titles.map slug).count s = titles.countP fun x => slug x = s := by
  rw [List.count_eq_countP, List.countP_map]
  exact List.countP_congr fun x _ => by simp

/-! ## Slugs that look numbered -/

/-- Somewhere in the text a hyphen stands right before a digit. -/
def HasHyphenDigit (s : String) : Prop :=
  ∃ before digit after, s.toList = before ++ '-' :: digit :: after ∧ digit.isDigit

theorem Anchors.IsNumbered.hasHyphenDigit {s : String} (h : IsNumbered s) : HasHyphenDigit s := by
  obtain ⟨base, n, hn, rfl⟩ := h
  obtain ⟨digit, after, hdigits⟩ := List.exists_cons_of_ne_nil (toList_toString_ne_nil n)
  refine ⟨base.toList, digit, after, ?_, isDigit_of_mem_toString (hdigits ▸ List.mem_cons_self)⟩
  rw [number_of_ne_zero base hn, String.toList_append, String.toList_append, hdigits,
    List.append_assoc]
  simp

/-! ## The anchors of a document -/

/-- **How anchors are numbered.**  There is an anchor for every heading.

* It is the slug, and if earlier headings have the slug too, a hyphen and their number behind it.
* The anchors of the headings with one slug are numbered from 0 on, whatever stands between them.
* Two headings have the same anchor only if their slugs differ and one of these is the other one with a
  hyphen and a positive number.
* So all anchors are different where no slug has a hyphen before a digit. -/
theorem anchors_numbered (titles : List String) :
    (anchors titles).length = titles.length ∧
    (∀ (i : Nat) (t : String), titles[i]? = some t → (anchors titles)[i]? = some
      (if ∀ x ∈ titles.take i, slug x ≠ slug t then slug t
      else slug t ++ "-" ++ toString ((titles.take i).countP fun x => slug x = slug t))) ∧
    (∀ s, ((titles.zip (anchors titles)).filter fun p => slug p.1 = s).map Prod.snd =
      (List.range (titles.countP fun x => slug x = s)).map
        fun n => if n = 0 then s else s ++ "-" ++ toString n) ∧
    (∀ (i j : Nat) (t u : String), i ≠ j → titles[i]? = some t → titles[j]? = some u →
      (anchors titles)[i]? = (anchors titles)[j]? → slug t ≠ slug u ∧
        ∃ n, 0 < n ∧ (slug t = slug u ++ "-" ++ toString n ∨ slug u = slug t ++ "-" ++ toString n)) ∧
    ((∀ t ∈ titles, ¬HasHyphenDigit (slug t)) → (anchors titles).Nodup) := by
  refine ⟨length_anchors titles, fun i t ht => ?_, fun s => ?_, fun i j t u hij hi hj h => ?_, fun h => ?_⟩
  · have hnone : (∀ x ∈ titles.take i, slug x ≠ slug t) ↔
        ((titles.take i).countP fun x => slug x = slug t) = 0 := by
      simp [List.countP_eq_zero]
    rw [getElem?_anchors, ht, Option.map_some, count_map_slug]
    simp only [hnone]
    rfl
  · have hcounts := Anchors.counts_empty.claimAll_of_slug titles s
    rw [List.count_nil, ← List.range_eq_range'] at hcounts
    exact hcounts
  · obtain ⟨hne, k, hk, hnumber⟩ := isNumber_of_anchors_eq hij hi hj h
    refine ⟨hne, k, Nat.pos_of_ne_zero hk, ?_⟩
    rw [Anchors.number_of_ne_zero _ hk, Anchors.number_of_ne_zero _ hk] at hnumber
    exact hnumber
  · exact nodup_anchors fun t ht hnumbered => h t ht hnumbered.hasHyphenDigit

/-- The second of two headings with the slug `a` has the anchor that `a-1` has. -/
theorem anchors_numbered_twice :
    (anchors ["a", "A", "a-1"])[1]? = (anchors ["a", "A", "a-1"])[2]? ∧ slug "A" ≠ slug "a-1" ∧
      (anchors ["a", "A", "b c"]).Nodup := by
  have hsame : (anchors ["a", "A", "a-1"])[1]? = (anchors ["a", "A", "a-1"])[2]? := by
    decide +kernel
  obtain ⟨-, -, -, hequal, -⟩ := anchors_numbered ["a", "A", "a-1"]
  obtain ⟨-, -, -, -, hnodup⟩ := anchors_numbered ["a", "A", "b c"]
  obtain ⟨hne, -⟩ := hequal 1 2 "A" "a-1" (by decide) rfl rfl hsame
  refine ⟨hsame, hne, hnodup fun t ht => ?_⟩
  have hslugs : ∀ t ∈ ["a", "A", "b c"], (slug t).toList.all (!·.isDigit) := by
    decide +kernel
  rintro ⟨before, digit, after, hchars, hdigit⟩
  have hnot := List.all_eq_true.1 (hslugs t ht) digit (by simp [hchars])
  rw [hdigit] at hnot
  cases hnot

end InterfaceDocs
