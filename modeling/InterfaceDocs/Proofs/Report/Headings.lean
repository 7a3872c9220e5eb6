import Mathlib.Data.List.TakeDrop
import InterfaceDocs.Report.Format
import InterfaceDocs.Proofs.Docs.Origin
import InterfaceDocs.Proofs.Report.Anchor

/-!
# The headings of a page

A line is a heading if it begins with one to six signs `#` and a space; what follows is its title
(`headingTitle?`).  Where a text ends its last line, it can be read apart from what comes behind it
(`headings_append`), so the headings of a page are those of its parts:

    headings (contents keys) = [contentsHeading]                        (unless there are no keys)
    headings (entrySection key doc) = key :: headings (Text.trimEnd doc)

No other line that is written around the docstrings is a heading, since no key has a line break in it.
-/

namespace InterfaceDocs

/-! ## Reading headings -/

/-- The title of a line that is a heading. -/
def headingTitle? (line : List Char) : Option String :=
  match line.span (· = '#') with
  | (signs, ' ' :: title) =>
    if 1 ≤ signs.length ∧ signs.length ≤ 6 then some (String.ofList title) else none
  | _ => none

/-- The titles of the headings of a text, in order. -/
def headings (t : String) : List String := (Text.pieces '\n' t.toList).filterMap headingTitle?

example : headings "# a\n#b\n###### c\n####### d\n ## e\n##  f" = ["a", "c", " f"] := by
  decide +kernel

theorem headingTitle?_of_head? {line : List Char} (h : line.head? ≠ some '#') :
    headingTitle? line = none := by
  unfold headingTitle?
  rw [List.span_eq_takeWhile_dropWhile]
  cases line with
  | nil => rfl
  | cons c cs =>
    have hc : c ≠ '#' := fun hc => h (congrArg some hc)
    rw [List.takeWhile_cons_of_neg (by simpa using hc), List.dropWhile_cons_of_neg (by simpa using hc)]
    split
    · next hspan =>
      cases hspan
      rfl
    · rfl

/-! ## Texts line by line -/

/-- The text is empty, or its last line is ended. -/
def EndsLine (t : String) : Prop := t = "" ∨ ∃ u, t = u ++ "\n"

theorem endsLine_append_newline (t : String) : EndsLine (t ++ "\n") := .inr ⟨t, rfl⟩

theorem EndsLine.append {t u : String} (ht : EndsLine t) (hu : EndsLine u) : EndsLine (t ++ u) := by
  rcases hu with rfl | ⟨u, rfl⟩
  · rwa [String.append_empty]
  · rw [← String.append_assoc]
    exact endsLine_append_newline _

theorem endsLine_join {ts : List String} (h : ∀ t ∈ ts, EndsLine t) : EndsLine (String.join ts) := by
  induction ts with
  | nil => exact .inl rfl
  | cons t ts ih =>
    rw [String.join_cons]
    exact (h t List.mem_cons_self).append (ih fun u hu => h u (List.mem_cons_of_mem t hu))

theorem headings_append_newline (t u : String) :
    headings (t ++ "\n" ++ u) = headings t ++ headings u := by
  unfold headings
  rw [show "\n" = String.singleton '\n' from rfl, Text.pieces_append_singleton, List.filterMap_append]

@[simp] theorem headings_empty : headings "" = [] := by decide

theorem headings_newline (t : String) : headings (t ++ "\n") = headings t := by
  rw [← String.append_empty (s := t ++ "\n"), headings_append_newline, headings_empty, List.append_nil]

/-- A text that ends its last line can be read apart from what comes behind it. -/
theorem headings_append {t : String} (h : EndsLine t) (u : String) :
    headings (t ++ u) = headings t ++ headings u := by
  rcases h with rfl | ⟨t, rfl⟩
  · rw [String.empty_append, headings_empty, List.nil_append]
  · rw [headings_append_newline, headings_newline]

theorem headings_join {ts : List String} (h : ∀ t ∈ ts, EndsLine t) :
    headings (String.join ts) = ts.flatMap headings := by
  induction ts with
  | nil => exact headings_empty
  | cons t ts ih =>
    rw [String.join_cons, headings_append (h t List.mem_cons_self), List.flatMap_cons,
      ih fun u hu => h u (List.mem_cons_of_mem t hu)]

theorem headings_intercalate (ts : List String) :
    headings ("\n".intercalate ts) = ts.flatMap headings := by
  induction ts with
  | nil => exact headings_empty
  | cons t ts ih =>
    rw [List.flatMap_cons, ← ih]
    by_cases hts : ts = []
    · subst hts
      simp
    · rw [String.intercalate_cons_of_ne_nil hts, headings_append_newline]

/-- A text of one line. -/
theorem headings_line {t : String} (h : '\n' ∉ t.toList) :
    headings t = (headingTitle? t.toList).toList := by
  rw [headings, Text.pieces_of_not_mem h]
  cases hline : headingTitle? t.toList <;> simp [hline]

theorem headings_of_head? {t : String} (h : '\n' ∉ t.toList) (hhead : t.toList.head? ≠ some '#') :
    headings t = [] := by
  rw [headings_line h, headingTitle?_of_head? hhead, Option.toList_none]

/-! ## Line breaks -/

theorem newline_not_mem_slug (title : String) : '\n' ∉ (slug title).toList := by
  intro h
  rcases hyphen_or_isAlphanumeric_of_mem_slug h with h | h
  · exact absurd h (by decide)
  · exact absurd h (by decide +kernel)

theorem newline_not_mem_number {slug : String} (h : '\n' ∉ slug.toList) (n : Nat) :
    '\n' ∉ (Anchors.number slug n).toList := by
  have hdigits : '\n' ∉ (toString n).toList := fun hc => absurd (isDigit_of_mem_toString hc) (by decide)
  by_cases hn : n = 0
  · rwa [hn, Anchors.number_zero]
  · rw [Anchors.number_of_ne_zero slug hn, String.toList_append, List.mem_append, not_or]
    exact ⟨by simp [h], hdigits⟩

theorem newline_not_mem_of_mem_anchors {titles : List String} {a : String} (h : a ∈ anchors titles) :
    '\n' ∉ a.toList := by
  obtain ⟨i, hi⟩ := List.mem_iff_getElem?.1 h
  rw [getElem?_anchors] at hi
  obtain ⟨t, -, rfl⟩ := Option.map_eq_some_iff.1 hi
  exact newline_not_mem_number (newline_not_mem_slug t) _

theorem IsKey.newline_not_mem {k : String} (h : IsKey k) : '\n' ∉ k.toList := by
  obtain ⟨x, hx, rfl⟩ := h
  exact fun hc => absurd (Place.letter_of_mem_key hx hc) (by decide)

/-- The parts of a key are made of its characters. -/
theorem mem_of_splitMethodKey? {key service method : String}
    (h : splitMethodKey? key = some (service, method)) {c : Char}
    (hc : c ∈ service.toList ∨ c ∈ method.toList) : c ∈ key.toList := by
  unfold splitMethodKey? at h
  rw [List.span_eq_takeWhile_dropWhile] at h
  split at h
  · cases h
  · next before sign rest hspan =>
    obtain ⟨hbefore, hrest⟩ := Prod.mk.inj hspan
    cases h
    rw [String.toList_ofList, String.toList_ofList] at hc
    rcases hc with hc | hc
    · rw [← hbefore] at hc
      exact (List.takeWhile_subset _) hc
    · have hmem : c ∈ sign :: rest := List.mem_cons_of_mem sign ((List.takeWhile_subset _) hc)
      rw [← hrest] at hmem
      exact (List.dropWhile_subset _) hmem

namespace Report

/-! ## The parts of a page -/

theorem headings_title : headings ("# " ++ titleHeading ++ "\n\n") = [titleHeading] := by
  decide +kernel

theorem endsLine_title : EndsLine ("# " ++ titleHeading ++ "\n\n") :=
  .inr ⟨"# Documentation index\n", by decide⟩

theorem headings_tocItem {key anchor : String} (hkey : '\n' ∉ key.toList)
    (hanchor : '\n' ∉ anchor.toList) : headings (tocItem key anchor ++ "\n") = [] := by
  rw [headings_newline]
  apply headings_of_head?
  · simp [tocItem, hkey, hanchor]
  · simp [tocItem]

/-- The table of contents has no headings but its own. -/
theorem headings_contents {keys : List String} (hne : keys ≠ []) (h : ∀ k ∈ keys, '\n' ∉ k.toList) :
    headings (contents keys) = [contentsHeading] := by
  have hitems : ∀ t ∈ (keys.zip (linkAnchors keys)).map (fun k => tocItem k.1 k.2 ++ "\n"),
      EndsLine t ∧ headings t = [] := by
    intro t ht
    obtain ⟨⟨key, anchor⟩, hmem, rfl⟩ := List.mem_map.1 ht
    obtain ⟨hkey, hanchor⟩ := List.of_mem_zip hmem
    exact ⟨endsLine_append_newline _, headings_tocItem (h key hkey)
      (newline_not_mem_of_mem_anchors (List.mem_of_mem_drop hanchor))⟩
  have htitle : headings ("## " ++ contentsHeading ++ "\n\n") = [contentsHeading] := by decide +kernel
  have hends : EndsLine ("## " ++ contentsHeading ++ "\n\n") := .inr ⟨"## Index\n", by decide⟩
  rw [contents, if_neg hne, headings_newline, headings_append hends, htitle,
    headings_join fun t ht => (hitems t ht).1,
    List.flatMap_eq_nil_iff.2 fun t ht => (hitems t ht).2, List.append_nil]

theorem endsLine_contents (keys : List String) : EndsLine (contents keys) := by
  unfold contents
  split
  · exact .inl rfl
  · exact endsLine_append_newline _

theorem headings_methodLines {key : String} (h : '\n' ∉ key.toList) :
    (methodLines key).flatMap headings = [] := by
  unfold methodLines
  split
  · next service method hsplit =>
    have hservice : '\n' ∉ service.toList := fun hc => h (mem_of_splitMethodKey? hsplit (.inl hc))
    have hmethod : '\n' ∉ method.toList := fun hc => h (mem_of_splitMethodKey? hsplit (.inr hc))
    rw [List.flatMap_singleton, show "`_\n" = "`_" ++ "\n" from rfl, ← String.append_assoc,
      headings_newline]
    apply headings_of_head?
    · simp [hservice, hmethod]
    · simp
  · rfl

theorem headings_docLines (doc : String) :
    (docLines doc).flatMap headings = headings (Text.trimEnd doc) := by
  unfold docLines
  split
  · next h => simp [h]
  · simp

theorem headings_keyLine {key : String} (h : '\n' ∉ key.toList) :
    headings ("### " ++ key ++ "\n") = [key] := by
  have hline : '\n' ∉ ("### " ++ key).toList := by simp [h]
  rw [headings_newline, headings_line hline]
  simp [headingTitle?, List.span_eq_takeWhile_dropWhile]

/-- The headings of a section are its key and those of its docstring. -/
theorem headings_entrySection {key : String} (h : '\n' ∉ key.toList) (doc : String) :
    headings (entrySection key doc) = key :: headings (Text.trimEnd doc) := by
  rw [entrySection, headings_newline, headings_intercalate, List.flatMap_cons, headings_keyLine h,
    List.flatMap_append, headings_methodLines h, headings_docLines, List.nil_append,
    List.singleton_append]

theorem entrySection_eq (key doc : String) :
    ∃ rest, entrySection key doc = "### " ++ key ++ "\n" ++ rest := by
  unfold entrySection
  by_cases h : methodLines key ++ docLines doc = []
  · rw [h, String.intercalate_singleton]
    exact ⟨"\n", rfl⟩
  · rw [String.intercalate_cons_of_ne_nil h, String.append_assoc, String.append_assoc]
    exact ⟨_, rfl⟩

theorem endsLine_entrySection (key doc : String) : EndsLine (entrySection key doc) :=
  endsLine_append_newline _

theorem endsLine_entrySections (entries : List (String × String)) :
    ∀ t ∈ entries.map (fun e => entrySection e.1 e.2), EndsLine t := by
  intro t ht
  obtain ⟨e, -, rfl⟩ := List.mem_map.1 ht
  exact endsLine_entrySection e.1 e.2

end Report

end InterfaceDocs
