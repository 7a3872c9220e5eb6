import Mathlib.Data.List.Perm.Basic
import InterfaceDocs.Proofs.Report.Headings
import InterfaceDocs.Proofs.Report.Links
import InterfaceDocs.Proofs.Text.Utf8

/-!
# Where the links of a page lead

The link of a key has the anchor that its heading would have if the headings of the page were its title,
its table of contents and the keys.  Docstrings stand in their sections as they are, and may have
headings of their own.  Of the keys before `k`, with `titles` in their docstrings, the anchors are

    of the link       number (slug k) (headings before the index and keys with that slug)
    of the section    number (slug k) (the same + the titles with that slug)

so a link leads to its section exactly if no docstring of an earlier key has a heading with the slug of
the key (`Report.markdown_sections`).
-/

namespace InterfaceDocs.Report

/-! ## Sections -/

/-- The entries before a key, in order. -/
def entriesBefore (r : Report) (k : String) : List (String × String) :=
  r.docs.toList.filter fun e => Text.Precedes e.1 k

/-- The page as far as the section of a key. -/
def pageBefore (r : Report) (k : String) : String :=
  "# " ++ titleHeading ++ "\n\n" ++ contents r.docs.keys
    ++ String.join ((r.entriesBefore k).map fun e => entrySection e.1 e.2)

/-- The anchor of the heading that opens the section of a key: all headings of the page are numbered in
order, and as many come first as stand before the section. -/
def sectionAnchor? (r : Report) (k : String) : Option String :=
  (anchors (headings r.markdown))[(headings (r.pageBefore k)).length]?

variable {r : Report}

theorem mem_entriesBefore {k : String} {e : String × String} :
    e ∈ r.entriesBefore k ↔ r.docs[e.1]? = some e.2 ∧ Text.Precedes e.1 k := by
  rw [entriesBefore, List.mem_filter, decide_eq_true_iff,
    Std.ExtTreeMap.mem_toList_iff_getElem?_eq_some]

/-- The entries before a key are those that stand before it in the list of all. -/
theorem entriesBefore_of_toList {before after : List (String × String)} {e : String × String}
    (h : r.docs.toList = before ++ e :: after) : r.entriesBefore e.1 = before := by
  have hsort : (r.docs.toList.map Prod.fst).Pairwise Text.Precedes := by
    rw [Std.ExtTreeMap.map_fst_toList_eq_keys]
    exact Std.ExtTreeMap.ordered_keys.imp Text.compare_eq_lt_iff.1
  rw [List.pairwise_map, h, List.pairwise_append, List.pairwise_cons] at hsort
  obtain ⟨-, ⟨hafter, -⟩, hbefore⟩ := hsort
  have hnone : ∀ x ∈ e :: after, ¬Text.Precedes x.1 e.1 := by
    intro x hx
    rcases List.mem_cons.1 hx with rfl | hx
    · exact Text.precedes_irrefl _
    · exact Text.precedes_asymm (hafter x hx)
  rw [entriesBefore, h, List.filter_append,
    List.filter_eq_self.2 fun x hx => decide_eq_true (hbefore x hx e List.mem_cons_self),
    List.filter_eq_nil_iff.2 fun x hx => by simpa using hnone x hx, List.append_nil]

/-- The page goes on with the section of the key. -/
theorem markdown_eq_pageBefore {before after : List (String × String)} {k d : String}
    (h : r.docs.toList = before ++ (k, d) :: after) :
    ∃ rest, r.markdown = r.pageBefore k ++ (entrySection k d ++ rest) := by
  refine ⟨String.join (after.map fun e => entrySection e.1 e.2) ++ failureList r.failures, ?_⟩
  rw [pageBefore, entriesBefore_of_toList h, markdown, h]
  simp only [List.map_append, List.map_cons, String.join_append, String.join_cons,
    String.append_assoc]

theorem endsLine_pageBefore (r : Report) (k : String) : EndsLine (r.pageBefore k) :=
  (endsLine_title.append (endsLine_contents _)).append (endsLine_join (endsLine_entrySections _))

/-- Before the section of a key there are the headings of the page, and then for every key before it
the key and the headings of its docstring. -/
theorem headings_pageBefore {k : String} (hk : k ∈ r.docs.keys) (hkeys : ∀ k ∈ r.docs.keys, IsKey k) :
    headings (r.pageBefore k) = titleHeading :: contentsHeading ::
      (r.entriesBefore k).flatMap fun e => e.1 :: headings (Text.trimEnd e.2) := by
  have hcontents := headings_contents (List.ne_nil_of_mem hk) fun k hk => (hkeys k hk).newline_not_mem
  have hsections : ∀ e ∈ r.entriesBefore k,
      headings (entrySection e.1 e.2) = e.1 :: headings (Text.trimEnd e.2) := by
    intro e he
    have hmem : e.1 ∈ r.docs := Docs.mem_iff.2 ⟨_, (mem_entriesBefore.1 he).1⟩
    exact headings_entrySection (hkeys e.1 (Std.ExtTreeMap.mem_keys.2 hmem)).newline_not_mem e.2
  rw [pageBefore, headings_append (endsLine_title.append (endsLine_contents _)),
    headings_append endsLine_title, headings_title, hcontents, headings_join (endsLine_entrySections _),
    List.flatMap_map, List.flatMap_congr hsections]
  rfl

/-! ## Anchors -/

/-- The anchor of a link is numbered after the headings before the index and the keys before its own. -/
theorem getElem?_linkAnchors (keys : List String) (i : Nat) :
    (linkAnchors keys)[i]? = keys[i]?.map fun k => Anchors.number (slug k)
      (((titleHeading :: contentsHeading :: keys.take i).map slug).count (slug k)) := by
  rw [linkAnchors, List.getElem?_drop, getElem?_anchors, Nat.add_comm 2 i]
  rfl

/-- A link stands in the index where its section stands among the sections. -/
theorem exists_of_mem_links {l : String × String} (h : l ∈ r.links) : ∃ before d after,
    r.docs.toList = before ++ (l.1, d) :: after ∧ l.2 = Anchors.number (slug l.1)
      (((titleHeading :: contentsHeading :: before.map Prod.fst).map slug).count (slug l.1)) := by
  obtain ⟨i, hi⟩ := List.mem_iff_getElem?.1 h
  obtain ⟨hkey, hanchor⟩ := List.getElem?_zip_eq_some.1 hi
  rw [getElem?_linkAnchors, hkey, Option.map_some, Option.some_inj] at hanchor
  rw [← Std.ExtTreeMap.map_fst_toList_eq_keys] at hkey hanchor
  obtain ⟨⟨k, d⟩, he, hk⟩ := Option.map_eq_some_iff.1 (List.getElem?_map ▸ hkey)
  obtain ⟨hlt, he⟩ := List.getElem?_eq_some_iff.1 he
  refine ⟨r.docs.toList.take i, d, r.docs.toList.drop (i + 1), ?_, ?_⟩
  · rw [← hk, ← he, ← List.drop_eq_getElem_cons hlt, List.take_append_drop]
  · rw [← hanchor, List.map_take]

/-- The headings as far as a section are the keys with those before the index, and those of docstrings. -/
theorem count_headings_pageBefore {k : String} (hk : k ∈ r.docs.keys)
    (hkeys : ∀ k ∈ r.docs.keys, IsKey k) (s : String) :
    ((headings (r.pageBefore k)).map slug).count s =
      ((titleHeading :: contentsHeading :: (r.entriesBefore k).map Prod.fst).map slug).count s +
        (((r.entriesBefore k).flatMap fun e => headings (Text.trimEnd e.2)).map slug).count s := by
  have hperm : (titleHeading :: contentsHeading :: (r.entriesBefore k).map Prod.fst ++
      (r.entriesBefore k).flatMap fun e => headings (Text.trimEnd e.2)).Perm
        (headings (r.pageBefore k)) := by
    rw [headings_pageBefore hk hkeys]
    exact ((List.map_append_flatMap_perm _ _ _).cons _).cons _
  rw [← (hperm.map slug).count_eq, List.map_append, List.count_append]

/-- The heading of a section stands behind those of the page before it. -/
theorem headings_markdown {before after : List (String × String)} {k d : String}
    (h : r.docs.toList = before ++ (k, d) :: after) (hkey : IsKey k) :
    ∃ more, headings r.markdown = headings (r.pageBefore k) ++ k :: more := by
  obtain ⟨rest, hrest⟩ := markdown_eq_pageBefore h
  refine ⟨headings (Text.trimEnd d) ++ headings rest, ?_⟩
  rw [hrest, headings_append (endsLine_pageBefore r k), headings_append (endsLine_entrySection k d),
    headings_entrySection hkey.newline_not_mem]
  rfl

theorem sectionAnchor?_eq {before after : List (String × String)} {k d : String}
    (h : r.docs.toList = before ++ (k, d) :: after) (hkey : IsKey k) :
    r.sectionAnchor? k = some (Anchors.number (slug k)
      (((headings (r.pageBefore k)).map slug).count (slug k))) := by
  obtain ⟨more, hmore⟩ := headings_markdown h hkey
  rw [sectionAnchor?, getElem?_anchors, hmore, List.take_left,
    List.getElem?_append_right (Nat.le_refl _), Nat.sub_self]
  rfl

/-! ## Where links lead -/

/-- **A link leads to the section of its key, unless an earlier docstring has a heading with the slug of
the key.**  Every link of the index has a section, whose heading is one of the page.  Where the
docstrings are what a store gives, the anchor of that heading is the one of the link exactly if no
docstring of a key before it has such a heading, whatever the failures are. -/
theorem markdown_sections {s : Store} {settings : Settings} (h : s.Gives settings r.docs) :
    (∃ rest, r.markdown = head r.links ++ rest) ∧ r.links.map Prod.fst = r.docs.keys ∧
      ∀ l ∈ r.links,
        (∃ rest, r.markdown = r.pageBefore l.1 ++ ("### " ++ l.1 ++ "\n" ++ rest)) ∧
        (headings r.markdown)[(headings (r.pageBefore l.1)).length]? = some l.1 ∧
        (r.sectionAnchor? l.1 = some l.2 ↔ ∀ k d, r.docs[k]? = some d → Text.Precedes k l.1 →
          ∀ title ∈ headings (Text.trimEnd d), slug title ≠ slug l.1) := by
  have hkeys : ∀ k ∈ r.docs.keys, IsKey k := fun k hk => h.isKey (Std.ExtTreeMap.mem_keys.1 hk)
  refine ⟨r.markdown_eq_head, r.map_fst_links, fun l hl => ?_⟩
  have hl' : l.1 ∈ r.docs.keys := r.map_fst_links ▸ List.mem_map.2 ⟨l, hl, rfl⟩
  obtain ⟨before, d, after, hlist, hanchor⟩ := exists_of_mem_links hl
  obtain ⟨rest, hrest⟩ := markdown_eq_pageBefore hlist
  obtain ⟨more, hmore⟩ := headings_markdown hlist (hkeys l.1 hl')
  refine ⟨?_, ?_, ?_⟩
  · obtain ⟨text, htext⟩ := entrySection_eq l.1 d
    exact ⟨text ++ rest, by rw [hrest, htext, String.append_assoc]⟩
  · rw [hmore, List.getElem?_append_right (Nat.le_refl _), Nat.sub_self]
    rfl
  · rw [sectionAnchor?_eq hlist (hkeys l.1 hl'), count_headings_pageBefore hl' hkeys, hanchor,
      ← entriesBefore_of_toList hlist, Option.some_inj, Anchors.number_right_inj,
      Nat.add_eq_left, List.count_eq_zero]
    constructor
    · intro hnone k d hd hk title ht heq
      have he : (k, d) ∈ r.entriesBefore l.1 := mem_entriesBefore.2 ⟨hd, hk⟩
      exact hnone (List.mem_map.2 ⟨title, List.mem_flatMap.2 ⟨(k, d), he, ht⟩, heq⟩)
    · intro hall hmem
      obtain ⟨title, htitle, heq⟩ := List.mem_map.1 hmem
      obtain ⟨e, he, ht⟩ := List.mem_flatMap.1 htitle
      obtain ⟨hd, hk⟩ := mem_entriesBefore.1 he
      exact hall e.1 e.2 hd hk title ht heq

/-- The docstring of `A` has a heading `B`: the link of `A` leads to its section, that of `B` does not. -/
theorem markdown_sections_headingInDoc :
    let text := Bytes.ofString "\x7b\"types\":[\x7b\"qualifiedName\":\"A\",\"doc\":\"x\\n# B\"\x7d,"
      ++ Bytes.ofString "\x7b\"qualifiedName\":\"B\",\"doc\":\"y\"\x7d]\x7d"
    let settings : Settings := ⟨"d", [], 1000⟩
    let memory := (MemoryStore.empty settings).insert "d/a.json" text
    ∃ c, (memory.store.catalogue settings).value = .ok c ∧
      (Report.mk c.docs c.failures).links = [("A", "a"), ("B", "b")] ∧
      (Report.mk c.docs c.failures).sectionAnchor? "A" = some "a" ∧
      (Report.mk c.docs c.failures).sectionAnchor? "B" ≠ some "b" := by
  intro text settings memory
  have hpage : (memory.store.catalogue settings).value.map
      (fun c => ((Report.mk c.docs c.failures).links, c.docs.toList)) =
        .ok ([("A", "a"), ("B", "b")], [("A", "x\n# B"), ("B", "y")]) := by
    decide +kernel
  obtain ⟨c, hc, hpage⟩ := Except.map_eq_ok_iff.1 hpage
  obtain ⟨hlinks, hdocs⟩ := Prod.mk.inj hpage
  have hget : ∀ k d, c.docs[k]? = some d ↔ (k, d) ∈ [("A", "x\n# B"), ("B", "y")] := by
    intro k d
    rw [← hdocs, Std.ExtTreeMap.mem_toList_iff_getElem?_eq_some]
  obtain ⟨-, -, hsections⟩ := markdown_sections (r := ⟨c.docs, c.failures⟩) (.catalogue hc)
  rw [hlinks] at hsections
  obtain ⟨-, -, hA⟩ := hsections ("A", "a") (by decide)
  obtain ⟨-, -, hB⟩ := hsections ("B", "b") (by decide)
  refine ⟨c, hc, hlinks, hA.2 fun k d hd hk => ?_, fun hlink => ?_⟩
  · have hfirst : ∀ e ∈ [("A", "x\n# B"), ("B", "y")], ¬Text.Precedes e.1 "A" := by decide +kernel
    exact absurd hk (hfirst (k, d) ((hget k d).1 hd))
  · exact hB.1 hlink "A" "x\n# B" ((hget _ _).2 (by decide)) (by decide +kernel) "B"
      (by decide +kernel) rfl

end InterfaceDocs.Report
