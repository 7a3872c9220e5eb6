import InterfaceDocs.Report.Format
import InterfaceDocs.Store.Memory
import InterfaceDocs.Proofs.Docs.Origin
import InterfaceDocs.Proofs.Report.Anchor

/-!
# The links of a page

The index at the head of a page has a link for every key (`Report.links`).  The slugs of keys have no
hyphens, since names have neither hyphens nor spaces, so no link leads to the anchor of another one,
nor to a heading that stands before them (`Report.markdown_links`).  With keys that no store gives it
is not so: of `A`, `a` and `a-1` the last two have the same anchor.
-/

namespace InterfaceDocs

namespace Report

/-! ## Slugs of headings -/

theorem not_isNumbered_slug {k : String} (h : IsKey k) : ¬Anchors.IsNumbered (slug k) := by
  intro hnumbered
  obtain ⟨x, hx, rfl⟩ := h
  rcases hyphen_mem_slug hnumbered.hyphen_mem with hc | hc
  · exact absurd (Place.letter_of_mem_key hx hc) (by decide)
  · exact absurd (Place.letter_of_mem_key hx hc) (by decide)

/-- The headings before the index do not look numbered, though the first one has a hyphen. -/
theorem not_isNumbered_heading : ∀ t ∈ [titleHeading, contentsHeading],
    ¬Anchors.IsNumbered (slug t) := by
  have hslugs : ∀ t ∈ [titleHeading, contentsHeading],
      (slug t).toList.getLast?.all (fun c => !c.isDigit) := by decide +kernel
  intro t ht hnumbered
  obtain ⟨c, hc, hdigit⟩ := hnumbered.getLast?
  have hlast := hslugs t ht
  rw [hc, Option.all_some, hdigit] at hlast
  cases hlast

/-! ## Links -/

/-- The keys, each with the anchor of its link. -/
def links (r : Report) : List (String × String) := r.docs.keys.zip (linkAnchors r.docs.keys)

theorem length_linkAnchors (keys : List String) : (linkAnchors keys).length = keys.length := by
  unfold linkAnchors
  rw [List.length_drop, length_anchors]
  rfl

/-- The anchors of a page are those of the headings before the index, and then those of its links. -/
theorem anchors_eq_append (keys : List String) :
    anchors (titleHeading :: contentsHeading :: keys) =
      anchors [titleHeading, contentsHeading] ++ linkAnchors keys := by
  have htake : anchors [titleHeading, contentsHeading] =
      (anchors (titleHeading :: contentsHeading :: keys)).take 2 := by
    rw [anchors_take]
    rfl
  rw [htake, linkAnchors, List.take_append_drop]

theorem nodup_page_anchors {keys : List String} (h : ∀ k ∈ keys, IsKey k) :
    (anchors (titleHeading :: contentsHeading :: keys)).Nodup := by
  apply nodup_anchors
  intro t ht
  have hsplit : t ∈ [titleHeading, contentsHeading] ++ keys := ht
  rcases List.mem_append.1 hsplit with ht | ht
  · exact not_isNumbered_heading t ht
  · exact not_isNumbered_slug (h t ht)

example : linkAnchors ["A", "a", "a-1"] = ["a", "a-1", "a-1"] := by decide +kernel

/-- What a page with these links begins with. -/
def head (links : List (String × String)) : String :=
  "# " ++ titleHeading ++ "\n\n" ++
    if links = [] then ""
    else
      "## " ++ contentsHeading ++ "\n\n"
        ++ String.join (links.map fun l => tocItem l.1 l.2 ++ "\n") ++ "\n"

theorem map_fst_links (r : Report) : r.links.map Prod.fst = r.docs.keys :=
  List.map_fst_zip (Nat.le_of_eq (length_linkAnchors _).symm)

theorem map_snd_links (r : Report) : r.links.map Prod.snd = linkAnchors r.docs.keys :=
  List.map_snd_zip (Nat.le_of_eq (length_linkAnchors _))

theorem head_links (r : Report) :
    head r.links = "# " ++ titleHeading ++ "\n\n" ++ contents r.docs.keys := by
  have hempty : r.links = [] ↔ r.docs.keys = [] := by
    rw [← map_fst_links, List.map_eq_nil_iff]
  unfold contents head
  simp only [hempty]
  rfl

theorem markdown_eq_head (r : Report) : ∃ rest, r.markdown = head r.links ++ rest := by
  rw [head_links]
  unfold markdown
  simp only [String.append_assoc]
  exact ⟨_, rfl⟩

/-- **Every link of an index has an anchor of its own.**  A page begins with its headings and a link
for each key.  Where the docstrings are what a store gives, whatever the failures are, the links lead to
different anchors, and to none of the headings before them. -/
theorem markdown_links {r : Report} {s : Store} {settings : Settings}
    (h : s.Gives settings r.docs) :
    (∃ rest, r.markdown = head r.links ++ rest) ∧ r.links.map Prod.fst = r.docs.keys ∧
      (r.links.map Prod.snd).Nodup ∧
      ∀ l ∈ r.links, l.2 ∉ anchors [titleHeading, contentsHeading] := by
  have hkeys : ∀ k ∈ r.docs.keys, IsKey k := fun k hk => h.isKey (Std.ExtTreeMap.mem_keys.1 hk)
  have hnodup := nodup_page_anchors hkeys
  rw [anchors_eq_append, List.nodup_append] at hnodup
  obtain ⟨-, hlinks, hapart⟩ := hnodup
  rw [← map_snd_links] at hlinks hapart
  exact ⟨r.markdown_eq_head, r.map_fst_links, hlinks, fun l hl hheading =>
    hapart l.2 hheading l.2 (List.mem_map.2 ⟨l, hl, rfl⟩) rfl⟩

/-- Two keys with one slug, and one with the slug of a heading. -/
theorem markdown_links_pointAxes :
    let text := Bytes.ofString
        "\x7b\"types\":[\x7b\"name\":\"Index\",\"doc\":\"i\"\x7d,\x7b\"name\":\"Point\",\"members\":"
      ++ Bytes.ofString "[\x7b\"name\":\"x_axis\",\"doc\":\"x\"\x7d,"
      ++ Bytes.ofString "\x7b\"name\":\"xaxis\",\"doc\":\"x\"\x7d]\x7d]\x7d"
    let settings : Settings := ⟨"d", [], 1000⟩
    let memory := (MemoryStore.empty settings).insert "d/a.json" text
    ∃ c, (memory.store.catalogue settings).value = .ok c ∧
      (Report.mk c.docs c.failures).links =
        [("Index", "index-1"), ("Point.x_axis", "pointxaxis"), ("Point.xaxis", "pointxaxis-1")] ∧
      ((Report.mk c.docs c.failures).links.map Prod.snd).Nodup ∧
      "index-1" ∉ anchors [titleHeading, contentsHeading] := by
  intro text settings memory
  have hlinks : (memory.store.catalogue settings).value.map
      (fun c => (Report.mk c.docs c.failures).links) = .ok
        [("Index", "index-1"), ("Point.x_axis", "pointxaxis"), ("Point.xaxis", "pointxaxis-1")] := by
    decide +kernel
  obtain ⟨c, hc, hl⟩ := Except.map_eq_ok_iff.1 hlinks
  obtain ⟨-, -, hnodup, hapart⟩ := markdown_links (r := ⟨c.docs, c.failures⟩) (.catalogue hc)
  have hindex := hapart ("Index", "index-1")
  rw [hl] at hindex
  exact ⟨c, hc, hl, hnodup, hindex List.mem_cons_self⟩

end Report

end InterfaceDocs
