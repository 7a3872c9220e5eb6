import Mathlib.Data.List.Basic
import InterfaceDocs.Store.Memory
import InterfaceDocs.Proofs.Catalogue.Merge

/-!
# One resource more

Names are sorted before they are read, so one name more is put at one place, with the same names
before and after it (`IsPlus`), and so is its outcome:

    names = before ++ after    names' = before ++ r :: after       (sortedDistinct_isPlus)

After a failure the merge goes on as without it, but for the list of failures (`SameDocs.addAll`).
Docstrings come between those of `before` and those of `after` (`Accounts.getElem?_docs_insert`):

    c'.docs[k]? = (docs of before)[k]?, else docs[k]?, else (docs of after)[k]?

so a key that `before` has is kept, and one that only `after` has goes to the new resource if it has
the key (`Gains`).  `catalogueOf_plus` says both for the catalogues of a store.
-/

namespace InterfaceDocs.Catalogue

/-! ## Lists with one element more -/

section

variable {α β : Type}

/-- A list is another one with an element more, at its place by name. -/
def IsPlus (name : α → String) (x : α) (xs ys : List α) : Prop :=
  ∃ before after, xs = before ++ after ∧ ys = before ++ x :: after ∧
    (∀ y ∈ before, Text.Precedes (name y) (name x)) ∧ ∀ y ∈ after, Text.Precedes (name x) (name y)

variable {name : α → String} {name' : β → String} {x : α} {xs ys : List α}

/-- An element that is kept, with its name, keeps its place. -/
theorem IsPlus.filterMap (h : IsPlus name x xs ys) {f : α → Option β}
    (hname : ∀ a b, f a = some b → name' b = name a) {z : β} (hx : f x = some z) :
    IsPlus name' z (xs.filterMap f) (ys.filterMap f) := by
  obtain ⟨before, after, rfl, rfl, hbefore, hafter⟩ := h
  refine ⟨before.filterMap f, after.filterMap f, List.filterMap_append, ?_, fun b hb => ?_,
    fun b hb => ?_⟩
  · rw [List.filterMap_append, List.filterMap_cons_some hx]
  · obtain ⟨a, ha, hab⟩ := List.mem_filterMap.1 hb
    rw [hname a b hab, hname x z hx]
    exact hbefore a ha
  · obtain ⟨a, ha, hab⟩ := List.mem_filterMap.1 hb
    rw [hname a b hab, hname x z hx]
    exact hafter a ha

/-- An element that is dropped leaves nothing. -/
theorem IsPlus.filterMap_eq (h : IsPlus name x xs ys) {f : α → Option β} (hx : f x = none) :
    ys.filterMap f = xs.filterMap f := by
  obtain ⟨before, after, rfl, rfl, -, -⟩ := h
  rw [List.filterMap_append, List.filterMap_append, List.filterMap_cons_none hx]

end

theorem sortedDistinct_eq_of_mem_iff {ts us : List String} (h : ∀ t, t ∈ ts ↔ t ∈ us) :
    Text.sortedDistinct ts = Text.sortedDistinct us := by
  refine Text.eq_of_mem_iff (Text.sortedDistinct_precedes ts) (Text.sortedDistinct_precedes us) ?_
  intro t
  rw [Text.mem_sortedDistinct, Text.mem_sortedDistinct, h]

theorem sortedDistinct_isPlus {r : String} {resources more : List String} (hr : r ∉ resources)
    (hmore : ∀ t, t ∈ more ↔ t = r ∨ t ∈ resources) :
    IsPlus id r (Text.sortedDistinct resources) (Text.sortedDistinct more) := by
  have hmem : r ∈ Text.sortedDistinct more := Text.mem_sortedDistinct.2 ((hmore r).2 (.inl rfl))
  obtain ⟨before, after, hsplit⟩ := List.append_of_mem hmem
  have hsort := Text.sortedDistinct_precedes more
  rw [hsplit, List.pairwise_append, List.pairwise_cons] at hsort
  obtain ⟨hbefore, ⟨hr_after, hafter⟩, hcross⟩ := hsort
  have hbefore_r : ∀ t ∈ before, Text.Precedes t r := fun t ht => hcross t ht r List.mem_cons_self
  -- without the new name the list is in order still, and has the names of the old one
  have hrest : (before ++ after).Pairwise Text.Precedes :=
    List.pairwise_append.2 ⟨hbefore, hafter, fun t ht u hu =>
      hcross t ht u (List.mem_cons_of_mem r hu)⟩
  have hnew : r ∉ before ++ after := by
    intro hin
    rcases List.mem_append.1 hin with hin | hin
    · exact Text.precedes_irrefl r (hbefore_r r hin)
    · exact Text.precedes_irrefl r (hr_after r hin)
  have hold : Text.sortedDistinct resources = before ++ after := by
    refine Text.eq_of_mem_iff (Text.sortedDistinct_precedes resources) hrest fun t => ?_
    have ht : t ∈ more ↔ t = r ∨ t ∈ before ++ after := by
      rw [← Text.mem_sortedDistinct, hsplit]
      simp only [List.mem_append, List.mem_cons]
      exact or_left_comm
    rw [hmore] at ht
    rw [Text.mem_sortedDistinct]
    by_cases htr : t = r
    · rw [htr]
      exact iff_of_false hr hnew
    · simpa [htr] using ht
  exact ⟨before, after, hold, hsplit, hbefore_r, hr_after⟩

/-- The outcome of one name more is put at the place of the name. -/
theorem outcomesOf_isPlus (s : Store) (settings : Settings) {r : String}
    {resources more : List String} (hr : r ∉ resources)
    (hmore : ∀ t, t ∈ more ↔ t = r ∨ t ∈ resources) :
    IsPlus Prod.fst (r, s.answer settings r) (outcomesOf s settings resources)
      (outcomesOf s settings more) := by
  have hname : ∀ (t : String) (o : Outcome), some (t, s.answer settings t) = some o → o.1 = t := by
    intro t o ho
    cases ho
    rfl
  have hplus := (sortedDistinct_isPlus hr hmore).filterMap hname rfl
  rwa [List.filterMap_eq_map'] at hplus

/-! ## A failure more -/

/-- Two catalogues differ at most in their failures. -/
structure SameDocs (c c' : Catalogue) : Prop where
  docs : c'.docs = c.docs
  loaded : c'.loaded = c.loaded
  shadowed : c'.shadowed = c.shadowed

theorem SameDocs.add {c c' : Catalogue} (h : SameDocs c c') (o : Outcome) :
    SameDocs (c.add o.1 o.2).value (c'.add o.1 o.2).value := by
  obtain ⟨resource, result⟩ := o
  cases result with
  | error failure => exact ⟨h.docs, h.loaded, h.shadowed⟩
  | ok later =>
    refine ⟨?_, ?_, ?_⟩
    · show c'.docs.join later = c.docs.join later
      rw [h.docs]
    · show c'.loaded ++ [resource] = c.loaded ++ [resource]
      rw [h.loaded]
    · show c'.shadowed + (c'.docs.taken later).length = c.shadowed + (c.docs.taken later).length
      rw [h.docs, h.shadowed]

theorem SameDocs.addAll {c c' : Catalogue} (h : SameDocs c c') (outcomes : List Outcome) :
    SameDocs (c.addAll outcomes).value (c'.addAll outcomes).value := by
  induction outcomes generalizing c c' with
  | nil => exact h
  | cons o outcomes ih => exact ih (h.add o)

theorem value_addAll_append (c : Catalogue) (xs ys : List Outcome) :
    (c.addAll (xs ++ ys)).value = ((c.addAll xs).value.addAll ys).value := by
  unfold Catalogue.addAll
  rw [List.foldlM_append, Logged.value_bind]

/-- A failure is of no matter to what is merged after it. -/
theorem merge_sameDocs {r : String} {failure : Failure} {xs ys : List Outcome}
    (h : IsPlus Prod.fst (r, .error failure) xs ys) : SameDocs (merge xs).value (merge ys).value := by
  obtain ⟨before, after, rfl, rfl, -, -⟩ := h
  show SameDocs (empty.addAll _).value (empty.addAll _).value
  rw [value_addAll_append, value_addAll_append]
  have hskip : SameDocs (empty.addAll before).value
      ((empty.addAll before).value.add r (.error failure)).value := ⟨rfl, rfl, rfl⟩
  exact hskip.addAll after

/-- A catalogue with a resource more that fails: only the list of failures is longer, by this one. -/
structure Fails (c c' : Catalogue) (r : String) (failure : Failure) : Prop
    extends SameDocs c c' where
  failures : IsPlus Prod.fst (r, failure) c.failures c'.failures

theorem fails_of_isPlus {c c' : Catalogue} {xs ys : List Outcome} {r : String} {failure : Failure}
    (hc : c = (merge xs).value) (hc' : c' = (merge ys).value)
    (h : IsPlus Prod.fst (r, .error failure) xs ys) : Fails c c' r failure := by
  subst hc hc'
  have hname : ∀ (o : Outcome) f, o.failure? = some f → f.1 = o.1 := by
    rintro ⟨t, answer⟩ f hf
    cases answer with
    | error e =>
      cases hf
      rfl
    | ok docs => cases hf
  refine ⟨merge_sameDocs h, ?_⟩
  rw [(merge_accounts xs).failures, (merge_accounts ys).failures]
  exact h.filterMap hname rfl

/-! ## Docstrings more -/

/-- The docstring of a key that reading a name gives. -/
def docOf? (answer : String → Except Failure Docs) (k t : String) : Option String :=
  Outcome.doc? k (t, answer t)

theorem docOf?_eq_some_iff {answer : String → Except Failure Docs} {k t d : String} :
    docOf? answer k t = some d ↔ ∃ docs, answer t = .ok docs ∧ docs[k]? = some d := by
  unfold docOf? Outcome.doc?
  cases answer t with
  | error failure => simp
  | ok docs => simp

/-- The first loaded resource by name that has the key, and that the key has its docstring from. -/
structure Supplies (c : Catalogue) (answer : String → Except Failure Docs) (k r : String) :
    Prop where
  mem_loaded : r ∈ c.loaded
  docs : ∃ docs, answer r = .ok docs ∧ k ∈ docs ∧ c.docs[k]? = docs[k]?
  first : ∀ r' ∈ c.loaded, Text.Precedes r' r → ∀ docs, answer r' = .ok docs → k ∉ docs

/-- A catalogue with a resource more that has docstrings.  The keys are those of both.  A key that
was there keeps its docstring, unless the resource has the key and comes before the one that supplied
it; a key that was not there has the docstring of the resource. -/
structure Gains (c c' : Catalogue) (answer : String → Except Failure Docs) (r : String)
    (docs : Docs) : Prop where
  mem_docs : ∀ k, k ∈ c'.docs ↔ k ∈ c.docs ∨ k ∈ docs
  old : ∀ k ∈ c.docs, ∃ supplier, Supplies c answer k supplier ∧
    c'.docs[k]? = if k ∈ docs ∧ Text.Precedes r supplier then docs[k]? else c.docs[k]?
  new : ∀ k ∉ c.docs, c'.docs[k]? = docs[k]?
  loaded : IsPlus id r c.loaded c'.loaded
  failures : c'.failures = c.failures

section

variable {c c' : Catalogue} {names names' : List String} {answer : String → Except Failure Docs}
  (h : Accounts c (names.map fun t => (t, answer t)))

include h

/-- What a catalogue has for a key comes from a loaded resource. -/
theorem Accounts.exists_supplies (hsort : names.Pairwise Text.Precedes) {k : String}
    (hk : k ∈ c.docs) : ∃ supplier, Supplies c answer k supplier := by
  obtain ⟨d, hd⟩ := Docs.mem_iff.1 hk
  obtain ⟨t, ht, docs, hdocs, htd, hfirst⟩ := (h.getElem?_docs_iff hsort k d).1 hd
  have hkt : k ∈ docs := Docs.mem_iff.2 ⟨d, htd⟩
  exact ⟨t, ht, ⟨docs, hdocs, hkt, hd.trans htd.symm⟩, hfirst⟩

theorem Accounts.getElem?_docs_append {before after : List String} (hnames : names = before ++ after)
    (k : String) : c.docs[k]? =
      (before.findSome? (docOf? answer k)).or (after.findSome? (docOf? answer k)) := by
  rw [h.docs, hnames, List.findSome?_map, List.findSome?_append]
  rfl

/-- With one resource more, a key is looked for in the names before it, in its own docstrings, and in
the names after it. -/
theorem Accounts.getElem?_docs_insert {before after : List String} {r : String} {docs : Docs}
    (hnames : names = before ++ r :: after) (hr : answer r = .ok docs) (k : String) :
    c.docs[k]? = (before.findSome? (docOf? answer k)).or
      (docs[k]?.or (after.findSome? (docOf? answer k))) := by
  have hown : docOf? answer k r = docs[k]? := by
    unfold docOf?
    rw [hr]
    rfl
  rw [h.getElem?_docs_append hnames, List.findSome?_cons, hown]
  cases docs[k]? with
  | none => rfl
  | some d => rfl

/-- A key that was there has the docstring of the first resource by name that has the key, and the
new one is one of them. -/
theorem Accounts.getElem?_docs_of_supplies {r : String} {docs : Docs}
    (h' : Accounts c' (names'.map fun t => (t, answer t))) (hplus : IsPlus id r names names')
    (hr : answer r = .ok docs) {k supplier : String} (hs : Supplies c answer k supplier) :
    c'.docs[k]? = if k ∈ docs ∧ Text.Precedes r supplier then docs[k]? else c.docs[k]? := by
  obtain ⟨before, after, hnames, hnames', hbefore, hafter⟩ := hplus
  have hc := h.getElem?_docs_append hnames k
  have hc' := h'.getElem?_docs_insert hnames' hr k
  have hmem : supplier ∈ before ++ after := hnames ▸ ((h.mem_loaded_iff supplier).1 hs.mem_loaded).1
  rcases List.mem_append.1 hmem with hin | hin
  · -- the supplier comes before the new resource, so the key is found among the names before both
    have hnot : ¬Text.Precedes r supplier := Text.precedes_asymm (hbefore supplier hin)
    rw [if_neg fun hand => hnot hand.2, hc', hc]
    obtain ⟨own, hown, hk, -⟩ := hs.docs
    obtain ⟨d, hd⟩ := Docs.mem_iff.1 hk
    cases hfind : before.findSome? (docOf? answer k) with
    | some d => rfl
    | none =>
      have hnone := List.findSome?_eq_none_iff.1 hfind supplier hin
      rw [docOf?_eq_some_iff.2 ⟨own, hown, hd⟩] at hnone
      cases hnone
  · -- the supplier comes after the new resource, and no name before the new one has the key
    have hlt : Text.Precedes r supplier := hafter supplier hin
    have hnone : before.findSome? (docOf? answer k) = none := by
      refine List.findSome?_eq_none_iff.2 fun t ht => ?_
      cases hdoc : docOf? answer k t with
      | none => rfl
      | some d =>
        obtain ⟨docs', hdocs', hd⟩ := docOf?_eq_some_iff.1 hdoc
        have hloaded : t ∈ c.loaded :=
          (h.mem_loaded_iff t).2 ⟨hnames ▸ List.mem_append_left after ht, docs', hdocs'⟩
        have hfirst := hs.first t hloaded (Text.precedes_trans (hbefore t ht) hlt) docs' hdocs'
        exact absurd (Docs.mem_iff.2 ⟨d, hd⟩) hfirst
    rw [hnone, Option.none_or] at hc hc'
    rw [hc', ← hc]
    by_cases hk : k ∈ docs
    · obtain ⟨d, hd⟩ := Docs.mem_iff.1 hk
      rw [if_pos ⟨hk, hlt⟩, hd]
      rfl
    · rw [if_neg fun hand => hk hand.1, Std.ExtTreeMap.getElem?_eq_none hk, Option.none_or]

/-- What a resource more adds to a catalogue. -/
theorem Accounts.gains {r : String} {docs : Docs} (hsort : names.Pairwise Text.Precedes)
    (h' : Accounts c' (names'.map fun t => (t, answer t))) (hplus : IsPlus id r names names')
    (hr : answer r = .ok docs) : Gains c c' answer r docs where
  mem_docs k := by
    obtain ⟨before, after, hnames, hnames', -, -⟩ := hplus
    have hc := h.getElem?_docs_append hnames k
    have hc' := h'.getElem?_docs_insert hnames' hr k
    simp only [Std.ExtTreeMap.mem_iff_isSome_getElem?, hc, hc', Option.isSome_or, Bool.or_eq_true]
    rw [or_right_comm, or_assoc]
  old k hk := by
    obtain ⟨supplier, hs⟩ := h.exists_supplies hsort hk
    exact ⟨supplier, hs, h.getElem?_docs_of_supplies h' hplus hr hs⟩
  new k hk := by
    obtain ⟨before, after, hnames, hnames', -, -⟩ := hplus
    have hnone := Std.ExtTreeMap.getElem?_eq_none hk
    rw [h.getElem?_docs_append hnames, Option.or_eq_none_iff] at hnone
    rw [h'.getElem?_docs_insert hnames' hr, hnone.1, hnone.2, Option.none_or, Option.or_none]
  loaded := by
    have hloaded : ∀ t t', Outcome.loaded? (t, answer t) = some t' → t' = t := by
      intro t t' ht
      cases ha : answer t <;> simp_all [Outcome.loaded?]
    rw [h.loaded, h'.loaded, List.filterMap_map, List.filterMap_map]
    refine hplus.filterMap hloaded ?_
    simp [Outcome.loaded?, hr]
  failures := by
    rw [h.failures, h'.failures, List.filterMap_map, List.filterMap_map]
    refine hplus.filterMap_eq ?_
    simp [Outcome.failure?, hr]

end

/-! ## Catalogues of a store -/

/-- **A resource more disturbs nothing it should not.**  Names count as a set.  One name more that
fails changes only the list of failures; one that has docstrings adds those under new keys, and takes
over the keys that were supplied from behind it. -/
theorem catalogueOf_plus (s : Store) (settings : Settings) (resources : List String) :
    (∀ again : List String, (∀ t, t ∈ again ↔ t ∈ resources) →
      s.catalogueOf settings again = s.catalogueOf settings resources) ∧
    ∀ (r : String) (more : List String), r ∉ resources →
      (∀ t, t ∈ more ↔ t = r ∨ t ∈ resources) →
      (∀ failure, (s.docsOf settings r).value = .error failure →
        Fails (s.catalogueOf settings resources).value (s.catalogueOf settings more).value r
          failure) ∧
      ∀ docs, (s.docsOf settings r).value = .ok docs →
        Gains (s.catalogueOf settings resources).value (s.catalogueOf settings more).value
          (fun t => (s.docsOf settings t).value) r docs := by
  refine ⟨fun again hagain => ?_, fun r more hr hmore => ⟨fun failure hf => ?_, fun docs hd => ?_⟩⟩
  · unfold Store.catalogueOf
    rw [sortedDistinct_eq_of_mem_iff hagain]
  · have hplus := outcomesOf_isPlus s settings hr hmore
    unfold Store.answer at hplus
    rw [hf] at hplus
    exact fails_of_isPlus (value_catalogueOf _ _ _) (value_catalogueOf _ _ _) hplus
  · exact (catalogueOf_accounts s settings resources).gains
      (Text.sortedDistinct_precedes resources) (catalogueOf_accounts s settings more)
      (sortedDistinct_isPlus hr hmore) hd

/-- A resource with two documented types. -/
def twoTypes (one two doc : String) : Bytes :=
  Bytes.ofString ("\x7b\"types\":[\x7b\"name\":\"" ++ one ++ "\",\"doc\":\"" ++ doc ++
    "\"\x7d,\x7b\"name\":\"" ++ two ++ "\",\"doc\":\"" ++ doc ++ "\"\x7d]\x7d")

/-- Resources whose keys overlap, and one that is not JSON. -/
def overlapping : Store :=
  ((((MemoryStore.empty .standard).insert "a" (twoTypes "T" "U" "from a")).insert "b"
    (twoTypes "U" "V" "from b")).insert "c" (twoTypes "V" "W" "from c")).insert "d" [] |>.store

theorem catalogueOf_plus_between :
    overlapping.catalogueOf .standard ["a", "c", "a"] =
        overlapping.catalogueOf .standard ["c", "a"] ∧
      Gains (overlapping.catalogueOf .standard ["c", "a"]).value
        (overlapping.catalogueOf .standard ["a", "b", "c"]).value
        (fun t => (overlapping.docsOf .standard t).value) "b"
        (.ofList [("U", "from b"), ("V", "from b")]) ∧
      Fails (overlapping.catalogueOf .standard ["c", "a"]).value
        (overlapping.catalogueOf .standard ["a", "d", "c"]).value "d"
        (.malformed "d" (.json (.endOfInput .value))) := by
  have hb : (overlapping.docsOf .standard "b").value =
      .ok (.ofList [("U", "from b"), ("V", "from b")]) := by decide +kernel
  have hd : (overlapping.docsOf .standard "d").value =
      .error (.malformed "d" (.json (.endOfInput .value))) := by decide +kernel
  obtain ⟨hagain, hplus⟩ := catalogueOf_plus overlapping .standard ["c", "a"]
  exact ⟨hagain ["a", "c", "a"] (by grind), (hplus "b" ["a", "b", "c"] (by decide) (by grind)).2 _ hb,
    (hplus "d" ["a", "d", "c"] (by decide) (by grind)).1 _ hd⟩

end InterfaceDocs.Catalogue
