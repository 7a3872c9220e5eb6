import InterfaceDocs.Proofs.Docs.Collect

/-!
# What a collection gives, exactly

Elements are split at the first one whose key has occurred before (`splitAtRepeat_eq_some_iff`):

    splitAtRepeat es = (before, some e) ↔
      ∃ after, es = before ++ e :: after ∧ the keys of before are different ∧ e.key is one of them

So a collection gives either one entry for each documented element, or the failure that names the
first repeated key (`Interface.collect_exact`).  The names of the interface may be any texts, and
elements without a docstring count as well when keys are compared.
-/

namespace InterfaceDocs

/-! ## The first repeated key -/

variable {seen : Std.ExtTreeSet String} {es before : List Element} {e : Element}

/-- A key that is put into the set may as well be put in front of the list. -/
theorem mem_insert_or_mem_keys {x : Element} :
    e.key ∈ seen.insert x.key ∨ e.key ∈ before.map Element.key ↔
      e.key ∈ seen ∨ e.key ∈ (x :: before).map Element.key := by
  rw [Std.ExtTreeSet.mem_insert, Std.compare_eq_iff_eq, List.map_cons, List.mem_cons,
    eq_comm (a := x.key), or_assoc, or_left_comm]

theorem splitAtRepeatFrom_eq_some_iff :
    splitAtRepeatFrom seen es = (before, some e) ↔
      ∃ after, es = before ++ e :: after ∧ KeysNew seen before ∧
        (e.key ∈ seen ∨ e.key ∈ before.map Element.key) := by
  induction es generalizing seen before with
  | nil =>
    constructor
    · intro h
      cases h
    · rintro ⟨after, h, -⟩
      cases before <;> cases h
  | cons x es ih =>
    rw [splitAtRepeatFrom]
    by_cases hx : x.key ∈ seen
    · rw [if_pos hx]
      constructor
      · intro h
        cases h
        exact ⟨es, rfl, keysNew_nil seen, .inl hx⟩
      · rintro ⟨after, h, hnew, -⟩
        cases before with
        | nil =>
          cases h
          rfl
        | cons y before =>
          cases h
          exact absurd hx (keysNew_cons.1 hnew).1
    · rw [if_neg hx]
      -- the rest is split with the key of `x` in the set
      cases hrest : splitAtRepeatFrom (seen.insert x.key) es with
      | mk rest repeated =>
        constructor
        · intro h
          cases h
          obtain ⟨after, rfl, hnew, hkey⟩ := ih.1 hrest
          exact ⟨after, rfl, keysNew_cons.2 ⟨hx, hnew⟩, mem_insert_or_mem_keys.1 hkey⟩
        · rintro ⟨after, h, hnew, hkey⟩
          cases before with
          | nil =>
            cases h
            rcases hkey with hkey | hkey
            · exact absurd hkey hx
            · cases hkey
          | cons y before =>
            cases h
            have hnext := ih.2 ⟨after, rfl, (keysNew_cons.1 hnew).2, mem_insert_or_mem_keys.2 hkey⟩
            rw [hrest] at hnext
            cases hnext
            rfl

/-- Elements are split at the first one whose key one of those before it has. -/
theorem splitAtRepeat_eq_some_iff :
    splitAtRepeat es = (before, some e) ↔
      ∃ after, es = before ++ e :: after ∧ (before.map Element.key).Nodup ∧
        e.key ∈ before.map Element.key := by
  unfold splitAtRepeat
  rw [splitAtRepeatFrom_eq_some_iff]
  simp [KeysNew]

/-! ## Documented elements -/

/-- A map with the docstrings of the elements under their keys is the map of the documented ones. -/
theorem eq_documented_iff (h : (es.map Element.key).Nodup) {docs : Docs} :
    docs = documented es ↔
      ∀ k d, docs[k]? = some d ↔ ∃ e ∈ es, e.key = k ∧ e.doc = some d := by
  constructor
  · rintro rfl k d
    exact getElem?_documented h
  · intro hdocs
    refine Std.ExtTreeMap.ext_getElem? fun k => Option.ext fun d => ?_
    rw [hdocs, getElem?_documented h]

/-- There is one entry for each documented element. -/
theorem size_documented (h : (es.map Element.key).Nodup) :
    (documented es).size = es.countP fun e => e.doc.isSome := by
  have hsize : (documented es).size = (entries es).length :=
    Std.ExtTreeMap.size_ofList (entries_distinct h)
  rw [hsize, entries, List.length_filterMap_eq_countP]
  simp only [Option.isSome_map]

/-! ## Collection -/

namespace Interface

variable {resource : String} {i : Interface}

theorem collect_eq_error_iff {failure : Failure} :
    (i.collect resource).value = .error failure ↔
      ∃ before e, splitAtRepeat i.elements = (before, some e) ∧
        failure = .duplicateElement resource e.key := by
  unfold collect
  cases splitAtRepeat i.elements with
  | mk before repeated =>
    cases repeated with
    | none =>
      constructor
      · intro h
        cases h
      · rintro ⟨_, _, h, -⟩
        cases h
    | some e =>
      constructor
      · intro h
        cases h
        exact ⟨before, e, rfl, rfl⟩
      · rintro ⟨_, _, h, rfl⟩
        cases h
        rfl

/-- **A collection is exact, and it is all or nothing.**

* It succeeds exactly if all keys are different, those of undocumented elements included.
* It then gives the map in which a key has the docstring of the element with that key; there are as
  many entries as documented elements.
* Otherwise it names the key of the first element whose key an earlier element has. -/
theorem collect_exact (resource : String) (i : Interface) :
    ((∃ docs, (i.collect resource).value = .ok docs) ↔ (i.elements.map Element.key).Nodup) ∧
    (∀ docs, (i.collect resource).value = .ok docs ↔
      (i.elements.map Element.key).Nodup ∧
        (∀ k d, docs[k]? = some d ↔ ∃ e ∈ i.elements, e.key = k ∧ e.doc = some d) ∧
        docs.size = i.elements.countP fun e => e.doc.isSome) ∧
    ∀ failure, (i.collect resource).value = .error failure ↔
      ∃ before e after, i.elements = before ++ e :: after ∧ (before.map Element.key).Nodup ∧
        e.key ∈ before.map Element.key ∧ failure = .duplicateElement resource e.key := by
  refine ⟨?_, fun docs => ?_, fun failure => ?_⟩
  · simp only [collect_eq_ok_iff]
    exact ⟨fun ⟨_, h, _⟩ => h, fun h => ⟨_, h, rfl⟩⟩
  · rw [collect_eq_ok_iff]
    constructor
    · rintro ⟨h, rfl⟩
      exact ⟨h, (eq_documented_iff h).1 rfl, size_documented h⟩
    · rintro ⟨h, hdocs, -⟩
      exact ⟨h, (eq_documented_iff h).2 hdocs⟩
  · simp only [collect_eq_error_iff, splitAtRepeat_eq_some_iff]
    constructor
    · rintro ⟨before, e, ⟨after, hsplit, hnew, hkey⟩, hfailure⟩
      exact ⟨before, e, after, hsplit, hnew, hkey, hfailure⟩
    · rintro ⟨before, e, after, hsplit, hnew, hkey, hfailure⟩
      exact ⟨before, e, ⟨after, hsplit, hnew, hkey⟩, hfailure⟩

example : (collect "r" ⟨[⟨"T", none, [⟨"U", none⟩]⟩, ⟨"T.U", some "", []⟩], []⟩).value =
    .error (.duplicateElement "r" "T.U") := by rfl

end Interface

end InterfaceDocs
