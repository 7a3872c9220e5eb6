import InterfaceDocs.Docs.Collect
import InterfaceDocs.Proofs.Metadata.Resolve

/-!
# What the docstrings of an interface are

An interface whose keys are all different has docstrings, and no other one has
(`Interface.collect_eq_ok_iff`).  A key then has the docstring of the element that has the key
(`getElem?_documented`):

    (documented es)[k]? = some d ↔ ∃ e ∈ es, e.key = k ∧ e.doc = some d
-/

namespace InterfaceDocs

/-! ## Repeated keys -/

/-- No key is in the set or occurs twice. -/
def KeysNew (seen : Std.ExtTreeSet String) (es : List Element) : Prop :=
  (es.map Element.key).Nodup ∧ ∀ e ∈ es, e.key ∉ seen

theorem keysNew_nil (seen : Std.ExtTreeSet String) : KeysNew seen [] :=
  ⟨List.nodup_nil, List.forall_mem_nil _⟩

theorem keysNew_cons {seen : Std.ExtTreeSet String} {e : Element} {es : List Element} :
    KeysNew seen (e :: es) ↔ e.key ∉ seen ∧ KeysNew (seen.insert e.key) es := by
  unfold KeysNew
  rw [List.map_cons, List.nodup_cons, List.forall_mem_cons]
  have hinsert : (∀ x ∈ es, x.key ∉ seen.insert e.key) ↔
      e.key ∉ es.map Element.key ∧ ∀ x ∈ es, x.key ∉ seen := by
    simp only [Std.ExtTreeSet.mem_insert, Std.compare_eq_iff_eq, not_or, forall_and, List.mem_map,
      not_exists, not_and]
    exact and_congr_left' (forall₂_congr fun x _ => ne_comm)
  rw [hinsert]
  constructor
  · rintro ⟨⟨hnew, hnodup⟩, hseen, hrest⟩
    exact ⟨hseen, hnodup, hnew, hrest⟩
  · rintro ⟨hseen, hnodup, hnew, hrest⟩
    exact ⟨⟨hnew, hnodup⟩, hseen, hrest⟩

theorem splitAtRepeatFrom_eq_none_iff {seen : Std.ExtTreeSet String} {es : List Element} :
    (splitAtRepeatFrom seen es).2 = none ↔ KeysNew seen es := by
  induction es generalizing seen with
  | nil => exact ⟨fun _ => keysNew_nil seen, fun _ => rfl⟩
  | cons e es ih =>
    rw [keysNew_cons, ← ih, splitAtRepeatFrom]
    split
    · next hseen => exact ⟨nofun, fun h => absurd hseen h.1⟩
    · next hseen => exact ⟨fun h => ⟨hseen, h⟩, fun h => h.2⟩

theorem splitAtRepeatFrom_of_none {seen : Std.ExtTreeSet String} {es : List Element}
    (h : (splitAtRepeatFrom seen es).2 = none) : splitAtRepeatFrom seen es = (es, none) := by
  induction es generalizing seen with
  | nil => rfl
  | cons e es ih =>
    rw [splitAtRepeatFrom] at h ⊢
    split at h
    · cases h
    · next hseen => rw [if_neg hseen, ih h]

variable {es : List Element}

/-- No element is split off exactly if no key is repeated. -/
theorem splitAtRepeat_eq_none_iff : (splitAtRepeat es).2 = none ↔ (es.map Element.key).Nodup := by
  unfold splitAtRepeat
  rw [splitAtRepeatFrom_eq_none_iff]
  exact and_iff_left fun e _ => Std.ExtTreeSet.not_mem_empty

theorem splitAtRepeat_of_none (h : (splitAtRepeat es).2 = none) : splitAtRepeat es = (es, none) :=
  splitAtRepeatFrom_of_none h

/-! ## Documented elements -/

/-- The entries that the documented elements make. -/
def entries (es : List Element) : List (String × String) :=
  es.filterMap fun e => e.doc.map (e.key, ·)

theorem mem_entries {k d : String} :
    (k, d) ∈ entries es ↔ ∃ e ∈ es, e.key = k ∧ e.doc = some d := by
  unfold entries
  rw [List.mem_filterMap]
  refine exists_congr fun e => and_congr_right fun _ => ?_
  cases e.doc with
  | none => simp
  | some doc => simp

theorem keys_entries_sublist (es : List Element) :
    ((entries es).map Prod.fst).Sublist (es.map Element.key) := by
  unfold entries
  induction es with
  | nil => exact List.Sublist.slnil
  | cons e es ih =>
    cases h : e.doc with
    | none =>
      rw [List.filterMap_cons_none (by rw [h]; rfl), List.map_cons]
      exact ih.cons e.key
    | some doc =>
      rw [List.filterMap_cons_some (by rw [h]; rfl), List.map_cons, List.map_cons]
      exact ih.cons_cons e.key

/-- Where no key is repeated, no two entries have the same key. -/
theorem entries_distinct (h : (es.map Element.key).Nodup) :
    (entries es).Pairwise fun a b => ¬compare a.1 b.1 = .eq := by
  have hnodup := h.sublist (keys_entries_sublist es)
  rw [List.Nodup, List.pairwise_map] at hnodup
  exact hnodup.imp fun hne heq => hne (Std.compare_eq_iff_eq.1 heq)

/-- A documented element has its docstring in the map under its key. -/
theorem getElem?_documented (h : (es.map Element.key).Nodup) {k d : String} :
    (documented es)[k]? = some d ↔ ∃ e ∈ es, e.key = k ∧ e.doc = some d := by
  have hget : ∀ d, (k, d) ∈ entries es → (Std.ExtTreeMap.ofList (entries es))[k]? = some d :=
    fun d => Std.ExtTreeMap.getElem?_ofList_of_mem Std.ReflCmp.compare_self (entries_distinct h)
  rw [← mem_entries]
  show (Std.ExtTreeMap.ofList (entries es))[k]? = some d ↔ _
  constructor
  · intro hk
    have hmem : k ∈ Std.ExtTreeMap.ofList (entries es) :=
      Docs.mem_iff.2 ⟨d, hk⟩
    rw [Std.ExtTreeMap.mem_ofList, List.contains_iff_mem] at hmem
    obtain ⟨⟨k', d'⟩, he, rfl⟩ := List.mem_map.1 hmem
    rw [hget d' he] at hk
    cases hk
    exact he
  · exact hget d

/-- Every key of the map is the key of an element. -/
theorem exists_element_of_mem_documented (h : (es.map Element.key).Nodup)
    {k : String} (hk : k ∈ documented es) : ∃ e ∈ es, e.key = k := by
  obtain ⟨d, hd⟩ := Docs.mem_iff.1 hk
  obtain ⟨e, he, hkey, -⟩ := (getElem?_documented h).1 hd
  exact ⟨e, he, hkey⟩

/-! ## Collection -/

/-- An interface has docstrings exactly if its keys are all different. -/
theorem Interface.collect_eq_ok_iff {resource : String} {i : Interface} {docs : Docs} :
    (i.collect resource).value = .ok docs ↔
      (i.elements.map Element.key).Nodup ∧ docs = documented i.elements := by
  unfold collect
  rw [← splitAtRepeat_eq_none_iff]
  constructor
  · intro h
    cases hsplit : (splitAtRepeat i.elements).2 with
    | none =>
      rw [splitAtRepeat_of_none hsplit] at h
      cases h
      exact ⟨rfl, rfl⟩
    | some e =>
      cases hpair : splitAtRepeat i.elements with
      | mk before repeated =>
        rw [hpair] at h hsplit
        obtain rfl : repeated = some e := hsplit
        cases h
  · rintro ⟨hnone, rfl⟩
    rw [splitAtRepeat_of_none hnone]
    rfl

/-- A resource has docstrings exactly if it is accepted and its keys are all different. -/
theorem Docs.parse_eq_ok_iff {resource : String} {s : Bytes} {settings : Settings} {docs : Docs} :
    (Docs.parse resource s settings).value = .ok docs ↔
      ∃ i, (Interface.parse resource s settings).value = .ok i ∧
        (i.elements.map Element.key).Nodup ∧ docs = documented i.elements := by
  unfold Docs.parse
  rw [Logged.value_bind]
  cases h : (Interface.parse resource s settings).value with
  | error failure => exact ⟨nofun, fun ⟨_, hi, _⟩ => nomatch hi⟩
  | ok i =>
    show (i.collect resource).value = .ok docs ↔ _
    rw [Interface.collect_eq_ok_iff]
    simp

/-- The docstrings of an interface, or the failure that a key is repeated. -/
theorem Interface.collect_cases (resource : String) (i : Interface) :
    (∃ docs, (i.collect resource).value = .ok docs) ∨
      ∃ key, (i.collect resource).value = .error (.duplicateElement resource key) := by
  unfold collect
  cases splitAtRepeat i.elements with
  | mk before repeated =>
    cases repeated with
    | none => exact .inl ⟨documented before, rfl⟩
    | some e => exact .inr ⟨e.key, rfl⟩

/-- The docstrings of a resource that is accepted are those of its interface. -/
theorem Docs.value_parse_of_ok {resource : String} {s : Bytes} {settings : Settings} {i : Interface}
    (h : (Interface.parse resource s settings).value = .ok i) :
    (Docs.parse resource s settings).value = (i.collect resource).value := by
  unfold Docs.parse
  rw [Logged.value_bind, h]

end InterfaceDocs
