import InterfaceDocs.Catalogue
import InterfaceDocs.Proofs.Text.Utf8

/-!
# What a merge makes of its outcomes

A catalogue `Accounts` for a list of outcomes: it lists those that succeeded and those that failed in
their order, and gives a key the docstring of the first outcome that has the key.  Adding one outcome
keeps the account (`Accounts.add`), so a merge accounts for all of them (`merge_accounts`).  A
catalogue of resources merges what each of them gives on its own, in the order of their names:

    (s.catalogueOf settings resources).value
      accounts for (sortedDistinct resources).map fun r => (r, s.docsOf settings r)
-/

namespace InterfaceDocs

/-! ## Answers of single resources -/

/-- What reading one resource on its own gives. -/
def Store.answer (s : Store) (settings : Settings) (resource : String) : Except Failure Docs :=
  (s.docsOf settings resource).value

namespace Catalogue

/-- What came of one resource, under its name. -/
abbrev Outcome := String × Except Failure Docs

namespace Outcome

/-- The name, if there are docstrings. -/
def loaded? (o : Outcome) : Option String :=
  match o.2 with
  | .ok _ => some o.1
  | .error _ => none

/-- The name and the failure, if there is one. -/
def failure? (o : Outcome) : Option (String × Failure) :=
  match o.2 with
  | .ok _ => none
  | .error failure => some (o.1, failure)

/-- The docstring of a key, if there is one. -/
def doc? (k : String) (o : Outcome) : Option String :=
  match o.2 with
  | .ok docs => docs[k]?
  | .error _ => none

end Outcome

/-! ## The account of a merge -/

/-- A catalogue holds what outcomes, one after the other, have to leave in it. -/
structure Accounts (c : Catalogue) (outcomes : List Outcome) : Prop where
  loaded : c.loaded = outcomes.filterMap Outcome.loaded?
  failures : c.failures = outcomes.filterMap Outcome.failure?
  docs : ∀ k : String, c.docs[k]? = outcomes.findSome? (Outcome.doc? k)

theorem accounts_empty : Accounts empty [] := ⟨rfl, rfl, fun _ => Std.ExtTreeMap.getElem?_empty⟩

/-- Adding one more outcome keeps the account. -/
theorem Accounts.add {c : Catalogue} {outcomes : List Outcome} (h : Accounts c outcomes)
    (o : Outcome) : Accounts (c.add o.1 o.2).value (outcomes ++ [o]) := by
  obtain ⟨resource, result⟩ := o
  cases result with
  | error failure =>
    refine ⟨?_, ?_, fun k => ?_⟩
    · show c.loaded = _
      rw [List.filterMap_append, ← h.loaded]
      simp [Outcome.loaded?]
    · show c.failures ++ [(resource, failure)] = _
      rw [List.filterMap_append, ← h.failures]
      simp [Outcome.failure?]
    · show c.docs[k]? = _
      rw [List.findSome?_append, ← h.docs k]
      simp [Outcome.doc?]
  | ok later =>
    refine ⟨?_, ?_, fun k => ?_⟩
    · show c.loaded ++ [resource] = _
      rw [List.filterMap_append, ← h.loaded]
      simp [Outcome.loaded?]
    · show c.failures = _
      rw [List.filterMap_append, ← h.failures]
      simp [Outcome.failure?]
    · show (c.docs.join later)[k]? = _
      rw [List.findSome?_append, ← h.docs k, Docs.getElem?_join]
      simp [Outcome.doc?]

theorem Accounts.addAll {c : Catalogue} {before : List Outcome} (h : Accounts c before)
    (outcomes : List Outcome) : Accounts (c.addAll outcomes).value (before ++ outcomes) := by
  induction outcomes generalizing c before with
  | nil =>
    rw [List.append_nil]
    exact h
  | cons o outcomes ih =>
    have hstep := ih (h.add o)
    rw [List.append_assoc] at hstep
    exact hstep

theorem merge_accounts (outcomes : List Outcome) : Accounts (merge outcomes).value outcomes :=
  accounts_empty.addAll outcomes

/-! ## Catalogues of a store -/

/-- The outcomes of resources that are read one by one, in the order of their names. -/
def outcomesOf (s : Store) (settings : Settings) (resources : List String) : List Outcome :=
  (Text.sortedDistinct resources).map fun r => (r, s.answer settings r)

theorem value_catalogueOf (s : Store) (settings : Settings) (resources : List String) :
    (s.catalogueOf settings resources).value = (merge (outcomesOf s settings resources)).value := by
  unfold Store.catalogueOf
  rw [Logged.value_bind, Logged.value_mapM]
  rfl

theorem catalogueOf_accounts (s : Store) (settings : Settings) (resources : List String) :
    Accounts (s.catalogueOf settings resources).value (outcomesOf s settings resources) := by
  rw [value_catalogueOf]
  exact merge_accounts _

/-- A catalogue depends on a store only through what it reads of the resources. -/
theorem value_catalogueOf_congr {s s' : Store} (settings : Settings) {resources : List String}
    (h : ∀ r ∈ resources, s.read r = s'.read r) :
    (s.catalogueOf settings resources).value = (s'.catalogueOf settings resources).value := by
  have houtcomes : outcomesOf s settings resources = outcomesOf s' settings resources := by
    refine List.map_congr_left fun r hr => ?_
    unfold Store.answer Store.docsOf
    rw [h r (Text.mem_sortedDistinct.1 hr)]
  rw [value_catalogueOf, value_catalogueOf, houtcomes]

/-- The catalogue of a store is that of what it discovers, unless nothing of this can be read. -/
theorem value_catalogue_of_discover {s : Store} {settings : Settings} {found : List String}
    (h : s.discover.value = .ok found) : (s.catalogue settings).value =
      if (s.catalogueOf settings found).value.nothingReadable then .error (.nothingFound s.location)
      else .ok (s.catalogueOf settings found).value := by
  unfold Store.catalogue
  rw [Logged.value_bind, h]
  cases found with
  | nil => rfl
  | cons r found =>
    dsimp only
    rw [Logged.value_bind]
    split <;> rfl

/-! ## Lists in strict order -/

/-- In a list in strict order, the first hit is the hit that no other one comes before. -/
theorem findSome?_eq_some_iff_least {α β : Type} {lt : α → α → Prop} {f : α → Option β} {l : List α}
    {b : β} (hsort : l.Pairwise lt) (hasymm : ∀ {x y}, lt x y → ¬lt y x) :
    l.findSome? f = some b ↔ ∃ a ∈ l, f a = some b ∧ ∀ x ∈ l, lt x a → f x = none := by
  rw [List.findSome?_eq_some_iff]
  constructor
  · rintro ⟨before, a, after, rfl, ha, hbefore⟩
    refine ⟨a, by simp, ha, fun x hx hlt => ?_⟩
    rw [List.pairwise_append, List.pairwise_cons] at hsort
    rcases List.mem_append.1 hx with hx | hx
    · exact hbefore x hx
    · rcases List.mem_cons.1 hx with rfl | hx
      · exact absurd hlt (hasymm hlt)
      · exact absurd hlt (hasymm (hsort.2.1.1 x hx))
  · rintro ⟨a, ha, hfa, hleast⟩
    obtain ⟨before, after, rfl⟩ := List.append_of_mem ha
    rw [List.pairwise_append] at hsort
    exact ⟨before, a, after, rfl, hfa, fun x hx =>
      hleast x (List.mem_append_left _ hx) (hsort.2.2 x hx a List.mem_cons_self)⟩

/-- What keeps or drops elements, and changes none, gives a sublist. -/
theorem filterMap_sublist_self {α : Type} {f : α → Option α} (h : ∀ {a b}, f a = some b → b = a)
    (l : List α) : (l.filterMap f).Sublist l := by
  induction l with
  | nil => exact List.Sublist.slnil
  | cons a l ih =>
    cases hf : f a with
    | none =>
      rw [List.filterMap_cons_none hf]
      exact ih.cons a
    | some b =>
      rw [List.filterMap_cons_some hf, h hf]
      exact ih.cons_cons a

/-! ## Agreement with single resources -/

/-- A catalogue of resources says what each of them says on its own: every name is listed once, with
what reading it gave, and a key has the docstring of the first resource by name that has the key. -/
structure AgreesWith (c : Catalogue) (resources : List String)
    (answer : String → Except Failure Docs) : Prop where
  mem_loaded : ∀ r, r ∈ c.loaded ↔ r ∈ resources ∧ ∃ docs, answer r = .ok docs
  mem_failures : ∀ r failure,
    (r, failure) ∈ c.failures ↔ r ∈ resources ∧ answer r = .error failure
  listed_once : ∀ r ∈ resources, c.loaded.count r + (c.failures.map Prod.fst).count r = 1
  loaded_sorted : c.loaded.Pairwise Text.Precedes
  failures_sorted : (c.failures.map Prod.fst).Pairwise Text.Precedes
  getElem?_docs : ∀ k d : String, c.docs[k]? = some d ↔
    ∃ r ∈ c.loaded, ∃ docs, answer r = .ok docs ∧ docs[k]? = some d ∧
      ∀ r' ∈ c.loaded, Text.Precedes r' r → ∀ docs', answer r' = .ok docs' → k ∉ docs'

section

variable {c : Catalogue} {names : List String} {answer : String → Except Failure Docs}
  (h : Accounts c (names.map fun r => (r, answer r)))

include h

theorem Accounts.mem_loaded_iff (r : String) :
    r ∈ c.loaded ↔ r ∈ names ∧ ∃ docs, answer r = .ok docs := by
  rw [h.loaded, List.filterMap_map, List.mem_filterMap]
  constructor
  · rintro ⟨r', hr', he⟩
    cases ha : answer r' with
    | error failure => simp [Outcome.loaded?, ha] at he
    | ok docs =>
      simp only [Function.comp_apply, Outcome.loaded?, ha, Option.some.injEq] at he
      subst he
      exact ⟨hr', docs, ha⟩
  · rintro ⟨hr, docs, ha⟩
    exact ⟨r, hr, by simp [Outcome.loaded?, ha]⟩

theorem Accounts.mem_failures_iff (r : String) (failure : Failure) :
    (r, failure) ∈ c.failures ↔ r ∈ names ∧ answer r = .error failure := by
  rw [h.failures, List.filterMap_map, List.mem_filterMap]
  constructor
  · rintro ⟨r', hr', he⟩
    cases ha : answer r' with
    | ok docs => simp [Outcome.failure?, ha] at he
    | error failure' =>
      simp only [Function.comp_apply, Outcome.failure?, ha, Option.some.injEq, Prod.mk.injEq] at he
      obtain ⟨rfl, rfl⟩ := he
      exact ⟨hr', ha⟩
  · rintro ⟨hr, ha⟩
    exact ⟨r, hr, by simp [Outcome.failure?, ha]⟩

theorem Accounts.loaded_sublist : c.loaded.Sublist names := by
  rw [h.loaded, List.filterMap_map]
  refine filterMap_sublist_self (fun {r r'} he => ?_) names
  cases ha : answer r <;> simp_all [Outcome.loaded?]

theorem Accounts.failures_sublist : (c.failures.map Prod.fst).Sublist names := by
  rw [h.failures, List.map_filterMap, List.filterMap_map]
  refine filterMap_sublist_self (fun {r r'} he => ?_) names
  cases ha : answer r <;> simp_all [Outcome.failure?]

/-- Every name is in one of the two lists, and once. -/
theorem Accounts.listed_once (hnodup : names.Nodup) {r : String} (hr : r ∈ names) :
    c.loaded.count r + (c.failures.map Prod.fst).count r = 1 := by
  have hloaded := hnodup.sublist h.loaded_sublist
  have hfailures := hnodup.sublist h.failures_sublist
  cases ha : answer r with
  | ok docs =>
    have hin : r ∈ c.loaded := (h.mem_loaded_iff r).2 ⟨hr, docs, ha⟩
    have hout : r ∉ c.failures.map Prod.fst := by
      intro hm
      obtain ⟨⟨r', failure⟩, hf, rfl⟩ := List.mem_map.1 hm
      have he := ((h.mem_failures_iff _ _).1 hf).2
      rw [ha] at he
      cases he
    rw [List.Nodup.count hloaded, if_pos hin, List.count_eq_zero_of_not_mem hout]
  | error failure =>
    have hin : r ∈ c.failures.map Prod.fst :=
      List.mem_map.2 ⟨(r, failure), (h.mem_failures_iff r failure).2 ⟨hr, ha⟩, rfl⟩
    have hout : r ∉ c.loaded := by
      intro hm
      obtain ⟨-, docs, hok⟩ := (h.mem_loaded_iff r).1 hm
      rw [ha] at hok
      cases hok
    rw [List.Nodup.count hfailures, if_pos hin, List.count_eq_zero_of_not_mem hout]

/-- A key has the docstring of the first resource in order that has the key. -/
theorem Accounts.getElem?_docs_iff (hsort : names.Pairwise Text.Precedes) (k d : String) :
    c.docs[k]? = some d ↔
      ∃ r ∈ c.loaded, ∃ docs, answer r = .ok docs ∧ docs[k]? = some d ∧
        ∀ r' ∈ c.loaded, Text.Precedes r' r → ∀ docs', answer r' = .ok docs' → k ∉ docs' := by
  rw [h.docs, List.findSome?_map, findSome?_eq_some_iff_least hsort Text.precedes_asymm]
  constructor
  · rintro ⟨r, hr, hd, hleast⟩
    cases ha : answer r with
    | error failure => simp [Outcome.doc?, ha] at hd
    | ok docs =>
      refine ⟨r, (h.mem_loaded_iff r).2 ⟨hr, docs, ha⟩, docs, ha,
        by simpa [Outcome.doc?, ha] using hd, fun r' hr' hlt docs' ha' => ?_⟩
      have hnone := hleast r' ((h.mem_loaded_iff r').1 hr').1 hlt
      simpa [Outcome.doc?, ha'] using hnone
  · rintro ⟨r, hr, docs, ha, hd, hleast⟩
    refine ⟨r, ((h.mem_loaded_iff r).1 hr).1, by simpa [Outcome.doc?, ha] using hd,
      fun r' hr' hlt => ?_⟩
    cases ha' : answer r' with
    | error failure => simp [Outcome.doc?, ha']
    | ok docs' =>
      have hk := hleast r' ((h.mem_loaded_iff r').2 ⟨hr', docs', ha'⟩) hlt docs' ha'
      simpa [Outcome.doc?, ha'] using hk

end

/-- **A catalogue agrees with its resources read one by one**, for every store and every list of
names, in any order and with any repetitions. -/
theorem catalogueOf_agrees (s : Store) (settings : Settings) (resources : List String) :
    AgreesWith (s.catalogueOf settings resources).value resources
      fun r => (s.docsOf settings r).value := by
  have h : Accounts (s.catalogueOf settings resources).value
      ((Text.sortedDistinct resources).map fun r => (r, s.answer settings r)) :=
    catalogueOf_accounts s settings resources
  have hsort := Text.sortedDistinct_precedes resources
  have hnodup : (Text.sortedDistinct resources).Nodup := hsort.imp Text.ne_of_precedes
  refine ⟨fun r => ?_, fun r failure => ?_, fun r hr => ?_, hsort.sublist h.loaded_sublist,
    hsort.sublist h.failures_sublist, h.getElem?_docs_iff hsort⟩
  · rw [h.mem_loaded_iff, Text.mem_sortedDistinct]
    rfl
  · rw [h.mem_failures_iff, Text.mem_sortedDistinct]
    rfl
  · exact h.listed_once hnodup (Text.mem_sortedDistinct.2 hr)

end Catalogue

end InterfaceDocs
