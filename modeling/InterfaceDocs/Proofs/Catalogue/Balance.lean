import Mathlib.Algebra.GroupWithZero.Nat
import Mathlib.Data.List.Forall2
import InterfaceDocs.Proofs.Catalogue.Merge

/-!
# No docstring is lost uncounted

Of two maps that are joined, every docstring is kept under its key, or its key is taken:

    docs.size + later.size = (docs.join later).size + (docs.taken later).length       (Docs.size_join)

A catalogue `Balances` for a list of maps if it has all their keys and accounts for all their
docstrings, as kept or as shadowed.  Adding one more map keeps the balance (`Balances.add`), so a
merge balances for the docstrings of its outcomes (`merge_balances`), and a catalogue of resources
for those of the resources that it has loaded (`catalogueOf_balances`).
-/

namespace InterfaceDocs

/-! ## Joining two maps -/

namespace Docs

/-- No key stands in both maps. -/
def Disjoint (docs docs' : Docs) : Prop := ∀ k ∈ docs, k ∉ docs'

/-- The keys that are taken are those that both maps have. -/
theorem taken_eq_keys_inter (docs later : Docs) : docs.taken later = (later ∩ docs).keys := by
  refine Text.eq_of_mem_iff ?_ ?_ fun k => ?_
  · exact (later.ordered_keys.imp Text.compare_eq_lt_iff.1).sublist List.filter_sublist
  · exact (later ∩ docs).ordered_keys.imp Text.compare_eq_lt_iff.1
  · rw [mem_taken, Std.ExtTreeMap.mem_keys, Std.ExtTreeMap.mem_inter_iff]

/-- Every docstring of two maps is kept, or its key is taken. -/
theorem size_join (docs later : Docs) :
    docs.size + later.size = (docs.join later).size + (docs.taken later).length := by
  rw [taken_eq_keys_inter, Std.ExtTreeMap.length_keys, Nat.add_comm]
  exact Std.ExtTreeMap.size_add_size_eq_size_union_add_size_inter

theorem mem_join {docs later : Docs} {k : String} : k ∈ docs.join later ↔ k ∈ docs ∨ k ∈ later := by
  rw [join, Std.ExtTreeMap.mem_union_iff, or_comm]

/-- Nothing is taken exactly if all keys of the later map are new. -/
theorem length_taken_eq_zero_iff {docs later : Docs} :
    (docs.taken later).length = 0 ↔ later.Disjoint docs := by
  rw [List.length_eq_zero_iff, List.eq_nil_iff_forall_not_mem]
  simp only [mem_taken, not_and]
  rfl

end Docs

namespace Catalogue

/-! ## The balance of a merge -/

/-- The docstrings of an outcome, if it has some. -/
def Outcome.docs? (o : Outcome) : Option Docs :=
  match o.2 with
  | .ok docs => some docs
  | .error _ => none

/-- A catalogue has all keys of the maps, and what it has and what it has counted as shadowed is as
much as they have together. -/
structure Balances (c : Catalogue) (maps : List Docs) : Prop where
  mem_docs : ∀ k, k ∈ c.docs ↔ ∃ docs ∈ maps, k ∈ docs
  sum_size : (maps.map (·.size)).sum = c.docs.size + c.shadowed
  shadowed_eq_zero_iff : c.shadowed = 0 ↔ maps.Pairwise Docs.Disjoint

theorem balances_empty : Balances empty [] where
  mem_docs k := by simp [empty]
  sum_size := rfl
  shadowed_eq_zero_iff := iff_of_true rfl List.Pairwise.nil

variable {c : Catalogue} {maps : List Docs}

/-- One more map keeps the balance. -/
theorem Balances.add (h : Balances c maps) (resource : String) (later : Docs) :
    Balances (c.add resource (.ok later)).value (maps ++ [later]) where
  mem_docs k := by
    show k ∈ c.docs.join later ↔ _
    simp only [Docs.mem_join, h.mem_docs, List.mem_append, List.mem_singleton, or_and_right,
      exists_or, exists_eq_left]
  sum_size := by
    show _ = (c.docs.join later).size + (c.shadowed + (c.docs.taken later).length)
    have hjoin := c.docs.size_join later
    rw [List.map_append, List.sum_append, h.sum_size, List.map_singleton, List.sum_singleton]
    omega
  shadowed_eq_zero_iff := by
    show c.shadowed + (c.docs.taken later).length = 0 ↔ _
    -- the later map is disjoint from the catalogue if it is from each of the maps before it
    have hnew : (c.docs.taken later).length = 0 ↔ ∀ docs ∈ maps, docs.Disjoint later := by
      rw [Docs.length_taken_eq_zero_iff]
      constructor
      · intro hlater docs hdocs k hk hklater
        exact hlater k hklater ((h.mem_docs k).2 ⟨docs, hdocs, hk⟩)
      · intro hmaps k hklater hk
        obtain ⟨docs, hdocs, hk⟩ := (h.mem_docs k).1 hk
        exact hmaps docs hdocs k hk hklater
    rw [Nat.add_eq_zero_iff, h.shadowed_eq_zero_iff, hnew, List.pairwise_append]
    simp

theorem Balances.addAll (h : Balances c maps) (outcomes : List Outcome) :
    Balances (c.addAll outcomes).value (maps ++ outcomes.filterMap Outcome.docs?) := by
  induction outcomes generalizing c maps with
  | nil =>
    rw [List.filterMap_nil, List.append_nil]
    exact h
  | cons o outcomes ih =>
    obtain ⟨resource, result⟩ := o
    cases result with
    | error failure => exact ih ⟨h.mem_docs, h.sum_size, h.shadowed_eq_zero_iff⟩
    | ok later =>
      have hstep := ih (h.add resource later)
      rw [List.append_assoc] at hstep
      exact hstep

theorem merge_balances (outcomes : List Outcome) :
    Balances (merge outcomes).value (outcomes.filterMap Outcome.docs?) :=
  balances_empty.addAll outcomes

/-! ## Catalogues of a store -/

/-- The docstrings of outcomes are those of the resources that are loaded, one by one. -/
theorem forall₂_loaded_docs (answer : String → Except Failure Docs) (names : List String) :
    List.Forall₂ (fun r docs => answer r = .ok docs)
      ((names.map fun r => (r, answer r)).filterMap Outcome.loaded?)
      ((names.map fun r => (r, answer r)).filterMap Outcome.docs?) := by
  induction names with
  | nil => exact .nil
  | cons r names ih =>
    rw [List.map_cons]
    cases hr : answer r with
    | error failure => exact ih
    | ok docs => exact .cons hr ih

/-- **No docstring is lost uncounted.**  For every store and every list of names, the docstrings of
the resources that a catalogue has loaded are together as many as it has and as it has counted as
shadowed; and none is shadowed exactly if no two of these resources have a key in common. -/
theorem catalogueOf_balances (s : Store) (settings : Settings) (resources : List String) :
    let c := (s.catalogueOf settings resources).value
    ∃ maps : List Docs,
      List.Forall₂ (fun r docs => (s.docsOf settings r).value = .ok docs) c.loaded maps ∧
      (maps.map (·.size)).sum = c.docs.size + c.shadowed ∧
      (c.shadowed = 0 ↔ maps.Pairwise Docs.Disjoint) := by
  intro c
  have hbalance : Balances c ((outcomesOf s settings resources).filterMap Outcome.docs?) := by
    have h := merge_balances (outcomesOf s settings resources)
    rwa [← value_catalogueOf] at h
  have hloaded : c.loaded = (outcomesOf s settings resources).filterMap Outcome.loaded? :=
    (catalogueOf_accounts s settings resources).loaded
  refine ⟨_, ?_, hbalance.sum_size, hbalance.shadowed_eq_zero_iff⟩
  rw [hloaded]
  exact forall₂_loaded_docs (s.answer settings) (Text.sortedDistinct resources)

end Catalogue

end InterfaceDocs
