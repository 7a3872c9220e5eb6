import Mathlib.Data.List.Forall2
import InterfaceDocs.Proofs.Catalogue.Merge

/-!
# What a merge tells

A merge tells of its outcomes one after the other, and of each of them what `Outcome.notices` says: that
it is left out, or how much it has and which of its keys an earlier one has.

    (c.addAll outcomes).log = (told before outcomes).flatten        where c accounts for before

The notices add up to what has changed in the catalogue (`Tallies`): those of failures are its failures
in their order, and there are as many about keys as it counts as shadowed.  So the log of a catalogue is a
faithful account of how it was merged (`catalogueOf_log`).
-/

namespace InterfaceDocs

/-! ## Kinds of notices -/

namespace Notice

/-- What is shown of a notice. -/
def record (n : Notice) : Level × String := (n.level, n.message)

/-- The resource that has been taken into the catalogue. -/
def taken? : Notice → Option String
  | taken resource _ => some resource
  | _ => none

/-- The resource that is left out, and why. -/
def skipped? : Notice → Option (String × Failure)
  | skipping resource failure => some (resource, failure)
  | _ => none

def isAlreadyDefined : Notice → Bool
  | alreadyDefined _ _ => true
  | _ => false

end Notice

namespace Catalogue

variable {c d e : Catalogue} {before : List Outcome}

/-! ## The notices of outcomes -/

/-- What is told of an outcome that is merged after others. -/
def Outcome.notices (before : List Outcome) (o : Outcome) : List Notice :=
  match o.2 with
  | .error failure => [.skipping o.1 failure]
  | .ok docs => .taken o.1 docs.size ::
    (docs.keys.filter fun k => (before.findSome? (doc? k)).isSome).map (.alreadyDefined o.1)

/-- What is told of outcomes that are merged one by one after others. -/
def told (before : List Outcome) : List Outcome → List (List Notice)
  | [] => []
  | o :: outcomes => o.notices before :: told (before ++ [o]) outcomes

theorem Accounts.log_add (h : Accounts c before) (o : Outcome) :
    (c.add o.1 o.2).log = o.notices before := by
  obtain ⟨resource, result⟩ := o
  cases result with
  | error failure => rfl
  | ok later =>
    have htaken : c.docs.taken later =
        later.keys.filter fun k => (before.findSome? (Outcome.doc? k)).isSome := by
      refine List.filter_congr fun k _ => ?_
      rw [Bool.eq_iff_iff, decide_eq_true_iff, Std.ExtTreeMap.mem_iff_isSome_getElem?, h.docs k]
    show Notice.taken resource later.size :: (c.docs.taken later).map _ ++ [] = _
    rw [htaken, List.append_nil]
    rfl

theorem Accounts.log_addAll (h : Accounts c before) (outcomes : List Outcome) :
    (c.addAll outcomes).log = (told before outcomes).flatten := by
  induction outcomes generalizing c before with
  | nil => rfl
  | cons o outcomes ih =>
    have hrest := ih (h.add o)
    show (c.add o.1 o.2).log ++ ((c.add o.1 o.2).value.addAll outcomes).log = _
    rw [h.log_add, hrest]
    rfl

/-! ## What the notices add up to -/

/-- The notices tell of everything that the second catalogue has listed or counted beyond the first. -/
structure Tallies (c d : Catalogue) (log : List Notice) : Prop where
  loaded : d.loaded = c.loaded ++ log.filterMap Notice.taken?
  failures : d.failures = c.failures ++ log.filterMap Notice.skipped?
  shadowed : d.shadowed = c.shadowed + log.countP Notice.isAlreadyDefined

theorem tallies_nil (c : Catalogue) : Tallies c c [] := by
  constructor
  · simp
  · simp
  · simp

theorem Tallies.trans {log more : List Notice} (h : Tallies c d log) (h' : Tallies d e more) :
    Tallies c e (log ++ more) := by
  constructor
  · rw [h'.loaded, h.loaded, List.filterMap_append, List.append_assoc]
  · rw [h'.failures, h.failures, List.filterMap_append, List.append_assoc]
  · rw [h'.shadowed, h.shadowed, List.countP_append, Nat.add_assoc]

/-- Adding one outcome tells what it adds. -/
theorem tallies_add (c : Catalogue) (o : Outcome) :
    Tallies c (c.add o.1 o.2).value (c.add o.1 o.2).log := by
  obtain ⟨resource, result⟩ := o
  cases result with
  | error failure =>
    have hlog : (c.add resource (.error failure)).log = [.skipping resource failure] := rfl
    constructor
    · show c.loaded = _
      rw [hlog]
      simp [Notice.taken?]
    · rfl
    · rfl
  | ok later =>
    have hlog : (c.add resource (.ok later)).log =
        .taken resource later.size :: (c.docs.taken later).map (.alreadyDefined resource) :=
      List.append_nil _
    constructor
    · show c.loaded ++ [resource] = _
      rw [hlog, List.filterMap_cons, List.filterMap_map]
      simp [Function.comp_def, Notice.taken?]
    · show c.failures = _
      rw [hlog, List.filterMap_cons, List.filterMap_map]
      simp [Function.comp_def, Notice.skipped?]
    · show c.shadowed + (c.docs.taken later).length = _
      rw [hlog, List.countP_cons, List.countP_map]
      simp [Function.comp_def, Notice.isAlreadyDefined]

theorem tallies_addAll (c : Catalogue) (outcomes : List Outcome) :
    Tallies c (c.addAll outcomes).value (c.addAll outcomes).log := by
  induction outcomes generalizing c with
  | nil => exact tallies_nil c
  | cons o outcomes ih => exact (tallies_add c o).trans (ih _)

/-! ## Resources in order -/

/-- What is told of one of several resources, which are merged in the order of their names. -/
inductive Tells (answer : String → Except Failure Docs) (names : List String) (r : String) :
    List Notice → Prop
  | skipping {failure : Failure} (h : answer r = .error failure) :
    Tells answer names r [.skipping r failure]
  /-- Its keys that a resource before it has come in order. -/
  | taken {docs : Docs} {keys : List String} (h : answer r = .ok docs)
    (sorted : keys.Pairwise Text.Precedes)
    (mem_keys : ∀ k, k ∈ keys ↔ k ∈ docs ∧
      ∃ r' ∈ names, Text.Precedes r' r ∧ ∃ docs', answer r' = .ok docs' ∧ k ∈ docs') :
    Tells answer names r (.taken r docs.size :: keys.map (.alreadyDefined r))

section

variable {answer : String → Except Failure Docs} {names : List String}

/-- A key is found among outcomes if one of the resources has it. -/
theorem isSome_findSome?_doc? (k : String) :
    ((names.map fun r => (r, answer r)).findSome? (Outcome.doc? k)).isSome ↔
      ∃ r ∈ names, ∃ docs, answer r = .ok docs ∧ k ∈ docs := by
  rw [List.findSome?_isSome_iff]
  constructor
  · rintro ⟨o, ho, hdoc⟩
    obtain ⟨r, hr, rfl⟩ := List.mem_map.1 ho
    unfold Outcome.doc? at hdoc
    cases ha : answer r with
    | error failure => simp [ha] at hdoc
    | ok docs =>
      simp only [ha] at hdoc
      exact ⟨r, hr, docs, ha, Std.ExtTreeMap.mem_iff_isSome_getElem?.2 hdoc⟩
  · rintro ⟨r, hr, docs, ha, hk⟩
    refine ⟨(r, answer r), List.mem_map.2 ⟨r, hr, rfl⟩, ?_⟩
    unfold Outcome.doc?
    simp only [ha]
    exact Std.ExtTreeMap.mem_iff_isSome_getElem?.1 hk

/-- What is told of a resource that stands between others. -/
theorem tells_notices {before after : List String} {r : String}
    (hsort : (before ++ r :: after).Pairwise Text.Precedes) :
    Tells answer (before ++ r :: after) r
      (Outcome.notices (before.map fun r => (r, answer r)) (r, answer r)) := by
  -- the names before `r` in the list are those that precede it
  have hbefore : ∀ r', r' ∈ before ↔ r' ∈ before ++ r :: after ∧ Text.Precedes r' r := by
    intro r'
    rw [List.pairwise_append, List.pairwise_cons] at hsort
    obtain ⟨-, ⟨hafter, -⟩, hcross⟩ := hsort
    refine ⟨fun h => ⟨List.mem_append_left _ h, hcross r' h r List.mem_cons_self⟩, fun ⟨h, hlt⟩ => ?_⟩
    rcases List.mem_append.1 h with h | h
    · exact h
    · rcases List.mem_cons.1 h with rfl | h
      · exact absurd hlt (Text.precedes_irrefl _)
      · exact absurd hlt (Text.precedes_asymm (hafter r' h))
  unfold Outcome.notices
  cases ha : answer r with
  | error failure => exact .skipping ha
  | ok docs =>
    refine .taken ha ?_ fun k => ?_
    · exact (docs.ordered_keys.imp Text.compare_eq_lt_iff.1).sublist List.filter_sublist
    · rw [List.mem_filter, isSome_findSome?_doc?, Std.ExtTreeMap.mem_keys]
      simp only [hbefore, and_assoc]

theorem forall₂_tells_told (before : List String) {after : List String}
    (hsort : (before ++ after).Pairwise Text.Precedes) :
    List.Forall₂ (Tells answer (before ++ after)) after
      (told (before.map fun r => (r, answer r)) (after.map fun r => (r, answer r))) := by
  induction after generalizing before with
  | nil => exact .nil
  | cons r after ih =>
    rw [List.map_cons]
    refine .cons (tells_notices hsort) ?_
    have hsplit : before ++ r :: after = before ++ [r] ++ after := by simp
    rw [hsplit] at hsort ⊢
    have hrest := ih (before ++ [r]) hsort
    rwa [List.map_append] at hrest

end

/-! ## Catalogues of a store -/

theorem log_catalogueOf (s : Store) (settings : Settings) (resources : List String) :
    (s.catalogueOf settings resources).log =
      ((Text.sortedDistinct resources).flatMap fun r => (s.docsOf settings r).log) ++
        (merge (outcomesOf s settings resources)).log := by
  unfold Store.catalogueOf
  rw [Logged.log_bind, Logged.log_mapM, Logged.value_mapM]
  have houtcome : ∀ r, (s.outcome settings r).log = (s.docsOf settings r).log := by
    intro r
    unfold Store.outcome
    rw [Logged.log_bind, Logged.log_pure, List.append_nil]
  simp only [houtcome]
  rfl

/-- **The log of a catalogue is a faithful account of its merge.**  For every store and every list of
names, what is told on the way is first what reading the resources tells, and then of each resource, in
the order of their names:

* of one that fails, one warning with its failure;
* of one that is loaded, how many docstrings it has, and then in order which of its keys a loaded resource
  before it has.

At the end stand the sizes of the catalogue.  The warnings are the failures of the catalogue in their
order, and there are as many notices about keys as it counts as shadowed.  The last part says how each
of these notices is worded. -/
theorem catalogueOf_log (s : Store) (settings : Settings) (resources : List String) :
    let c := (s.catalogueOf settings resources).value
    ∃ (names : List String) (told : List (List Notice)),
      names.Pairwise Text.Precedes ∧ (∀ r, r ∈ names ↔ r ∈ resources) ∧
      List.Forall₂ (Tells (fun r => (s.docsOf settings r).value) names) names told ∧
      (s.catalogueOf settings resources).log =
        (names.flatMap fun r => (s.docsOf settings r).log) ++
          (told.flatten ++ [.indexed c.docs.size c.loaded.length c.failures.length]) ∧
      told.flatten.filterMap Notice.taken? = c.loaded ∧
      told.flatten.filterMap Notice.skipped? = c.failures ∧
      told.flatten.countP Notice.isAlreadyDefined = c.shadowed ∧
      ∀ (r k : String) (failure : Failure) (size loaded failed : Nat),
        (Notice.skipping r failure).record = (.warn, "skipping " ++ r ++ ": " ++ failure.message) ∧
        (Notice.taken r size).record = (.debug, r ++ ": " ++ toString size ++ " docstrings") ∧
        (Notice.alreadyDefined r k).record =
          (.debug, r ++ ": " ++ k ++ " already defined by an earlier resource") ∧
        (Notice.indexed size loaded failed).record = (.info, "indexed " ++ toString size
          ++ " docstrings from " ++ toString loaded ++ " resources (" ++ toString failed ++ " failed)") := by
  intro c
  have hsort := Text.sortedDistinct_precedes resources
  have hlog := accounts_empty.log_addAll (outcomesOf s settings resources)
  have hsum := tallies_addAll empty (outcomesOf s settings resources)
  have hc : c = (empty.addAll (outcomesOf s settings resources)).value := by
    show (s.catalogueOf settings resources).value = _
    rw [value_catalogueOf]
    rfl
  rw [hlog, ← hc] at hsum
  refine ⟨Text.sortedDistinct resources, told [] (outcomesOf s settings resources), hsort,
    fun r => Text.mem_sortedDistinct, forall₂_tells_told [] hsort, ?_,
    hsum.loaded.symm, hsum.failures.symm, ?_, fun _ _ _ _ _ _ => ⟨rfl, rfl, rfl, rfl⟩⟩
  · rw [log_catalogueOf, ← hlog, hc]
    rfl
  · rw [hsum.shadowed]
    exact (Nat.zero_add _).symm

end Catalogue

end InterfaceDocs
