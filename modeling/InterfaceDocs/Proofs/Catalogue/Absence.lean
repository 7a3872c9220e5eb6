import InterfaceDocs.Proofs.Store.Readable

/-!
# When there is no catalogue

Whether anything could be read is decided after the fact, by the failures that a catalogue lists and
their kinds.  For a store that `FailsOnlyToRead`, in the ways in which bytes cannot be had, this comes
to the reads themselves: there is no catalogue exactly if discovery fails, or nothing is discovered,
or every read fails (`Store.catalogue_unless_unreadable`).  Stores in memory and search paths are such
stores; so is a store with faults put into it, if the faults are of this kind.
-/

namespace InterfaceDocs

/-! ## Failures of reading -/

/-- The ways in which the bytes of a resource cannot be had. -/
inductive Failure.IsOfReading : Failure → Prop
  | notFound (resource : String) : IsOfReading (.notFound resource)
  | tooLarge (resource : String) (limit : Nat) : IsOfReading (.tooLarge resource limit)
  | unreadable (resource cause : String) : IsOfReading (.unreadable resource cause)

theorem Failure.isReadFailure_iff {failure : Failure} :
    failure.isReadFailure ↔ failure.IsOfReading := by
  constructor
  · intro h
    cases failure with
    | notFound resource => exact .notFound resource
    | tooLarge resource limit => exact .tooLarge resource limit
    | unreadable resource cause => exact .unreadable resource cause
    | malformed resource flaw => cases h
    | duplicateElement resource name => cases h
    | nothingFound location => cases h
  · rintro (_ | _ | _) <;> rfl

/-- All failures of the store's reads are failures to get hold of the bytes. -/
def Store.FailsOnlyToRead (s : Store) : Prop :=
  ∀ r failure, s.read r = .error failure → failure.IsOfReading

theorem Store.isOfReading_of_bounded {resource : String} {limit : Nat} {content : Bytes}
    {failure : Failure} (h : Store.bounded resource limit content = .error failure) :
    failure.IsOfReading := by
  unfold bounded at h
  split at h
  · cases h
  · cases h
    exact .tooLarge resource limit

theorem MemoryStore.failsOnlyToRead (m : MemoryStore) : m.store.FailsOnlyToRead := by
  intro r failure h
  change m.read r = _ at h
  unfold MemoryStore.read at h
  split at h
  · cases h
    exact .notFound r
  · exact Store.isOfReading_of_bounded h

theorem SearchPath.failsOnlyToRead (p : SearchPath) (t : FileTree) :
    (p.store t).FailsOnlyToRead := by
  intro r failure h
  rw [store_read, SearchPath.read] at h
  split at h
  · cases h
    exact .notFound r
  · split at h
    · cases h
      exact .notFound r
    · rw [takeBounded_eq] at h
      exact Store.isOfReading_of_bounded h

/-- Faults of reading, put into a store that fails only to read, leave it one. -/
theorem Store.FailsOnlyToRead.withFaults {s : Store} (hs : s.FailsOnlyToRead) {faults : Faults}
    (hfaults : ∀ (r : String) failure, faults.onRead[r]? = some failure → failure.IsOfReading) :
    (s.withFaults faults).FailsOnlyToRead := by
  intro r failure h
  unfold Store.withFaults at h
  dsimp only at h
  split at h
  · next hf =>
    cases h
    exact hfaults r _ hf
  · exact hs r failure h

/-! ## Catalogues of stores that fail only to read -/

namespace Store

variable {s : Store} {settings : Settings} {found : List String}

/-- Nothing is readable exactly if every read fails. -/
theorem FailsOnlyToRead.nothingReadable_iff (hs : s.FailsOnlyToRead) (resources : List String) :
    (s.catalogueOf settings resources).value.nothingReadable ↔
      ∀ r ∈ resources, ∃ failure, s.read r = .error failure := by
  rw [Catalogue.nothingReadable_iff]
  constructor
  · intro h r hr
    obtain ⟨failure, hfailure, -⟩ := h r hr
    exact ⟨failure, hfailure⟩
  · intro h r hr
    obtain ⟨failure, hfailure⟩ := h r hr
    exact ⟨failure, hfailure, Failure.isReadFailure_iff.2 (hs r failure hfailure)⟩

theorem value_catalogue_of_discover_error {failure : Failure} (h : s.discover.value = .error failure) :
    (s.catalogue settings).value = .error failure := by
  unfold Store.catalogue
  rw [Logged.value_bind, h]
  rfl

/-- **There is a catalogue unless nothing can be read.**  Stores in memory and search paths fail only
to read.  A store that does so fails to give a catalogue as discovery fails; or with its location,
exactly if nothing is discovered or every read fails.  In every other case the catalogue is that of
what is discovered, however little of it is loaded, and it lists each resource that fails. -/
theorem catalogue_unless_unreadable :
    (∀ m : MemoryStore, m.store.FailsOnlyToRead) ∧
    (∀ (p : SearchPath) (t : FileTree), (p.store t).FailsOnlyToRead) ∧
    ∀ (s : Store) (settings : Settings), s.FailsOnlyToRead →
      (∀ failure, s.discover.value = .error failure →
        (s.catalogue settings).value = .error failure) ∧
      ∀ found, s.discover.value = .ok found →
        ((s.catalogue settings).value = .error (.nothingFound s.location) ↔
          found = [] ∨ ∀ r ∈ found, ∃ failure, s.read r = .error failure) ∧
        (¬(found = [] ∨ ∀ r ∈ found, ∃ failure, s.read r = .error failure) →
          (s.catalogue settings).value = .ok (s.catalogueOf settings found).value ∧
          ∀ r failure, (r, failure) ∈ (s.catalogueOf settings found).value.failures ↔
            r ∈ found ∧ (s.docsOf settings r).value = .error failure) := by
  refine ⟨MemoryStore.failsOnlyToRead, SearchPath.failsOnlyToRead, fun s settings hs =>
    ⟨fun _ => value_catalogue_of_discover_error, fun found hfound => ?_⟩⟩
  have hnothing : (s.catalogueOf settings found).value.nothingReadable ↔
      found = [] ∨ ∀ r ∈ found, ∃ failure, s.read r = .error failure := by
    rw [hs.nothingReadable_iff]
    refine ⟨.inr, ?_⟩
    rintro (rfl | hall)
    · exact fun r hr => nomatch hr
    · exact hall
  rw [Catalogue.value_catalogue_of_discover hfound, ← hnothing]
  refine ⟨?_, fun hreadable => ⟨if_neg hreadable, fun r failure => ?_⟩⟩
  · split
    · exact iff_of_true rfl ‹_›
    · exact iff_of_false nofun ‹_›
  · have haccounts : Catalogue.Accounts (s.catalogueOf settings found).value
        ((Text.sortedDistinct found).map fun r => (r, s.answer settings r)) :=
      Catalogue.catalogueOf_accounts s settings found
    rw [haccounts.mem_failures_iff, Text.mem_sortedDistinct]
    rfl

/-- Reads of these resources break off. -/
def cutOff (resources : List String) (onDiscover : Option Failure) : Faults where
  onRead := resources.foldr (fun r m => m.insert r (.unreadable r "reset")) ∅
  onDiscover := onDiscover

theorem isOfReading_of_cutOff {resources : List String} {onDiscover : Option Failure} {r : String}
    {failure : Failure} (h : (cutOff resources onDiscover).onRead[r]? = some failure) :
    failure.IsOfReading := by
  induction resources with
  | nil =>
    rw [cutOff, List.foldr_nil, Std.ExtTreeMap.getElem?_empty] at h
    cases h
  | cons t resources ih =>
    rw [cutOff, List.foldr_cons, Std.ExtTreeMap.getElem?_insert] at h
    split at h
    · cases h
      exact .unreadable t "reset"
    · exact ih h

/-- A resource that is not JSON, one that repeats a key, and one without content. -/
def threeResources : MemoryStore :=
  (((MemoryStore.empty ⟨"d", [], 100⟩).insert "d/a.json" [123]).insert "d/b.json"
    (Bytes.ofString "\x7b\"types\":[\x7b\"name\":\"T\"\x7d,\x7b\"name\":\"T\"\x7d]\x7d")).insert
      "d/c.json" []

theorem catalogue_threeResources :
    let one := threeResources.store.withFaults (cutOff ["d/c.json"] none)
    let all := threeResources.store.withFaults (cutOff ["d/a.json", "d/b.json", "d/c.json"] none)
    let lost := threeResources.store.withFaults (cutOff [] (some (.duplicateElement "d" "T")))
    (one.FailsOnlyToRead ∧ ∃ c, (one.catalogue .standard).value = .ok c ∧ c.docs.isEmpty ∧
      ("d/b.json", .duplicateElement "d/b.json" "T") ∈ c.failures ∧
      ("d/c.json", .unreadable "d/c.json" "reset") ∈ c.failures) ∧
    (all.FailsOnlyToRead ∧ (all.catalogue .standard).value = .error (.nothingFound "memory:d")) ∧
    lost.FailsOnlyToRead ∧
      (lost.catalogue .standard).value = .error (.duplicateElement "d" "T") := by
  intro one all lost
  have hreads : ∀ resources onDiscover,
      (threeResources.store.withFaults (cutOff resources onDiscover)).FailsOnlyToRead :=
    fun _ _ => threeResources.failsOnlyToRead.withFaults fun _ _ => isOfReading_of_cutOff
  have hfound : threeResources.store.discover.value = .ok ["d/a.json", "d/b.json", "d/c.json"] := by
    decide +kernel
  obtain ⟨-, -, hstore⟩ := catalogue_unless_unreadable
  refine ⟨⟨hreads _ _, ?_⟩, ⟨hreads _ _, ?_⟩, hreads _ _, ?_⟩
  · obtain ⟨-, hone⟩ := hstore one .standard (hreads _ _)
    have hread : one.read "d/a.json" = .ok [123] := by decide +kernel
    obtain ⟨hok, hfailures⟩ := (hone _ hfound).2 (by simp [hread])
    exact ⟨_, hok, by decide +kernel, (hfailures _ _).2 (by decide +kernel),
      (hfailures _ _).2 (by decide +kernel)⟩
  · have hread : ∀ r ∈ ["d/a.json", "d/b.json", "d/c.json"],
        all.read r = .error (.unreadable r "reset") := by decide +kernel
    exact ((hstore all .standard (hreads _ _)).2 _ hfound).1.2 (.inr fun r hr => ⟨_, hread r hr⟩)
  · exact (hstore lost .standard (hreads _ _)).1 _ rfl

end Store

end InterfaceDocs
