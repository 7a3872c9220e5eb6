import InterfaceDocs.Proofs.Docs.Exact
import InterfaceDocs.Proofs.Store.Agreement

/-!
# What is discovered can be read

Discovery makes the path of a resource from the names of the resource directory and those below it;
reading follows the path again from every root.  Where the resource directory does not lead up, both
come to the same file (`SearchPath.fileAt?_resourcePath`), so a resource that is discovered is read,
or is too long.  Where it leads up, so do all paths that are discovered, and none of them is confined:
reading finds nothing (`discovered_readable`).

A catalogue fails only where no resource at all can be read (`Catalogue.nothingReadable_iff`), so
one resource that is not too long is enough for a catalogue.
-/

namespace InterfaceDocs

/-! ## Catalogues of what can be read -/

/-- Bytes that can be read may have faults in them, but these are not failures to read. -/
theorem Docs.not_isReadFailure_of_parse {resource : String} {s : Bytes} {settings : Settings}
    {failure : Failure} (h : (Docs.parse resource s settings).value = .error failure) :
    failure.isReadFailure = false := by
  cases hi : (Interface.parse resource s settings).value with
  | ok i =>
    rw [Docs.value_parse_of_ok hi, Interface.collect_eq_error_iff] at h
    obtain ⟨before, e, -, rfl⟩ := h
    rfl
  | error failure' =>
    obtain ⟨flaw, hflaw⟩ : ∃ flaw, (Interface.parse resource s settings).value =
        .error (.malformed resource flaw) :=
      Interface.parse_malformed fun i hok => by rw [hi] at hok; cases hok
    unfold Docs.parse at h
    rw [Logged.value_bind, hflaw] at h
    cases h
    rfl

namespace Catalogue

/-- Nothing is readable exactly if reading fails for every resource. -/
theorem nothingReadable_iff (s : Store) (settings : Settings) (resources : List String) :
    (s.catalogueOf settings resources).value.nothingReadable ↔
      ∀ r ∈ resources, ∃ failure, s.read r = .error failure ∧ failure.isReadFailure := by
  have h : Accounts (s.catalogueOf settings resources).value
      ((Text.sortedDistinct resources).map fun r => (r, s.answer settings r)) :=
    catalogueOf_accounts s settings resources
  have hloaded := fun r => h.mem_loaded_iff r
  have hfailures := fun r failure => h.mem_failures_iff r failure
  simp only [Text.mem_sortedDistinct, Store.answer, Store.docsOf] at hloaded hfailures
  unfold nothingReadable
  rw [Bool.and_eq_true, List.isEmpty_iff, List.all_eq_true]
  constructor
  · rintro ⟨hempty, hall⟩ r hr
    cases hread : s.read r with
    | error failure =>
      refine ⟨failure, rfl, hall (r, failure) ((hfailures r failure).2 ⟨hr, ?_⟩)⟩
      rw [hread]
      rfl
    | ok content =>
      exfalso
      cases hdocs : (Docs.parse r content settings).value with
      | ok docs =>
        have hmem := (hloaded r).2 ⟨hr, docs, by rw [hread]; exact hdocs⟩
        rw [hempty] at hmem
        cases hmem
      | error failure =>
        have hfailure := hall (r, failure) ((hfailures r failure).2 ⟨hr, by rw [hread]; exact hdocs⟩)
        rw [Docs.not_isReadFailure_of_parse hdocs] at hfailure
        cases hfailure
  · intro hread
    refine ⟨List.eq_nil_iff_forall_not_mem.2 fun r hr => ?_, fun ⟨r, failure⟩ hr => ?_⟩
    · obtain ⟨hr, docs, hdocs⟩ := (hloaded r).1 hr
      obtain ⟨failure, hfailure, -⟩ := hread r hr
      rw [hfailure] at hdocs
      cases hdocs
    · obtain ⟨hr, hdocs⟩ := (hfailures r failure).1 hr
      obtain ⟨failure', hfailure, hkind⟩ := hread r hr
      rw [hfailure] at hdocs
      cases hdocs
      exact hkind

/-- One resource that can be read is enough for a catalogue. -/
theorem exists_catalogue {s : Store} {found : List String} (h : s.discover.value = .ok found)
    {r : String} (hr : r ∈ found) {content : Bytes} (hread : s.read r = .ok content)
    (settings : Settings) : ∃ c, (s.catalogue settings).value = .ok c := by
  rw [value_catalogue_of_discover h, if_neg]
  · exact ⟨_, rfl⟩
  · rw [nothingReadable_iff]
    intro hall
    obtain ⟨failure, hfailure, -⟩ := hall r hr
    rw [hread] at hfailure
    cases hfailure

end Catalogue

/-- A store can read what it discovers, but for what is longer than the limit; and one resource that
is not is enough for a catalogue.  `contentOf?` says what the store holds. -/
def Store.ReadsWhatItFinds (s : Store) (contentOf? : String → Option Bytes) (limit : Nat) : Prop :=
  ∃ found : List String, s.discover.value = .ok found ∧
    (∀ r ∈ found, ∃ content, contentOf? r = some content ∧
      s.read r = if content.length ≤ limit then .ok content else .error (.tooLarge r limit)) ∧
    ((∃ r ∈ found, ∃ content, contentOf? r = some content ∧ content.length ≤ limit) →
      ∀ settings, ∃ c, (s.catalogue settings).value = .ok c)

/-- It is enough that what is discovered is there, and is read. -/
theorem Store.readsWhatItFinds_of_read {s : Store} {contentOf? : String → Option Bytes} {limit : Nat}
    {found : List String} (hfound : s.discover.value = .ok found)
    (hread : ∀ r ∈ found, ∃ content, contentOf? r = some content ∧
      s.read r = Store.bounded r limit content) : s.ReadsWhatItFinds contentOf? limit := by
  refine ⟨found, hfound, hread, ?_⟩
  rintro ⟨r, hr, content, hcontent, hshort⟩ settings
  obtain ⟨content', hcontent', hbounded⟩ := hread r hr
  rw [hcontent] at hcontent'
  cases hcontent'
  rw [Store.bounded, if_pos hshort] at hbounded
  exact Catalogue.exists_catalogue hfound hr hbounded settings

/-! ## Resources in memory -/

theorem MemoryStore.readsWhatItFinds (m : MemoryStore) :
    m.store.ReadsWhatItFinds (m.resources[·]?) m.limit := by
  refine Store.readsWhatItFinds_of_read rfl fun r hr => ?_
  have hmem := Std.ExtTreeMap.mem_keys.1 (List.mem_of_mem_filter hr)
  rw [Std.ExtTreeMap.mem_iff_isSome_getElem?, Option.isSome_iff_exists] at hmem
  obtain ⟨content, hcontent⟩ := hmem
  refine ⟨content, hcontent, ?_⟩
  show m.read r = _
  rw [MemoryStore.read, hcontent]

/-! ## Resources on a search path -/

/-- The files of the tree have names that can stand in a path. -/
def FileTree.IsNamed (t : FileTree) : Prop := ∀ r ∈ t.files, ∀ c ∈ r, Path.IsNormal c

namespace SearchPath

/-- The content of a resource is that of the file in the first root that has one. -/
def contentOf? (p : SearchPath) (t : FileTree) (resource : String) : Option Bytes :=
  p.roots.findSome? fun root => t.fileAt? (Path.join root resource)

variable {t : FileTree} {p : SearchPath}

/-- Whatever is discovered is a file below the resource directory of one of the roots. -/
theorem exists_file_of_discover {found : List String} (hfound : (p.discover t).value = .ok found) :
    ∀ r ∈ found, ∃ root ∈ p.roots, ∃ dir s, t.directoryAt? (p.directoryOf root) = some dir ∧
      s ≠ [] ∧ dir ++ s ∈ t.files ∧ r = p.resourcePath s := by
  intro r hr
  obtain ⟨found', hfound', -, hmem⟩ := p.exists_discover t
  rw [hfound] at hfound'
  cases hfound'
  obtain ⟨root, hroot, hr⟩ := (hmem r).1 hr
  obtain ⟨-, dir, s, hdir, hne, hfile, -, hpath⟩ := mem_discoverIn_iff.1 hr
  exact ⟨root, hroot, dir, s, hdir, hne, hfile, hpath⟩

/-- The names of the resource directory lead to it from the directory of the root. -/
theorem exists_rootAt?_of_directoryAt? {root : String} {dir : Route}
    (hup : ".." ∉ Path.components p.directory)
    (hdir : t.directoryAt? (p.directoryOf root) = some dir) :
    ∃ start, rootAt? t root = some start ∧ dir = start ++ Path.steps p.directory := by
  obtain ⟨hlocate, -⟩ := Option.filter_eq_some_iff.1 hdir
  have hempty : root = "" → p.directory ≠ "" := by
    rintro rfl hd
    rw [directoryOf, hd] at hlocate
    cases hlocate
  rw [directoryOf, locate_join hempty] at hlocate
  obtain ⟨start, hstart, hwalk⟩ := Option.bind_eq_some_iff.1 hlocate
  exact ⟨start, hstart, FileTree.walk_components_of_some hup hwalk⟩

/-- The names of a path that is discovered, where the resource directory does not lead up. -/
theorem isNormal_of_mem_names (hup : ".." ∉ Path.components p.directory) {s : Route}
    (hs : ∀ c ∈ s, Path.IsNormal c) : ∀ c ∈ Path.steps p.directory ++ s, Path.IsNormal c := by
  refine List.forall_mem_append.2 ⟨fun c hc => ?_, hs⟩
  exact Path.isNormal_of_mem_steps hc fun he => hup (Path.mem_steps_up.1 (he ▸ hc))

/-- From its root, the path of a resource leads to the file that was found. -/
theorem fileAt?_resourcePath {root : String} {dir s : Route}
    (hup : ".." ∉ Path.components p.directory)
    (hdir : t.directoryAt? (p.directoryOf root) = some dir) (hne : s ≠ [])
    (hs : ∀ c ∈ s, Path.IsNormal c) :
    t.fileAt? (Path.join root (p.resourcePath s)) = t.files[dir ++ s]? := by
  obtain ⟨start, hstart, rfl⟩ := exists_rootAt?_of_directoryAt? hup hdir
  have hnames := isNormal_of_mem_names hup hs
  have hnonempty : Path.steps p.directory ++ s ≠ [] := by simp [hne]
  unfold FileTree.fileAt? resourcePath
  rw [locate_join fun _ => Path.ofSteps_ne_empty hnonempty hnames, hstart, Option.bind_some,
    Path.components_normal hnonempty hnames, FileTree.bind_walk_normal hnames hnonempty,
    List.append_assoc]

theorem store_read (p : SearchPath) (t : FileTree) (resource : String) :
    (p.store t).read resource = p.read t resource := rfl

theorem read_of_contentOf? {resource : String} (h : isConfined resource) {content : Bytes}
    (hcontent : p.contentOf? t resource = some content) :
    (p.store t).read resource = Store.bounded resource p.limit content := by
  unfold contentOf? at hcontent
  rw [store_read, read, if_neg (by simp [h]), hcontent]
  exact takeBounded_eq resource p.limit content

/-- Where the resource directory does not lead up, what is discovered is read. -/
theorem readsWhatItFinds (ht : t.IsNamed) (hup : ".." ∉ Path.components p.directory) :
    (p.store t).ReadsWhatItFinds (p.contentOf? t) p.limit := by
  obtain ⟨found, hfound, -, -⟩ := p.exists_discover t
  refine Store.readsWhatItFinds_of_read hfound fun r hr => ?_
  obtain ⟨root, hroot, dir, s, hdir, hne, hfile, rfl⟩ := exists_file_of_discover hfound r hr
  have hs : ∀ c ∈ s, Path.IsNormal c := fun c hc => ht _ hfile c (List.mem_append_right dir hc)
  have hsome : (p.contentOf? t (p.resourcePath s)).isSome := by
    rw [contentOf?, List.findSome?_isSome_iff]
    refine ⟨root, hroot, ?_⟩
    rw [fileAt?_resourcePath hup hdir hne hs]
    exact Std.ExtTreeMap.mem_iff_isSome_getElem?.1 hfile
  obtain ⟨content, hcontent⟩ := Option.isSome_iff_exists.1 hsome
  have hconfined : isConfined (p.resourcePath s) :=
    isConfined_ofSteps (by simp [hne]) (isNormal_of_mem_names hup hs)
  exact ⟨content, hcontent, read_of_contentOf? hconfined hcontent⟩

/-- Where the resource directory leads up, no path that is discovered is confined. -/
theorem not_isConfined_resourcePath (hup : ".." ∈ Path.components p.directory) {s : Route}
    (hs : ∀ c ∈ s, Path.IsNormal c) : isConfined (p.resourcePath s) = false := by
  have hmem : ".." ∈ Path.steps p.directory ++ s := List.mem_append_left s (Path.mem_steps_up.2 hup)
  have hcomponents : Path.components (p.resourcePath s) = Path.steps p.directory ++ s := by
    refine Path.components_ofSteps (List.ne_nil_of_mem hmem) ?_
    exact List.forall_mem_append.2
      ⟨fun c hc => Path.no_slash_of_mem_components (List.mem_of_mem_filter hc),
        fun c hc => (hs c hc).no_slash⟩
  have hall : (Path.components (p.resourcePath s)).all (· ≠ "..") = false := by
    rw [hcomponents, List.all_eq_false]
    exact ⟨"..", hmem, by decide⟩
  rw [isConfined, hall, Bool.and_false]

/-- Where the resource directory leads up, nothing that is discovered can be read. -/
theorem read_discovered_up (ht : t.IsNamed) (hup : ".." ∈ Path.components p.directory) :
    ∃ found : List String, (p.store t).discover.value = .ok found ∧
      (∀ r ∈ found, (p.store t).read r = .error (.notFound r)) ∧
      ∀ settings, ((p.store t).catalogue settings).value =
        .error (.nothingFound (p.store t).location) := by
  obtain ⟨found, hfound, -, -⟩ := p.exists_discover t
  have hread : ∀ r ∈ found, (p.store t).read r = .error (.notFound r) := by
    intro r hr
    obtain ⟨root, -, dir, s, -, -, hfile, rfl⟩ := exists_file_of_discover hfound r hr
    have hconfined := not_isConfined_resourcePath (s := s) hup fun c hc =>
      ht _ hfile c (List.mem_append_right dir hc)
    rw [store_read, read, hconfined]
    rfl
  refine ⟨found, hfound, hread, fun settings => ?_⟩
  rw [Catalogue.value_catalogue_of_discover hfound, if_pos]
  rw [Catalogue.nothingReadable_iff]
  exact fun r hr => ⟨_, hread r hr, rfl⟩

end SearchPath

/-! ## What is discovered can be read -/

/-- **A store reads what it discovers, or tells that it is too long, unless it is a search path whose
resource directory leads up.**  Such a search path reads nothing of what it discovers, and has no
catalogue. -/
theorem discovered_readable (settings : Settings) :
    (∀ m : MemoryStore, m.store.ReadsWhatItFinds (m.resources[·]?) m.limit) ∧
    ∀ (t : FileTree) (roots : List String), t.IsNamed →
      let p := SearchPath.ofRoots roots settings
      (".." ∉ Path.components p.directory →
        (p.store t).ReadsWhatItFinds (p.contentOf? t) settings.maxResourceBytes) ∧
      (".." ∈ Path.components p.directory →
        ∃ found : List String, (p.store t).discover.value = .ok found ∧
          (∀ r ∈ found, (p.store t).read r = .error (.notFound r)) ∧
          ∀ settings', ((p.store t).catalogue settings').value =
            .error (.nothingFound (p.store t).location)) :=
  ⟨MemoryStore.readsWhatItFinds, fun _ _ ht =>
    ⟨SearchPath.readsWhatItFinds ht, SearchPath.read_discovered_up ht⟩⟩

/-- One file, which holds an empty object, below the root `r`. -/
def oneObject : FileTree := FileTree.empty.write ["r", "d", "a.json"] [123, 125]

theorem oneObject_isNamed : oneObject.IsNamed := by
  intro r hr
  simp only [oneObject, FileTree.write, Std.ExtTreeMap.mem_insert, Std.compare_eq_iff_eq] at hr
  rcases hr with rfl | hr
  · decide +kernel
  · exact absurd hr Std.ExtTreeMap.not_mem_empty

theorem discovered_readable_oneObject :
    let p := SearchPath.ofRoots ["r"] ⟨"/d/", [], 2⟩
    let up := SearchPath.ofRoots ["r"] ⟨"d/../d", [], 2⟩
    oneObject.IsNamed ∧ ".." ∉ Path.components p.directory ∧ ".." ∈ Path.components up.directory ∧
      (∃ found : List String, (p.store oneObject).discover.value = .ok found ∧ "d/a.json" ∈ found ∧
        (p.store oneObject).read "d/a.json" = .ok [123, 125] ∧
        ∃ c, ((p.store oneObject).catalogue Settings.standard).value = .ok c) ∧
      ((up.store oneObject).catalogue Settings.standard).value = .error (.nothingFound "r/d/../d") := by
  intro p up
  have hdown : ".." ∉ Path.components p.directory := by decide +kernel
  have hup : ".." ∈ Path.components up.directory := by decide +kernel
  obtain ⟨found, hfound, hread, hcatalogue⟩ :=
    ((discovered_readable ⟨"/d/", [], 2⟩).2 oneObject ["r"] oneObject_isNamed).1 hdown
  obtain ⟨-, -, -, hnothing⟩ :=
    ((discovered_readable ⟨"d/../d", [], 2⟩).2 oneObject ["r"] oneObject_isNamed).2 hup
  have hmem : "d/a.json" ∈ found := by
    have hone : (p.store oneObject).discover.value = .ok ["d/a.json"] := by decide +kernel
    rw [hone] at hfound
    cases hfound
    exact List.mem_singleton_self _
  have hcontent : p.contentOf? oneObject "d/a.json" = some [123, 125] := by decide +kernel
  obtain ⟨content, hcontent', hbytes⟩ := hread _ hmem
  rw [hcontent] at hcontent'
  cases hcontent'
  exact ⟨oneObject_isNamed, hdown, hup,
    ⟨found, hfound, hmem, hbytes, hcatalogue ⟨_, hmem, _, hcontent, by decide⟩ _⟩, hnothing _⟩

/-- Through a resource directory that leads up and down again, a file is discovered but not found. -/
theorem discovered_unreadable_above :
    let p := SearchPath.ofRoots ["r"] ⟨"d/../d", [], 2⟩
    oneObject.IsNamed ∧ (p.store oneObject).discover.value = .ok ["d/../d/a.json"] ∧
      p.contentOf? oneObject "d/../d/a.json" = some [123, 125] ∧
      (p.store oneObject).read "d/../d/a.json" = .error (.notFound "d/../d/a.json") ∧
      ((p.store oneObject).catalogue ⟨"d/../d", [], 2⟩).value = .error (.nothingFound "r/d/../d") ∧
      ¬(p.store oneObject).ReadsWhatItFinds (p.contentOf? oneObject) 2 := by
  intro p
  have hdiscover : (p.store oneObject).discover.value = .ok ["d/../d/a.json"] := by decide +kernel
  have hcontent : p.contentOf? oneObject "d/../d/a.json" = some [123, 125] := by decide +kernel
  have hread : (p.store oneObject).read "d/../d/a.json" = .error (.notFound "d/../d/a.json") := by
    decide +kernel
  obtain ⟨found, -, -, hnothing⟩ :=
    SearchPath.read_discovered_up (p := p) oneObject_isNamed (by decide +kernel)
  refine ⟨oneObject_isNamed, hdiscover, hcontent, hread, hnothing _, ?_⟩
  rintro ⟨found', hfound, hreads, -⟩
  rw [hdiscover] at hfound
  cases hfound
  obtain ⟨content, -, hbytes⟩ := hreads _ (List.mem_singleton_self _)
  rw [hread] at hbytes
  split at hbytes <;> cases hbytes

end InterfaceDocs
