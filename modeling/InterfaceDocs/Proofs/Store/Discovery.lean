import InterfaceDocs.Store.Memory
import InterfaceDocs.Store.SearchPath
import InterfaceDocs.Proofs.FileTree.Walk
import InterfaceDocs.Proofs.Text.Utf8

/-!
# What discovery finds

Discovery is complete for a resource directory of normal components, but for the roots that are not
`IsSearched`: those whose text starts with a point component, and the empty text when the resource
directory is empty as well.  A store in memory discovers what lies below its resource directory, but
nothing at all when that is empty.  `discover_complete_iff` says for both kinds of store what is
found, and exactly when that is everything.
-/

namespace InterfaceDocs

/-- A path, from a root, that names a resource below the directory: its last name ends in `.json`. -/
def Path.NamesResource (dir : List String) (p : String) : Prop :=
  ∃ (sub : List String) (stem : String), p = Path.ofSteps (dir ++ (sub ++ [stem ++ ".json"]))

namespace SearchPath

/-! ## Resources of a tree -/

/-- The directory that a root stands for; the empty text stands for the working directory. -/
def rootAt? (t : FileTree) (root : String) : Option Route :=
  if root = "" then some [] else t.directoryAt? root

/-- The root has a file below the directory whose name ends in `.json`, and `p` is its path from the
root. -/
def HasResource (t : FileTree) (dir : List String) (root p : String) : Prop :=
  ∃ (r : Route) (sub : List String) (stem : String), rootAt? t root = some r ∧
    r ++ (dir ++ (sub ++ [stem ++ ".json"])) ∈ t.files ∧
    p = Path.ofSteps (dir ++ (sub ++ [stem ++ ".json"]))

/-- Whether discovery finds what is below a root. -/
def IsSearched (dir : List String) (root : String) : Prop :=
  (Path.components root).head? ≠ some "." ∧ (root = "" → dir ≠ [])

/-! ## The resource directory of a root -/

variable {t : FileTree} {dir : List String}

theorem walk_ofSteps (hdir : ∀ c ∈ dir, Path.IsNormal c) (r : Route) :
    (t.walk r (Path.components (Path.ofSteps dir))).filter t.isDirectory =
      if t.isDirectory (r ++ dir) then some (r ++ dir) else none := by
  by_cases hd : t.isDirectory (r ++ dir) = true
  · have hr := FileTree.isDirectory_of_append hd
    rw [if_pos hd]
    cases dir with
    | nil =>
      rw [List.append_nil] at hd ⊢
      rw [Path.ofSteps_nil, Path.components_empty, FileTree.walk_empty hr, Option.filter_some,
        if_pos hd]
    | cons c cs =>
      rw [Path.components_normal (List.cons_ne_nil c cs) hdir,
        FileTree.walk_normal hdir hd, Option.filter_some, if_pos hd]
  · rw [if_neg hd, Option.filter_eq_none_iff]
    intro there hthere
    cases dir with
    | nil =>
      rw [List.append_nil] at hd
      rw [FileTree.walk_of_not_isDirectory hd (Path.components_ne_nil _)] at hthere
      cases hthere
    | cons c cs =>
      rw [Path.components_normal (List.cons_ne_nil c cs) hdir] at hthere
      rw [FileTree.walk_normal_of_some hdir hthere]
      exact hd

theorem walk_join {root : String} (hroot : root ≠ "") (second : String) :
    t.walk [] (Path.components (Path.join root second)) =
      (t.walk [] (Path.components root)).bind fun r => t.walk r (Path.components second) := by
  rcases Path.components_join hroot second with h | ⟨cs, hcs, h⟩
  · rw [h, FileTree.walk_append]
  · rw [h, hcs, FileTree.walk_append, FileTree.walk_append]
    cases t.walk [] cs with
    | none => rfl
    | some r =>
      show t.walk r (Path.components second) =
        (t.walk r [""]).bind fun there => t.walk there (Path.components second)
      by_cases hr : t.isDirectory r = true
      · rw [FileTree.walk_empty hr]
        rfl
      · rw [FileTree.walk_of_not_isDirectory hr (Path.components_ne_nil second),
          FileTree.walk_of_not_isDirectory hr (List.cons_ne_nil _ _)]
        rfl

/-- A path behind a root leads on from the directory that the root stands for. -/
theorem locate_join {root second : String} (h : root = "" → second ≠ "") :
    t.locate (Path.join root second) =
      (rootAt? t root).bind fun r => t.walk r (Path.components second) := by
  unfold FileTree.locate rootAt?
  by_cases hroot : root = ""
  · subst hroot
    have hjoin : Path.join "" second = second := by simp [Path.join]
    rw [hjoin, if_neg (h rfl), if_pos rfl, Option.bind_some]
  · rw [if_neg (Path.join_ne_empty hroot _), if_neg hroot, FileTree.directoryAt?, FileTree.locate,
      if_neg hroot, walk_join hroot]
    cases t.walk [] (Path.components root) with
    | none => rfl
    | some r =>
      rw [Option.bind_some, Option.filter_some]
      by_cases hr : t.isDirectory r = true
      · rw [if_pos hr, Option.bind_some]
      · rw [if_neg hr, FileTree.walk_of_not_isDirectory hr (Path.components_ne_nil second)]
        rfl

/-- The resource directory of a root is where its names lead from the root. -/
theorem directoryAt?_join (hdir : ∀ c ∈ dir, Path.IsNormal c) {root : String}
    (h : root = "" → dir ≠ []) :
    t.directoryAt? (Path.join root (Path.ofSteps dir)) =
      (rootAt? t root).bind fun r => if t.isDirectory (r ++ dir) then some (r ++ dir) else none := by
  unfold FileTree.directoryAt?
  rw [locate_join fun hroot => Path.ofSteps_ne_empty (h hroot) hdir]
  cases rootAt? t root with
  | none => rfl
  | some r => rw [Option.bind_some, Option.bind_some, walk_ofSteps hdir]

/-! ## What is found below one root -/

theorem isResource_iff {s : Route} :
    isResource s ↔ ∃ (sub : List String) (stem : String), s = sub ++ [stem ++ ".json"] := by
  unfold isResource
  constructor
  · intro h
    cases hl : s.getLast? with
    | none => simp [hl] at h
    | some name =>
      rw [hl, Option.any_some, Path.hasSuffix_iff] at h
      obtain ⟨sub, rfl⟩ := List.getLast?_eq_some_iff.1 hl
      obtain ⟨stem, rfl⟩ := h
      exact ⟨sub, stem, rfl⟩
  · rintro ⟨sub, stem, rfl⟩
    rw [List.getLast?_concat, Option.any_some, Path.hasSuffix_iff]
    exact ⟨stem, rfl⟩

/-- The resources below a root are the files below its resource directory that are resources by their
names, if the root can be told from what is found. -/
theorem mem_discoverIn_iff {p : SearchPath} {root resource : String} :
    resource ∈ (p.discoverIn t root).value ↔ isTraceable root ∧
      ∃ d s, t.directoryAt? (p.directoryOf root) = some d ∧ s ≠ [] ∧ d ++ s ∈ t.files ∧
        isResource s ∧ resource = p.resourcePath s := by
  unfold discoverIn
  cases t.directoryAt? (p.directoryOf root) with
  | none => simp
  | some d =>
    by_cases htrace : isTraceable root = true
    · simp only [htrace, if_true, Logged.value_pure, List.mem_map, List.mem_filter,
        FileTree.mem_filesBelow]
      constructor
      · rintro ⟨s, ⟨⟨hne, hfile⟩, hres⟩, rfl⟩
        exact ⟨trivial, d, s, rfl, hne, hfile, hres, rfl⟩
      · rintro ⟨-, d', s, hd, hne, hfile, hres, rfl⟩
        cases hd
        exact ⟨s, ⟨⟨hne, hfile⟩, hres⟩, rfl⟩
    · simp [htrace]

/-- Discovery lists, in order, what is below the roots. -/
theorem exists_discover (p : SearchPath) (t : FileTree) : ∃ found : List String,
    (p.discover t).value = .ok found ∧ found.Pairwise Text.Precedes ∧
      ∀ resource, resource ∈ found ↔ ∃ root ∈ p.roots, resource ∈ (p.discoverIn t root).value := by
  refine ⟨_, rfl, Text.sortedDistinct_precedes _, fun resource => ?_⟩
  rw [Text.mem_sortedDistinct, Logged.value_mapM, ← List.flatMap_def, List.mem_flatMap]

section

variable {settings : Settings} (hdir : ∀ c ∈ dir, Path.IsNormal c)
  (htrim : Path.trimSlashes settings.resourceDir = Path.ofSteps dir)

include hdir htrim

theorem resourcePath_eq (roots : List String) (s : Route) :
    (ofRoots roots settings).resourcePath s = Path.ofSteps (dir ++ s) := by
  rw [resourcePath, ofRoots, htrim, Path.steps_ofSteps hdir]

/-- Below a root that is searched everything is found, and below another one nothing. -/
theorem mem_discoverIn (roots : List String) (root p : String) :
    p ∈ ((ofRoots roots settings).discoverIn t root).value ↔
      IsSearched dir root ∧ HasResource t dir root p := by
  have htraceable : isTraceable root ↔ (Path.components root).head? ≠ some "." := by
    simp [isTraceable]
  have hdirectory : (ofRoots roots settings).directoryOf root = Path.join root (Path.ofSteps dir) :=
    congrArg (Path.join root) htrim
  rw [mem_discoverIn_iff, htraceable, hdirectory]
  constructor
  · rintro ⟨hhead, d, s, hd, -, hfile, hres, hp⟩
    have hempty : root = "" → dir ≠ [] := by
      rintro rfl rfl
      have hnone : t.directoryAt? (Path.join "" (Path.ofSteps [])) = none := by
        simp [FileTree.directoryAt?, FileTree.locate, Path.join, Path.ofSteps]
      rw [hnone] at hd
      cases hd
    rw [directoryAt?_join hdir hempty] at hd
    obtain ⟨r, hr, hd⟩ := Option.bind_eq_some_iff.1 hd
    obtain ⟨-, hd⟩ := Option.ite_none_right_eq_some.1 hd
    cases hd
    obtain ⟨sub, stem, rfl⟩ := isResource_iff.1 hres
    rw [List.append_assoc] at hfile
    exact ⟨⟨hhead, hempty⟩, r, sub, stem, hr, hfile, hp.trans (resourcePath_eq hdir htrim roots _)⟩
  · rintro ⟨⟨hhead, hempty⟩, r, sub, stem, hr, hfile, rfl⟩
    have hne : sub ++ [stem ++ ".json"] ≠ [] := by simp
    rw [← List.append_assoc] at hfile
    refine ⟨hhead, r ++ dir, sub ++ [stem ++ ".json"], ?_, hne, hfile,
      isResource_iff.2 ⟨sub, stem, rfl⟩, (resourcePath_eq hdir htrim roots _).symm⟩
    rw [directoryAt?_join hdir hempty, hr, Option.bind_some,
      if_pos (FileTree.isDirectory_of_file hne hfile)]

/-- The resources that discovery lists are those below the roots that are searched. -/
theorem mem_discover (roots : List String) : ∃ found : List String,
    ((ofRoots roots settings).discover t).value = .ok found ∧ found.Pairwise Text.Precedes ∧
      ∀ p, p ∈ found ↔ ∃ root ∈ roots, IsSearched dir root ∧ HasResource t dir root p := by
  obtain ⟨found, hfound, hsort, hmem⟩ := (ofRoots roots settings).exists_discover t
  refine ⟨found, hfound, hsort, fun p => ?_⟩
  simp only [hmem, mem_discoverIn hdir htrim]
  rfl

end

end SearchPath

namespace MemoryStore

/-! ## Resources in memory -/

/-- A path that is a name after another, from where resources are named. -/
def IsNormalPath (p : String) : Prop :=
  ∃ cs : List String, cs ≠ [] ∧ (∀ c ∈ cs, Path.IsNormal c) ∧ p = Path.ofSteps cs

variable {dir : List String} (hdir : ∀ c ∈ dir, Path.IsNormal c)

include hdir

/-- What starts with the directory and a slash has the names of the directory first. -/
theorem append_of_startsWith {cs : List String} (hne : cs ≠ []) (hcs : ∀ c ∈ cs, Path.IsNormal c)
    (h : Path.startsWith (Path.ofSteps dir ++ "/") (Path.ofSteps cs)) :
    dir ≠ [] ∧ ∃ rest, rest ≠ [] ∧ cs = dir ++ rest := by
  obtain ⟨rest, hrest⟩ := Path.startsWith_iff.1 h
  have hcomp := Path.components_normal hne hcs
  rw [hrest, Path.components_append_slash] at hcomp
  by_cases hd : dir = []
  · -- the text would start with a slash, and so with an empty component
    subst hd
    have hmem : "" ∈ cs := by
      rw [← hcomp, Path.ofSteps_nil, Path.components_empty]
      exact List.mem_cons_self
    exact absurd rfl (hcs "" hmem).ne_empty
  · rw [Path.components_normal hd hdir] at hcomp
    exact ⟨hd, Path.components rest, Path.components_ne_nil rest, hcomp.symm⟩

omit hdir in
theorem lists_append {m : MemoryStore} (hm : m.directory = Path.ofSteps dir) (hd : dir ≠ [])
    (sub : List String) (stem : String) :
    m.lists (Path.ofSteps (dir ++ (sub ++ [stem ++ ".json"]))) := by
  unfold lists Path.resourceSuffix
  rw [hm, Bool.and_eq_true]
  refine ⟨Path.startsWith_iff.2 ⟨_, Path.ofSteps_append hd (by simp)⟩, ?_⟩
  rw [← List.append_assoc, Path.hasSuffix_ofSteps (by decide), Path.hasSuffix_iff]
  exact ⟨stem, rfl⟩

/-- A store in memory lists the names below its directory of which the last ends in `.json`; none if
the directory is empty. -/
theorem lists_ofSteps_iff {m : MemoryStore} (hm : m.directory = Path.ofSteps dir) {cs : List String}
    (hne : cs ≠ []) (hcs : ∀ c ∈ cs, Path.IsNormal c) : m.lists (Path.ofSteps cs) ↔
      dir ≠ [] ∧ ∃ (sub : List String) (stem : String), cs = dir ++ (sub ++ [stem ++ ".json"]) := by
  constructor
  · unfold lists Path.resourceSuffix
    rw [hm, Bool.and_eq_true]
    rintro ⟨hstart, hsuffix⟩
    obtain ⟨hd, rest, hrest, rfl⟩ := append_of_startsWith hdir hne hcs hstart
    obtain ⟨sub, name, rfl⟩ : ∃ sub name, rest = sub ++ [name] :=
      ⟨_, _, (List.dropLast_concat_getLast hrest).symm⟩
    rw [← List.append_assoc, Path.hasSuffix_ofSteps (by decide), Path.hasSuffix_iff] at hsuffix
    obtain ⟨stem, rfl⟩ := hsuffix
    exact ⟨hd, sub, stem, rfl⟩
  · rintro ⟨hd, sub, stem, rfl⟩
    exact lists_append hm hd sub stem

/-- A store in memory lists what is below its directory, unless that is empty. -/
theorem lists_iff {m : MemoryStore} (hm : m.directory = Path.ofSteps dir) {p : String}
    (hp : IsNormalPath p) : m.lists p ↔ dir ≠ [] ∧ Path.NamesResource dir p := by
  obtain ⟨cs, hne, hcs, rfl⟩ := hp
  constructor
  · intro h
    obtain ⟨hd, sub, stem, rfl⟩ := (lists_ofSteps_iff hdir hm hne hcs).1 h
    exact ⟨hd, sub, stem, rfl⟩
  · -- the names that the path is made of here need not be normal
    rintro ⟨hd, sub, stem, he⟩
    rw [he]
    exact lists_append hm hd sub stem

/-- The resources that a store in memory discovers. -/
theorem mem_discover {m : MemoryStore} (hm : m.directory = Path.ofSteps dir)
    (hkeys : ∀ p ∈ m.resources, IsNormalPath p) : ∃ found : List String,
    m.store.discover.value = .ok found ∧ found.Pairwise Text.Precedes ∧
      ∀ p, p ∈ found ↔ dir ≠ [] ∧ p ∈ m.resources ∧ Path.NamesResource dir p := by
  refine ⟨_, rfl, ?_, fun p => ?_⟩
  · exact (m.resources.ordered_keys.imp Text.compare_eq_lt_iff.1).sublist List.filter_sublist
  · rw [List.mem_filter, Std.ExtTreeMap.mem_keys]
    constructor
    · rintro ⟨hp, hlists⟩
      obtain ⟨hd, hnames⟩ := (lists_iff hdir hm (hkeys p hp)).1 hlists
      exact ⟨hd, hp, hnames⟩
    · rintro ⟨hd, hp, hnames⟩
      exact ⟨hp, (lists_iff hdir hm (hkeys p hp)).2 ⟨hd, hnames⟩⟩

end MemoryStore

/-! ## Completeness -/

/-- **Discovery lists every resource, once and in order, but for roots that are not searched and for
a store in memory whose resource directory is empty.**  The resource directory consists of normal
components; trees, roots and resources are arbitrary. -/
theorem discover_complete_iff (settings : Settings) (dir : List String)
    (hdir : ∀ c ∈ dir, Path.IsNormal c)
    (htrim : Path.trimSlashes settings.resourceDir = Path.ofSteps dir) :
    (∀ (t : FileTree) (roots : List String), ∃ found : List String,
      ((SearchPath.ofRoots roots settings).discover t).value = .ok found ∧
      found.Pairwise Text.Precedes ∧
      (∀ p, p ∈ found ↔
        ∃ root ∈ roots, SearchPath.IsSearched dir root ∧ SearchPath.HasResource t dir root p) ∧
      ((∀ p, p ∈ found ↔ ∃ root ∈ roots, SearchPath.HasResource t dir root p) ↔
        ∀ root ∈ roots, ∀ p, SearchPath.HasResource t dir root p →
          ∃ root' ∈ roots, SearchPath.IsSearched dir root' ∧
            SearchPath.HasResource t dir root' p)) ∧
    (∀ (t : FileTree) (a b : String), SearchPath.IsSearched dir a → SearchPath.IsSearched dir b →
      SearchPath.rootAt? t a = SearchPath.rootAt? t b →
      ((SearchPath.ofRoots [a] settings).discover t).value =
        ((SearchPath.ofRoots [b] settings).discover t).value) ∧
    (∀ m : MemoryStore, m.directory = Path.trimSlashes settings.resourceDir →
      (∀ p ∈ m.resources, MemoryStore.IsNormalPath p) → ∃ found : List String,
      m.store.discover.value = .ok found ∧ found.Pairwise Text.Precedes ∧
      (∀ p, p ∈ found ↔ dir ≠ [] ∧ p ∈ m.resources ∧ Path.NamesResource dir p) ∧
      ((∀ p, p ∈ found ↔ p ∈ m.resources ∧ Path.NamesResource dir p) ↔
        dir ≠ [] ∨ ∀ p ∈ m.resources, ¬Path.NamesResource dir p)) := by
  refine ⟨fun t roots => ?_, fun t a b ha hb hab => ?_, fun m hm hkeys => ?_⟩
  · obtain ⟨found, hok, hsort, hmem⟩ := SearchPath.mem_discover hdir htrim (t := t) roots
    refine ⟨found, hok, hsort, hmem, fun hall root hroot p hp => ?_, fun hall p => ?_⟩
    · exact (hmem p).1 ((hall p).2 ⟨root, hroot, hp⟩)
    · rw [hmem p]
      constructor
      · rintro ⟨root, hroot, -, hp⟩
        exact ⟨root, hroot, hp⟩
      · rintro ⟨root, hroot, hp⟩
        exact hall root hroot p hp
  · obtain ⟨foundA, hokA, hsortA, hmemA⟩ := SearchPath.mem_discover hdir htrim (t := t) [a]
    obtain ⟨foundB, hokB, hsortB, hmemB⟩ := SearchPath.mem_discover hdir htrim (t := t) [b]
    have hsame : foundA = foundB := by
      refine Text.eq_of_mem_iff hsortA hsortB fun p => ?_
      rw [hmemA, hmemB]
      simp [ha, hb, SearchPath.HasResource, hab]
    rw [hokA, hokB, hsame]
  · obtain ⟨found, hok, hsort, hmem⟩ := MemoryStore.mem_discover hdir (hm.trans htrim) hkeys
    refine ⟨found, hok, hsort, hmem, fun hall => ?_, fun hall p => ?_⟩
    · by_cases hd : dir = []
      · refine .inr fun p hp hnames => ?_
        exact ((hmem p).1 ((hall p).2 ⟨hp, hnames⟩)).1 hd
      · exact .inl hd
    · rw [hmem p]
      constructor
      · rintro ⟨-, hp, hnames⟩
        exact ⟨hp, hnames⟩
      · rintro ⟨hp, hnames⟩
        rcases hall with hd | hnone
        · exact ⟨hd, hp, hnames⟩
        · exact absurd hnames (hnone p hp)

/-- One resource, in the standard directory below the working directory. -/
def oneResource : FileTree := FileTree.empty.write ["META-INF", "idldoc", "thrift", "a.json"] []

/-- From the root `.` the resource is missed. -/
theorem discover_point_misses :
    (∀ c ∈ ["META-INF", "idldoc", "thrift"], Path.IsNormal c) ∧
    Path.trimSlashes Settings.standard.resourceDir = Path.ofSteps ["META-INF", "idldoc", "thrift"] ∧
    ∃ found : List String,
      ((SearchPath.ofRoots ["."] Settings.standard).discover oneResource).value = .ok found ∧
      ¬∀ p, p ∈ found ↔ ∃ root ∈ ["."],
        SearchPath.HasResource oneResource ["META-INF", "idldoc", "thrift"] root p := by
  have hdir : ∀ c ∈ ["META-INF", "idldoc", "thrift"], Path.IsNormal c := by decide +kernel
  have htrim : Path.trimSlashes Settings.standard.resourceDir =
      Path.ofSteps ["META-INF", "idldoc", "thrift"] := by decide +kernel
  obtain ⟨hpath, -, -⟩ := discover_complete_iff Settings.standard _ hdir htrim
  obtain ⟨found, hok, -, -, hall⟩ := hpath oneResource ["."]
  refine ⟨hdir, htrim, found, hok, fun h => ?_⟩
  have hresource : SearchPath.HasResource oneResource ["META-INF", "idldoc", "thrift"] "."
      "META-INF/idldoc/thrift/a.json" :=
    ⟨[], [], "a", by decide +kernel, by decide +kernel, by decide +kernel⟩
  obtain ⟨root, hroot, hsearched, -⟩ := hall.1 h "." (List.mem_singleton_self ".") _ hresource
  rw [List.mem_singleton.1 hroot] at hsearched
  exact hsearched.1 (by decide +kernel)

end InterfaceDocs
