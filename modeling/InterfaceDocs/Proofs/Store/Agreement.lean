import Mathlib.Data.List.Basic
import InterfaceDocs.Proofs.Store.Discovery
import InterfaceDocs.Proofs.Catalogue.Merge

/-!
# Stores with the same resources agree

`FileTree.Holds t root files` says that the files below `root` in a tree are exactly the given ones,
by their paths from `root`.  A store in memory looks its resources up by name; a search path follows
names through the tree, and takes one byte too many to see that a file is too long.  For the same
resources both come to the same:

    t.fileAt? (join root p) = files[p]?                      (Holds.fileAt?_join)
    takeBounded resource limit = Store.bounded resource limit          (takeBounded_eq)

so they discover the same names, read the same bytes and make the same catalogue (`stores_agree`).
-/

namespace InterfaceDocs

/-! ## Trees that hold given files -/

namespace FileTree

/-- Below the root there are these files, and no other ones. -/
def Holds (t : FileTree) (root : Route) (files : Std.ExtTreeMap String Bytes) : Prop :=
  ∀ r : Route, t.files[root ++ r]? =
    if ∀ c ∈ r, Path.IsNormal c then files[Path.ofSteps r]? else none

theorem holds_empty (root : Route) : empty.Holds root ∅ := by
  intro r
  simp [empty]

/-- Writing a file below the root adds it to those that the tree holds. -/
theorem Holds.write {t : FileTree} {root : Route} {files : Std.ExtTreeMap String Bytes}
    (h : t.Holds root files) (cs : List String) (hcs : ∀ c ∈ cs, Path.IsNormal c)
    (content : Bytes) :
    (t.write (root ++ cs) content).Holds root (files.insert (Path.ofSteps cs) content) := by
  intro r
  show (t.files.insert (root ++ cs) content)[root ++ r]? = _
  rw [Std.ExtTreeMap.getElem?_insert, Std.ExtTreeMap.getElem?_insert, h r]
  simp only [Std.compare_eq_iff_eq, List.append_cancel_left_eq]
  by_cases hr : ∀ c ∈ r, Path.IsNormal c
  · -- normal components are determined by the text that they make
    have hiff : Path.ofSteps cs = Path.ofSteps r ↔ cs = r := by
      refine ⟨fun he => ?_, fun he => by rw [he]⟩
      rw [← Path.steps_ofSteps hcs, he, Path.steps_ofSteps hr]
    rw [if_pos hr, if_pos hr]
    simp only [hiff]
  · have hne : cs ≠ r := fun he => hr (he ▸ hcs)
    rw [if_neg hr, if_neg hne, if_neg hr]

/-- A tree holds a file exactly under normal components that make its path. -/
theorem Holds.mem_files_iff {t : FileTree} {root : Route} {files : Std.ExtTreeMap String Bytes}
    (h : t.Holds root files) {r : Route} :
    root ++ r ∈ t.files ↔ (∀ c ∈ r, Path.IsNormal c) ∧ Path.ofSteps r ∈ files := by
  rw [Std.ExtTreeMap.mem_iff_isSome_getElem?, h r, Std.ExtTreeMap.mem_iff_isSome_getElem?]
  by_cases hr : ∀ c ∈ r, Path.IsNormal c
  · rw [if_pos hr]
    exact (and_iff_right hr).symm
  · rw [if_neg hr]
    exact iff_of_false Bool.false_ne_true fun hand => hr hand.1

/-- A path behind the root leads to what is there by their names. -/
theorem fileAt?_join {t : FileTree} {root cs : List String} (hroot : ∀ c ∈ root, Path.IsNormal c)
    (hne : cs ≠ []) (hcs : ∀ c ∈ cs, Path.IsNormal c) :
    t.fileAt? (Path.join (Path.ofSteps root) (Path.ofSteps cs)) = t.files[root ++ cs]? := by
  have hcomp := Path.components_normal hne hcs
  unfold fileAt? locate
  by_cases hr : root = []
  · subst hr
    have hjoin : Path.join (Path.ofSteps []) (Path.ofSteps cs) = Path.ofSteps cs := by
      simp [Path.join, Path.ofSteps]
    rw [hjoin, if_neg (Path.ofSteps_ne_empty hne hcs), hcomp, bind_walk_normal hcs hne]
  · have hrootText := Path.ofSteps_ne_empty hr hroot
    rw [if_neg (Path.join_ne_empty hrootText _), SearchPath.walk_join hrootText, hcomp,
      Path.components_normal hr hroot, ← walk_append,
      bind_walk_normal (List.forall_mem_append.2 ⟨hroot, hcs⟩) (by simp [hne]), List.nil_append]

theorem Holds.fileAt?_join {t : FileTree} {root cs : List String}
    {files : Std.ExtTreeMap String Bytes} (h : t.Holds root files)
    (hroot : ∀ c ∈ root, Path.IsNormal c) (hne : cs ≠ []) (hcs : ∀ c ∈ cs, Path.IsNormal c) :
    t.fileAt? (Path.join (Path.ofSteps root) (Path.ofSteps cs)) = files[Path.ofSteps cs]? := by
  rw [FileTree.fileAt?_join hroot hne hcs, h cs, if_pos hcs]

end FileTree

/-- The path is that of one of the files, with the names of the directory first and a last name that
ends in `.json`. -/
def Path.IsResourceAmong (files : Std.ExtTreeMap String Bytes) (dir : List String) (p : String) :
    Prop :=
  ∃ cs, (∀ c ∈ cs, Path.IsNormal c) ∧ p = Path.ofSteps cs ∧ p ∈ files ∧
    ∃ (sub : List String) (stem : String), cs = dir ++ (sub ++ [stem ++ ".json"])

/-- A store in memory with the given resources. -/
def MemoryStore.holding (settings : Settings) (resources : Std.ExtTreeMap String Bytes) :
    MemoryStore := { MemoryStore.empty settings with resources := resources }

/-! ## Reading -/

namespace SearchPath

/-- Where a window ends behind the limit, or behind the bytes, it tells what all the bytes tell. -/
theorem bounded_take {limit window : Nat} {content : Bytes}
    (h : limit < window ∨ content.length ≤ window) (resource : String) :
    Store.bounded resource limit (content.take window) = Store.bounded resource limit content := by
  unfold Store.bounded
  by_cases hfits : content.length ≤ limit
  · have htaken : content.take window = content := List.take_of_length_le (by omega)
    rw [htaken]
  · have hlong : ¬(content.take window).length ≤ limit := by
      rw [List.length_take]
      omega
    rw [if_neg hlong, if_neg hfits]

/-- Taking one byte too many tells what looking at the whole length tells. -/
theorem takeBounded_eq (resource : String) (limit : Nat) (content : Bytes) :
    takeBounded resource limit content = Store.bounded resource limit content :=
  bounded_take (.inl (Nat.lt_succ_self limit)) resource

theorem isConfined_ofSteps {cs : List String} (hne : cs ≠ []) (hcs : ∀ c ∈ cs, Path.IsNormal c) :
    isConfined (Path.ofSteps cs) := by
  unfold isConfined
  rw [Path.isAbsolute_ofSteps hne hcs, Path.components_normal hne hcs]
  simpa using fun c hc => (hcs c hc).ne_up

variable {t : FileTree} {root : Route} {files : Std.ExtTreeMap String Bytes}

/-- From one root, what is read is what memory would give. -/
theorem read_eq (ht : t.Holds root files) (hroot : ∀ c ∈ root, Path.IsNormal c)
    (settings : Settings) {p : String} (hp : MemoryStore.IsNormalPath p) :
    (ofRoots [Path.ofSteps root] settings).read t p =
      (MemoryStore.holding settings files).read p := by
  obtain ⟨cs, hne, hcs, rfl⟩ := hp
  have hfile := ht.fileAt?_join hroot hne hcs
  unfold read MemoryStore.read
  rw [if_neg (by simp [isConfined_ofSteps hne hcs])]
  simp only [ofRoots, List.findSome?_singleton, hfile, takeBounded_eq]
  rfl

/-! ## Discovery -/

/-- A root of normal components is the directory at its names. -/
theorem rootAt?_ofSteps (hroot : ∀ c ∈ root, Path.IsNormal c) :
    rootAt? t (Path.ofSteps root) = if t.isDirectory root then some root else none := by
  unfold rootAt?
  by_cases hr : root = []
  · subst hr
    rw [if_pos FileTree.isDirectory_nil, if_pos Path.ofSteps_nil]
  · have htext := Path.ofSteps_ne_empty hr hroot
    rw [if_neg htext, FileTree.directoryAt?, FileTree.locate, if_neg htext, walk_ofSteps hroot,
      List.nil_append]

theorem isSearched_ofSteps (hroot : ∀ c ∈ root, Path.IsNormal c) {dir : List String}
    (hne : dir ≠ []) : IsSearched dir (Path.ofSteps root) := by
  refine ⟨?_, fun _ => hne⟩
  cases root with
  | nil =>
    rw [Path.ofSteps_nil, Path.components_empty]
    decide
  | cons c cs =>
    rw [Path.components_normal (List.cons_ne_nil c cs) hroot]
    simpa using (hroot c List.mem_cons_self).ne_point

/-- The resources below the root are the files with these names. -/
theorem hasResource_iff (ht : t.Holds root files) (hroot : ∀ c ∈ root, Path.IsNormal c)
    {dir : List String} {p : String} :
    HasResource t dir (Path.ofSteps root) p ↔ Path.IsResourceAmong files dir p := by
  unfold HasResource
  rw [rootAt?_ofSteps hroot]
  constructor
  · rintro ⟨r, sub, stem, hr, hfile, rfl⟩
    split at hr
    · cases hr
      obtain ⟨hcs, hmem⟩ := ht.mem_files_iff.1 hfile
      exact ⟨_, hcs, rfl, hmem, sub, stem, rfl⟩
    · cases hr
  · rintro ⟨_, hcs, rfl, hmem, sub, stem, rfl⟩
    have hfile := ht.mem_files_iff.2 ⟨hcs, hmem⟩
    rw [if_pos (FileTree.isDirectory_of_file (by simp) hfile)]
    exact ⟨root, sub, stem, rfl, hfile, rfl⟩

end SearchPath

namespace MemoryStore

/-- The resources below the directory are the files with these names. -/
theorem namesResource_iff {m : MemoryStore} {dir : List String} (hdir : ∀ c ∈ dir, Path.IsNormal c)
    (hne : dir ≠ []) (hm : m.directory = Path.ofSteps dir)
    (hkeys : ∀ p ∈ m.resources, IsNormalPath p) {p : String} :
    p ∈ m.resources ∧ Path.NamesResource dir p ↔ Path.IsResourceAmong m.resources dir p := by
  constructor
  · rintro ⟨hp, hnames⟩
    have hlists := (lists_iff hdir hm (hkeys p hp)).2 ⟨hne, hnames⟩
    obtain ⟨cs, hcsne, hcs, rfl⟩ := hkeys p hp
    exact ⟨cs, hcs, rfl, hp, ((lists_ofSteps_iff hdir hm hcsne hcs).1 hlists).2⟩
  · rintro ⟨_, -, rfl, hp, sub, stem, rfl⟩
    exact ⟨hp, sub, stem, rfl⟩

end MemoryStore

/-! ## Agreement -/

section

variable {settings : Settings} {t : FileTree} {root : Route} {files : Std.ExtTreeMap String Bytes}
  (hdir : MemoryStore.IsNormalPath (Path.trimSlashes settings.resourceDir))
  (hroot : ∀ c ∈ root, Path.IsNormal c) (hfiles : ∀ p ∈ files, MemoryStore.IsNormalPath p)
  (ht : t.Holds root files)

include hdir hroot hfiles ht

/-- Both stores list the files below the resource directory whose names end in `.json`. -/
theorem discover_agree : ∃ found : List String,
    (MemoryStore.holding settings files).store.discover.value = .ok found ∧
    ((SearchPath.ofRoots [Path.ofSteps root] settings).store t).discover.value = .ok found ∧
    ∀ p ∈ found, MemoryStore.IsNormalPath p := by
  obtain ⟨dir, hne, hnormal, htrim⟩ := hdir
  obtain ⟨found, hfound, hsort, hmem⟩ := MemoryStore.mem_discover hnormal
    (m := .holding settings files) htrim hfiles
  obtain ⟨found', hfound', hsort', hmem'⟩ :=
    SearchPath.mem_discover hnormal htrim (t := t) [Path.ofSteps root]
  have hsame : found' = found := by
    refine Text.eq_of_mem_iff hsort' hsort fun p => ?_
    have hsole : (∃ r ∈ [Path.ofSteps root], SearchPath.IsSearched dir r ∧
        SearchPath.HasResource t dir r p) ↔ SearchPath.HasResource t dir (Path.ofSteps root) p := by
      simp [SearchPath.isSearched_ofSteps hroot hne]
    have hnames : p ∈ (MemoryStore.holding settings files).resources ∧ Path.NamesResource dir p ↔
        SearchPath.HasResource t dir (Path.ofSteps root) p :=
      (MemoryStore.namesResource_iff hnormal hne htrim hfiles).trans
        (SearchPath.hasResource_iff ht hroot).symm
    rw [hmem', hsole, hmem, hnames]
    exact (and_iff_right hne).symm
  exact ⟨found, hfound, hsame ▸ hfound', fun p hp => hfiles p ((hmem p).1 hp).2.1⟩

end

/-- **Stores with the same resources agree.**  One holds files in memory, the other one has a root
below which a tree holds them.  They discover the same names, read the same of every path of normal
components, and have the same catalogue, or both find nothing. -/
theorem stores_agree (settings : Settings) (t : FileTree) (root : Route)
    (files : Std.ExtTreeMap String Bytes)
    (hdir : MemoryStore.IsNormalPath (Path.trimSlashes settings.resourceDir))
    (hroot : ∀ c ∈ root, Path.IsNormal c) (hfiles : ∀ p ∈ files, MemoryStore.IsNormalPath p)
    (ht : t.Holds root files) :
    let memory := (MemoryStore.holding settings files).store
    let path := (SearchPath.ofRoots [Path.ofSteps root] settings).store t
    memory.discover.value = path.discover.value ∧
      (∀ p, MemoryStore.IsNormalPath p → memory.read p = path.read p) ∧
      ∀ settings' : Settings,
        (∃ c, (memory.catalogue settings').value = .ok c ∧
          (path.catalogue settings').value = .ok c) ∨
        ((memory.catalogue settings').value = .error (.nothingFound memory.location) ∧
          (path.catalogue settings').value = .error (.nothingFound path.location)) := by
  intro memory path
  obtain ⟨found, hmemory, hpath, hnormal⟩ := discover_agree hdir hroot hfiles ht
  have hread : ∀ p, MemoryStore.IsNormalPath p → memory.read p = path.read p :=
    fun p hp => (SearchPath.read_eq ht hroot settings hp).symm
  refine ⟨hmemory.trans hpath.symm, hread, fun settings' => ?_⟩
  have hcatalogue : (memory.catalogueOf settings' found).value =
      (path.catalogueOf settings' found).value :=
    Catalogue.value_catalogueOf_congr settings' fun p hp => hread p (hnormal p hp)
  rw [Catalogue.value_catalogue_of_discover hmemory, Catalogue.value_catalogue_of_discover hpath,
    ← hcatalogue]
  by_cases hnothing : (memory.catalogueOf settings' found).value.nothingReadable
  · right
    rw [if_pos hnothing, if_pos hnothing]
    exact ⟨rfl, rfl⟩
  · left
    rw [if_neg hnothing, if_neg hnothing]
    exact ⟨_, rfl, rfl⟩

/-! ## A tree with files at and above the limit -/

def limitSettings : Settings := ⟨"/d/", [], 2⟩

/-- Files at the limit, in a hidden directory, above the limit, and in a sibling directory. -/
def limitFiles : Std.ExtTreeMap String Bytes :=
  (((Std.ExtTreeMap.empty.insert "d/a.json" [1, 2]).insert "d/.h/.json" []).insert "d/s/b.json"
    [1, 2, 3]).insert "d2/c.json" []

/-- The same files below the root `r`. -/
def limitTree : FileTree :=
  (((FileTree.empty.write ["r", "d", "a.json"] [1, 2]).write ["r", "d", ".h", ".json"] []).write
    ["r", "d", "s", "b.json"] [1, 2, 3]).write ["r", "d2", "c.json"] []

theorem limitTree_holds : limitTree.Holds ["r"] limitFiles :=
  ((((FileTree.holds_empty ["r"]).write ["d", "a.json"] (by decide +kernel) _).write
    ["d", ".h", ".json"] (by decide +kernel) _).write ["d", "s", "b.json"] (by decide +kernel)
      _).write ["d2", "c.json"] (by decide +kernel) _

theorem limitFiles_normal : ∀ p ∈ limitFiles, MemoryStore.IsNormalPath p := by
  intro p hp
  simp only [limitFiles, Std.ExtTreeMap.mem_insert, Std.compare_eq_iff_eq] at hp
  rcases hp with rfl | rfl | rfl | rfl | hp
  · exact ⟨["d2", "c.json"], by decide, by decide +kernel, by decide +kernel⟩
  · exact ⟨["d", "s", "b.json"], by decide, by decide +kernel, by decide +kernel⟩
  · exact ⟨["d", ".h", ".json"], by decide, by decide +kernel, by decide +kernel⟩
  · exact ⟨["d", "a.json"], by decide, by decide +kernel, by decide +kernel⟩
  · exact absurd hp Std.ExtTreeMap.not_mem_empty

theorem stores_agree_atLimit :
    let path := (SearchPath.ofRoots ["r"] limitSettings).store limitTree
    path.discover.value = .ok ["d/.h/.json", "d/a.json", "d/s/b.json"] ∧
      path.read "d/a.json" = .ok [1, 2] ∧
      path.read "d/s/b.json" = .error (.tooLarge "d/s/b.json" 2) := by
  intro path
  have hdir : MemoryStore.IsNormalPath (Path.trimSlashes limitSettings.resourceDir) :=
    ⟨["d"], by decide, by decide +kernel, by decide +kernel⟩
  obtain ⟨hdiscover, hread, -⟩ := stores_agree limitSettings limitTree ["r"] limitFiles hdir
    (by decide +kernel) limitFiles_normal limitTree_holds
  have hpath : path = (SearchPath.ofRoots [Path.ofSteps ["r"]] limitSettings).store limitTree := rfl
  have hatLimit := hread "d/a.json" ⟨["d", "a.json"], by decide, by decide +kernel, by decide +kernel⟩
  have hlong := hread "d/s/b.json"
    ⟨["d", "s", "b.json"], by decide, by decide +kernel, by decide +kernel⟩
  rw [hpath, ← hdiscover, ← hatLimit, ← hlong]
  decide +kernel

end InterfaceDocs
