import InterfaceDocs.Proofs.Store.Readable

/-!
# What a search path reads

Below a root, a path `Names` a file if its steps lead there and its text ends in the name of the file.
For a path that does not lead up, this is what following it through the tree comes to:

    t.fileAt? (join root path) = some content ↔ t.Names root path content      (fileAt?_join_eq_some_iff)

so a search path reads the file that the path names under the first root under which it names one,
whole or not at all, and what lies outside the roots is of no matter (`SearchPath.read_confined`).
-/

namespace InterfaceDocs

/-! ## Files by the paths that name them -/

namespace FileTree

/-- What is a file is no directory. -/
def IsProper (t : FileTree) : Prop := ∀ r ∈ t.files, ¬t.isDirectory r

/-- From a directory the path names a file with this content. -/
structure Names (t : FileTree) (start : Route) (path : String) (content : Bytes) : Prop where
  file : t.files[start ++ Path.steps path]? = some content
  /-- A slash or a point behind the last name would stand for a directory. -/
  ends : ∀ name ∈ (Path.components path).getLast?, Path.isStay name = false

instance (t : FileTree) (start : Route) (path : String) (content : Bytes) :
    Decidable (t.Names start path content) :=
  decidable_of_iff (t.files[start ++ Path.steps path]? = some content ∧
      ∀ name ∈ (Path.components path).getLast?, Path.isStay name = false)
    ⟨fun ⟨hfile, hends⟩ => ⟨hfile, hends⟩, fun h => ⟨h.file, h.ends⟩⟩

/-- There is a first root under which the path names a file, and this is its content. -/
def FirstNames (t : FileTree) (roots : List Route) (path : String) (content : Bytes) : Prop :=
  ∃ before root after, roots = before ++ root :: after ∧ t.Names root path content ∧
    ∀ r ∈ before, ∀ other, ¬t.Names r path other

/-- Two trees have the same files at a place and below it. -/
def SameBelow (t t' : FileTree) (root : Route) : Prop :=
  ∀ r : Route, t.files[root ++ r]? = t'.files[root ++ r]?

variable {t t' : FileTree} {root : Route} {roots : List Route} {path : String} {content : Bytes}

theorem SameBelow.names_iff (h : t.SameBelow t' root) :
    t.Names root path content ↔ t'.Names root path content :=
  ⟨fun hn => ⟨(h _).symm.trans hn.file, hn.ends⟩, fun hn => ⟨(h _).trans hn.file, hn.ends⟩⟩

theorem firstNames_iff_of_sameBelow (h : ∀ root ∈ roots, t.SameBelow t' root) :
    t.FirstNames roots path content ↔ t'.FirstNames roots path content := by
  refine exists_congr fun before => exists_congr fun root => exists_congr fun after => ?_
  refine and_congr_right fun hsplit => ?_
  subst hsplit
  refine and_congr (h root (by simp)).names_iff (forall₂_congr fun r hr => ?_)
  exact forall_congr' fun other => not_congr (h r (List.mem_append_left _ hr)).names_iff

/-- What leads to a file in a proper tree names it. -/
theorem names_of_walk (ht : t.IsProper) (hup : ".." ∉ Path.components path) {there : Route}
    (hwalk : t.walk root (Path.components path) = some there)
    (hfile : t.files[there]? = some content) : t.Names root path content := by
  obtain rfl := walk_components_of_some hup hwalk
  refine ⟨hfile, fun name hname => Bool.eq_false_iff.2 fun hstay => ?_⟩
  obtain ⟨init, hinit⟩ := List.getLast?_eq_some_iff.1 hname
  rw [hinit] at hwalk
  have hmem : root ++ Path.steps path ∈ t.files :=
    Std.ExtTreeMap.mem_iff_isSome_getElem?.2 (hfile ▸ rfl)
  exact ht _ hmem (isDirectory_of_walk_stay hstay hwalk)

/-- A path leads to the file that it names, from a directory. -/
theorem Names.walk (h : t.Names root path content) (hup : ".." ∉ Path.components path) :
    t.isDirectory root ∧
      t.walk root (Path.components path) = some (root ++ Path.steps path) := by
  obtain ⟨init, name, hsplit⟩ : ∃ init name, Path.components path = init ++ [name] :=
    ⟨_, _, (List.dropLast_concat_getLast (Path.components_ne_nil path)).symm⟩
  have hname : Path.isStay name = false := h.ends name (by simp [hsplit])
  have hsteps : Path.steps path = (init.filter fun c => !Path.isStay c) ++ [name] := by
    rw [Path.steps, hsplit, List.filter_append, List.filter_singleton]
    simp [hname]
  have hfile : root ++ (init.filter fun c => !Path.isStay c) ++ [name] ∈ t.files := by
    rw [List.append_assoc, ← hsteps]
    exact Std.ExtTreeMap.mem_iff_isSome_getElem?.2 (h.file ▸ rfl)
  have hdir := isDirectory_of_file (List.cons_ne_nil name []) hfile
  rw [hsplit, List.mem_append, List.mem_singleton, not_or] at hup
  refine ⟨isDirectory_of_append hdir, ?_⟩
  rw [hsplit, hsteps, walk_append, walk_down hup.1 hdir, Option.bind_some,
    walk_name hdir hname fun he => hup.2 he.symm, List.append_assoc]

/-- Behind a root of normal components, a path that does not lead up leads to the file that it names
there. -/
theorem fileAt?_join_eq_some_iff (ht : t.IsProper) (hroot : ∀ c ∈ root, Path.IsNormal c)
    (hup : ".." ∉ Path.components path) :
    t.fileAt? (Path.join (Path.ofSteps root) path) = some content ↔ t.Names root path content := by
  by_cases hempty : Path.ofSteps root = "" → path ≠ ""
  · unfold fileAt?
    rw [SearchPath.locate_join hempty, SearchPath.rootAt?_ofSteps hroot, Option.bind_eq_some_iff]
    constructor
    · rintro ⟨there, hthere, hfile⟩
      split at hthere
      · exact names_of_walk ht hup hthere hfile
      · cases hthere
    · intro h
      obtain ⟨hdir, hwalk⟩ := h.walk hup
      exact ⟨_, by rw [if_pos hdir, Option.bind_some, hwalk], h.file⟩
  · -- the empty path behind the empty root leads nowhere
    rw [Classical.not_imp, not_not] at hempty
    obtain ⟨htext, rfl⟩ := hempty
    refine iff_of_false ?_ fun h => ?_
    · rw [htext]
      exact nofun
    · have hlast : "" ∈ (Path.components "").getLast? := by
        rw [Path.components_empty]
        rfl
      exact absurd (h.ends "" hlast) (by decide)

end FileTree

/-! ## Counting bytes -/

namespace SearchPath

/-- For a file that can be counted, a counter takes what is taken without one. -/
theorem takeCounted_eq {limit : Nat} {content : Bytes} (hlimit : limit ≤ Command.maxSize)
    (hcontent : content.length ≤ Command.maxSize) (resource : String) :
    takeCounted resource limit content = takeBounded resource limit content := by
  rw [takeBounded_eq]
  exact bounded_take (by omega) resource

/-! ## Reading -/

variable {p : SearchPath} {t : FileTree} {roots : List Route} {resource : String}

theorem isConfined_iff :
    isConfined resource ↔ ¬(Path.isAbsolute resource ∨ ".." ∈ Path.components resource) := by
  unfold isConfined
  rw [Bool.and_eq_true, not_or, List.all_eq_true]
  simp only [Bool.not_eq_true', Bool.not_eq_true, decide_eq_true_eq]
  exact and_congr_right' ⟨fun h hup => h ".." hup rfl, fun h c hc he => h (he ▸ hc)⟩

theorem read_of_not_isConfined (h : ¬isConfined resource) (t : FileTree) :
    p.read t resource = .error (.notFound resource) := by
  rw [read, if_pos (by simpa using h)]

/-- What is read depends on a tree only through the file that is found. -/
theorem read_eq_of_contentOf?_eq {t' : FileTree}
    (h : p.contentOf? t resource = p.contentOf? t' resource) :
    p.read t resource = p.read t' resource := by
  unfold contentOf? at h
  unfold read
  rw [h]

theorem read_of_contentOf?_eq_none (hcontent : p.contentOf? t resource = none) :
    p.read t resource = .error (.notFound resource) := by
  unfold contentOf? at hcontent
  unfold read
  rw [hcontent]
  exact ite_self _

section

variable (ht : t.IsProper) (hp : p.roots = roots.map Path.ofSteps)
  (hroots : ∀ root ∈ roots, ∀ c ∈ root, Path.IsNormal c) (hup : ".." ∉ Path.components resource)

include ht hp hroots hup

theorem contentOf?_eq_some_iff {content : Bytes} :
    p.contentOf? t resource = some content ↔ t.FirstNames roots resource content := by
  have hnames : ∀ root ∈ roots, ∀ c,
      t.fileAt? (Path.join (Path.ofSteps root) resource) = some c ↔ t.Names root resource c :=
    fun root hroot _ => FileTree.fileAt?_join_eq_some_iff ht (hroots root hroot) hup
  rw [contentOf?, hp, List.findSome?_map, List.findSome?_eq_some_iff]
  refine exists_congr fun before => exists_congr fun root => exists_congr fun after => ?_
  refine and_congr_right fun hsplit => ?_
  subst hsplit
  refine and_congr (hnames root (by simp) content) (forall₂_congr fun r hr => ?_)
  simp only [Function.comp_apply, Option.eq_none_iff_forall_ne_some, ne_eq]
  exact forall_congr' fun c => not_congr (hnames r (List.mem_append_left _ hr) c)

theorem contentOf?_eq_none_iff :
    p.contentOf? t resource = none ↔ ∀ root ∈ roots, ∀ content, ¬t.Names root resource content := by
  rw [contentOf?, hp, List.findSome?_map, List.findSome?_eq_none_iff]
  refine forall₂_congr fun root hroot => ?_
  simp only [Function.comp_apply, Option.eq_none_iff_forall_ne_some, ne_eq]
  exact forall_congr' fun c =>
    not_congr (FileTree.fileAt?_join_eq_some_iff ht (hroots root hroot) hup)

end

/-- **Reading is confined to the roots, and all or nothing.**  The roots consist of normal components.

* A path that is absolute or has a `..` component is not found, whatever the tree.
* Any other path is read from the first root under which it names a file: all of the file if it is not
  longer than the limit, and else nothing, also where a later root has a shorter file.  It is not
  found if it names no file under any root.
* Trees with the same files at the roots and below them are read alike.
* A counter of the size of the largest limit is large enough for this, for every file that it can
  count. -/
theorem read_confined (settings : Settings) (roots : List Route)
    (hroots : ∀ root ∈ roots, ∀ c ∈ root, Path.IsNormal c) (resource : String) :
    let p := ofRoots (roots.map Path.ofSteps) settings
    let limit := settings.maxResourceBytes
    (Path.isAbsolute resource ∨ ".." ∈ Path.components resource →
      ∀ t, p.read t resource = .error (.notFound resource)) ∧
    (¬(Path.isAbsolute resource ∨ ".." ∈ Path.components resource) → ∀ t : FileTree, t.IsProper →
      (∀ content, t.FirstNames roots resource content → p.read t resource =
        if content.length ≤ limit then .ok content else .error (.tooLarge resource limit)) ∧
      ((∀ root ∈ roots, ∀ content, ¬t.Names root resource content) →
        p.read t resource = .error (.notFound resource))) ∧
    (∀ t t' : FileTree, t.IsProper → t'.IsProper → (∀ root ∈ roots, t.SameBelow t' root) →
      p.read t resource = p.read t' resource) ∧
    (limit ≤ Command.maxSize → ∀ content : Bytes, content.length ≤ Command.maxSize →
      takeCounted resource limit content = takeBounded resource limit content) := by
  intro p limit
  refine ⟨fun hout t => ?_, fun hin t ht => ⟨fun content hfirst => ?_, fun hnone => ?_⟩,
    fun t t' ht ht' hsame => ?_, fun hlimit content hcontent => ?_⟩
  · exact read_of_not_isConfined (fun hin => isConfined_iff.1 hin hout) t
  · have hcontent : p.contentOf? t resource = some content :=
      (contentOf?_eq_some_iff ht rfl hroots (not_or.1 hin).2).2 hfirst
    exact read_of_contentOf? (isConfined_iff.2 hin) hcontent
  · exact read_of_contentOf?_eq_none
      ((contentOf?_eq_none_iff ht rfl hroots (not_or.1 hin).2).2 hnone)
  · by_cases hin : isConfined resource
    · have hup := (not_or.1 (isConfined_iff.1 hin)).2
      refine read_eq_of_contentOf?_eq (Option.ext fun content => ?_)
      exact (contentOf?_eq_some_iff ht rfl hroots hup).trans
        ((FileTree.firstNames_iff_of_sameBelow hsame).trans
          (contentOf?_eq_some_iff ht' rfl hroots hup).symm)
    · rw [read_of_not_isConfined hin, read_of_not_isConfined hin]
  · exact takeCounted_eq hlimit hcontent resource

/-! ## A tree with a file outside the roots -/

def twoRoots : List Route := [["a"], ["b", "c"]]

/-- Under one root `x` is a directory, and under the other one a file; `s` lies outside of both. -/
def besideSecret (secret : Bytes) : FileTree :=
  ((FileTree.empty.write ["a", "x", "f"] [1, 2]).write ["b", "c", "x"] [1, 2, 3]).write ["s"] secret

theorem mem_besideSecret {secret : Bytes} {r : Route} :
    r ∈ (besideSecret secret).files ↔ r = ["s"] ∨ r = ["b", "c", "x"] ∨ r = ["a", "x", "f"] := by
  simp [besideSecret, FileTree.write, FileTree.empty, eq_comm (b := r)]

theorem besideSecret_isProper (secret : Bytes) : (besideSecret secret).IsProper := by
  intro r hr hdir
  rcases FileTree.isDirectory_iff.1 hdir with rfl | ⟨d, hd, -⟩ | ⟨f, hf, hprefix, hne⟩
  · simp [mem_besideSecret] at hr
  · exact Std.ExtTreeSet.not_mem_empty hd
  · rw [mem_besideSecret] at hr hf
    rcases hr with rfl | rfl | rfl <;> rcases hf with rfl | rfl | rfl <;> revert hprefix hne <;> decide

theorem besideSecret_sameBelow (secret secret' : Bytes) :
    ∀ root ∈ twoRoots, (besideSecret secret).SameBelow (besideSecret secret') root := by
  intro root hroot r
  simp only [besideSecret, FileTree.write, Std.ExtTreeMap.getElem?_insert, Std.compare_eq_iff_eq]
  have houtside : ["s"] ≠ root ++ r := by
    simp only [twoRoots, List.mem_cons, List.not_mem_nil, or_false] at hroot
    rcases hroot with rfl | rfl <;> simp
  rw [if_neg houtside, if_neg houtside]

theorem read_confined_besideSecret :
    let p := ofRoots (twoRoots.map Path.ofSteps) ⟨"d", [], 2⟩
    let t := besideSecret [9]
    t.IsProper ∧ p.read t "x/../../s" = .error (.notFound "x/../../s") ∧
      p.read t "x/.//f" = .ok [1, 2] ∧ p.read t ".//x" = .error (.tooLarge ".//x" 2) ∧
      p.read t "x/f/" = .error (.notFound "x/f/") ∧
      p.read t "b/../s" = p.read (besideSecret []) "b/../s" ∧
      takeCounted "x" Command.maxSize [1, 2] = takeBounded "x" Command.maxSize [1, 2] := by
  intro p t
  have hroots : ∀ root ∈ twoRoots, ∀ c ∈ root, Path.IsNormal c := by decide +kernel
  have hproper : ∀ secret, (besideSecret secret).IsProper := besideSecret_isProper
  have hread := read_confined ⟨"d", [], 2⟩ twoRoots hroots
  have hlargest := read_confined ⟨"d", [], Command.maxSize⟩ twoRoots hroots "x"
  have hshort : t.FirstNames twoRoots "x/.//f" [1, 2] :=
    ⟨[], ["a"], [["b", "c"]], rfl, by decide +kernel, nofun⟩
  have hlong : t.FirstNames twoRoots ".//x" [1, 2, 3] := by
    refine ⟨[["a"]], ["b", "c"], [], rfl, by decide +kernel, fun r hr other h => ?_⟩
    have hnone : t.files[["a"] ++ Path.steps ".//x"]? = none := by decide +kernel
    rw [List.mem_singleton.1 hr] at h
    exact nomatch hnone.symm.trans h.file
  have hslash : ∀ root ∈ twoRoots, ∀ content, ¬t.Names root "x/f/" content :=
    fun _ _ _ h => nomatch h.ends "" (by decide +kernel)
  exact ⟨hproper _, (hread "x/../../s").1 (by decide +kernel) t,
    ((hread "x/.//f").2.1 (by decide +kernel) t (hproper _)).1 _ hshort,
    ((hread ".//x").2.1 (by decide +kernel) t (hproper _)).1 _ hlong,
    ((hread "x/f/").2.1 (by decide +kernel) t (hproper _)).2 hslash,
    (hread "b/../s").2.2.1 _ _ (hproper _) (hproper _) (besideSecret_sameBelow _ _),
    hlargest.2.2.2 (Nat.le_refl _) [1, 2] (by decide +kernel)⟩

end SearchPath

end InterfaceDocs
