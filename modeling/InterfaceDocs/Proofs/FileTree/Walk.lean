import InterfaceDocs.FileTree
import InterfaceDocs.Proofs.Path.Steps

/-!
# Following paths in a tree

What lies above a directory is a directory (`isDirectory_of_append`), so following a path of normal
components leads down by exactly these names (`walk_normal_of_some`), and does lead there whenever
there is a directory at the end (`walk_normal`) or a file (`walk_normal_of_file`).
-/

namespace InterfaceDocs.FileTree

variable {t : FileTree}

/-! ## Directories -/

theorem isDirectory_iff {r : Route} :
    t.isDirectory r ↔ r = [] ∨ (∃ d ∈ t.directories, r <+: d) ∨ ∃ f ∈ t.files, r <+: f ∧ r ≠ f := by
  unfold isDirectory
  simp [Std.ExtTreeSet.mem_toList, Std.ExtTreeMap.mem_keys, or_assoc]

theorem isDirectory_nil : t.isDirectory [] := isDirectory_iff.2 (.inl rfl)

theorem isDirectory_of_append {r s : Route} (h : t.isDirectory (r ++ s)) : t.isDirectory r := by
  rcases isDirectory_iff.1 h with hr | ⟨d, hd, hp⟩ | ⟨f, hf, hp, hne⟩
  · rw [(List.append_eq_nil_iff.1 hr).1]
    exact isDirectory_nil
  · exact isDirectory_iff.2 (.inr (.inl ⟨d, hd, (List.prefix_append r s).trans hp⟩))
  · refine isDirectory_iff.2 (.inr (.inr ⟨f, hf, (List.prefix_append r s).trans hp, ?_⟩))
    rintro rfl
    exact hne (hp.eq_of_length_le (by simp))

/-- What holds a file is a directory. -/
theorem isDirectory_of_file {r s : Route} (hs : s ≠ []) (h : r ++ s ∈ t.files) :
    t.isDirectory r := by
  refine isDirectory_iff.2 (.inr (.inr ⟨r ++ s, h, List.prefix_append r s, ?_⟩))
  intro he
  exact hs (List.self_eq_append_right.1 he)

/-- The files below a directory, by their ways from it. -/
theorem mem_filesBelow {r s : Route} : s ∈ t.filesBelow r ↔ s ≠ [] ∧ r ++ s ∈ t.files := by
  unfold filesBelow
  rw [List.mem_filterMap]
  constructor
  · rintro ⟨f, hf, he⟩
    split at he
    · next hcond =>
      simp only [Bool.and_eq_true, List.isPrefixOf_iff_prefix, decide_eq_true_eq] at hcond
      obtain ⟨⟨s', rfl⟩, hne⟩ := hcond
      rw [List.drop_left, Option.some.injEq] at he
      subst he
      refine ⟨?_, Std.ExtTreeMap.mem_keys.1 hf⟩
      rintro rfl
      exact hne (List.append_nil r).symm
    · cases he
  · rintro ⟨hs, hf⟩
    refine ⟨r ++ s, Std.ExtTreeMap.mem_keys.2 hf, ?_⟩
    have hne : r ≠ r ++ s := fun he => hs (List.self_eq_append_right.1 he)
    rw [if_pos (by simp [hne]), List.drop_left]

/-! ## Walking -/

theorem walk_append (here : Route) (cs ds : List String) :
    t.walk here (cs ++ ds) = (t.walk here cs).bind fun there => t.walk there ds := by
  induction cs generalizing here with
  | nil => rfl
  | cons c cs ih =>
    rw [List.cons_append, walk, walk]
    by_cases hdir : (!t.isDirectory here) = true
    · rw [if_pos hdir, if_pos hdir]
      rfl
    · rw [if_neg hdir, if_neg hdir]
      by_cases hstay : Path.isStay c = true
      · rw [if_pos hstay, if_pos hstay, ih]
      · rw [if_neg hstay, if_neg hstay]
        by_cases hup : c = ".."
        · rw [if_pos hup, if_pos hup]
          by_cases htop : here = []
          · rw [if_pos htop, if_pos htop]
            rfl
          · rw [if_neg htop, if_neg htop, ih]
        · rw [if_neg hup, if_neg hup, ih]

/-- A step starts from a directory. -/
theorem walk_of_not_isDirectory {here : Route} (h : ¬t.isDirectory here) {cs : List String}
    (hne : cs ≠ []) : t.walk here cs = none := by
  cases cs with
  | nil => exact absurd rfl hne
  | cons c cs => simp [walk, h]

theorem walk_empty {here : Route} (h : t.isDirectory here) : t.walk here [""] = some here := by
  simp [walk, h, Path.isStay]

/-- Components that stay where they are may be left out. -/
theorem walk_filter_of_some {here there : Route} {cs : List String}
    (h : t.walk here cs = some there) : t.walk here (cs.filter fun c => !Path.isStay c) = some there := by
  induction cs generalizing here with
  | nil => exact h
  | cons c cs ih =>
    rw [walk] at h
    by_cases hdir : (!t.isDirectory here) = true
    · rw [if_pos hdir] at h
      cases h
    · rw [if_neg hdir] at h
      by_cases hstay : Path.isStay c = true
      · rw [if_pos hstay] at h
        rw [List.filter_cons_of_neg (by simp [hstay])]
        exact ih h
      · rw [if_neg hstay] at h
        rw [List.filter_cons_of_pos (by simp [hstay]), walk, if_neg hdir, if_neg hstay]
        by_cases hup : c = ".."
        · rw [if_pos hup] at h ⊢
          by_cases htop : here = []
          · rw [if_pos htop] at h
            cases h
          · rw [if_neg htop] at h ⊢
            exact ih h
        · rw [if_neg hup] at h ⊢
          exact ih h

/-- Components that do not lead up lead down to the directory that they name. -/
theorem walk_down {here : Route} {cs : List String} (hup : ".." ∉ cs)
    (h : t.isDirectory (here ++ cs.filter fun c => !Path.isStay c)) :
    t.walk here cs = some (here ++ cs.filter fun c => !Path.isStay c) := by
  induction cs generalizing here with
  | nil => simp [walk]
  | cons c cs ih =>
    rw [List.mem_cons, not_or] at hup
    rw [walk, if_neg (by simp [isDirectory_of_append h])]
    by_cases hstay : Path.isStay c = true
    · rw [List.filter_cons_of_neg (by simp [hstay])] at h ⊢
      rw [if_pos hstay]
      exact ih hup.2 h
    · rw [List.filter_cons_of_pos (by simp [hstay]), List.append_cons _ c (cs.filter _)] at h ⊢
      rw [if_neg hstay, if_neg fun he => hup.1 he.symm]
      exact ih hup.2 h

theorem walk_name {here : Route} {name : String} (hdir : t.isDirectory here)
    (hstay : Path.isStay name = false) (hup : name ≠ "..") :
    t.walk here [name] = some (here ++ [name]) := by
  rw [walk, if_neg (by simp [hdir]), if_neg (by simp [hstay]), if_neg hup, walk]

/-- Where the last component stays, a path leads to a directory. -/
theorem isDirectory_of_walk_stay {here there : Route} {cs : List String} {c : String}
    (hstay : Path.isStay c = true) (h : t.walk here (cs ++ [c]) = some there) :
    t.isDirectory there := by
  rw [walk_append] at h
  obtain ⟨mid, -, hmid⟩ := Option.bind_eq_some_iff.1 h
  by_cases hdir : t.isDirectory mid = true
  · rw [walk, if_neg (by simp [hdir]), if_pos hstay, walk] at hmid
    cases hmid
    exact hdir
  · rw [walk_of_not_isDirectory hdir (List.cons_ne_nil c [])] at hmid
    cases hmid

/-- Normal components lead down by one name each. -/
theorem walk_normal {here : Route} {cs : List String} (hcs : ∀ c ∈ cs, Path.IsNormal c)
    (h : t.isDirectory (here ++ cs)) : t.walk here cs = some (here ++ cs) := by
  have hall := Path.filter_not_isStay hcs
  have hup : ".." ∉ cs := fun hmem => (hcs ".." hmem).ne_up rfl
  have hdown := walk_down hup (by rwa [hall] : t.isDirectory (here ++ cs.filter _))
  rwa [hall] at hdown

theorem walk_normal_of_some {here there : Route} {cs : List String}
    (hcs : ∀ c ∈ cs, Path.IsNormal c) (h : t.walk here cs = some there) : there = here ++ cs := by
  induction cs generalizing here with
  | nil => simpa [walk] using h.symm
  | cons c cs ih =>
    have hc := hcs c List.mem_cons_self
    rw [walk, if_neg (by simp [hc.not_isStay] : ¬Path.isStay c = true), if_neg hc.ne_up] at h
    split at h
    · cases h
    · rw [ih (fun d hd => hcs d (List.mem_cons_of_mem c hd)) h]
      simp

/-- A path that does not lead up leads down by its steps. -/
theorem walk_components_of_some {here there : Route} {path : String}
    (hup : ".." ∉ Path.components path) (h : t.walk here (Path.components path) = some there) :
    there = here ++ Path.steps path := by
  refine walk_normal_of_some (fun c hc => ?_) (walk_filter_of_some h)
  exact Path.isNormal_of_mem_steps hc fun he => hup (Path.mem_steps_up.1 (he ▸ hc))

/-- Normal components lead to a file, since there are directories above it. -/
theorem walk_normal_of_file {here : Route} {cs : List String} (hcs : ∀ c ∈ cs, Path.IsNormal c)
    (hne : cs ≠ []) (h : here ++ cs ∈ t.files) : t.walk here cs = some (here ++ cs) := by
  obtain ⟨above, name, rfl⟩ : ∃ above name, cs = above ++ [name] :=
    ⟨_, _, (List.dropLast_concat_getLast hne).symm⟩
  obtain ⟨habove, hname⟩ := List.forall_mem_append.1 hcs
  have hn := hname name (List.mem_singleton_self name)
  rw [← List.append_assoc] at h ⊢
  have hdir : t.isDirectory (here ++ above) := isDirectory_of_file (List.cons_ne_nil name []) h
  rw [walk_append, walk_normal habove hdir, Option.bind_some, walk_name hdir hn.not_isStay hn.ne_up]

/-- What a path of normal components leads to is what the tree has there. -/
theorem bind_walk_normal {here : Route} {cs : List String} (hcs : ∀ c ∈ cs, Path.IsNormal c)
    (hne : cs ≠ []) : ((t.walk here cs).bind fun r => t.files[r]?) = t.files[here ++ cs]? := by
  by_cases hfile : here ++ cs ∈ t.files
  · rw [walk_normal_of_file hcs hne hfile, Option.bind_some]
  · rw [Std.ExtTreeMap.getElem?_eq_none hfile, Option.bind_eq_none_iff]
    intro r hr
    rw [walk_normal_of_some hcs hr]
    exact Std.ExtTreeMap.getElem?_eq_none hfile

end InterfaceDocs.FileTree
