import InterfaceDocs.Path

/-!
# Paths of normal components

A component is normal if it leads down and holds no slash.  Normal components joined by slashes are
read back from the text (`components_normal`, `steps_ofSteps`), so such a text stands for one list
of names only; a path behind another has the components of both (`components_join`).
-/

namespace InterfaceDocs

namespace Path

/-- A component that leads down by one name. -/
structure IsNormal (c : String) : Prop where
  ne_empty : c ≠ ""
  ne_point : c ≠ "."
  ne_up : c ≠ ".."
  no_slash : '/' ∉ c.toList

instance (c : String) : Decidable (IsNormal c) :=
  decidable_of_iff (c ≠ "" ∧ c ≠ "." ∧ c ≠ ".." ∧ '/' ∉ c.toList)
    ⟨fun ⟨h₁, h₂, h₃, h₄⟩ => ⟨h₁, h₂, h₃, h₄⟩, fun ⟨h₁, h₂, h₃, h₄⟩ => ⟨h₁, h₂, h₃, h₄⟩⟩

theorem IsNormal.not_isStay {c : String} (h : IsNormal c) : isStay c = false := by
  simp [isStay, h.ne_empty, h.ne_point]

/-! ## Components of joined texts -/

theorem components_append_slash (a b : String) :
    components (a ++ "/" ++ b) = components a ++ components b := by
  unfold components
  rw [String.toList_append, String.toList_append, List.append_assoc,
    show "/".toList ++ b.toList = '/' :: b.toList from rfl, Text.pieces_append_sep, List.map_append]

theorem components_of_not_mem {c : String} (h : '/' ∉ c.toList) : components c = [c] := by
  unfold components
  rw [Text.pieces_of_not_mem h]
  simp

/-- The empty text is one empty component. -/
theorem components_empty : components "" = [""] :=
  components_of_not_mem (by simp)

theorem steps_empty : steps "" = [] := by
  rw [steps, components_empty]
  rfl

theorem components_ne_nil (t : String) : components t ≠ [] := by
  unfold components
  rw [ne_eq, List.map_eq_nil_iff]
  exact Text.pieces_ne_nil '/' t.toList

theorem no_slash_of_mem_components {t c : String} (h : c ∈ components t) : '/' ∉ c.toList := by
  obtain ⟨p, hp, rfl⟩ := List.mem_map.1 h
  rw [String.toList_ofList]
  exact Text.sep_not_mem_piece hp

/-- The steps of a path that do not lead up are normal. -/
theorem isNormal_of_mem_steps {t c : String} (h : c ∈ steps t) (hup : c ≠ "..") : IsNormal c := by
  obtain ⟨hc, hstep⟩ := List.mem_filter.1 h
  simp only [isStay, Bool.not_eq_true', Bool.or_eq_false_iff, decide_eq_false_iff_not] at hstep
  exact ⟨hstep.1, hstep.2, hup, no_slash_of_mem_components hc⟩

theorem mem_steps_up {t : String} : ".." ∈ steps t ↔ ".." ∈ components t := by
  unfold steps
  rw [List.mem_filter]
  exact and_iff_left (by decide)

theorem ofSteps_nil : ofSteps [] = "" := rfl

theorem ofSteps_cons {c : String} {cs : List String} (h : cs ≠ []) :
    ofSteps (c :: cs) = c ++ "/" ++ ofSteps cs :=
  String.intercalate_cons_of_ne_nil h

theorem ofSteps_append {cs ds : List String} (hc : cs ≠ []) (hd : ds ≠ []) :
    ofSteps (cs ++ ds) = ofSteps cs ++ "/" ++ ofSteps ds :=
  String.intercalate_append_of_ne_nil hc hd

/-- Components without slashes are read back from their joined text. -/
theorem components_ofSteps {cs : List String} (hne : cs ≠ []) (h : ∀ c ∈ cs, '/' ∉ c.toList) :
    components (ofSteps cs) = cs := by
  induction cs with
  | nil => exact absurd rfl hne
  | cons c cs ih =>
    have hc := components_of_not_mem (h c List.mem_cons_self)
    cases cs with
    | nil => exact hc
    | cons d cs =>
      rw [ofSteps_cons (List.cons_ne_nil d cs), components_append_slash, hc,
        ih (List.cons_ne_nil d cs) fun e he => h e (List.mem_cons_of_mem c he)]
      rfl

theorem components_normal {cs : List String} (hne : cs ≠ []) (h : ∀ c ∈ cs, IsNormal c) :
    components (ofSteps cs) = cs :=
  components_ofSteps hne fun c hc => (h c hc).no_slash

/-- Normal components all lead somewhere. -/
theorem filter_not_isStay {cs : List String} (h : ∀ c ∈ cs, IsNormal c) :
    (cs.filter fun c => !isStay c) = cs := by
  rw [List.filter_eq_self]
  intro c hc
  rw [(h c hc).not_isStay]
  rfl

/-- Normal components are the steps of their joined text. -/
theorem steps_ofSteps {cs : List String} (h : ∀ c ∈ cs, IsNormal c) : steps (ofSteps cs) = cs := by
  cases cs with
  | nil => rw [ofSteps_nil, steps_empty]
  | cons c cs => rw [steps, components_normal (List.cons_ne_nil c cs) h, filter_not_isStay h]

theorem ofSteps_ne_empty {cs : List String} (hne : cs ≠ []) (h : ∀ c ∈ cs, IsNormal c) :
    ofSteps cs ≠ "" := by
  intro he
  have hs := steps_ofSteps h
  rw [he] at hs
  exact hne (hs.symm.trans steps_empty)

/-- Normal components joined do not start with a slash. -/
theorem isAbsolute_ofSteps {cs : List String} (hne : cs ≠ []) (h : ∀ c ∈ cs, IsNormal c) :
    isAbsolute (ofSteps cs) = false := by
  refine Bool.eq_false_iff.2 fun habs => ?_
  obtain ⟨rest, hrest⟩ := List.head?_eq_some_iff.1 (of_decide_eq_true habs)
  have htext : ofSteps cs = "" ++ "/" ++ String.ofList rest := by
    rw [← String.toList_inj, hrest]
    simp
  -- the component before the slash would be empty
  have hcomp := components_normal hne h
  rw [htext, components_append_slash] at hcomp
  have hmem : "" ∈ cs := by
    rw [← hcomp, components_empty]
    exact List.mem_cons_self
  exact (h "" hmem).ne_empty rfl

/-- The components of a path behind another: those of both, but for an empty one where the first
path ends in a slash. -/
theorem components_join {first : String} (h : first ≠ "") (second : String) :
    components (join first second) = components first ++ components second ∨
      ∃ cs, components first = cs ++ [""] ∧
        components (join first second) = cs ++ components second := by
  unfold join
  by_cases hlast : first.toList.getLast? = some '/'
  · right
    rw [if_pos (.inr hlast)]
    obtain ⟨init, hinit⟩ := List.getLast?_eq_some_iff.1 hlast
    have hfirst : first = String.ofList init ++ "/" ++ "" := by
      rw [← String.toList_inj]
      simp [hinit]
    refine ⟨components (String.ofList init), ?_, ?_⟩
    · rw [hfirst, components_append_slash]
      rfl
    · rw [hfirst, String.append_empty, components_append_slash]
  · left
    rw [if_neg (by simp [h, hlast]), components_append_slash]

theorem join_ne_empty {first : String} (h : first ≠ "") (second : String) :
    join first second ≠ "" := by
  unfold join
  split
  · simp [h]
  · simp

/-! ## Starts and endings -/

theorem startsWith_iff {start t : String} : startsWith start t ↔ ∃ rest, t = start ++ rest := by
  unfold startsWith
  rw [List.isPrefixOf_iff_prefix]
  constructor
  · rintro ⟨rest, h⟩
    refine ⟨String.ofList rest, ?_⟩
    rw [← String.toList_inj, String.toList_append, String.toList_ofList, h]
  · rintro ⟨rest, rfl⟩
    rw [String.toList_append]
    exact List.prefix_append _ _

theorem hasSuffix_iff {suffix t : String} : hasSuffix suffix t ↔ ∃ stem, t = stem ++ suffix := by
  unfold hasSuffix
  rw [List.isSuffixOf_iff_suffix]
  constructor
  · rintro ⟨stem, h⟩
    refine ⟨String.ofList stem, ?_⟩
    rw [← String.toList_inj, String.toList_append, String.toList_ofList, h]
  · rintro ⟨stem, rfl⟩
    rw [String.toList_append]
    exact List.suffix_append _ _

/-- An ending without slashes is an ending of the last name. -/
theorem hasSuffix_ofSteps {suffix : String} (hs : '/' ∉ suffix.toList) (cs : List String)
    (name : String) : hasSuffix suffix (ofSteps (cs ++ [name])) ↔ hasSuffix suffix name := by
  cases cs with
  | nil => rfl
  | cons c cs =>
    rw [ofSteps_append (List.cons_ne_nil c cs) (List.cons_ne_nil name [])]
    unfold hasSuffix
    rw [List.isSuffixOf_iff_suffix, List.isSuffixOf_iff_suffix, String.toList_append,
      String.toList_append, List.append_assoc]
    show _ <:+ _ ++ '/' :: name.toList ↔ _
    constructor
    · intro h
      rcases List.suffix_or_suffix_of_suffix h (List.suffix_append _ _) with hle | hge
      · rcases List.suffix_cons_iff.1 hle with he | hle
        · exact absurd (he ▸ List.mem_cons_self) hs
        · exact hle
      · exact absurd (hge.mem List.mem_cons_self) hs
    · intro h
      exact h.trans ((List.suffix_cons '/' _).trans (List.suffix_append _ _))

end Path

end InterfaceDocs
