import InterfaceDocs.Proofs.Catalogue.Merge
import InterfaceDocs.Proofs.Docs.Collect
import InterfaceDocs.Proofs.Interface.Keys

/-!
# Where docstrings come from

Docstrings are built from resources (`Docs.IsBuilt`): they are those of one, or of several that are
joined.  Each of them stands under the key of an element that a resource declares and has its docstring
(`Docs.IsBuilt.exists_place`).  Whatever a store gives is built so, of single resources and of whole
catalogues, so every key is that of an element whose names follow the rules (`Store.Gives.isKey`).
-/

namespace InterfaceDocs

/-! ## Declared elements -/

/-- An element that some resource declares. -/
def Place.IsDeclared (x : Place) : Prop :=
  ∃ (resource : String) (s : Bytes) (settings : Settings) (i : Interface),
    (Interface.parse resource s settings).value = .ok i ∧ x ∈ i.places

theorem Place.IsDeclared.isWellNamed {x : Place} (h : x.IsDeclared) : x.IsWellNamed := by
  obtain ⟨resource, s, settings, i, hi, hx⟩ := h
  exact (Interface.isWellNamed_of_parse hi).places x hx

/-- A text is the key of an element whose names follow the rules. -/
def IsKey (k : String) : Prop := ∃ x : Place, x.IsWellNamed ∧ x.element.key = k

/-! ## Docstrings that are built from resources -/

/-- Docstrings of a resource that is accepted, or joined from such docstrings. -/
inductive Docs.IsBuilt : Docs → Prop
  | empty : IsBuilt ∅
  | parsed {resource : String} {s : Bytes} {settings : Settings} {docs : Docs}
    (h : (Docs.parse resource s settings).value = .ok docs) : IsBuilt docs
  | join {docs later : Docs} (h : IsBuilt docs) (h' : IsBuilt later) : IsBuilt (Docs.join docs later)

/-- Every docstring is that of a declared element, under the key of the element. -/
theorem Docs.IsBuilt.exists_place {docs : Docs} (h : docs.IsBuilt) {k d : String}
    (hd : docs[k]? = some d) :
    ∃ x : Place, x.IsDeclared ∧ x.element.key = k ∧ x.element.doc = some d := by
  induction h with
  | empty =>
    rw [Std.ExtTreeMap.getElem?_empty] at hd
    cases hd
  | @parsed resource s settings docs h =>
    obtain ⟨i, hi, hnodup, rfl⟩ := Docs.parse_eq_ok_iff.1 h
    obtain ⟨e, he, hkey, hdoc⟩ := (getElem?_documented hnodup).1 hd
    rw [i.elements_eq] at he
    obtain ⟨x, hx, rfl⟩ := List.mem_map.1 he
    exact ⟨x, ⟨resource, s, settings, i, hi, hx⟩, hkey, hdoc⟩
  | join _ _ ih ih' =>
    rw [Docs.getElem?_join, Option.or_eq_some_iff] at hd
    rcases hd with hd | ⟨-, hd⟩
    · exact ih hd
    · exact ih' hd

theorem Docs.IsBuilt.isKey {docs : Docs} (h : docs.IsBuilt) {k : String} (hk : k ∈ docs) :
    IsKey k := by
  obtain ⟨d, hd⟩ := Docs.mem_iff.1 hk
  obtain ⟨x, hx, hkey, -⟩ := h.exists_place hd
  exact ⟨x, hx.isWellNamed, hkey⟩

/-! ## Merging -/

/-- Adding the docstrings of a resource to a catalogue joins them to those that it has. -/
theorem Catalogue.isBuilt_add {c : Catalogue} (hc : c.docs.IsBuilt) {o : Outcome}
    (ho : ∀ docs, o.2 = .ok docs → docs.IsBuilt) : (c.add o.1 o.2).value.docs.IsBuilt := by
  obtain ⟨resource, result⟩ := o
  cases result with
  | error failure => exact hc
  | ok docs => exact .join hc (ho docs rfl)

theorem Catalogue.isBuilt_addAll {c : Catalogue} (hc : c.docs.IsBuilt) {outcomes : List Outcome}
    (h : ∀ o ∈ outcomes, ∀ docs, o.2 = .ok docs → docs.IsBuilt) :
    (c.addAll outcomes).value.docs.IsBuilt := by
  induction outcomes generalizing c with
  | nil => exact hc
  | cons o outcomes ih =>
    obtain ⟨ho, hrest⟩ := List.forall_mem_cons.1 h
    exact ih (isBuilt_add hc ho) hrest

namespace Store

variable {s : Store} {settings : Settings}

/-- Docstrings of one resource of a store, or of everything that it discovers. -/
inductive Gives (s : Store) (settings : Settings) : Docs → Prop
  | resource {resource : String} {docs : Docs} (h : (s.docsOf settings resource).value = .ok docs) :
    Gives s settings docs
  | catalogue {c : Catalogue} (h : (s.catalogue settings).value = .ok c) : Gives s settings c.docs

theorem isBuilt_docsOf {resource : String} {docs : Docs}
    (h : (s.docsOf settings resource).value = .ok docs) : docs.IsBuilt := by
  unfold docsOf at h
  cases hread : s.read resource with
  | error failure =>
    rw [hread] at h
    cases h
  | ok content =>
    rw [hread] at h
    exact .parsed h

theorem isBuilt_catalogueOf (s : Store) (settings : Settings) (resources : List String) :
    (s.catalogueOf settings resources).value.docs.IsBuilt := by
  rw [Catalogue.value_catalogueOf]
  refine Catalogue.isBuilt_addAll (c := .empty) .empty fun o ho docs hdocs => ?_
  obtain ⟨r, -, rfl⟩ := List.mem_map.1 ho
  exact isBuilt_docsOf hdocs

/-- A catalogue of a store is a catalogue of the resources that are discovered. -/
theorem exists_catalogueOf {c : Catalogue} (h : (s.catalogue settings).value = .ok c) :
    ∃ resources, s.discover.value = .ok resources ∧
      c = (s.catalogueOf settings resources).value := by
  unfold catalogue at h
  rw [Logged.value_bind] at h
  cases hfound : s.discover.value with
  | error failure =>
    rw [hfound] at h
    cases h
  | ok resources =>
    rw [hfound] at h
    cases resources with
    | nil => cases h
    | cons r rs =>
      dsimp only at h
      rw [Logged.value_bind] at h
      split at h
      · cases h
      · cases h
        exact ⟨r :: rs, rfl, rfl⟩

theorem Gives.isBuilt {docs : Docs} (h : s.Gives settings docs) : docs.IsBuilt := by
  cases h with
  | resource hdocs => exact isBuilt_docsOf hdocs
  | catalogue hc =>
    obtain ⟨resources, -, rfl⟩ := exists_catalogueOf hc
    exact isBuilt_catalogueOf s settings resources

/-- The keys of what a store gives are those of elements whose names follow the rules. -/
theorem Gives.isKey {docs : Docs} (h : s.Gives settings docs) {k : String} (hk : k ∈ docs) :
    IsKey k := h.isBuilt.isKey hk

end Store

end InterfaceDocs
