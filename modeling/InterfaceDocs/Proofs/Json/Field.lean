import InterfaceDocs.Proofs.Json.Record

/-!
# Fields that hold a list or a map

How a field of a record may be written that holds a list or a map, and that the reader of the field
then reads what is meant.  A field with a default is left out when it has that value; one without has
to be there.
-/

namespace InterfaceDocs

open Json

namespace Json.FieldSpelling

/-- A list that has to be there. -/
def fullList {α : Type} (keys : List String) (spells : α → List Char → Prop) (as : List α) :
    FieldSpelling where
  keys := keys
  Value := SpellsList spells as
  mayOmit := False

/-- A list; an empty one is written or left out. -/
def list {α : Type} (keys : List String) (spells : α → List Char → Prop) (as : List α) :
    FieldSpelling where
  keys := keys
  Value := SpellsList spells as
  mayOmit := as = []

/-- A map; an empty one is written or left out. -/
def map (key : String) (m : StringMap) : FieldSpelling where
  keys := [key]
  Value := SpellsMap m
  mayOmit := m = ∅

end Json.FieldSpelling

variable {σ α : Type}

theorem startsToken_spellsList {spells : α → List Char → Prop} {as : List α} {v : List Char}
    (h : SpellsList spells as v) : StartsToken v := by
  obtain ⟨vs, hb, -⟩ := h
  exact startsToken_bracketed hb (by decide) (by decide)

theorem list_lawful {key : String} {second : Option String} {item : Reader α}
    {put : List α → σ → σ} {spells : α → List Char → Prop} {as : List α} {empty : σ}
    (hitem : ∀ a v, spells a v → StartsToken v ∧ Reads item v a) (hempty : put [] empty = empty) :
    (⟨⟨key, second, .defaulted, put <$> Json.list item⟩, .list (key :: second.toList) spells as,
      put as⟩ : FieldPart σ).Lawful empty := by
  refine FieldPart.lawful_of_map rfl rfl (fun v hv => ?_) fun hnil => ?_
  · exact ⟨startsToken_spellsList hv, list_reads hitem hv⟩
  · obtain rfl : as = [] := hnil
    exact ⟨hempty, nofun⟩

theorem fullList_lawful {key : String} {second : Option String} {item : Reader α}
    {put : List α → σ → σ} {spells : α → List Char → Prop} {as : List α} {empty : σ}
    (hitem : ∀ a v, spells a v → StartsToken v ∧ Reads item v a) :
    (⟨⟨key, second, .required, put <$> Json.list item⟩, .fullList (key :: second.toList) spells as,
      put as⟩ : FieldPart σ).Lawful empty :=
  FieldPart.lawful_of_map rfl rfl (fun _ hv => ⟨startsToken_spellsList hv, list_reads hitem hv⟩)
    False.elim

theorem map_lawful {key : String} {put : StringMap → σ → σ} {m : StringMap} {empty : σ}
    (hempty : put ∅ empty = empty) :
    (⟨⟨key, none, .defaulted, put <$> dictionary⟩, .map key m, put m⟩ :
      FieldPart σ).Lawful empty := by
  refine FieldPart.lawful_of_map rfl rfl (fun v hv => ⟨?_, dictionary_reads hv⟩) fun hnil => ?_
  · obtain ⟨es, hes, -⟩ := hv
    exact startsToken_bracketed hes.bracketed (by decide) (by decide)
  · obtain rfl : m = ∅ := hnil
    exact ⟨hempty, nofun⟩

end InterfaceDocs
