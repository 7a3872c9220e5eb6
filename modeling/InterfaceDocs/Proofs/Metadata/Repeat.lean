import Mathlib.Data.List.Forall2
import Mathlib.Data.List.Nodup
import InterfaceDocs.Proofs.Json.Items
import InterfaceDocs.Proofs.Metadata.Resolve

/-!
# A field that is given twice is never merged

`RepeatsField s` says that somewhere in the bytes an object stands for a record of a document, and
gives one of its fields twice, under one of its names or under both.  Where records stand is told
by quotes, brackets, commas and the keys of the fields alone (`LeadsTo`), from the table of the
fields of each kind of record (`RecordKind.fields`); all else in the bytes may be valid or not, and
nothing is asked of what follows the second key.  Such a resource is malformed
(`Interface.parse_repeatsField`).
-/

namespace InterfaceDocs

open Json Json.Reader

namespace Metadata

/-! ## The layout of records -/

/-- The kinds of records in a document. -/
inductive RecordKind
  | document
  | type
  | service
  | method
  /-- A member or a parameter. -/
  | leaf
deriving DecidableEq, Repr

/-- A field of a record: all its names, and the kind of the records that it lists, if it does. -/
structure FieldLayout where
  names : List String
  listed : Option RecordKind
deriving DecidableEq, Repr

namespace RecordKind

/-- The fields of each kind of record, in the order in which a list gives them. -/
def fields : RecordKind → List FieldLayout
  | document => [
    ⟨["namespace"], none⟩,
    ⟨["namespaces"], none⟩,
    ⟨["types"], some type⟩,
    ⟨["enums"], some type⟩,
    ⟨["structs"], some type⟩,
    ⟨["exceptions"], some type⟩,
    ⟨["typedefs"], some type⟩,
    ⟨["services"], some service⟩]
  | type => [
    ⟨["qualifiedName"], none⟩,
    ⟨["name"], none⟩,
    ⟨["doc"], none⟩,
    ⟨["members", "fields"], some leaf⟩]
  | service => [
    ⟨["qualifiedName"], none⟩,
    ⟨["name"], none⟩,
    ⟨["doc"], none⟩,
    ⟨["methods", "functions"], some method⟩]
  | method => [⟨["name"], none⟩, ⟨["doc"], none⟩, ⟨["params", "arguments"], some leaf⟩]
  | leaf => [⟨["name"], none⟩, ⟨["doc"], none⟩]

end RecordKind

/-! ## Where records stand -/

/-- Behind the bytes, a record of the kind has to stand. -/
inductive LeadsTo : RecordKind → Bytes → Prop
  | document : LeadsTo .document []
  /-- In an object: behind so many of its entries the key of a field, and behind so many of the items
  of the field the record. -/
  | inObject {kind item : RecordKind} {field : FieldLayout} {name : String} {m n : Nat}
      {p brace x key colon bracket y : Bytes} (h : LeadsTo kind p)
      (hbrace : IsToken Ascii.openBrace brace) (hx : ItemsBefore m x) (hfield : field ∈ kind.fields)
      (hitem : field.listed = some item) (hname : name ∈ field.names) (hkey : IsKeyFor name key)
      (hcolon : IsToken Ascii.colon colon) (hbracket : IsToken Ascii.openBracket bracket)
      (hy : ItemsBefore n y) :
      LeadsTo item (p ++ (brace ++ (x ++ (key ++ (colon ++ (bracket ++ y))))))
  /-- In a list: behind so many fields the one that lists the record. -/
  | inList {kind item : RecordKind} {field : FieldLayout} {m n : Nat}
      {p bracket x bracket' y : Bytes} (h : LeadsTo kind p)
      (hbracket : IsToken Ascii.openBracket bracket) (hx : ItemsBefore m x)
      (hfield : kind.fields[m]? = some field) (hitem : field.listed = some item)
      (hbracket' : IsToken Ascii.openBracket bracket') (hy : ItemsBefore n y) :
      LeadsTo item (p ++ (bracket ++ (x ++ (bracket' ++ y))))

/-- An object in the place of a record gives a field twice.  Between the two keys stand the rest of the
first entry and any number of others; behind the second one may stand anything. -/
inductive RepeatsField : Bytes → Prop
  | twice {kind : RecordKind} {field : FieldLayout} {name₁ name₂ : String} {m n : Nat}
      {p brace x key₁ v y key₂ : Bytes} (h : LeadsTo kind p)
      (hbrace : IsToken Ascii.openBrace brace) (hx : ItemsBefore m x) (hfield : field ∈ kind.fields)
      (hname₁ : name₁ ∈ field.names) (hkey₁ : IsKeyFor name₁ key₁) (hv : Nested false v)
      (hy : ItemsBefore n y) (hname₂ : name₂ ∈ field.names) (hkey₂ : IsKeyFor name₂ key₂)
      (rest : Bytes) :
      RepeatsField (p ++ (brace ++ (x ++ (key₁ ++ (v ++ Ascii.comma :: (y ++ (key₂ ++ rest)))))))

/-! ## The shapes have the layout -/

namespace RecordKind

def Record : RecordKind → Type
  | document => Metadata
  | type => TypeEntry
  | service => ServiceEntry
  | method => Method
  | leaf => Leaf

def shape : (kind : RecordKind) → Shape kind.Record
  | document => documentShape
  | type => typeShape
  | service => serviceShape
  | method => methodShape
  | leaf => leafShape

end RecordKind

variable {σ : Type}

/-- The field of a shape goes by the names and reads a list of the kind, and takes nested bytes. -/
structure FieldLayout.Fits (l : FieldLayout) (f : RecordField σ) : Prop where
  names_eq : l.names = f.name :: f.secondName.toList
  takesNested : TakesNested f.read
  reads_list : ∀ kind, l.listed = some kind →
    ∃ put : List kind.Record → σ → σ, f.read = put <$> list kind.shape.reader

theorem fits_text (name : String) (set : Option String → σ → σ) :
    (⟨[name], none⟩ : FieldLayout).Fits (textField name set) where
  names_eq := rfl
  takesNested := takesNested_optionalText.map set
  reads_list := nofun

theorem fits_name (set : String → σ → σ) : (⟨["name"], none⟩ : FieldLayout).Fits (nameField set) where
  names_eq := rfl
  takesNested := takesNested_text.map set
  reads_list := nofun

theorem fits_dictionary (name : String) (presence : Presence) (set : StringMap → σ → σ) :
    (⟨[name], none⟩ : FieldLayout).Fits ⟨name, none, presence, set <$> dictionary⟩ where
  names_eq := rfl
  takesNested := takesNested_dictionary.map set
  reads_list := nofun

theorem fits_list {kind : RecordKind} (h : TakesNested kind.shape.reader) (name : String)
    (second : Option String) (presence : Presence) (set : List kind.Record → σ → σ) :
    (⟨name :: second.toList, some kind⟩ : FieldLayout).Fits
      ⟨name, second, presence, set <$> list kind.shape.reader⟩ where
  names_eq := rfl
  takesNested := (takesNested_list h).map set
  reads_list _ hkind := by
    cases hkind
    exact ⟨set, rfl⟩

theorem takesNested_of_fits {ls : List FieldLayout} {fs : List (RecordField σ)}
    (h : List.Forall₂ FieldLayout.Fits ls fs) : ∀ f ∈ fs, TakesNested f.read := by
  induction h with
  | nil => exact nofun
  | cons hf _ ih => exact List.forall_mem_cons.2 ⟨hf.takesNested, ih⟩

/-- If no name belongs to two fields, all names of a field lead to it. -/
theorem find?_of_fits {ls : List FieldLayout} {fs : List (RecordField σ)}
    (h : List.Forall₂ FieldLayout.Fits ls fs) (hnodup : (ls.flatMap FieldLayout.names).Nodup)
    {l : FieldLayout} (hl : l ∈ ls) :
    ∃ f, l.Fits f ∧ ∀ name ∈ l.names, fs.find? (·.answersTo name) = some f := by
  induction h with
  | nil => exact absurd hl List.not_mem_nil
  | @cons l₀ f₀ ls fs hf₀ _ ih =>
    rw [List.flatMap_cons, List.nodup_append] at hnodup
    obtain ⟨-, hrest, hdisjoint⟩ := hnodup
    rcases List.mem_cons.1 hl with rfl | hl
    · refine ⟨f₀, hf₀, fun name hname => ?_⟩
      rw [hf₀.names_eq] at hname
      exact List.find?_cons_of_pos ((f₀.answersTo_iff name).2 hname)
    · obtain ⟨f, hf, hfind⟩ := ih hrest hl
      refine ⟨f, hf, fun name hname => ?_⟩
      have hnot : ¬f₀.answersTo name := by
        rw [f₀.answersTo_iff, ← hf₀.names_eq]
        intro hname₀
        exact hdisjoint name hname₀ name (List.mem_flatMap.2 ⟨l, hl, hname⟩) rfl
      have hskip : (f₀ :: fs).find? (·.answersTo name) = fs.find? (·.answersTo name) :=
        List.find?_cons_of_neg hnot
      rw [hskip]
      exact hfind name hname

namespace RecordKind

/-- The shape of a kind has its fields. -/
abbrev Fits (kind : RecordKind) : Prop := List.Forall₂ FieldLayout.Fits kind.fields kind.shape.fields

theorem leaf_fits : leaf.Fits := .cons (fits_name _) (.cons (fits_text _ _) .nil)

theorem takesNested_leaf : TakesNested leaf.shape.reader :=
  Shape.takesNested_reader (takesNested_of_fits leaf_fits)

theorem method_fits : method.Fits :=
  .cons (fits_name _) (.cons (fits_text _ _)
    (.cons (fits_list takesNested_leaf "params" (some "arguments") _ _) .nil))

theorem type_fits : type.Fits :=
  .cons (fits_text _ _) (.cons (fits_text _ _) (.cons (fits_text _ _)
    (.cons (fits_list takesNested_leaf "members" (some "fields") _ _) .nil)))

theorem service_fits : service.Fits :=
  .cons (fits_text _ _) (.cons (fits_text _ _) (.cons (fits_text _ _)
    (.cons (fits_list (Shape.takesNested_reader (takesNested_of_fits method_fits)) "methods"
      (some "functions") _ _) .nil)))

theorem document_fits : document.Fits := by
  have htypes : ∀ (name : String) (set : List type.Record → document.Record → document.Record),
      (⟨[name], some type⟩ : FieldLayout).Fits (listField name type.shape.reader set) :=
    fun name set => fits_list (Shape.takesNested_reader (takesNested_of_fits type_fits)) name none _ set
  have hservices := Shape.takesNested_reader (takesNested_of_fits service_fits)
  exact .cons (fits_text _ _) (.cons (fits_dictionary _ _ _) (.cons (htypes _ _)
    (.cons (htypes _ _) (.cons (htypes _ _) (.cons (htypes _ _) (.cons (htypes _ _)
      (.cons (fits_list hservices "services" none _ _) .nil)))))))

theorem fits (kind : RecordKind) : kind.Fits := by
  cases kind with
  | document => exact document_fits
  | type => exact type_fits
  | service => exact service_fits
  | method => exact method_fits
  | leaf => exact leaf_fits

theorem takesNested_fields (kind : RecordKind) : ∀ f ∈ kind.shape.fields, TakesNested f.read :=
  takesNested_of_fits kind.fits

theorem nodup_names (kind : RecordKind) : (kind.fields.flatMap FieldLayout.names).Nodup := by
  cases kind <;> decide

/-- All names of a field lead to the same field of the shape. -/
theorem exists_field (kind : RecordKind) {l : FieldLayout} (hl : l ∈ kind.fields) :
    ∃ f, l.Fits f ∧ ∀ name ∈ l.names, kind.shape.field? name = some f :=
  find?_of_fits kind.fits kind.nodup_names hl

theorem exists_fieldAt (kind : RecordKind) {n : Nat} {l : FieldLayout} (hl : kind.fields[n]? = some l) :
    ∃ f, l.Fits f ∧ kind.shape.fields[n]? = some f := by
  obtain ⟨hn, hl⟩ := List.getElem?_eq_some_iff.1 hl
  have hn' : n < kind.shape.fields.length := kind.fits.length_eq ▸ hn
  refine ⟨kind.shape.fields[n], ?_, List.getElem?_eq_getElem hn'⟩
  rw [← hl]
  exact kind.fits.get hn hn'

end RecordKind

/-! ## Reading gets to where records stand -/

/-- If a field lists records, reading it gets to the one behind so many others. -/
theorem FieldLayout.Fits.accepts_item {l : FieldLayout} {f : RecordField σ} (h : l.Fits f)
    {item : RecordKind} (hitem : l.listed = some item) {n : Nat} {bracket y s : Bytes}
    (hbracket : IsToken Ascii.openBracket bracket) (hy : ItemsBefore n y) (hs : NotClosing s)
    (hread : f.read.Accepts (bracket ++ (y ++ s))) : item.shape.reader.Accepts s := by
  obtain ⟨put, hput⟩ := h.reads_list item hitem
  rw [hput] at hread
  have hlist : (list item.shape.reader).Accepts (bracket ++ (y ++ s)) := accepts_of_bind hread
  unfold list at hlist
  rw [accepts_bind_of_ok (hbracket.nextToken (by decide) _ _), if_pos rfl] at hlist
  have hreader := list_reaches (Shape.takesNested_reader item.takesNested_fields) hy hs
    (accepts_of_bind hlist)
  exact Shape.reader_accepts_dropWhile.1 hreader

/-- **If a document is read, so is every record in it, from where it stands.** -/
theorem LeadsTo.accepts {kind : RecordKind} {p : Bytes} (h : LeadsTo kind p) {s : Bytes}
    (hs : NotClosing s) (hread : documentShape.reader.Accepts (p ++ s)) :
    kind.shape.reader.Accepts s := by
  induction h generalizing s with
  | document => exact hread
  | @inObject kind item field name m n p brace x key colon bracket y _ hbrace hx hfield hitem hname
      hkey hcolon hbracket hy ih =>
    simp only [List.append_assoc] at hread
    have hobject := ih (hbrace.notClosing (k := .object) _) hread
    rw [Shape.accepts_object hbrace] at hobject
    obtain ⟨f, hf, hfind⟩ := kind.exists_field hfield
    have hvalue := Shape.ofObject_reaches kind.takesNested_fields hx hkey (hfind name hname) hobject
    have hcolonRun : Json.colon.run (colon ++ (bracket ++ (y ++ s))) = .ok ((), bracket ++ (y ++ s)) :=
      run_bind_of_ok (hcolon.nextToken (by decide) _ _)
    rw [accepts_bind_of_ok hcolonRun] at hvalue
    exact hf.accepts_item hitem hbracket hy hs hvalue
  | @inList kind item field m n p bracket x bracket' y _ hbracket hx hfield hitem hbracket' hy ih =>
    simp only [List.append_assoc] at hread
    have hlist := ih (hbracket.notClosing (k := .list) _) hread
    rw [Shape.accepts_list hbracket] at hlist
    obtain ⟨f, hf, hat⟩ := kind.exists_fieldAt hfield
    have hvalue := Shape.ofList_reaches kind.takesNested_fields hx
      (hbracket'.notClosing (k := .list) (y ++ s)) hat hlist
    rw [hbracket'.dropWhile (by decide)] at hvalue
    have hbare : IsToken Ascii.openBracket [Ascii.openBracket] := ⟨[], by decide, rfl⟩
    exact hf.accepts_item hitem hbare hy hs hvalue

/-- A document in which a record gives a field twice is not read. -/
theorem RepeatsField.not_accepts {s : Bytes} (h : RepeatsField s) : ¬documentShape.reader.Accepts s := by
  obtain ⟨hp, hbrace, hx, hfield, hname₁, hkey₁, hv, hy, hname₂, hkey₂, rest⟩ := h
  rename_i kind _ _ _ _ _ _ _ _ _ _ _ _
  intro hread
  have hobject := hp.accepts (hbrace.notClosing (k := .object) _) hread
  rw [Shape.accepts_object hbrace] at hobject
  obtain ⟨f, -, hfind⟩ := kind.exists_field hfield
  exact Shape.not_accepts_repeated kind.takesNested_fields (hfind _ hname₁) (hfind _ hname₂) hx hkey₁ hv
    hy hkey₂ hobject

end Metadata

namespace Interface

/-- **A field that is given twice makes a resource malformed.**  Whatever else the resource holds, and
with all settings, there is no interface and there are no notices. -/
theorem parse_repeatsField {s : Bytes} (h : Metadata.RepeatsField s) (resource : String)
    (settings : Settings) :
    ∃ fault, parse resource s settings = pure (.error (.malformed resource (.json fault))) := by
  unfold parse
  cases hread : Metadata.read s with
  | error fault => exact ⟨fault, rfl⟩
  | ok m =>
    obtain ⟨p, r, rfl, hp, -⟩ := readWhole_eq_ok_iff.1 hread
    exact absurd ⟨m, r, hp⟩ h.not_accepts

/-- A document as a list, whose second type names its members twice, the first time with an escape.
There are faults before it, and the bytes end at the second key. -/
theorem parse_repeatsField_secondName :
    let text := Bytes.ofString "[7,\x7b\"a]\":!\x7d,[?, \x7b\"\\u0066ields\":[1,],\"y\":0,\"members\""
    Metadata.RepeatsField text ∧
      ∃ fault, parse "r" text .standard = pure (.error (.malformed "r" (.json fault))) := by
  intro text
  have hbracket : IsToken Ascii.openBracket [Ascii.openBracket] := ⟨[], by decide, rfl⟩
  have hbrace : IsToken Ascii.openBrace [Ascii.space, Ascii.openBrace] := ⟨[' '], by decide, rfl⟩
  -- two fields and one type in front of the object, and one entry between its keys
  have hseven : Nested false [Ascii.letter '7'] := nested_of_all (by decide)
  have hmap : Nested false (Ascii.openBrace :: ((Ascii.quote :: ([Ascii.letter 'a', Ascii.closeBracket] ++
      Ascii.quote :: [Ascii.colon, Ascii.letter '!'])) ++ [Ascii.closeBrace])) :=
    .bracketed .object (.quoted (.plain (by decide) (by decide) (.plain (by decide) (by decide) .nil))
      (nested_of_all (by decide))) .nil
  have hquestion : Nested false [Ascii.letter '?'] := nested_of_all (by decide)
  have hone : Nested false (Ascii.colon :: Ascii.openBracket ::
      ([Ascii.letter '1', Ascii.comma] ++ [Ascii.closeBracket])) :=
    .inert (by decide) (.bracketed .list (nested_of_all (by decide)) .nil)
  have hy : Nested false (Ascii.quote :: ([Ascii.letter 'y'] ++
      Ascii.quote :: [Ascii.colon, Ascii.letter '0'])) :=
    .quoted (.plain (by decide) (by decide) .nil) (nested_of_all (by decide))
  have hplain : ∀ t ∈ ["ields", "members"], ∀ c ∈ t.toList, IsPlain c := by
    have hall : ∀ t ∈ ["ields", "members"], t.toList.all (IsPlain ·) := by decide +kernel
    exact fun t ht c hc => of_decide_eq_true (List.all_eq_true.1 (hall t ht) c hc)
  have hf : SpellsNumber 'f'.toNat ['0', '0', '6', '6'] :=
    .digits (k := 0) (l := 0) (m := 6) (n := 6) ⟨by decide, .inl rfl⟩ ⟨by decide, .inl rfl⟩
      ⟨by decide, .inl rfl⟩ ⟨by decide, .inl rfl⟩
  have hfields : SpellsText "fields"
      ('"' :: (('\\' :: 'u' :: ['0', '0', '6', '6'] ++ "ields".toList) ++ ['"'])) := by
    have hcons : "fields".toList = 'f' :: "ields".toList := by decide +kernel
    refine .quoted ?_
    rw [hcons]
    exact .cons (.number hf) (spellsChars_self (hplain "ields" (by decide)))
  have hmembers : SpellsText "members" ('"' :: ("members".toList ++ ['"'])) :=
    spellsText_self (hplain "members" (by decide))
  have htypes : Metadata.LeadsTo .type _ :=
    .inList .document hbracket (.cons hseven (.cons hmap .nil)) (m := 2) rfl rfl hbracket
      (.cons hquestion .nil)
  have hfield : ⟨["members", "fields"], some .leaf⟩ ∈ Metadata.RecordKind.type.fields := by decide
  have hkey₁ : IsKeyFor "fields" _ := ⟨[], _, by decide, hfields, rfl⟩
  have hkey₂ : IsKeyFor "members" _ := ⟨[], _, by decide, hmembers, rfl⟩
  obtain ⟨s, h, htext⟩ : ∃ s, Metadata.RepeatsField s ∧ s = text :=
    ⟨_, .twice htypes hbrace .nil hfield (by decide) hkey₁ hone (.cons hy .nil) (by decide) hkey₂ [],
      by decide +kernel⟩
  rw [htext] at h
  exact ⟨h, parse_repeatsField h "r" .standard⟩

end Interface

end InterfaceDocs
