import InterfaceDocs.Metadata.Resolve
import InterfaceDocs.Proofs.Json.Field

/-!
# A metadata document counts by what it says

`Metadata.SpelledBy w t` says that `t` is a JSON text that spells the metadata `w` with objects.  It
leaves open the order of the members, which of its names a field goes by, whether null or an empty
default is written or left out, what stands under unknown keys, the white space and the escapes.
None of it matters: the text is read as `w` (`read_spelledBy`), so what `Interface.parse` answers and
tells is what `w` resolves to (`parse_spelledBy`).
-/

namespace InterfaceDocs

open Json

/-! ## Fields -/

namespace Json.FieldSpelling

/-- A string that has to be there. -/
def name (t : String) : FieldSpelling where
  keys := ["name"]
  Value := SpellsText t
  mayOmit := False

/-- A string; none is written as null or left out. -/
def text (key : String) (t? : Option String) : FieldSpelling where
  keys := [key]
  Value v := match t? with
    | some t => SpellsText t v
    | none => v = ['n', 'u', 'l', 'l']
  mayOmit := t? = none

end Json.FieldSpelling

/-! ## Records -/

def Leaf.SpelledBy (w : Leaf) : List Char → Prop := SpellsRecord [.name w.name, .text "doc" w.doc]

def Method.SpelledBy (w : Method) : List Char → Prop := SpellsRecord
  [.name w.name, .text "doc" w.doc, .list ["params", "arguments"] Leaf.SpelledBy w.params]

namespace Metadata

def TypeEntry.SpelledBy (w : TypeEntry) : List Char → Prop := SpellsRecord
  [.text "qualifiedName" w.qualifiedName, .text "name" w.name, .text "doc" w.doc,
   .list ["members", "fields"] Leaf.SpelledBy w.members]

def ServiceEntry.SpelledBy (w : ServiceEntry) : List Char → Prop := SpellsRecord
  [.text "qualifiedName" w.qualifiedName, .text "name" w.name, .text "doc" w.doc,
   .fullList ["methods", "functions"] Method.SpelledBy w.methods]

/-- How the fields of a document may be written. -/
def spellings (w : Metadata) : List FieldSpelling :=
  [.text "namespace" w.commonNamespace, .map "namespaces" w.namespaces,
   .list ["types"] TypeEntry.SpelledBy w.types, .list ["enums"] TypeEntry.SpelledBy w.enums,
   .list ["structs"] TypeEntry.SpelledBy w.structs,
   .list ["exceptions"] TypeEntry.SpelledBy w.exceptions,
   .list ["typedefs"] TypeEntry.SpelledBy w.typedefs,
   .list ["services"] ServiceEntry.SpelledBy w.services]

/-- The text is an object that spells the metadata, with white space around it. -/
def SpelledBy (w : Metadata) (t : String) : Prop :=
  ∃ before body after, t.toList = before ++ (body ++ after) ∧ IsBlanks before ∧ IsBlanks after ∧
    SpellsRecord w.spellings body

end Metadata

/-! ## What the fields read -/

section parts

variable {σ α : Type}

theorem text_lawful {key : String} {put : Option String → σ → σ} {t? : Option String} {empty : σ}
    (hempty : put none empty = empty) :
    (⟨Metadata.textField key put, .text key t?, put t?⟩ : FieldPart σ).Lawful empty := by
  refine FieldPart.lawful_of_map rfl rfl (fun v hv => ?_) fun hnone => ?_
  · cases t? with
    | none =>
      obtain rfl : v = ['n', 'u', 'l', 'l'] := hv
      exact ⟨startsToken_value .null, optionalText_reads_null⟩
    | some t => exact ⟨startsToken_spellsText hv, optionalText_reads hv⟩
  · obtain rfl : t? = none := hnone
    exact ⟨hempty, nofun⟩

theorem name_lawful {put : String → σ → σ} {t : String} {empty : σ} :
    (⟨Metadata.nameField put, .name t, put t⟩ : FieldPart σ).Lawful empty :=
  FieldPart.lawful_of_map rfl rfl (fun _ hv => ⟨startsToken_spellsText hv, text_reads hv⟩) False.elim

end parts

/-! ## What the shapes read -/

namespace Metadata

def leafParts (w : Leaf) : List (FieldPart Leaf) := [
  ⟨nameField fun t x => { x with name := t }, .name w.name, fun x => { x with name := w.name }⟩,
  ⟨textField "doc" fun t x => { x with doc := t }, .text "doc" w.doc,
    fun x => { x with doc := w.doc }⟩]

theorem leafShape_describes (w : Leaf) : leafShape.Describes (leafParts w) w where
  fields_eq := rfl
  lawful := List.forall_mem_cons.2 ⟨name_lawful, List.forall_mem_singleton.2 (text_lawful rfl)⟩
  nodup := by
    show ["name", "doc"].Nodup
    decide
  set_set := by simp [leafParts]
  set_comm := by simp [leafParts]
  foldr_set x := rfl

theorem leaf_reads (w : Leaf) (v : List Char) (h : w.SpelledBy v) :
    StartsToken v ∧ Reads leafShape.reader v w := (leafShape_describes w).reads h

def methodParts (w : Method) : List (FieldPart Method) := [
  ⟨nameField fun t x => { x with name := t }, .name w.name, fun x => { x with name := w.name }⟩,
  ⟨textField "doc" fun t x => { x with doc := t }, .text "doc" w.doc,
    fun x => { x with doc := w.doc }⟩,
  ⟨⟨"params", some "arguments", .defaulted,
      (fun ls x => { x with params := ls }) <$> Json.list leafShape.reader⟩,
    .list ["params", "arguments"] Leaf.SpelledBy w.params, fun x => { x with params := w.params }⟩]

theorem methodShape_describes (w : Method) : methodShape.Describes (methodParts w) w where
  fields_eq := rfl
  lawful := List.forall_mem_cons.2 ⟨name_lawful, List.forall_mem_cons.2 ⟨text_lawful rfl,
    List.forall_mem_singleton.2 (list_lawful leaf_reads rfl)⟩⟩
  nodup := by
    show ["name", "doc", "params", "arguments"].Nodup
    decide
  set_set := by simp [methodParts]
  set_comm := by simp [methodParts]
  foldr_set x := rfl

theorem method_reads (w : Method) (v : List Char) (h : w.SpelledBy v) :
    StartsToken v ∧ Reads methodShape.reader v w := (methodShape_describes w).reads h

def typeParts (w : TypeEntry) : List (FieldPart TypeEntry) := [
  ⟨textField "qualifiedName" fun t x => { x with qualifiedName := t },
    .text "qualifiedName" w.qualifiedName, fun x => { x with qualifiedName := w.qualifiedName }⟩,
  ⟨textField "name" fun t x => { x with name := t }, .text "name" w.name,
    fun x => { x with name := w.name }⟩,
  ⟨textField "doc" fun t x => { x with doc := t }, .text "doc" w.doc,
    fun x => { x with doc := w.doc }⟩,
  ⟨⟨"members", some "fields", .defaulted,
      (fun ls x => { x with members := ls }) <$> Json.list leafShape.reader⟩,
    .list ["members", "fields"] Leaf.SpelledBy w.members, fun x => { x with members := w.members }⟩]

theorem typeShape_describes (w : TypeEntry) : typeShape.Describes (typeParts w) w where
  fields_eq := rfl
  lawful := List.forall_mem_cons.2 ⟨text_lawful rfl, List.forall_mem_cons.2 ⟨text_lawful rfl,
    List.forall_mem_cons.2 ⟨text_lawful rfl,
    List.forall_mem_singleton.2 (list_lawful leaf_reads rfl)⟩⟩⟩
  nodup := by
    show ["qualifiedName", "name", "doc", "members", "fields"].Nodup
    decide
  set_set := by simp [typeParts]
  set_comm := by simp [typeParts]
  foldr_set x := rfl

theorem type_reads (w : TypeEntry) (v : List Char) (h : w.SpelledBy v) :
    StartsToken v ∧ Reads typeShape.reader v w := (typeShape_describes w).reads h

def serviceParts (w : ServiceEntry) : List (FieldPart ServiceEntry) := [
  ⟨textField "qualifiedName" fun t x => { x with qualifiedName := t },
    .text "qualifiedName" w.qualifiedName, fun x => { x with qualifiedName := w.qualifiedName }⟩,
  ⟨textField "name" fun t x => { x with name := t }, .text "name" w.name,
    fun x => { x with name := w.name }⟩,
  ⟨textField "doc" fun t x => { x with doc := t }, .text "doc" w.doc,
    fun x => { x with doc := w.doc }⟩,
  ⟨⟨"methods", some "functions", .required,
      (fun ms x => { x with methods := ms }) <$> Json.list methodShape.reader⟩,
    .fullList ["methods", "functions"] Method.SpelledBy w.methods,
    fun x => { x with methods := w.methods }⟩]

theorem serviceShape_describes (w : ServiceEntry) :
    serviceShape.Describes (serviceParts w) w where
  fields_eq := rfl
  lawful := List.forall_mem_cons.2 ⟨text_lawful rfl, List.forall_mem_cons.2 ⟨text_lawful rfl,
    List.forall_mem_cons.2 ⟨text_lawful rfl,
    List.forall_mem_singleton.2 (fullList_lawful method_reads)⟩⟩⟩
  nodup := by
    show ["qualifiedName", "name", "doc", "methods", "functions"].Nodup
    decide
  set_set := by simp [serviceParts]
  set_comm := by simp [serviceParts]
  foldr_set x := rfl

theorem service_reads (w : ServiceEntry) (v : List Char) (h : w.SpelledBy v) :
    StartsToken v ∧ Reads serviceShape.reader v w := (serviceShape_describes w).reads h

def documentParts (w : Metadata) : List (FieldPart Metadata) := [
  ⟨textField "namespace" fun t x => { x with commonNamespace := t },
    .text "namespace" w.commonNamespace, fun x => { x with commonNamespace := w.commonNamespace }⟩,
  ⟨⟨"namespaces", none, .defaulted, (fun m x => { x with namespaces := m }) <$> dictionary⟩,
    .map "namespaces" w.namespaces, fun x => { x with namespaces := w.namespaces }⟩,
  ⟨listField "types" typeShape.reader fun ts x => { x with types := ts },
    .list ["types"] TypeEntry.SpelledBy w.types, fun x => { x with types := w.types }⟩,
  ⟨listField "enums" typeShape.reader fun ts x => { x with enums := ts },
    .list ["enums"] TypeEntry.SpelledBy w.enums, fun x => { x with enums := w.enums }⟩,
  ⟨listField "structs" typeShape.reader fun ts x => { x with structs := ts },
    .list ["structs"] TypeEntry.SpelledBy w.structs, fun x => { x with structs := w.structs }⟩,
  ⟨listField "exceptions" typeShape.reader fun ts x => { x with exceptions := ts },
    .list ["exceptions"] TypeEntry.SpelledBy w.exceptions,
    fun x => { x with exceptions := w.exceptions }⟩,
  ⟨listField "typedefs" typeShape.reader fun ts x => { x with typedefs := ts },
    .list ["typedefs"] TypeEntry.SpelledBy w.typedefs, fun x => { x with typedefs := w.typedefs }⟩,
  ⟨listField "services" serviceShape.reader fun ss x => { x with services := ss },
    .list ["services"] ServiceEntry.SpelledBy w.services,
    fun x => { x with services := w.services }⟩]

theorem documentShape_describes (w : Metadata) :
    documentShape.Describes (documentParts w) w where
  fields_eq := rfl
  lawful := List.forall_mem_cons.2 ⟨text_lawful rfl, List.forall_mem_cons.2 ⟨map_lawful rfl,
    List.forall_mem_cons.2 ⟨list_lawful type_reads rfl,
    List.forall_mem_cons.2 ⟨list_lawful type_reads rfl,
    List.forall_mem_cons.2 ⟨list_lawful type_reads rfl,
    List.forall_mem_cons.2 ⟨list_lawful type_reads rfl,
    List.forall_mem_cons.2 ⟨list_lawful type_reads rfl,
    List.forall_mem_singleton.2 (list_lawful service_reads rfl)⟩⟩⟩⟩⟩⟩⟩
  nodup := by
    show ["namespace", "namespaces", "types", "enums", "structs", "exceptions", "typedefs",
      "services"].Nodup
    decide
  set_set := by simp [documentParts]
  set_comm := by simp [documentParts]
  foldr_set x := rfl

/-! ## Whole documents -/

/-- A text that spells the metadata is read as it. -/
theorem read_spelledBy {w : Metadata} {t : String} (h : w.SpelledBy t) :
    read (Bytes.ofString t) = .ok w := by
  obtain ⟨before, body, after, ht, hb, ha, hw⟩ := h
  have hreads : Reads documentShape.reader body w := ((documentShape_describes w).reads hw).2
  rw [Bytes.ofString_eq_ofChars, ht]
  exact hreads.readWhole_eq hb ha

end Metadata

/-- Whatever spelling of the metadata stands in a resource, it resolves to the same interface or to
the same flaw, with the same notices. -/
theorem Interface.parse_spelledBy {w : Metadata} {t : String} (h : w.SpelledBy t)
    (resource : String) (settings : Settings) :
    Interface.parse resource (Bytes.ofString t) settings = (do
      Logged.tell (w.notices resource settings.namespaceScopes)
      pure ((w.interface settings.namespaceScopes).mapError (.malformed resource))) := by
  unfold Interface.parse
  rw [Metadata.read_spelledBy h]

/-! ## A spelling of a sample -/

namespace Metadata

/-- A type under a bare name. -/
def sample : Metadata := ⟨none, ∅, [⟨none, some "A", none, []⟩], [], [], [], [], []⟩

def sampleTypeText : String := "\x7b\"fields\":[],\"doc\":null ,\"name\":\"\\u0041\"\x7d"

/-- The sample, with an unknown list, a second name, a null and an escape. -/
def sampleText : String := "\x7b\"x\": [null],\"types\":[" ++ sampleTypeText ++ "]\x7d\n"

theorem sampleKeys_spelled : ∀ k ∈ ["x", "types", "fields", "doc", "name"],
    SpellsText k ('"' :: (k.toList ++ ['"'])) := by
  have hplain : ∀ k ∈ ["x", "types", "fields", "doc", "name"], k.toList.all (IsPlain ·) := by
    decide +kernel
  intro k hk
  refine spellsText_self fun c hc => ?_
  exact of_decide_eq_true (List.all_eq_true.1 (hplain k hk) c hc)

theorem sampleType_spelled :
    ∃ cs, cs = sampleTypeText.toList ∧ TypeEntry.SpelledBy ⟨none, some "A", none, []⟩ cs := by
  have h41 : SpellsNumber 'A'.toNat ['0', '0', '4', '1'] :=
    .digits (k := 0) (l := 0) (m := 4) (n := 1) ⟨by decide, .inl rfl⟩ ⟨by decide, .inl rfl⟩
      ⟨by decide, .inl rfl⟩ ⟨by decide, .inl rfl⟩
  have hA : SpellsText "A" "\"\\u0041\"".toList := .quoted (t := "A") (.cons (.number h41) .nil)
  let fields : EntryText := ⟨"\"fields\"".toList, [], [], "[]".toList⟩
  let doc : EntryText := ⟨"\"doc\"".toList, [], [], "null".toList⟩
  let name : EntryText := ⟨"\"name\"".toList, [], [], "\"\\u0041\"".toList⟩
  have hblank : IsBlanks [' '] := by decide
  refine ⟨_, ?_, [("fields", fields), ("doc", doc), ("name", name)], ⟨.items (.more isBlanks_nil
    isBlanks_nil (.more isBlanks_nil hblank (.last isBlanks_nil isBlanks_nil))), ?_, ?_⟩, ?_, ?_⟩
  · decide +kernel
  · simp [EntryText.IsSpaced, isBlanks_nil, fields, doc, name]
  · exact List.forall_mem_cons.2 ⟨sampleKeys_spelled "fields" (by simp), List.forall_mem_cons.2
      ⟨sampleKeys_spelled "doc" (by simp),
        List.forall_mem_singleton.2 (sampleKeys_spelled "name" (by simp))⟩⟩
  · simp only [List.forall_mem_cons]
    exact ⟨.inr ⟨rfl, by decide⟩, .inl ⟨_, rfl, hA⟩, .inl ⟨_, rfl, rfl⟩,
      .inl ⟨_, rfl, [], .empty isBlanks_nil, .nil⟩, List.forall_mem_nil _⟩
  · simp [FieldSpelling.text, FieldSpelling.list]

theorem sample_spelledBy : sample.SpelledBy sampleText := by
  obtain ⟨cs, hcs, htype⟩ := sampleType_spelled
  let unknown : EntryText := ⟨"\"x\"".toList, [], [' '], "[null]".toList⟩
  let types : EntryText := ⟨"\"types\"".toList, [], [], '[' :: ([] ++ (cs ++ ([] ++ [']'])))⟩
  have hblank : IsBlanks [' '] := by decide
  refine ⟨[], _, ['\n'], ?_, isBlanks_nil, by decide, [("x", unknown), ("types", types)], ⟨.items
    (.more isBlanks_nil isBlanks_nil (.last isBlanks_nil isBlanks_nil)), ?_, ?_⟩, ?_, ?_⟩
  · dsimp only [types]
    rw [hcs]
    decide +kernel
  · simp [EntryText.IsSpaced, isBlanks_nil, hblank, unknown, types]
  · exact List.forall_mem_cons.2 ⟨sampleKeys_spelled "x" (by simp),
      List.forall_mem_singleton.2 (sampleKeys_spelled "types" (by simp))⟩
  · have htypes : SpellsList TypeEntry.SpelledBy sample.types types.value :=
      ⟨[cs], .items (.last isBlanks_nil isBlanks_nil), .cons htype .nil⟩
    have homit : ∀ k ∈ ["namespace", "namespaces", "enums", "structs", "exceptions", "typedefs",
        "services"], ∀ e ∈ [("x", unknown), ("types", types)], e.1 ∉ [k] := by
      simp
    simp only [spellings, List.forall_mem_cons]
    exact ⟨.inr ⟨rfl, homit _ (by decide)⟩, .inr ⟨rfl, homit _ (by decide)⟩, .inl ⟨_, rfl, htypes⟩,
      .inr ⟨rfl, homit _ (by decide)⟩, .inr ⟨rfl, homit _ (by decide)⟩,
      .inr ⟨rfl, homit _ (by decide)⟩, .inr ⟨rfl, homit _ (by decide)⟩,
      .inr ⟨rfl, homit _ (by decide)⟩, List.forall_mem_nil _⟩
  · have hlist : IsValue unknown.value :=
      .list (.items (.last isBlanks_nil isBlanks_nil)) (List.forall_mem_singleton.2 .null)
    intro e he hnone
    rcases List.mem_pair.1 he with rfl | rfl
    · exact hlist
    · have hfield : .list ["types"] TypeEntry.SpelledBy sample.types ∈ sample.spellings := by
        simp [spellings]
      exact absurd (List.mem_singleton_self "types") (hnone _ hfield)

end Metadata

theorem Interface.parse_sampleText :
    Metadata.sample.SpelledBy Metadata.sampleText ∧
      Interface.parse "r" (Bytes.ofString Metadata.sampleText) .standard =
        pure (.ok ⟨[⟨"A", none, []⟩], []⟩) := by
  refine ⟨Metadata.sample_spelledBy, ?_⟩
  rw [Interface.parse_spelledBy Metadata.sample_spelledBy]
  exact Logged.ext (by decide +kernel) (by decide +kernel)

end InterfaceDocs
