import InterfaceDocs.Proofs.Json.Printed
import InterfaceDocs.Proofs.Metadata.Spelling
import InterfaceDocs.Proofs.Docs.Collect

/-!
# The canonical layout represents every interface

`Interface.canonicalText` writes an interface as a metadata document of the layout with full names:
a list of types and a list of services, each entry under its `qualifiedName`, and null for no
docstring.  `Interface.metadata` is what such a document says, and is read from it
(`read_canonicalText`).  Its names are the full ones already, so it resolves to the interface it was
made from, whatever scopes are preferred:

    i.metadata.IsSound ↔ i.IsWellNamed       (isSound_metadata_iff)
    i.metadata.behind stem = i               (behind_metadata)

An interface that has been resolved is well named, so every document that is accepted, in whichever
layout, has the same meaning as a canonical one (`parse_canonicalText`).
-/

namespace InterfaceDocs

open Json

/-! ## Canonical documents -/

/-- A docstring as it is written. -/
def docValue (doc : Option String) : Value :=
  match doc with
  | some d => .text d
  | none => .null

def Leaf.canonicalValue (l : Leaf) : Value :=
  .object [("name", .text l.name), ("doc", docValue l.doc)]

def Method.canonicalValue (m : Method) : Value :=
  .object [("name", .text m.name), ("doc", docValue m.doc),
    ("params", .list (m.params.map Leaf.canonicalValue))]

def TypeDecl.canonicalValue (t : TypeDecl) : Value :=
  .object [("qualifiedName", .text t.name), ("doc", docValue t.doc),
    ("members", .list (t.members.map Leaf.canonicalValue))]

def Service.canonicalValue (s : Service) : Value :=
  .object [("qualifiedName", .text s.name), ("doc", docValue s.doc),
    ("methods", .list (s.methods.map Method.canonicalValue))]

def Interface.canonicalValue (i : Interface) : Value :=
  .object [("types", .list (i.types.map TypeDecl.canonicalValue)),
    ("services", .list (i.services.map Service.canonicalValue))]

/-- The interface as a metadata document in which every name is full. -/
def Interface.canonicalText (i : Interface) : String := i.canonicalValue.pretty

/-! ## What they say -/

/-- A type under its full name. -/
def TypeDecl.entry (t : TypeDecl) : Metadata.TypeEntry := ⟨some t.name, none, t.doc, t.members⟩

/-- A service under its full name. -/
def Service.entry (s : Service) : Metadata.ServiceEntry := ⟨some s.name, none, s.doc, s.methods⟩

/-- What the canonical document says: all types in one list, all names full, and no namespace. -/
def Interface.metadata (i : Interface) : Metadata where
  commonNamespace := none
  namespaces := ∅
  types := i.types.map TypeDecl.entry
  enums := []
  structs := []
  exceptions := []
  typedefs := []
  services := i.services.map Service.entry

/-! ## Canonical documents are spellings -/

theorem doc_prettyAt (doc : Option String) (depth : Nat) :
    (FieldSpelling.text "doc" doc).Value ((docValue doc).prettyAt depth).toList := by
  cases doc with
  | some d => exact Value.spellsText_prettyAt depth d
  | none =>
    have hnull : (docValue none).prettyAt depth = "null" := Value.prettyAt_null depth
    rw [hnull]
    rfl

theorem Leaf.spelledBy_canonicalValue (depth : Nat) (l : Leaf) :
    l.SpelledBy (l.canonicalValue.prettyAt depth).toList := by
  refine Value.spellsRecord_prettyAt ?_
  simp only [List.forall_mem_cons]
  exact ⟨Value.isWrittenIn_prettyAt rfl (Value.spellsText_prettyAt _ _),
    Value.isWrittenIn_prettyAt rfl (doc_prettyAt _ _), List.forall_mem_nil _⟩

theorem Method.spelledBy_canonicalValue (depth : Nat) (m : Method) :
    m.SpelledBy (m.canonicalValue.prettyAt depth).toList := by
  have hparams := Value.spellsList_prettyAt_self (Leaf.spelledBy_canonicalValue (depth + 2)) m.params
  refine Value.spellsRecord_prettyAt ?_
  simp only [List.forall_mem_cons]
  exact ⟨Value.isWrittenIn_prettyAt rfl (Value.spellsText_prettyAt _ _),
    Value.isWrittenIn_prettyAt rfl (doc_prettyAt _ _),
    Value.isWrittenIn_prettyAt rfl hparams, List.forall_mem_nil _⟩

theorem TypeDecl.spelledBy_canonicalValue (depth : Nat) (t : TypeDecl) :
    t.entry.SpelledBy (t.canonicalValue.prettyAt depth).toList := by
  have hmembers :=
    Value.spellsList_prettyAt_self (Leaf.spelledBy_canonicalValue (depth + 2)) t.members
  refine Value.spellsRecord_prettyAt ?_
  simp only [List.forall_mem_cons]
  exact ⟨Value.isWrittenIn_prettyAt rfl (Value.spellsText_prettyAt _ _),
    Value.isWrittenIn_of_omitted rfl (by simp [FieldSpelling.text]),
    Value.isWrittenIn_prettyAt rfl (doc_prettyAt _ _),
    Value.isWrittenIn_prettyAt rfl hmembers, List.forall_mem_nil _⟩

theorem Service.spelledBy_canonicalValue (depth : Nat) (s : Service) :
    s.entry.SpelledBy (s.canonicalValue.prettyAt depth).toList := by
  have hmethods :=
    Value.spellsList_prettyAt_self (Method.spelledBy_canonicalValue (depth + 2)) s.methods
  refine Value.spellsRecord_prettyAt ?_
  simp only [List.forall_mem_cons]
  exact ⟨Value.isWrittenIn_prettyAt rfl (Value.spellsText_prettyAt _ _),
    Value.isWrittenIn_of_omitted rfl (by simp [FieldSpelling.text]),
    Value.isWrittenIn_prettyAt rfl (doc_prettyAt _ _),
    Value.isWrittenIn_prettyAt rfl hmethods, List.forall_mem_nil _⟩

namespace Interface

/-- The canonical document writes the two lists, and leaves out what else a document may hold. -/
theorem spellings_canonicalValue (i : Interface) (depth : Nat) :
    SpellsRecord i.metadata.spellings (i.canonicalValue.prettyAt depth).toList := by
  have htypes := Value.spellsList_prettyAt (TypeDecl.spelledBy_canonicalValue (depth + 2)) i.types
  have hservices :=
    Value.spellsList_prettyAt (Service.spelledBy_canonicalValue (depth + 2)) i.services
  have hother : ∀ k ∈ ["namespace", "namespaces", "enums", "structs", "exceptions", "typedefs"],
      ∀ e ∈ [("types", Value.list (i.types.map TypeDecl.canonicalValue)),
        ("services", .list (i.services.map Service.canonicalValue))], e.1 ∉ [k] := by
    simp
  refine Value.spellsRecord_prettyAt ?_
  simp only [Metadata.spellings, List.forall_mem_cons]
  exact ⟨Value.isWrittenIn_of_omitted rfl (hother _ (by decide)),
    Value.isWrittenIn_of_omitted rfl (hother _ (by decide)),
    Value.isWrittenIn_prettyAt rfl htypes,
    Value.isWrittenIn_of_omitted rfl (hother _ (by decide)),
    Value.isWrittenIn_of_omitted rfl (hother _ (by decide)),
    Value.isWrittenIn_of_omitted rfl (hother _ (by decide)),
    Value.isWrittenIn_of_omitted rfl (hother _ (by decide)),
    Value.isWrittenIn_prettyAt rfl hservices, List.forall_mem_nil _⟩

theorem read_canonicalText (i : Interface) :
    Metadata.read (Bytes.ofString i.canonicalText) = .ok i.metadata := by
  have hspelled := i.spellings_canonicalValue 0
  refine Metadata.read_spelledBy ⟨[], _, [], ?_, isBlanks_nil, isBlanks_nil, hspelled⟩
  rw [List.nil_append, List.append_nil, canonicalText, Value.pretty]

/-! ## What they resolve to -/

theorem isSound_metadata_iff {i : Interface} : i.metadata.IsSound ↔ i.IsWellNamed := by
  have hpath : ∀ name, Metadata.HasPath (some name) none ↔ Name.isPath name := fun name =>
    ⟨fun ⟨_, hname, h⟩ => Option.some.inj hname ▸ h, fun h => ⟨name, rfl, h⟩⟩
  have htypes : i.metadata.allTypes = i.types.map TypeDecl.entry := by
    simp [Metadata.allTypes, metadata]
  constructor
  · intro h
    refine ⟨fun t ht => ?_, fun s hs => ?_⟩
    · obtain ⟨hname, hmembers⟩ := h.types t.entry (htypes ▸ List.mem_map_of_mem ht)
      exact ⟨(hpath t.name).1 hname, hmembers⟩
    · obtain ⟨hname, hmethods⟩ := h.services s.entry (List.mem_map_of_mem hs)
      exact ⟨(hpath s.name).1 hname, hmethods⟩
  · intro h
    refine ⟨nofun, fun e he => ?_, fun e he => ?_⟩
    · rw [htypes] at he
      obtain ⟨t, ht, rfl⟩ := List.mem_map.1 he
      obtain ⟨hname, hmembers⟩ := h.types t ht
      exact ⟨(hpath t.name).2 hname, hmembers⟩
    · obtain ⟨s, hs, rfl⟩ := List.mem_map.1 he
      obtain ⟨hname, hmethods⟩ := h.services s hs
      exact ⟨(hpath s.name).2 hname, hmethods⟩

/-- Full names stay as they are, whatever stands before bare ones. -/
theorem behind_metadata (stem : String) (i : Interface) : i.metadata.behind stem = i := by
  have htypes : i.types.map (Metadata.TypeEntry.behind stem ∘ TypeDecl.entry) = i.types :=
    List.map_id i.types
  have hservices : i.services.map (Metadata.ServiceEntry.behind stem ∘ Service.entry) =
      i.services := List.map_id i.services
  simp [Metadata.behind, Metadata.allTypes, metadata, htypes, hservices]

/-- No namespace is declared, so none is passed over. -/
theorem notices_metadata (i : Interface) (resource : String) (scopes : List String) :
    i.metadata.notices resource scopes = [] := by
  have hcandidates : i.metadata.candidates scopes = [] := by
    simp [Metadata.candidates, metadata]
  show ((i.metadata.candidates scopes).takeWhile _).map _ = []
  rw [hcandidates]
  rfl

theorem interface_metadata_eq_ok_iff (i : Interface) (scopes : List String) :
    i.metadata.interface scopes = .ok i ↔ i.IsWellNamed := by
  rw [Metadata.interface_eq_ok_iff, behind_metadata, isSound_metadata_iff]
  exact and_iff_left rfl

/-! ## Resources -/

/-- An interface whose names follow the rules is read back from its canonical document, without a
notice; any other one is not. -/
theorem parse_canonicalText_iff {i : Interface} {resource : String} {settings : Settings} :
    parse resource (Bytes.ofString i.canonicalText) settings = pure (.ok i) ↔ i.IsWellNamed := by
  have hparse : parse resource (Bytes.ofString i.canonicalText) settings = pure
      ((i.metadata.interface settings.namespaceScopes).mapError (.malformed resource)) := by
    unfold parse
    rw [read_canonicalText]
    dsimp only
    rw [notices_metadata]
    exact Logged.ext rfl rfl
  rw [hparse, ← interface_metadata_eq_ok_iff i settings.namespaceScopes,
    ← Except.mapError_eq_ok_iff (f := Failure.malformed resource)]
  exact ⟨fun h => congrArg Logged.value h, fun h => congrArg pure h⟩

/-- **The canonical layout represents every interface, and every accepted resource.**  An interface
is read back from its canonical document exactly if its names follow the rules, whatever scopes are
preferred.  The interface of a resource that is accepted, in any layout, is therefore read from its
canonical document too, with the same docstrings or the same repeated key. -/
theorem parse_canonicalText :
    (∀ (i : Interface) (resource : String) (settings : Settings),
      parse resource (Bytes.ofString i.canonicalText) settings = pure (.ok i) ↔ i.IsWellNamed) ∧
    ∀ (resource : String) (s : Bytes) (settings : Settings) (i : Interface),
      (parse resource s settings).value = .ok i → ∀ settings' : Settings,
        parse resource (Bytes.ofString i.canonicalText) settings' = pure (.ok i) ∧
        (Docs.parse resource (Bytes.ofString i.canonicalText) settings').value =
          (Docs.parse resource s settings).value ∧
        ((∃ docs, (Docs.parse resource s settings).value = .ok docs) ∨
          ∃ key, (Docs.parse resource s settings).value =
            .error (.duplicateElement resource key)) := by
  refine ⟨fun i resource settings => parse_canonicalText_iff, ?_⟩
  intro resource s settings i h settings'
  have hcanonical : parse resource (Bytes.ofString i.canonicalText) settings' = pure (.ok i) :=
    parse_canonicalText_iff.2 (isWellNamed_of_parse h)
  have hdocs := Docs.value_parse_of_ok (congrArg Logged.value hcanonical)
  rw [Docs.value_parse_of_ok h, hdocs]
  exact ⟨hcanonical, rfl, i.collect_cases resource⟩

/-- A document of the other layout, with bare names, in which two types have the same name. -/
def repeatedText : String :=
  "\x7b\"namespaces\":\x7b\"java\":\"a\"\x7d,\"structs\":[\x7b\"name\":\"T\",\"doc\":\"\"\x7d]," ++
    "\"enums\":[\x7b\"name\":\"T\"\x7d]\x7d"

theorem parse_canonicalText_repeated :
    (parse "r" (Bytes.ofString repeatedText) .standard).value =
        .ok ⟨[⟨"a.T", none, []⟩, ⟨"a.T", some "", []⟩], []⟩ ∧
      (Docs.parse "r" (Bytes.ofString
        (canonicalText ⟨[⟨"a.T", none, []⟩, ⟨"a.T", some "", []⟩], []⟩)) .standard).value =
          .error (.duplicateElement "r" "a.T") := by
  have hparse : (parse "r" (Bytes.ofString repeatedText) .standard).value =
      .ok ⟨[⟨"a.T", none, []⟩, ⟨"a.T", some "", []⟩], []⟩ := by decide +kernel
  have hdocs := (parse_canonicalText.2 "r" _ .standard _ hparse .standard).2.1
  refine ⟨hparse, hdocs.trans ?_⟩
  decide +kernel

end Interface

end InterfaceDocs
