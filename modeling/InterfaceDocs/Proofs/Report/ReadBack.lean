import InterfaceDocs.Report.Format
import InterfaceDocs.Proofs.Json.Field
import InterfaceDocs.Proofs.Json.Printed

/-!
# Reports in JSON are read back

`Report.Content` is what a report says: docstrings by key in their order, and the resources that
failed with the wording of their failures.  `Content.read` reads it from a JSON document, by the rules
by which metadata is read.  What it reads from the text of a report is what the report says
(`read_json`), whatever characters stand in it, so the text of a report loses nothing
(`json_readBack`).
-/

namespace InterfaceDocs

namespace Json

open Reader

/-! ## Objects of texts -/

/-- Puts the next entry in front of those before it. -/
def pushEntry (es : List (String × String)) : Reader (List (String × String)) := do
  let k ← key
  colon
  let t ← text
  pure ((k, t) :: es)

/-- The entries of an object of texts, in their order. -/
def textEntries : Reader (List (String × String)) := do
  let b ← nextToken (.endOfInput .value)
  if b = Ascii.openBrace then
    let es ← Enclosure.object.fold pushEntry []
    pure es.reverse
  else mismatch "a map" b

/-- An object whose entries stand for the given ones, in this order. -/
def SpellsTexts (es : List (String × String)) (cs : List Char) : Prop :=
  ∃ ps, SpellsEntries ps cs ∧
    List.Forall₂ (fun e p => e.1 = p.1 ∧ SpellsText e.2 p.2.value) es ps

theorem pushEntry_reads {k t : String} {e : EntryText} (hk : SpellsText k e.key) (hs : e.IsSpaced)
    (ht : SpellsText t e.value) (es : List (String × String)) :
    Reads (pushEntry es) e.text ((k, t) :: es) := by
  intro before s hb hd
  unfold pushEntry
  rw [e.ofChars_text, run_bind_of_ok (key_run hk hb _), run_bind_of_ok (colon_run hs.1 _),
    run_bind_of_ok (text_reads ht e.afterColon s hs.2 hd), run_pure]

theorem pushEntry_folds {es : List (String × String)} {ps : List (String × EntryText)}
    (h : List.Forall₂ (fun e p => e.1 = p.1 ∧ SpellsText e.2 p.2.value) es ps)
    (hp : ∀ p ∈ ps, SpellsText p.1 p.2.key ∧ p.2.IsSpaced) (acc : List (String × String)) :
    Folds pushEntry (ps.map fun p => p.2.text) acc (es.reverse ++ acc) := by
  induction h generalizing acc with
  | nil => exact .nil
  | @cons e p es ps he _ ih =>
    obtain ⟨hkey, hspaced⟩ := hp p List.mem_cons_self
    obtain ⟨hname, hvalue⟩ := he
    have hrest := ih (fun q hq => hp q (List.mem_cons_of_mem p hq)) (e :: acc)
    rw [List.reverse_cons, List.append_assoc]
    refine .cons ((startsToken_spellsText hkey).append _) ?_ hrest
    rw [← hname] at hkey
    exact pushEntry_reads hkey hspaced hvalue acc

theorem startsToken_spellsTexts {es : List (String × String)} {cs : List Char}
    (h : SpellsTexts es cs) : StartsToken cs := by
  obtain ⟨ps, hps, -⟩ := h
  exact startsToken_bracketed hps.bracketed (by decide) (by decide)

theorem textEntries_reads {es : List (String × String)} {cs : List Char} (h : SpellsTexts es cs) :
    Reads textEntries cs es := by
  obtain ⟨ps, hps, hes⟩ := h
  intro before s hbefore _
  have hf := pushEntry_folds hes (fun p hp => ⟨hps.keys p hp, hps.spaced p hp⟩) []
  obtain ⟨r, hr, hrun⟩ :=
    Enclosure.fold_run Enclosure.object_closesAt (by decide) hps.bracketed hf s
  unfold textEntries
  rw [hr, run_bind_of_ok (nextToken_blanks hbefore (by decide) _ _), if_pos (by decide),
    run_bind_of_ok hrun, run_pure, List.append_nil, List.reverse_reverse]

/-- Printed entries whose values are texts. -/
theorem Value.spellsTexts_prettyAt (depth : Nat) (es : List (String × String)) :
    SpellsTexts es (prettyAt depth (.object (es.map fun e => (e.1, .text e.2)))).toList := by
  refine ⟨_, spellsEntries_prettyAt depth _, ?_⟩
  rw [List.map_map, List.forall₂_map_right_iff, List.forall₂_same]
  intro e _
  simp only [Function.comp_apply, printedEntry, prettyAt_text]
  exact ⟨trivial, spellsText_printText e.2⟩

/-! ## Fields that have to be there -/

variable {σ : Type}

/-- A field that holds a string and has to be there. -/
def fullTextField (name : String) (set : String → σ → σ) : RecordField σ :=
  ⟨name, none, .required, set <$> text⟩

/-- A string that has to be there. -/
def FieldSpelling.fullText (name t : String) : FieldSpelling where
  keys := [name]
  Value := SpellsText t
  mayOmit := False

/-- An object of texts that has to be there. -/
def FieldSpelling.fullTexts (name : String) (es : List (String × String)) : FieldSpelling where
  keys := [name]
  Value := SpellsTexts es
  mayOmit := False

theorem fullText_lawful {name t : String} {put : String → σ → σ} {empty : σ} :
    (⟨fullTextField name put, .fullText name t, put t⟩ : FieldPart σ).Lawful empty :=
  FieldPart.lawful_of_map rfl rfl (fun _ hv => ⟨startsToken_spellsText hv, text_reads hv⟩) False.elim

theorem fullTexts_lawful {name : String} {es : List (String × String)}
    {put : List (String × String) → σ → σ} {empty : σ} :
    (⟨⟨name, none, .required, put <$> textEntries⟩, .fullTexts name es, put es⟩ :
      FieldPart σ).Lawful empty :=
  FieldPart.lawful_of_map rfl rfl (fun _ hv => ⟨startsToken_spellsTexts hv, textEntries_reads hv⟩)
    False.elim

end Json

open Json

namespace Report

/-! ## What a report says -/

/-- A resource that failed, and the wording of its failure. -/
structure Complaint where
  resource : String
  message : String
deriving DecidableEq, Repr

structure Content where
  docs : List (String × String)
  failures : List Complaint
deriving DecidableEq, Repr

def complaint (f : String × Failure) : Complaint := ⟨f.1, f.2.message⟩

def complaintShape : Shape Complaint where
  label := "a failure"
  fields := [
    fullTextField "resource" fun t x => { x with resource := t },
    fullTextField "error" fun t x => { x with message := t }]
  empty := ⟨"", ""⟩

def contentShape : Shape Content where
  label := "a report"
  fields := [
    ⟨"docstrings", none, .required, (fun es x => { x with docs := es }) <$> textEntries⟩,
    ⟨"failures", none, .required,
      (fun fs x => { x with failures := fs }) <$> Json.list complaintShape.reader⟩]
  empty := ⟨[], []⟩

/-- Reads a whole report. -/
def Content.read (s : Bytes) : Except Fault Content := readWhole contentShape.reader s

/-! ## Spellings -/

def Complaint.SpelledBy (w : Complaint) : List Char → Prop :=
  SpellsRecord [.fullText "resource" w.resource, .fullText "error" w.message]

def complaintParts (w : Complaint) : List (FieldPart Complaint) := [
  ⟨fullTextField "resource" fun t x => { x with resource := t }, .fullText "resource" w.resource,
    fun x => { x with resource := w.resource }⟩,
  ⟨fullTextField "error" fun t x => { x with message := t }, .fullText "error" w.message,
    fun x => { x with message := w.message }⟩]

theorem complaintShape_describes (w : Complaint) :
    complaintShape.Describes (complaintParts w) w where
  fields_eq := rfl
  lawful := List.forall_mem_cons.2 ⟨fullText_lawful, List.forall_mem_singleton.2 fullText_lawful⟩
  nodup := by
    show ["resource", "error"].Nodup
    decide
  set_set := by simp [complaintParts]
  set_comm := by simp [complaintParts]
  foldr_set x := rfl

theorem complaint_reads (w : Complaint) (v : List Char) (h : w.SpelledBy v) :
    StartsToken v ∧ Reads complaintShape.reader v w := (complaintShape_describes w).reads h

def Content.SpelledBy (w : Content) : List Char → Prop := SpellsRecord
  [.fullTexts "docstrings" w.docs, .fullList ["failures"] Complaint.SpelledBy w.failures]

def contentParts (w : Content) : List (FieldPart Content) := [
  ⟨⟨"docstrings", none, .required, (fun es x => { x with docs := es }) <$> textEntries⟩,
    .fullTexts "docstrings" w.docs, fun x => { x with docs := w.docs }⟩,
  ⟨⟨"failures", none, .required,
      (fun fs x => { x with failures := fs }) <$> Json.list complaintShape.reader⟩,
    .fullList ["failures"] Complaint.SpelledBy w.failures,
    fun x => { x with failures := w.failures }⟩]

theorem contentShape_describes (w : Content) : contentShape.Describes (contentParts w) w where
  fields_eq := rfl
  lawful := List.forall_mem_cons.2 ⟨fullTexts_lawful,
    List.forall_mem_singleton.2 (fullList_lawful complaint_reads)⟩
  nodup := by
    show ["docstrings", "failures"].Nodup
    decide
  set_set := by simp [contentParts]
  set_comm := by simp [contentParts]
  foldr_set x := rfl

theorem content_reads (w : Content) (v : List Char) (h : w.SpelledBy v) :
    StartsToken v ∧ Reads contentShape.reader v w := (contentShape_describes w).reads h

/-! ## Printed reports -/

theorem complaint_spelledBy (depth : Nat) (f : String × Failure) :
    (complaint f).SpelledBy ((failureValue f).prettyAt depth).toList := by
  refine Value.spellsRecord_prettyAt ?_
  simp only [List.forall_mem_cons]
  exact ⟨Value.isWrittenIn_prettyAt rfl (Value.spellsText_prettyAt _ _),
    Value.isWrittenIn_prettyAt rfl (Value.spellsText_prettyAt _ _), List.forall_mem_nil _⟩

/-- What a report says. -/
def content (r : Report) : Content := ⟨r.docs.toList, r.failures.map complaint⟩

theorem content_spelledBy (r : Report) : r.content.SpelledBy (r.value.prettyAt 0).toList := by
  have hdocs := Value.spellsTexts_prettyAt 1 r.docs.toList
  have hfailures := Value.spellsList_prettyAt (complaint_spelledBy 2) r.failures
  refine Value.spellsRecord_prettyAt ?_
  simp only [List.forall_mem_cons]
  exact ⟨Value.isWrittenIn_prettyAt rfl hdocs, Value.isWrittenIn_prettyAt rfl hfailures,
    List.forall_mem_nil _⟩

/-- A report is read as what it says. -/
theorem read_json (r : Report) : Content.read (Bytes.ofString r.json) = .ok r.content := by
  have hreads := (content_reads r.content _ r.content_spelledBy).2
  have hblank : IsBlanks ['\n'] := by decide
  have htext : r.json.toList = [] ++ ((r.value.prettyAt 0).toList ++ ['\n']) := by
    simp [json, Value.pretty]
  unfold Content.read
  rw [Bytes.ofString_eq_ofChars, htext]
  exact hreads.readWhole_eq isBlanks_nil hblank

/-- The text of a report is determined by what the report says. -/
theorem json_eq_of_content_eq {r r' : Report} (h : r.content = r'.content) : r.json = r'.json := by
  obtain ⟨hdocs, hfailures⟩ := Content.mk.inj h
  have hvalues : ∀ fs : List (String × Failure), fs.map failureValue =
      (fs.map complaint).map fun c =>
        .object [("resource", .text c.resource), ("error", .text c.message)] := by
    intro fs
    rw [List.map_map]
    rfl
  unfold json value
  rw [hdocs, hvalues r.failures, hfailures, ← hvalues]

theorem json_eq_iff {r r' : Report} : r.json = r'.json ↔ r.content = r'.content := by
  refine ⟨fun h => ?_, json_eq_of_content_eq⟩
  have hread := r.read_json
  rw [h, r'.read_json] at hread
  exact (Except.ok.inj hread).symm

/-- **A report loses nothing in its text.**  The text is one JSON value and a line break.  What is read
from it are the docstrings by key, in the order of the keys, and the failures as they are worded, in
their order; so reports with the same text say the same. -/
theorem json_readBack (r : Report) :
    (∃ body, IsValue body ∧ r.json.toList = body ++ ['\n']) ∧
      (∃ docs, Content.read (Bytes.ofString r.json) =
          .ok ⟨docs, r.failures.map fun f => ⟨f.1, f.2.message⟩⟩ ∧
        (∀ k d, (k, d) ∈ docs ↔ r.docs[k]? = some d) ∧
        (docs.map Prod.fst).Pairwise Text.Precedes) ∧
      ∀ r' : Report, r.json = r'.json ↔
        r.docs = r'.docs ∧ r.failures.map complaint = r'.failures.map complaint := by
  refine ⟨⟨(r.value.prettyAt 0).toList, r.value.isValue_prettyAt 0, ?_⟩,
    ⟨r.docs.toList, r.read_json, fun k d => ?_, ?_⟩, fun r' => ?_⟩
  · simp [json, Value.pretty]
  · exact Std.ExtTreeMap.mem_toList_iff_getElem?_eq_some
  · rw [Std.ExtTreeMap.map_fst_toList_eq_keys]
    exact Std.ExtTreeMap.ordered_keys.imp Text.compare_eq_lt_iff.1
  · rw [json_eq_iff, content, content, Content.mk.injEq, Std.ExtTreeMap.toList_inj]

end Report

end InterfaceDocs
