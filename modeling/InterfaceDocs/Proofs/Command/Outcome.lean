import InterfaceDocs.Command.Run
import InterfaceDocs.Proofs.Command.Arguments
import InterfaceDocs.Proofs.Report.ReadBack

/-!
# What the command prints, and when it succeeds

The command loads, then shows, and at last looks at failures if it is to be strict.  So the output is
decided by what is loaded, and whatever comes after it only matters to the status:

    o.loaded t = .error failure → (o.run t).value = ⟨"", some (o.loadTrouble failure)⟩
    o.loaded t = .ok r → (o.run t).value.stdout = (o.shown r).stdout

Together with the status in both cases this is `run_outcome`.  There the docstrings that are shown for
keys are also compared with what is read from the report in JSON of the same tree.
-/

namespace InterfaceDocs.Command

namespace Options

/-! ## Loading -/

/-- What is loaded: one resource, of which no failures are reported, or the catalogue. -/
def loaded (o : Options) (t : FileTree) : Except Failure Report :=
  match o.resource with
  | some resource => ((o.store t).docsOf o.settings resource).value.map (⟨·, []⟩)
  | none => ((o.store t).catalogue o.settings).value.map fun c => ⟨c.docs, c.failures⟩

/-- The trouble of a failure to load. -/
def loadTrouble (o : Options) (failure : Failure) : Trouble :=
  match o.resource with
  | some resource => .loading resource failure
  | none => .indexing failure

theorem value_load (o : Options) (t : FileTree) :
    (o.load t).value = (o.loaded t).mapError o.loadTrouble := by
  cases h : o.resource with
  | some resource =>
    simp only [load, loaded, h, Logged.value_bind, Logged.value_pure]
    cases ((o.store t).docsOf o.settings resource).value <;>
      simp [Except.map, Except.mapError, loadTrouble, h]
  | none =>
    simp only [load, loaded, h, Logged.value_bind, Logged.value_pure]
    cases ((o.store t).catalogue o.settings).value <;>
      simp [Except.map, Except.mapError, loadTrouble, h]

theorem value_run_of_error {o : Options} {t : FileTree} {failure : Failure}
    (h : o.loaded t = .error failure) : (o.run t).value = ⟨"", some (o.loadTrouble failure)⟩ := by
  rw [run, Logged.value_bind, value_load, h]
  rfl

theorem value_run_of_ok {o : Options} {t : FileTree} {r : Report} (h : o.loaded t = .ok r) :
    (o.run t).value = (o.present r).value := by
  rw [run, Logged.value_bind, value_load, h]
  rfl

/-- Of one resource no failures are reported. -/
theorem failures_of_loaded {o : Options} {t : FileTree} {r : Report} {resource : String}
    (hresource : o.resource = some resource) (h : o.loaded t = .ok r) : r.failures = [] := by
  simp only [loaded, hresource] at h
  cases hdocs : ((o.store t).docsOf o.settings resource).value with
  | error failure =>
    rw [hdocs] at h
    cases h
  | ok docs =>
    rw [hdocs] at h
    cases h
    rfl

/-! ## Showing -/

/-- What is shown of a report, before a strict run looks at its failures. -/
def shown (o : Options) (r : Report) : Outcome :=
  if o.keys = [] then showReport o.format r else (showKeys o.keys r.docs).value

theorem value_present (o : Options) (r : Report) : (o.present r).value =
    { o.shown r with trouble := (o.shown r).trouble.or (o.strictTrouble? r) } := by
  unfold present shown
  split <;> rfl

theorem stdout_showKeys (keys : List String) (docs : Docs) : (showKeys keys docs).value.stdout =
    String.join (keys.filterMap fun k => docs[k]?.map (· ++ "\n")) := rfl

theorem trouble_showKeys {keys : List String} {docs : Docs} :
    (showKeys keys docs).value.trouble = none ↔ ∀ k ∈ keys, k ∈ docs := by
  simp [showKeys]

theorem showReport_eq (format : String) (r : Report) : showReport format r =
    if format = "json" then ⟨r.json, none⟩
    else if format ∈ ["markdown", "md"] then ⟨r.markdown, none⟩
    else ⟨"", some (.unknownFormat format)⟩ := by
  unfold showReport Report.Format.ofName?
  by_cases hjson : format = "json"
  · rw [if_pos hjson, if_pos hjson]
    rfl
  · by_cases hmarkdown : format = "markdown" ∨ format = "md" <;>
      simp [hjson, hmarkdown, Report.render]

theorem trouble_showReport {format : String} {r : Report} :
    (showReport format r).trouble = none ↔ format ∈ ["json", "markdown", "md"] := by
  rw [showReport_eq]
  split
  · next hjson => simp [hjson]
  · next hjson =>
    split
    · next hmarkdown => exact iff_of_true rfl (List.mem_cons_of_mem _ hmarkdown)
    · next hmarkdown => exact iff_of_false nofun fun h => (List.mem_cons.1 h).elim hjson hmarkdown

theorem strictTrouble?_eq_none {o : Options} {r : Report} :
    o.strictTrouble? r = none ↔ ¬(o.strict ∧ r.failures ≠ []) := by
  simp [strictTrouble?]

theorem status_eq_zero {x : Outcome} : x.status = 0 ↔ x.trouble = none := by
  simp [Outcome.status]

/-! ## Running -/

variable {o : Options} {t : FileTree} {r : Report}

theorem stdout_run (h : o.loaded t = .ok r) : (o.run t).value.stdout = (o.shown r).stdout := by
  rw [value_run_of_ok h, value_present]

theorem status_run (h : o.loaded t = .ok r) : (o.run t).value.status = 0 ↔
    (o.shown r).trouble = none ∧ ¬(o.strict ∧ r.failures ≠ []) := by
  rw [value_run_of_ok h, value_present, status_eq_zero, Option.or_eq_none_iff,
    strictTrouble?_eq_none]

/-- One key shows a docstring exactly if it is the docstring under the key. -/
theorem stdout_showKeys_singleton {key d : String} {docs : Docs} :
    (showKeys [key] docs).value.stdout = d ++ "\n" ↔ docs[key]? = some d := by
  have hstdout : (showKeys [key] docs).value.stdout =
      (docs[key]?.map (· ++ "\n")).getD "" := by
    rw [stdout_showKeys]
    cases h : docs[key]? <;> simp [h, String.join]
  rw [hstdout]
  cases docs[key]? with
  | none => exact iff_of_false (fun h => by simpa using congrArg String.toList h) nofun
  | some shown => simp [String.append_left_inj]

/-! ## One key and the whole report -/

theorem read_empty : Report.Content.read (Bytes.ofString "") = .error (.endOfInput .value) :=
  rfl

/-- A single key shows a docstring exactly if the report in JSON has the docstring under the key. -/
theorem stdout_singleton_iff_read (o : Options) (t : FileTree) (key d : String) :
    ({ o with keys := [key] }.run t).value.stdout = d ++ "\n" ↔
      ∃ content,
        Report.Content.read
          (Bytes.ofString ({ o with keys := [], format := "json" }.run t).value.stdout) =
            .ok content ∧
        (key, d) ∈ content.docs := by
  cases h : o.loaded t with
  | error failure =>
    have hkey : { o with keys := [key] }.loaded t = .error failure := h
    have hjson : { o with keys := [], format := "json" }.loaded t = .error failure := h
    rw [value_run_of_error hkey, value_run_of_error hjson, read_empty]
    exact iff_of_false (fun h => by simpa using congrArg String.toList h) nofun
  | ok r =>
    have hkey : { o with keys := [key] }.loaded t = .ok r := h
    have hjson : { o with keys := [], format := "json" }.loaded t = .ok r := h
    have hshown : { o with keys := [key] }.shown r = (showKeys [key] r.docs).value :=
      if_neg (List.cons_ne_nil key [])
    have hreport : { o with keys := [], format := "json" }.shown r = ⟨r.json, none⟩ := rfl
    rw [stdout_run hkey, stdout_run hjson, hshown, hreport, r.read_json, stdout_showKeys_singleton,
      ← Std.ExtTreeMap.mem_toList_iff_getElem?_eq_some]
    simp [Report.content]

/-- **What the command prints, and when it succeeds.**  For arguments that are read as `o`, and for
every tree:

* If loading fails, nothing is printed, and the status is not zero.
* If keys are given, the docstrings of those that are documented are printed in the order of the keys,
  each with a line break and as often as it is asked for, whatever the format is.  The status is zero
  exactly if all keys are documented and a strict run has no failures.
* If no key is given, the report is printed in its format, and nothing if the name means no format.
  The status is zero exactly if the name means a format and a strict run has no failures.
* To be strict changes nothing of what is printed.
* Other keys and another format can be asked for with all else as it is.  What is printed for a
  single key is the docstring that is read under it from the report in JSON. -/
theorem run_outcome {args : List String} {o : Options} (h : ofArguments? args = some o)
    (t : FileTree) :
    let out := (o.run t).value
    (∀ failure, o.loaded t = .error failure → out.stdout = "" ∧ out.status ≠ 0) ∧
    (∀ r, o.loaded t = .ok r →
      (o.resource ≠ none → r.failures = []) ∧
      (o.keys ≠ [] →
        out.stdout = String.join (o.keys.filterMap fun k => r.docs[k]?.map (· ++ "\n")) ∧
        (out.status = 0 ↔ (∀ k ∈ o.keys, k ∈ r.docs) ∧ ¬(o.strict ∧ r.failures ≠ []))) ∧
      (o.keys = [] →
        (out.stdout = if o.format = "json" then r.json
          else if o.format ∈ ["markdown", "md"] then r.markdown else "") ∧
        (out.status = 0 ↔
          o.format ∈ ["json", "markdown", "md"] ∧ ¬(o.strict ∧ r.failures ≠ [])))) ∧
    (∀ strict, ({ o with strict := strict }.run t).value.stdout = out.stdout) ∧
    ∀ key,
      (∃ args', ofArguments? args' = some { o with keys := [key] }) ∧
      (∃ args', ofArguments? args' = some { o with keys := [], format := "json" }) ∧
      ∀ d, ({ o with keys := [key] }.run t).value.stdout = d ++ "\n" ↔
        ∃ content,
          Report.Content.read
            (Bytes.ofString ({ o with keys := [], format := "json" }.run t).value.stdout) =
              .ok content ∧
          (key, d) ∈ content.docs := by
  intro out
  refine ⟨fun failure hfailure => ?_, fun r hr => ⟨fun hresource => ?_, fun hkeys => ?_,
    fun hkeys => ?_⟩, fun strict => ?_, fun key => ⟨?_, ?_, fun d => ?_⟩⟩
  · have hout : out = ⟨"", some (o.loadTrouble failure)⟩ := value_run_of_error hfailure
    rw [hout]
    exact ⟨rfl, Nat.one_ne_zero⟩
  · obtain ⟨resource, hresource⟩ := Option.ne_none_iff_exists'.1 hresource
    exact failures_of_loaded hresource hr
  · have hshown : o.shown r = (showKeys o.keys r.docs).value := if_neg hkeys
    rw [stdout_run hr, status_run hr, hshown, stdout_showKeys, trouble_showKeys]
    exact ⟨rfl, Iff.rfl⟩
  · have hshown : o.shown r = showReport o.format r := if_pos hkeys
    rw [stdout_run hr, status_run hr, hshown, trouble_showReport, showReport_eq]
    refine ⟨?_, Iff.rfl⟩
    split
    · rfl
    · split <;> rfl
  · cases hloaded : o.loaded t with
    | error failure =>
      have hstrict : { o with strict := strict }.loaded t = .error failure := hloaded
      rw [value_run_of_error hstrict, show out = _ from value_run_of_error hloaded]
    | ok r =>
      have hstrict : { o with strict := strict }.loaded t = .ok r := hloaded
      exact (stdout_run hstrict).trans (stdout_run hloaded).symm
  · exact exists_arguments_reasked h [key] o.format
  · exact exists_arguments_reasked h [] "json"
  · exact stdout_singleton_iff_read o t key d

/-- Of two resources below `r/d` one is documented, and the other one is broken. -/
def oneBroken : FileTree :=
  (FileTree.empty.write ["r", "d", "a.json"]
    (Bytes.ofString "\x7b\"types\":[\x7b\"name\":\"T\",\"doc\":\"one\"\x7d]\x7d")).write
      ["r", "d", "b.json"] [123]

def askedStrictly : Options where
  roots := ["r"]
  resource := none
  keys := ["T", "U", "T"]
  format := "yaml"
  settings := { Settings.standard with resourceDir := "d" }
  strict := true
  verbosity := .normal

theorem run_outcome_oneBroken :
    ofArguments? ["-kT", "--format=yaml", "r", "-k", "U", "--strict", "--resource-dir", "d", "-k=T"] =
        some askedStrictly ∧
      (askedStrictly.run oneBroken).value.stdout = "one\none\n" ∧
      (askedStrictly.run oneBroken).value.status ≠ 0 ∧
      ∃ content,
        Report.Content.read (Bytes.ofString
          ({ askedStrictly with keys := [], format := "json" }.run oneBroken).value.stdout) =
            .ok content ∧
        ("T", "one") ∈ content.docs := by
  have hargs : ofArguments?
      ["-kT", "--format=yaml", "r", "-k", "U", "--strict", "--resource-dir", "d", "-k=T"] =
        some askedStrictly := by decide +kernel
  obtain ⟨-, hok, -, hkey⟩ := run_outcome hargs oneBroken
  have hloaded : (askedStrictly.loaded oneBroken).toOption.any fun r =>
      r.docs["T"]? = some "one" ∧ r.docs["U"]? = none := by decide +kernel
  cases h : askedStrictly.loaded oneBroken with
  | error failure =>
    rw [h] at hloaded
    cases hloaded
  | ok r =>
    rw [h] at hloaded
    obtain ⟨hone, hnone⟩ := of_decide_eq_true hloaded
    obtain ⟨hstdout, hstatus⟩ := (hok r h).2.1 (by decide)
    refine ⟨hargs, ?_, ?_, ((hkey "T").2.2 "one").1 (by decide +kernel)⟩
    · rw [hstdout]
      simp [askedStrictly, hone, hnone, String.join]
    · intro hzero
      have hmem := (hstatus.1 hzero).1 "U" (by decide)
      rw [Std.ExtTreeMap.mem_iff_isSome_getElem?, hnone] at hmem
      cases hmem

end Options

end InterfaceDocs.Command
