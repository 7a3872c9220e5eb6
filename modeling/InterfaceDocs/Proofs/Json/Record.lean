import Mathlib.Data.List.Nodup
import Mathlib.Data.List.Pairwise
import InterfaceDocs.Json.Record
import InterfaceDocs.Proofs.Json.Sequence

/-!
# Records are read from any object that writes their fields

A `FieldPart` is a field of a shape with the way it may be written for one record that is known.
When the parts describe the shape (`Shape.Describes`), an object that writes them is read as that
record, whatever the order of its entries and whatever else it holds (`Shape.Describes.reads`).
What carries the induction over the entries is `Shape.Progress`: the names present are those of the
entries so far, and setting again a field that has been read changes nothing.
-/

namespace InterfaceDocs.Json

open Reader Bytes

/-! ## Fields among entries -/

namespace FieldSpelling.IsWrittenIn

variable {f : FieldSpelling} {es todo : List (String × EntryText)}

theorem entry_or_omit (h : f.IsWrittenIn es) : (∃ e ∈ es, e.1 ∈ f.keys) ∨ f.mayOmit := by
  rcases h with ⟨e, hfilter, -⟩ | ⟨homit, -⟩
  · have he : e ∈ es.filter (·.1 ∈ f.keys) := hfilter ▸ List.mem_singleton_self e
    obtain ⟨hes, hkey⟩ := List.mem_filter.1 he
    exact .inl ⟨e, hes, of_decide_eq_true hkey⟩
  · exact .inr homit

/-- The entry of a field is its first one, and has its value. -/
theorem sole {e : String × EntryText} (h : f.IsWrittenIn (es ++ e :: todo)) (he : e.1 ∈ f.keys) :
    (∀ d ∈ es, d.1 ∉ f.keys) ∧ f.Value e.2.value := by
  rcases h with ⟨d, hfilter, hvalue⟩ | ⟨-, hnone⟩
  · have hhead : (e :: todo).filter (·.1 ∈ f.keys) = e :: todo.filter (·.1 ∈ f.keys) :=
      List.filter_cons_of_pos (decide_eq_true he)
    rw [List.filter_append, hhead, List.append_eq_singleton_iff] at hfilter
    rcases hfilter with ⟨hes, hcons⟩ | ⟨-, hnil⟩
    · obtain ⟨rfl, -⟩ := List.cons.inj hcons
      refine ⟨fun c hc hkey => ?_, hvalue⟩
      exact List.filter_eq_nil_iff.1 hes c hc (decide_eq_true hkey)
    · exact absurd hnil (List.cons_ne_nil _ _)
  · exact absurd he (hnone e (List.mem_append_right es List.mem_cons_self))

end FieldSpelling.IsWrittenIn

variable {σ : Type}

/-! ## Descriptions -/

structure FieldPart (σ : Type) where
  field : RecordField σ
  spelling : FieldSpelling
  /-- Gives the field the value that it has in the known record. -/
  set : σ → σ

/-- The field answers to the names of its spelling and reads every one of its values; if it may be
left out, the empty record has its value. -/
structure FieldPart.Lawful (p : FieldPart σ) (empty : σ) : Prop where
  answersTo_iff : ∀ k, p.field.answersTo k ↔ k ∈ p.spelling.keys
  reads : ∀ v, p.spelling.Value v → StartsToken v ∧ Reads p.field.read v p.set
  omitted : p.spelling.mayOmit → p.set empty = empty ∧ p.field.presence ≠ .required

theorem FieldPart.lawful_of_map {α : Type} {f : RecordField σ} {spelling : FieldSpelling}
    {x : Reader α} {put : α → σ → σ} {a : α} {empty : σ} (hread : f.read = put <$> x)
    (hkeys : spelling.keys = f.name :: f.secondName.toList)
    (hv : ∀ v, spelling.Value v → StartsToken v ∧ Reads x v a)
    (homit : spelling.mayOmit → put a empty = empty ∧ f.presence ≠ .required) :
    (⟨f, spelling, put a⟩ : FieldPart σ).Lawful empty where
  answersTo_iff k := by
    rw [hkeys]
    exact f.answersTo_iff k
  reads v hval := by
    obtain ⟨hs, hr⟩ := hv v hval
    refine ⟨hs, ?_⟩
    show Reads f.read v (put a)
    rw [hread]
    exact hr.map put
  omitted := homit

/-- The parts are the fields of the shape, each with its value in the record. -/
structure Shape.Describes (shape : Shape σ) (parts : List (FieldPart σ)) (record : σ) : Prop where
  fields_eq : shape.fields = parts.map FieldPart.field
  lawful : ∀ p ∈ parts, p.Lawful shape.empty
  nodup : (parts.flatMap fun p => p.spelling.keys).Nodup
  set_set : ∀ p ∈ parts, ∀ x, p.set (p.set x) = p.set x
  set_comm : ∀ p ∈ parts, ∀ q ∈ parts, ∀ x, p.set (q.set x) = q.set (p.set x)
  /-- A record in which all fields have their values is the known one. -/
  foldr_set : ∀ x, parts.foldr FieldPart.set x = record

theorem FieldPart.Lawful.name_mem_keys {p : FieldPart σ} {empty : σ} (h : p.Lawful empty) :
    p.field.name ∈ p.spelling.keys :=
  (h.answersTo_iff _).1 ((p.field.answersTo_iff _).2 List.mem_cons_self)

namespace Shape

/-! ## Entries -/

variable {shape : Shape σ}

theorem entry_reads_unknown {k : String} {e : EntryText} (hk : SpellsText k e.key)
    (hs : e.IsSpaced) (hf : shape.field? k = none) (hv : IsValue e.value)
    (state : σ × List String) : Reads (shape.entry state) e.text state := by
  intro before s hb hd
  unfold entry
  rw [e.ofChars_text, run_bind_of_ok (key_run hk hb _), hf]
  dsimp only
  rw [run_bind_of_ok (colon_run hs.1 _), run_bind_of_ok (skip_reads hv e.afterColon s hs.2 hd),
    run_pure]

theorem entry_reads_field {k : String} {e : EntryText} {f : RecordField σ} {set : σ → σ}
    {state : σ × List String} (hk : SpellsText k e.key) (hs : e.IsSpaced)
    (hf : shape.field? k = some f) (hnew : f.name ∉ state.2) (hv : Reads f.read e.value set) :
    Reads (shape.entry state) e.text (set state.1, f.name :: state.2) := by
  intro before s hb hd
  unfold entry
  rw [e.ofChars_text, run_bind_of_ok (key_run hk hb _), hf]
  dsimp only
  rw [if_neg hnew, run_bind_of_ok (colon_run hs.1 _), run_bind_of_ok (hv e.afterColon s hs.2 hd),
    run_pure]

namespace Describes

variable {parts : List (FieldPart σ)} {record : σ}

/-- No name belongs to two parts. -/
theorem eq_of_mem_keys (h : shape.Describes parts record) {p q : FieldPart σ} (hp : p ∈ parts)
    (hq : q ∈ parts) {k : String} (hkp : k ∈ p.spelling.keys) (hkq : k ∈ q.spelling.keys) :
    p = q := by
  by_contra hne
  have hdisjoint := (List.nodup_flatMap.1 h.nodup).2
  have hsymm : Std.Symm (Function.onFun List.Disjoint fun p : FieldPart σ => p.spelling.keys) :=
    ⟨fun _ _ hd _ hkq hkp => hd hkp hkq⟩
  exact hdisjoint.forall hp hq hne hkp hkq

theorem field?_eq_none (h : shape.Describes parts record) {k : String}
    (hk : ∀ p ∈ parts, k ∉ p.spelling.keys) : shape.field? k = none := by
  unfold field?
  rw [List.find?_eq_none, h.fields_eq]
  intro f hf
  obtain ⟨p, hp, rfl⟩ := List.mem_map.1 hf
  rw [(h.lawful p hp).answersTo_iff]
  exact hk p hp

theorem field?_eq_some (h : shape.Describes parts record) {p : FieldPart σ} (hp : p ∈ parts)
    {k : String} (hk : k ∈ p.spelling.keys) : shape.field? k = some p.field := by
  have hanswers : p.field.answersTo k := ((h.lawful p hp).answersTo_iff k).2 hk
  unfold field?
  cases hf : shape.fields.find? (·.answersTo k) with
  | none =>
    have hmem : p.field ∈ shape.fields := h.fields_eq ▸ List.mem_map_of_mem hp
    exact absurd hanswers (List.find?_eq_none.1 hf _ hmem)
  | some f =>
    have hmem := List.mem_of_find?_eq_some hf
    rw [h.fields_eq] at hmem
    obtain ⟨q, hq, rfl⟩ := List.mem_map.1 hmem
    have hanswers := List.find?_some hf
    rw [h.eq_of_mem_keys hp hq hk (((h.lawful q hq).answersTo_iff k).1 hanswers)]

end Describes

/-! ## Progress through the entries -/

/-- After some of the entries: which fields have been read, and which have their values. -/
structure Progress (parts : List (FieldPart σ)) (es : List (String × EntryText))
    (state : σ × List String) : Prop where
  present : ∀ p ∈ parts, (p.field.name ∈ state.2 ↔ ∃ e ∈ es, e.1 ∈ p.spelling.keys)
  settled : ∀ p ∈ parts, (∃ e ∈ es, e.1 ∈ p.spelling.keys) ∨ p.spelling.mayOmit →
    p.set state.1 = state.1

namespace Progress

variable {parts : List (FieldPart σ)} {record : σ} {es : List (String × EntryText)}
  {state : σ × List String}

theorem empty (h : shape.Describes parts record) : Progress parts [] (shape.empty, []) where
  present p _ := by simp
  settled p hp := by
    rintro (⟨e, he, -⟩ | ho)
    · exact absurd he List.not_mem_nil
    · exact ((h.lawful p hp).omitted ho).1

theorem unknown (h : Progress parts es state) {e : String × EntryText}
    (he : ∀ p ∈ parts, e.1 ∉ p.spelling.keys) : Progress parts (es ++ [e]) state := by
  have hiff : ∀ p ∈ parts, (∃ d ∈ es ++ [e], d.1 ∈ p.spelling.keys) ↔
      ∃ d ∈ es, d.1 ∈ p.spelling.keys := by
    intro p hp
    simp [or_and_right, exists_or, he p hp]
  constructor
  · intro p hp
    rw [hiff p hp]
    exact h.present p hp
  · intro p hp
    rw [hiff p hp]
    exact h.settled p hp

/-- Reading a field keeps the values of the others. -/
theorem field (h : Progress parts es state) (hd : shape.Describes parts record) {p : FieldPart σ}
    (hp : p ∈ parts) {e : String × EntryText} (he : e.1 ∈ p.spelling.keys) :
    Progress parts (es ++ [e]) (p.set state.1, p.field.name :: state.2) := by
  have hkey : ∀ q ∈ parts, (e.1 ∈ q.spelling.keys ↔ q = p) := fun q hq =>
    ⟨fun hk => hd.eq_of_mem_keys hq hp hk he, fun hk => hk ▸ he⟩
  have hiff : ∀ q ∈ parts, (∃ d ∈ es ++ [e], d.1 ∈ q.spelling.keys) ↔
      (∃ d ∈ es, d.1 ∈ q.spelling.keys) ∨ q = p := by
    intro q hq
    simp [or_and_right, exists_or, hkey q hq]
  have hname : ∀ q ∈ parts, (q.field.name = p.field.name ↔ q = p) := by
    intro q hq
    refine ⟨fun hn => ?_, fun hqp => by rw [hqp]⟩
    have hkq := (hd.lawful q hq).name_mem_keys
    rw [hn] at hkq
    exact hd.eq_of_mem_keys hq hp hkq (hd.lawful p hp).name_mem_keys
  constructor
  · intro q hq
    rw [hiff q hq, List.mem_cons, hname q hq, h.present q hq, or_comm]
  · intro q hq hset
    by_cases hqp : q = p
    · rw [hqp]
      exact hd.set_set p hp _
    · rw [hiff q hq] at hset
      have hold : q.set state.1 = state.1 := by
        refine h.settled q hq ?_
        rcases hset with (he | he) | ho
        · exact .inl he
        · exact absurd he hqp
        · exact .inr ho
      show q.set (p.set state.1) = p.set state.1
      rw [hd.set_comm q hq p hp, hold]

end Progress

/-! ## Whole records -/

/-- One entry of an object that writes the fields, after those before it. -/
theorem Progress.entry {parts : List (FieldPart σ)} {record : σ} (hd : shape.Describes parts record)
    {es todo : List (String × EntryText)} {e : String × EntryText} {state : σ × List String}
    (h : Progress parts es state) (hk : SpellsText e.1 e.2.key) (hs : e.2.IsSpaced)
    (hwritten : ∀ p ∈ parts, p.spelling.IsWrittenIn (es ++ e :: todo))
    (hother : (∀ p ∈ parts, e.1 ∉ p.spelling.keys) → IsValue e.2.value) :
    ∃ state', Reads (shape.entry state) e.2.text state' ∧ Progress parts (es ++ [e]) state' := by
  by_cases hpart : ∃ p ∈ parts, e.1 ∈ p.spelling.keys
  · obtain ⟨p, hp, hmem⟩ := hpart
    obtain ⟨hfirst, hvalue⟩ := (hwritten p hp).sole hmem
    have hnew : p.field.name ∉ state.2 := by
      rw [h.present p hp]
      rintro ⟨d, hdes, hkey⟩
      exact hfirst d hdes hkey
    exact ⟨_, entry_reads_field hk hs (hd.field?_eq_some hp hmem) hnew
      ((hd.lawful p hp).reads _ hvalue).2, h.field hd hp hmem⟩
  · have hnone : ∀ p ∈ parts, e.1 ∉ p.spelling.keys := fun p hp hmem => hpart ⟨p, hp, hmem⟩
    exact ⟨state, entry_reads_unknown hk hs (hd.field?_eq_none hnone) (hother hnone) state,
      h.unknown hnone⟩

/-- All entries, after those before them. -/
theorem Progress.folds {parts : List (FieldPart σ)} {record : σ} (hd : shape.Describes parts record)
    {es todo : List (String × EntryText)} {state : σ × List String} (h : Progress parts es state)
    (hk : ∀ e ∈ todo, SpellsText e.1 e.2.key ∧ e.2.IsSpaced)
    (hwritten : ∀ p ∈ parts, p.spelling.IsWrittenIn (es ++ todo))
    (hother : ∀ e ∈ todo, (∀ p ∈ parts, e.1 ∉ p.spelling.keys) → IsValue e.2.value) :
    ∃ state', Folds shape.entry (todo.map fun e => e.2.text) state state' ∧
      Progress parts (es ++ todo) state' := by
  induction todo generalizing es state with
  | nil => exact ⟨state, .nil, by rwa [List.append_nil]⟩
  | cons e todo ih =>
    obtain ⟨hkey, hspaced⟩ := hk e List.mem_cons_self
    obtain ⟨state', hread, hnext⟩ :=
      h.entry hd hkey hspaced hwritten (hother e List.mem_cons_self)
    rw [← List.singleton_append, ← List.append_assoc] at hwritten
    obtain ⟨last, hfolds, hlast⟩ := ih hnext (fun d hd => hk d (List.mem_cons_of_mem e hd)) hwritten
      (fun d hd => hother d (List.mem_cons_of_mem e hd))
    refine ⟨last, .cons ((startsToken_spellsText hkey).append _) hread hfolds, ?_⟩
    rwa [List.append_assoc, List.singleton_append] at hlast

theorem foldr_set_eq_self {parts : List (FieldPart σ)} {x : σ} (h : ∀ p ∈ parts, p.set x = x) :
    parts.foldr FieldPart.set x = x := by
  induction parts with
  | nil => rfl
  | cons p parts ih =>
    obtain ⟨hp, hparts⟩ := List.forall_mem_cons.1 h
    rw [List.foldr_cons, ih hparts, hp]

/-- An object that writes the parts of a record is read as the record. -/
theorem Describes.reads {parts : List (FieldPart σ)} {record : σ}
    (hd : shape.Describes parts record) {cs : List Char} (h : SpellsRecord (parts.map FieldPart.spelling) cs) :
    StartsToken cs ∧ Reads shape.reader cs record := by
  obtain ⟨es, hes, hwritten, hother⟩ := h
  have hwritten : ∀ p ∈ parts, p.spelling.IsWrittenIn es := fun p hp =>
    hwritten _ (List.mem_map_of_mem hp)
  have hother : ∀ e ∈ es, (∀ p ∈ parts, e.1 ∉ p.spelling.keys) → IsValue e.2.value :=
    fun e he hnone => hother e he (List.forall_mem_map.2 hnone)
  refine ⟨startsToken_bracketed hes.bracketed (by decide) (by decide), ?_⟩
  obtain ⟨⟨x, present⟩, hfolds, hlast⟩ := (Progress.empty hd).folds hd
    (fun e he => ⟨hes.keys e he, hes.spaced e he⟩) hwritten hother
  rw [List.nil_append] at hlast
  -- every field has been read or may be left out, so setting all of them changes nothing
  have hx : x = record := by
    rw [← hd.foldr_set x]
    exact (foldr_set_eq_self fun p hp => hlast.settled p hp (hwritten p hp).entry_or_omit).symm
  have hmissing : shape.missing? present = none := by
    unfold missing?
    rw [List.find?_eq_none, hd.fields_eq]
    intro f hf
    obtain ⟨p, hp, rfl⟩ := List.mem_map.1 hf
    rcases (hwritten p hp).entry_or_omit with hentry | homit
    · simp [(hlast.present p hp).2 hentry]
    · simp [((hd.lawful p hp).omitted homit).2]
  intro before s hbefore _
  obtain ⟨r, hr, hrun⟩ :=
    Enclosure.fold_run Enclosure.object_closesAt (by decide) hes.bracketed hfolds s
  unfold reader ofObject
  rw [hr, run_bind_of_ok (nextToken_blanks hbefore (by decide) _ _), if_pos (by decide),
    run_bind_of_ok hrun, hx]
  dsimp only
  rw [hmissing, run_pure]

end Shape

end InterfaceDocs.Json
