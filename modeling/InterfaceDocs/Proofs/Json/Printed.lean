import InterfaceDocs.Json.Value
import InterfaceDocs.Proofs.Json.Token

/-!
# Printed values are JSON

`Value.pretty` prints a value of the grammar, however deep it is nested (`isValue_prettyAt`).  A
printed string spells its text (`spellsText_printText`).  Printed lists and objects have the same
layout, `lines`, with one item on each line:

    (prettyAt depth (.list vs)).toList = lines '[' ']' depth (the items, printed)
    Bracketed opening closing vs (lines opening closing depth vs)            (bracketed_lines)

So a printed object writes the fields of a record (`spellsRecord_prettyAt`), and a printed list the
elements of a list (`spellsList_prettyAt`).
-/

namespace InterfaceDocs.Json

/-! ## Strings -/

theorem spellsDigit_hexDigit (n : Nat) : SpellsDigit (n % 16) (hexDigit n) :=
  ⟨Nat.mod_lt n (by decide), .inl rfl⟩

/-- A control character is spelled by its number. -/
theorem spellsNumber_control {n : Nat} (h : n < 0x20) :
    SpellsNumber n ['0', '0', hexDigit (n / 16), hexDigit n] := by
  have hzero : SpellsDigit 0 '0' := ⟨by decide, .inl rfl⟩
  have hdigits := SpellsNumber.digits hzero hzero (spellsDigit_hexDigit (n / 16))
    (spellsDigit_hexDigit n)
  have hn : ((0 * 16 + 0) * 16 + n / 16 % 16) * 16 + n % 16 = n := by omega
  rwa [hn] at hdigits

theorem spellsChar_escapedChar (c : Char) : SpellsChar c (escapedChar c) := by
  unfold escapedChar
  -- the printer's tests one after the other; a character that passes them all stands for itself
  by_cases hquote : c = '"'
  · rw [if_pos hquote, hquote]
    exact .short (by decide)
  rw [if_neg hquote]
  by_cases hbackslash : c = '\\'
  · rw [if_pos hbackslash, hbackslash]
    exact .short (by decide)
  rw [if_neg hbackslash]
  by_cases hb : c = '\x08'
  · rw [if_pos hb, hb]
    exact .short (by decide)
  rw [if_neg hb]
  by_cases hf : c = '\x0c'
  · rw [if_pos hf, hf]
    exact .short (by decide)
  rw [if_neg hf]
  by_cases hn : c = '\n'
  · rw [if_pos hn, hn]
    exact .short (by decide)
  rw [if_neg hn]
  by_cases hr : c = '\r'
  · rw [if_pos hr, hr]
    exact .short (by decide)
  rw [if_neg hr]
  by_cases ht : c = '\t'
  · rw [if_pos ht, ht]
    exact .short (by decide)
  rw [if_neg ht]
  by_cases hcontrol : c.toNat < 0x20
  · rw [if_pos hcontrol]
    exact .number (spellsNumber_control hcontrol)
  · rw [if_neg hcontrol]
    exact .plain ⟨hquote, hbackslash, Nat.not_lt.1 hcontrol⟩

theorem spellsChars_escaped (cs : List Char) : SpellsChars cs (cs.flatMap escapedChar) := by
  induction cs with
  | nil => exact .nil
  | cons c cs ih => exact .cons (spellsChar_escapedChar c) ih

theorem spellsText_printText (t : String) : SpellsText t (printText t).toList := by
  unfold printText
  rw [String.toList_ofList]
  exact .quoted (spellsChars_escaped t.toList)

/-- What stands for a character is well formed, whatever well-formed characters follow. -/
theorem SpellsChar.isTextBody_append {c : Char} {s t : List Char} (h : SpellsChar c s)
    (ht : IsTextBody t) : IsTextBody (s ++ t) := by
  cases h with
  | plain h => exact .plain h ht
  | short h => exact .short h ht
  | number h => exact .number h ht
  | pair hh hl _ _ _ =>
    have hbody := IsTextBody.number hh (.number hl ht)
    simpa using hbody

theorem SpellsChars.isTextBody {cs body : List Char} (h : SpellsChars cs body) :
    IsTextBody body := by
  induction h with
  | nil => exact .nil
  | cons hc _ ih => exact hc.isTextBody_append ih

/-- A string that stands for a text is well formed. -/
theorem SpellsText.isText {t : String} {cs : List Char} (h : SpellsText t cs) : IsText cs := by
  obtain ⟨hbody⟩ := h
  exact .quoted hbody.isTextBody

/-! ## Lines -/

/-- Items between brackets inside of so many others, each on a line of its own. -/
def lines (opening closing : Char) (depth : Nat) : List (List Char) → List Char
  | [] => [opening, closing]
  | v :: vs =>
    opening :: ((newline (depth + 1)).toList ++ (v ++
      (vs.flatMap (fun w => ',' :: ((newline (depth + 1)).toList ++ w)) ++
        ((newline depth).toList ++ [closing]))))

theorem isBlanks_newline (depth : Nat) : IsBlanks (newline depth).toList := by
  intro c hc
  unfold newline at hc
  rw [String.toList_ofList, List.mem_cons, List.mem_replicate] at hc
  rcases hc with hc | ⟨-, hc⟩
  · exact .inr (.inl hc)
  · exact .inl hc

theorem items_lines (closing : Char) (depth : Nat) (v : List Char) (vs : List (List Char)) :
    Items closing (v :: vs) ((newline (depth + 1)).toList ++ (v ++
      (vs.flatMap (fun w => ',' :: ((newline (depth + 1)).toList ++ w)) ++
        ((newline depth).toList ++ [closing])))) := by
  induction vs generalizing v with
  | nil => exact .last (isBlanks_newline _) (isBlanks_newline _)
  | cons w vs ih =>
    have hmore := Items.more (v := v) (isBlanks_newline (depth + 1)) isBlanks_nil (ih w)
    simpa using hmore

theorem bracketed_lines (opening closing : Char) (depth : Nat) (vs : List (List Char)) :
    Bracketed opening closing vs (lines opening closing depth vs) := by
  cases vs with
  | nil => exact .empty isBlanks_nil
  | cons v vs => exact .items (items_lines closing depth v vs)

namespace Value

/-! ## Lists and objects -/

theorem prettyAt_null (depth : Nat) : prettyAt depth .null = "null" := by rw [prettyAt]

theorem prettyAt_text (depth : Nat) (t : String) : prettyAt depth (.text t) = printText t := by
  rw [prettyAt]

theorem spellsText_prettyAt (depth : Nat) (t : String) :
    SpellsText t (prettyAt depth (.text t)).toList := by
  rw [prettyAt_text]
  exact spellsText_printText t

/-- An entry as it is printed. -/
def printedEntry (depth : Nat) (e : String × Value) : EntryText :=
  ⟨(printText e.1).toList, [], [' '], (e.2.prettyAt depth).toList⟩

theorem toList_prettyItems (depth : Nat) (vs : List Value) :
    (prettyItems depth vs).toList =
      (vs.map fun v => (v.prettyAt depth).toList).flatMap fun w =>
        ',' :: ((newline depth).toList ++ w) := by
  induction vs with
  | nil => rfl
  | cons v vs ih => simp [prettyItems, ih]

theorem toList_prettyEntries (depth : Nat) (es : List (String × Value)) :
    (prettyEntries depth es).toList =
      (es.map fun e => (printedEntry depth e).text).flatMap fun w =>
        ',' :: ((newline depth).toList ++ w) := by
  induction es with
  | nil => rfl
  | cons e es ih => simp [prettyEntries, printedEntry, EntryText.text, ih]

theorem toList_prettyAt_list (depth : Nat) (vs : List Value) :
    (prettyAt depth (.list vs)).toList =
      lines '[' ']' depth (vs.map fun v => (v.prettyAt (depth + 1)).toList) := by
  cases vs with
  | nil => simp [prettyAt, lines]
  | cons v vs => simp [prettyAt, lines, toList_prettyItems]

theorem toList_prettyAt_object (depth : Nat) (es : List (String × Value)) :
    (prettyAt depth (.object es)).toList =
      lines '\x7b' '\x7d' depth (es.map fun e => (printedEntry (depth + 1) e).text) := by
  cases es with
  | nil => simp [prettyAt, lines]
  | cons e es =>
    simp [prettyAt, lines, toList_prettyEntries, printedEntry, EntryText.text]

/-! ## Values -/

theorem printedEntry_isSpaced (depth : Nat) (e : String × Value) :
    (printedEntry depth e).IsSpaced :=
  ⟨isBlanks_nil, fun _ hc => .inl (List.mem_singleton.1 hc)⟩

theorem spellsText_printedEntry (depth : Nat) (e : String × Value) :
    SpellsText e.1 (printedEntry depth e).key := by
  simp only [printedEntry]
  exact spellsText_printText e.1

/-- A printed value is a value, at any depth. -/
theorem isValue_prettyAt (v : Value) (depth : Nat) : IsValue (v.prettyAt depth).toList := by
  match v with
  | .null =>
    rw [prettyAt_null]
    exact .null
  | .text t =>
    exact .text (spellsText_prettyAt depth t).isText
  | .list vs =>
    rw [toList_prettyAt_list]
    refine .list (bracketed_lines '[' ']' depth _) fun w hw => ?_
    obtain ⟨x, hx, rfl⟩ := List.mem_map.1 hw
    exact isValue_prettyAt x (depth + 1)
  | .object es =>
    have hlines : Bracketed '\x7b' '\x7d' ((es.map (printedEntry (depth + 1))).map EntryText.text)
        (prettyAt depth (.object es)).toList := by
      rw [toList_prettyAt_object, List.map_map]
      exact bracketed_lines '\x7b' '\x7d' depth _
    refine .object hlines (fun e he => ?_) fun e he => ?_
    · obtain ⟨x, -, rfl⟩ := List.mem_map.1 he
      exact ⟨printedEntry_isSpaced (depth + 1) x, (spellsText_printedEntry (depth + 1) x).isText⟩
    · obtain ⟨⟨k, x⟩, hx, rfl⟩ := List.mem_map.1 he
      exact isValue_prettyAt x (depth + 1)
termination_by sizeOf v
decreasing_by
  · have := List.sizeOf_lt_of_mem hx
    simp
    omega
  · have := List.sizeOf_lt_of_mem hx
    simp at this ⊢
    omega

theorem spellsEntries_prettyAt (depth : Nat) (es : List (String × Value)) :
    SpellsEntries (es.map fun e => (e.1, printedEntry (depth + 1) e))
      (prettyAt depth (.object es)).toList where
  bracketed := by
    rw [toList_prettyAt_object, List.map_map]
    exact bracketed_lines '\x7b' '\x7d' depth _
  spaced p hp := by
    obtain ⟨e, -, rfl⟩ := List.mem_map.1 hp
    exact printedEntry_isSpaced (depth + 1) e
  keys p hp := by
    obtain ⟨e, -, rfl⟩ := List.mem_map.1 hp
    exact spellsText_printedEntry (depth + 1) e

/-! ## Records -/

/-- A field is written in a printed object by the one entry that has its key. -/
theorem isWrittenIn_prettyAt {depth : Nat} {f : FieldSpelling} {es : List (String × Value)}
    {e : String × Value} (hsole : es.filter (·.1 ∈ f.keys) = [e])
    (hv : f.Value (e.2.prettyAt depth).toList) :
    f.IsWrittenIn (es.map fun e => (e.1, printedEntry depth e)) := by
  refine .inl ⟨(e.1, printedEntry depth e), ?_, hv⟩
  have hfilter : (es.map fun e => (e.1, printedEntry depth e)).filter (·.1 ∈ f.keys) =
      (es.filter (·.1 ∈ f.keys)).map fun e => (e.1, printedEntry depth e) := by
    rw [List.filter_map]
    rfl
  rw [hfilter, hsole]
  rfl

/-- A field that may be left out is not written if no entry has its key. -/
theorem isWrittenIn_of_omitted {depth : Nat} {f : FieldSpelling} {es : List (String × Value)}
    (homit : f.mayOmit) (hnone : ∀ e ∈ es, e.1 ∉ f.keys) :
    f.IsWrittenIn (es.map fun e => (e.1, printedEntry depth e)) := by
  refine .inr ⟨homit, fun p hp => ?_⟩
  obtain ⟨e, he, rfl⟩ := List.mem_map.1 hp
  exact hnone e he

/-- An object that writes the fields of a record is printed as a spelling of the record; what stands
under other keys is of no matter. -/
theorem spellsRecord_prettyAt {depth : Nat} {fields : List FieldSpelling}
    {es : List (String × Value)}
    (h : ∀ f ∈ fields, f.IsWrittenIn (es.map fun e => (e.1, printedEntry (depth + 1) e))) :
    SpellsRecord fields (prettyAt depth (.object es)).toList := by
  refine ⟨_, spellsEntries_prettyAt depth es, h, fun p hp _ => ?_⟩
  obtain ⟨e, -, rfl⟩ := List.mem_map.1 hp
  exact isValue_prettyAt e.2 (depth + 1)

/-- A printed list of the elements of another one, each changed in a way that its print spells. -/
theorem spellsList_prettyAt {α β : Type} {depth : Nat} {spells : β → List Char → Prop} {f : α → β}
    {value : α → Value} (h : ∀ a, spells (f a) ((value a).prettyAt (depth + 1)).toList)
    (as : List α) : SpellsList spells (as.map f) (prettyAt depth (.list (as.map value))).toList := by
  refine ⟨as.map fun a => ((value a).prettyAt (depth + 1)).toList, ?_, ?_⟩
  · rw [toList_prettyAt_list, List.map_map]
    exact bracketed_lines '[' ']' depth _
  · rw [List.forall₂_map_left_iff, List.forall₂_map_right_iff, List.forall₂_same]
    exact fun a _ => h a

theorem spellsList_prettyAt_self {α : Type} {depth : Nat} {spells : α → List Char → Prop}
    {value : α → Value} (h : ∀ a, spells a ((value a).prettyAt (depth + 1)).toList) (as : List α) :
    SpellsList spells as (prettyAt depth (.list (as.map value))).toList := by
  have hlist := spellsList_prettyAt (f := id) h as
  rwa [List.map_id] at hlist

end Value

end InterfaceDocs.Json
