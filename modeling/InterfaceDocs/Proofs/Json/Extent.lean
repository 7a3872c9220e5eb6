import InterfaceDocs.Proofs.Json.Reach
import InterfaceDocs.Proofs.Json.Token

/-!
# Where values end

The readers of strings, numbers, skipped values, lists, dictionaries and records look at the bytes
that they take and at the next one.  A record stands between brackets, so its reader does not look
past the closing one (`Shape.localFor_reader`).  A whole document is one such value, and may be
followed by white space and by nothing else (`readWhole_append`).
-/

namespace InterfaceDocs.Json

open Reader

variable {α β σ : Type}

/-! ## Strings -/

theorem local_nextInText : Local nextInText := localFor_next _ _

theorem local_fourHexDigits : Local fourHexDigits := by
  unfold fourHexDigits
  refine local_nextInText.bind fun a => local_nextInText.bind fun b =>
    local_nextInText.bind fun c => local_nextInText.bind fun d => ?_
  cases hexNumber? a b c d with
  | some n => exact localFor_pure _ n
  | none => exact localFor_fail _ _

theorem local_lowSurrogate : Local lowSurrogate := by
  unfold lowSurrogate
  refine local_nextInText.bind fun b => .orFail ?_
  refine local_nextInText.bind fun c => .orFail ?_
  exact local_fourHexDigits.bind fun low => .orFail (localFor_pure _ low)

theorem local_codePoint : Local codePoint := by
  unfold codePoint
  refine local_fourHexDigits.bind fun n => .ite (localFor_fail _ _) (.ite ?_ (localFor_pure _ n))
  exact local_lowSurrogate.bind fun low => localFor_pure _ _

theorem local_escapeWith {byNumber : Reader Bytes} (h : Local byNumber) :
    Local (escapeWith byNumber) := by
  unfold escapeWith
  refine local_nextInText.bind fun b => ?_
  cases simpleEscape? b with
  | some c => exact localFor_pure _ _
  | none => exact .orFail h

theorem local_decoded : Local decoded :=
  local_escapeWith (local_codePoint.bind fun _ => localFor_pure _ _)

theorem local_checked : Local checked :=
  local_escapeWith (local_fourHexDigits.bind fun _ => localFor_pure _ _)

theorem local_textBytes {escape : Reader Bytes} (h : Local escape) : Local (textBytes escape) := by
  refine Local.iterate (fun taken => ?_) []
  unfold textTurn
  refine local_nextInText.bind fun b => .ite (localFor_pure _ _) (.ite ?_ ?_)
  · exact h.bind fun bs => localFor_pure _ _
  · exact .ite (localFor_fail _ _) (localFor_pure _ _)

theorem local_textBody : Local textBody := by
  unfold textBody
  refine (local_textBytes local_decoded).bind fun bs => ?_
  cases bs.toString? with
  | some t => exact localFor_pure _ t
  | none => exact localFor_fail _ _

theorem local_skipText : Local skipText :=
  (local_textBytes local_checked).bind fun _ => localFor_pure _ ()

/-! ## Numbers -/

theorem local_moreDigits (first : UInt8) : Local (moreDigits first) :=
  (local_takeWhile _).bind fun _ => localFor_pure _ _

theorem local_someDigits (atEnd : Fault) : Local (someDigits atEnd) := by
  unfold someDigits
  exact Local.bind (localFor_next _ _) fun b => .orFail (local_moreDigits b)

theorem local_wholeDigits (first : UInt8) : Local (wholeDigits first) := by
  unfold wholeDigits
  refine .ite (local_peek.bind fun b => ?_) (.orFail (local_moreDigits first))
  cases b with
  | none => exact localFor_pure _ _
  | some b => exact .ite (localFor_fail _ _) (localFor_pure _ _)

theorem local_fractionDigits (atEnd : Fault) : Local (fractionDigits atEnd) := by
  unfold fractionDigits
  refine local_peek.bind fun b => .ite ?_ (localFor_pure _ _)
  exact Local.bind (localFor_next _ _) fun _ => local_someDigits atEnd

theorem local_exponentSign (atEnd : Fault) : Local (exponentSign atEnd) := by
  have hsign : ∀ negative : Bool, Local (do
      let _ ← next atEnd
      pure negative) := fun negative => Local.bind (localFor_next _ _) fun _ => localFor_pure _ negative
  unfold exponentSign
  exact local_peek.bind fun b => .ite (hsign true) (.ite (hsign false) (localFor_pure _ _))

theorem local_exponentPart (atEnd : Fault) : Local (exponentPart atEnd) := by
  unfold exponentPart
  refine local_peek.bind fun b => .ite ?_ (localFor_pure _ _)
  exact Local.bind (localFor_next _ _) fun _ => (local_exponentSign atEnd).bind fun _ =>
    (local_someDigits atEnd).bind fun _ => localFor_pure _ _

theorem local_numeral (atEnd : Fault) (first : UInt8) : Local (numeral atEnd first) := by
  have hparts : ∀ (negative : Bool) (lead : UInt8), Local (do
      let whole ← wholeDigits lead
      let fraction ← fractionDigits atEnd
      let exponent ← exponentPart atEnd
      pure (⟨negative, whole, fraction, exponent⟩ : Numeral)) := fun negative lead =>
    (local_wholeDigits lead).bind fun _ => (local_fractionDigits atEnd).bind fun _ =>
      (local_exponentPart atEnd).bind fun _ => localFor_pure _ _
  unfold numeral
  dsimp only
  split
  · exact Local.bind (localFor_next _ _) (hparts _)
  · exact Local.bind (localFor_pure _ _) (hparts _)

/-! ## Skipped values -/

theorem local_nextToken (fault : Fault) : Local (nextToken fault) := localFor_nextToken _ fault

theorem local_skipKey : Local skipKey := by
  unfold skipKey
  refine (local_nextToken _).bind fun b => .orFail ?_
  exact local_skipText.bind fun _ => (local_nextToken _).bind fun c => .orFail (localFor_pure _ ())

theorem local_afterValue (brackets : List Bracket) : Local (afterValue brackets) := by
  induction brackets with
  | nil => exact localFor_pure _ _
  | cons k outer ih =>
    cases k with
    | list =>
      unfold afterValue
      exact (local_nextToken _).bind fun b => .ite (localFor_pure _ _) (.orFail ih)
    | object =>
      unfold afterValue
      refine (local_nextToken _).bind fun b => .ite ?_ (.orFail ih)
      exact local_skipKey.bind fun _ => localFor_pure _ _

theorem local_afterOpenBracket (outer : List Bracket) : Local (afterOpenBracket outer) := by
  unfold afterOpenBracket
  refine local_peekToken.bind fun b => ?_
  cases b with
  | none => exact localFor_fail _ _
  | some b =>
    refine .ite ?_ (localFor_pure _ _)
    exact Local.bind (localFor_next _ _) fun _ => local_afterValue outer

theorem local_afterOpenBrace (outer : List Bracket) : Local (afterOpenBrace outer) := by
  unfold afterOpenBrace
  refine local_peekToken.bind fun b => ?_
  cases b with
  | none => exact localFor_fail _ _
  | some b =>
    refine .ite ?_ (local_skipKey.bind fun _ => localFor_pure _ _)
    exact Local.bind (localFor_next _ _) fun _ => local_afterValue outer

theorem local_skipFrom (outer : List Bracket) (b : UInt8) : Local (skipFrom outer b) := by
  have hword : ∀ bs, Local (word bs >>= fun _ => afterValue outer) := fun bs =>
    (local_word bs).bind fun _ => local_afterValue outer
  have hnumber : Local (numeral .invalidNumber b >>= fun _ => afterValue outer) :=
    (local_numeral _ b).bind fun _ => local_afterValue outer
  have htext : Local (skipText >>= fun _ => afterValue outer) :=
    local_skipText.bind fun _ => local_afterValue outer
  unfold skipFrom
  exact .ite (hword _) (.ite (hword _) (.ite (hword _) (.ite hnumber (.ite htext
    (.ite (local_afterOpenBracket outer) (.orFail (local_afterOpenBrace outer)))))))

theorem local_skip : Local skip :=
  Local.iterate (fun outer => (local_nextToken _).bind fun b => local_skipFrom outer b) []

/-! ## Strings and dictionaries -/

/-- A value of another kind is never read. -/
theorem not_takes_mismatch {wanted : String} {b : UInt8} (p r : Bytes) (a : α) :
    ¬(mismatch wanted b : Reader α).Takes p r a := by
  have hfails : ∀ {γ : Type} {x : Reader γ} {f : γ → Reader α},
      (∀ c p r, ¬(f c).Takes p r a) → ¬(x >>= f).Takes p r a := by
    intro γ x f hf h
    obtain ⟨c, p₁, p₂, -, -, hc⟩ := takes_bind.1 h
    exact hf c p₂ r hc
  unfold mismatch
  split
  · exact hfails fun _ p r => not_takes_fail _ p r a
  split
  · exact hfails fun _ p r => not_takes_fail _ p r a
  split
  · exact hfails fun _ p r => not_takes_fail _ p r a
  split
  · refine hfails fun n p r => ?_
    cases n.found with
    | ok found => exact not_takes_fail _ p r a
    | error fault => exact not_takes_fail _ p r a
  split
  · exact hfails fun _ p r => not_takes_fail _ p r a
  split
  · exact not_takes_fail _ p r a
  split
  · exact not_takes_fail _ p r a
  · exact not_takes_fail _ p r a

theorem localFor_mismatch (P : α → Prop) (wanted : String) (b : UInt8) :
    LocalFor P (mismatch wanted b) := localFor_of_fails not_takes_mismatch

theorem endsFor_mismatch (P : α → Prop) (wanted : String) (b : UInt8) :
    EndsFor P (mismatch wanted b) := endsFor_of_fails not_takes_mismatch

theorem local_text : Local text := by
  unfold text
  exact (local_nextToken _).bind fun b => .ite local_textBody (localFor_mismatch _ _ b)

theorem local_optionalText : Local optionalText := by
  unfold optionalText
  refine (local_nextToken _).bind fun b => .ite ?_ (.ite ?_ (localFor_mismatch _ _ b))
  · exact (local_word _).bind fun _ => localFor_pure _ _
  · exact local_textBody.bind fun _ => localFor_pure _ _

theorem local_key : Local key := by
  unfold key
  exact (local_nextToken _).bind fun b => .orFail local_textBody

theorem local_colon : Local colon := by
  unfold colon
  exact (local_nextToken _).bind fun b => .orFail (localFor_pure _ ())

theorem local_dictionaryEntry (entries : StringMap) : Local (dictionaryEntry entries) :=
  local_key.bind fun _ => local_colon.bind fun _ => local_text.bind fun _ => localFor_pure _ _

/-! ## Items between brackets -/

theorem takes_nextToken {fault : Fault} {p r : Bytes} {b : UInt8} :
    (nextToken fault).Takes p r b ↔ (p ++ r).dropWhile isBlank = b :: r := by
  unfold Takes
  rw [run_nextToken]
  cases (p ++ r).dropWhile isBlank with
  | nil => exact ⟨nofun, nofun⟩
  | cons c s => simp

/-- The turn was the last one. -/
def IsDone (turn : Turn σ β) : Prop := ∃ b, turn = .done b

namespace Enclosure

/-- There are no more items. -/
def AtEnd (more : Bool) : Prop := more = false

/-- The end of the items is marked by a byte that is no white space. -/
def IsMarked (e : Enclosure) : Prop := isBlank e.close = false

theorem list_isMarked : list.IsMarked := rfl

theorem object_isMarked : object.IsMarked := rfl

variable {e : Enclosure}

theorem takes_any_false {p r : Bytes} :
    e.any.Takes p r false ↔ (nextToken e.unfinished).Takes p r e.close := by
  rw [takes_nextToken]
  unfold Takes any
  rw [run_bind_of_ok (run_peekToken _)]
  cases (p ++ r).dropWhile isBlank with
  | nil => exact ⟨nofun, nofun⟩
  | cons b s =>
    show Reader.run (if b = e.close then _ else _) _ = _ ↔ _
    by_cases hb : b = e.close
    · rw [if_pos hb, run_bind_of_ok (run_next_cons _ b s), run_pure]
      simp [hb]
    · rw [if_neg hb, run_pure]
      simp [hb]

theorem localFor_any (e : Enclosure) : LocalFor AtEnd e.any := by
  have hlocal : Local e.any := by
    unfold any
    refine local_peekToken.bind fun b => ?_
    cases b with
    | none => exact localFor_fail _ _
    | some b =>
      refine .ite ?_ (localFor_pure _ _)
      exact Local.bind (localFor_next _ _) fun _ => localFor_pure _ _
  intro p r more h r' hr
  rcases hr with hr | rfl
  · exact hlocal h r' (.inl hr)
  · have hclose := takes_any_false.1 h
    exact takes_any_false.2 (localFor_nextToken (fun _ => True) _ hclose r' (.inr trivial))

theorem endsFor_any (he : e.IsMarked) : EndsFor AtEnd e.any := by
  intro p r more h hend
  obtain rfl := hend
  exact endsFor_nextToken _ (takes_any_false.1 h) he

theorem localFor_more (e : Enclosure) : LocalFor AtEnd e.more := by
  have hcomma : LocalFor AtEnd (do
      if (← peekToken) = some e.close then fail .trailingComma else pure true) := by
    refine LocalFor.bind local_peekToken (fun b => .ite (localFor_fail _ _) (localFor_pure _ _))
      fun b => .inr (.ite (endsFor_fail _ _) (endsFor_pure nofun))
  unfold more
  refine LocalFor.bind (localFor_nextToken (fun _ => True) _) (fun b => ?_) fun _ => .inl trivial
  exact .ite (localFor_pure _ _) (.ite hcomma (localFor_fail _ _))

theorem endsFor_more (he : e.IsMarked) : EndsFor AtEnd e.more := by
  unfold more
  refine EndsFor.bind (endsFor_nextToken _) fun b => ?_
  by_cases hb : b = e.close
  · right
    rw [hb, if_pos rfl]
    exact ⟨he, false, rfl⟩
  · left
    rw [if_neg hb]
    refine .ite (EndsFor.bind_right _ fun c => ?_) (endsFor_fail _ _)
    exact .ite (endsFor_fail _ _) (endsFor_pure nofun)

variable {item : σ → Reader σ}

theorem endsFor_itemTurn (he : e.IsMarked) (acc : σ) : EndsFor IsDone (e.itemTurn item acc) := by
  unfold itemTurn
  refine EndsFor.bind_right _ fun acc => EndsFor.bind (endsFor_more he) fun more => ?_
  cases more with
  | false => exact .inr ⟨rfl, .done acc, rfl⟩
  | true => exact .inl (endsFor_pure nofun)

theorem localFor_itemTurn (he : e.IsMarked) (hitem : ∀ acc, Local (item acc)) (acc : σ) :
    LocalFor IsDone (e.itemTurn item acc) := by
  have hmore : ∀ acc : σ, LocalFor IsDone (do
      if ← e.more then pure (.again acc) else pure (.done acc) : Reader (Turn σ σ)) := by
    intro acc
    refine e.localFor_more.bind (fun more => .ite (localFor_pure _ _) (localFor_pure _ _))
      fun more => ?_
    cases more with
    | false => exact .inl rfl
    | true => exact .inr (endsFor_pure nofun)
  unfold itemTurn
  refine LocalFor.bind (hitem acc) hmore fun acc => .inr ?_
  refine EndsFor.bind (endsFor_more he) fun more => ?_
  cases more with
  | false => exact .inr ⟨rfl, .done acc, rfl⟩
  | true => exact .inl (endsFor_pure nofun)

/-- The items end at the closing byte, and what follows that is not looked at. -/
theorem endsFor_fold (he : e.IsMarked) (acc : σ) : EndsFor (fun _ => True) (e.fold item acc) := by
  unfold fold
  refine EndsFor.bind (endsFor_any he) fun any => ?_
  cases any with
  | false => exact .inr ⟨rfl, acc, rfl⟩
  | true => exact .inl (EndsFor.iterate (endsFor_itemTurn he) (fun b _ => ⟨b, rfl⟩) acc)

theorem localFor_fold (he : e.IsMarked) (hitem : ∀ acc, Local (item acc)) (acc : σ) :
    LocalFor (fun _ => True) (e.fold item acc) := by
  have hends : ∀ acc, EndsFor (fun _ => True)
      (iterate (e.itemTurn item) (e.itemTurn_advances item) acc) := fun acc =>
    EndsFor.iterate (endsFor_itemTurn he) (fun b _ => ⟨b, rfl⟩) acc
  unfold fold
  refine e.localFor_any.bind (fun any => .ite ?_ (localFor_pure _ _)) fun any => ?_
  · exact LocalFor.iterate (localFor_itemTurn he hitem) (fun b _ => ⟨b, rfl⟩) hends acc
  · cases any with
    | false => exact .inl rfl
    | true => exact .inr (hends acc)

end Enclosure

theorem local_list {item : Reader α} (h : Local item) : Local (list item) := by
  have hpush : ∀ items, Local (pushItem item items) := fun items =>
    h.bind fun a => localFor_pure _ (a :: items)
  unfold list
  refine (local_nextToken _).bind fun b => .ite ?_ (localFor_mismatch _ _ b)
  exact (Enclosure.localFor_fold Enclosure.list_isMarked hpush []).toLocal.bind fun items => localFor_pure _ _

theorem local_dictionary : Local dictionary := by
  unfold dictionary
  refine (local_nextToken _).bind fun b => .ite ?_ (localFor_mismatch _ _ b)
  exact (Enclosure.localFor_fold Enclosure.object_isMarked local_dictionaryEntry ∅).toLocal

/-! ## Records -/

namespace Shape

theorem endsFor_closeList : EndsFor (fun _ => True) closeList := by
  unfold closeList
  refine EndsFor.bind (endsFor_nextToken _) fun b => ?_
  by_cases hb : b = Ascii.closeBracket
  · right
    rw [hb, if_pos rfl]
    exact ⟨by decide, (), rfl⟩
  · left
    rw [if_neg hb]
    refine .ite (EndsFor.bind_right _ fun c => ?_) (endsFor_fail _ _)
    exact .ite (endsFor_fail _ _) (endsFor_fail _ _)

theorem localFor_closeList : LocalFor (fun _ => True) closeList := by
  unfold closeList
  refine LocalFor.bind (localFor_nextToken (fun _ => True) _) (fun b => ?_) fun _ => .inl trivial
  refine .ite (localFor_pure _ ()) (.orFail ?_)
  refine LocalFor.bind local_peekToken (fun c => .orFail (localFor_fail _ _)) fun c => .inr ?_
  exact .ite (endsFor_fail _ _) (endsFor_fail _ _)

/-- Whether there is a field at this place of a list. -/
def anyAt (index : Nat) : Reader Bool := if index = 0 then Enclosure.list.any else Enclosure.list.more

theorem endsFor_anyAt (index : Nat) : EndsFor Enclosure.AtEnd (anyAt index) :=
  .ite (Enclosure.endsFor_any Enclosure.list_isMarked) (Enclosure.endsFor_more Enclosure.list_isMarked)

theorem localFor_anyAt (index : Nat) : LocalFor Enclosure.AtEnd (anyAt index) :=
  .ite Enclosure.list.localFor_any Enclosure.list.localFor_more

variable {shape : Shape σ}

theorem fieldsFrom_cons (index : Nat) (record : σ) (f : RecordField σ) (fs : List (RecordField σ)) :
    shape.fieldsFrom index record (f :: fs) = (do
      if ← anyAt index then
        let set ← f.read
        shape.fieldsFrom (index + 1) (set record) fs
      else
        match (f :: fs).findIdx? fun g => g.presence ≠ .defaulted with
        | some ahead => fail (.tooShort (index + ahead) shape.label shape.fields.length)
        | none => pure record) := by
  rw [fieldsFrom]
  unfold anyAt
  split
  · rfl
  · rfl

theorem endsFor_fieldsFrom (fs : List (RecordField σ)) (index : Nat) (record : σ) :
    EndsFor (fun _ => True) (shape.fieldsFrom index record fs) := by
  induction fs generalizing index record with
  | nil => exact EndsFor.bind endsFor_closeList fun _ => .inr ⟨trivial, record, rfl⟩
  | cons f fs ih =>
    rw [fieldsFrom_cons]
    refine EndsFor.bind (endsFor_anyAt index) fun more => ?_
    cases more with
    | true => exact .inl (EndsFor.bind_right _ fun set => ih (index + 1) (set record))
    | false =>
      rw [if_neg nofun]
      cases (f :: fs).findIdx? fun g => g.presence ≠ .defaulted with
      | some ahead => exact .inl (endsFor_fail _ _)
      | none => exact .inr ⟨rfl, record, rfl⟩

theorem localFor_fieldsFrom (fs : List (RecordField σ)) (hfs : ∀ f ∈ fs, Local f.read)
    (index : Nat) (record : σ) : LocalFor (fun _ => True) (shape.fieldsFrom index record fs) := by
  induction fs generalizing index record with
  | nil => exact localFor_closeList.bind (fun _ => localFor_pure _ _) fun _ => .inl trivial
  | cons f fs ih =>
    have hends : ∀ set : σ → σ,
        EndsFor (fun _ => True) (shape.fieldsFrom (index + 1) (set record) fs) := fun set =>
      endsFor_fieldsFrom fs (index + 1) (set record)
    rw [fieldsFrom_cons]
    refine LocalFor.bind (localFor_anyAt index) (fun more => ?_) fun more => ?_
    · refine .ite ?_ ?_
      · have hrest := ih (fun g hg => hfs g (List.mem_cons_of_mem f hg)) (index + 1)
        exact LocalFor.bind (hfs f List.mem_cons_self) (fun set => hrest (set record))
          fun set => .inr (hends set)
      · cases (f :: fs).findIdx? fun g => g.presence ≠ .defaulted with
        | some ahead => exact localFor_fail _ _
        | none => exact localFor_pure _ _
    · cases more with
      | false => exact .inl rfl
      | true => exact .inr (EndsFor.bind_right _ hends)

theorem local_entry (h : ∀ f ∈ shape.fields, Local f.read) (state : σ × List String) :
    Local (shape.entry state) := by
  unfold entry
  refine local_key.bind fun k => ?_
  cases hk : shape.field? k with
  | none => exact local_colon.bind fun _ => local_skip.bind fun _ => localFor_pure _ _
  | some f =>
    have hf : Local f.read := h f (List.mem_of_find?_eq_some hk)
    refine .ite (localFor_fail _ _) ?_
    exact local_colon.bind fun _ => hf.bind fun _ => localFor_pure _ _

theorem endsFor_ofObject (shape : Shape σ) : EndsFor (fun _ => True) shape.ofObject := by
  unfold ofObject
  refine EndsFor.bind (Enclosure.endsFor_fold Enclosure.object_isMarked _) fun state => ?_
  obtain ⟨record, present⟩ := state
  dsimp only
  cases shape.missing? present with
  | some f => exact .inl (endsFor_fail _ _)
  | none => exact .inr ⟨trivial, record, rfl⟩

theorem localFor_ofObject (h : ∀ f ∈ shape.fields, Local f.read) :
    LocalFor (fun _ => True) shape.ofObject := by
  unfold ofObject
  have hfold := Enclosure.localFor_fold Enclosure.object_isMarked (local_entry h) (shape.empty, [])
  refine hfold.bind (fun state => ?_) fun _ => .inl trivial
  obtain ⟨record, present⟩ := state
  dsimp only
  cases shape.missing? present with
  | some f => exact localFor_fail _ _
  | none => exact localFor_pure _ record

/-- A record ends at a closing bracket. -/
theorem endsFor_reader (shape : Shape σ) : EndsFor (fun _ => True) shape.reader := by
  unfold reader
  refine EndsFor.bind_right _ fun b => .ite shape.endsFor_ofObject (.ite ?_ (endsFor_mismatch _ _ b))
  exact endsFor_fieldsFrom shape.fields 0 shape.empty

/-- What follows the closing bracket of a record makes no difference to it. -/
theorem localFor_reader (h : ∀ f ∈ shape.fields, Local f.read) :
    LocalFor (fun _ => True) shape.reader := by
  unfold reader
  refine LocalFor.bind (localFor_nextToken (fun _ => True) _) (fun b => ?_) fun _ => .inl trivial
  refine .ite (localFor_ofObject h) (.ite ?_ (localFor_mismatch _ _ b))
  exact localFor_fieldsFrom shape.fields h 0 shape.empty

end Shape

/-! ## Whole documents -/

theorem readWhole_eq_ok_iff {x : Reader α} {s : Bytes} {a : α} :
    readWhole x s = .ok a ↔ ∃ p r, s = p ++ r ∧ x.Takes p r a ∧ r.all isBlank := by
  unfold readWhole
  constructor
  · intro h
    split at h
    · cases h
    · next a' r hx =>
      split at h
      · next hr =>
        cases h
        obtain ⟨p, rfl, hp⟩ := takes_of_run hx
        exact ⟨p, r, rfl, hp, hr⟩
      · cases h
  · rintro ⟨p, r, rfl, hp, hr⟩
    unfold Takes at hp
    rw [hp]
    exact if_pos hr

/-- A document may be followed by white space and by nothing else. -/
theorem readWhole_append {x : Reader α} (hx : LocalFor (fun _ => True) x) {s : Bytes} {a : α}
    (h : readWhole x s = .ok a) (t : Bytes) :
    readWhole x (s ++ t) = if t.all isBlank then .ok a else .error .trailingCharacters := by
  obtain ⟨p, r, rfl, hp, hr⟩ := readWhole_eq_ok_iff.1 h
  have hpt : x.run (p ++ (r ++ t)) = .ok (a, r ++ t) := hx hp (r ++ t) (.inr trivial)
  unfold readWhole
  rw [List.append_assoc, hpt]
  simp only [List.all_append, hr, Bool.true_and]

/-- White space after a document is no part of it. -/
theorem readWhole_of_append_blanks {x : Reader α} (hx : LocalFor (fun _ => True) x)
    (hends : EndsFor (fun _ => True) x) {s w : Bytes} {a : α} (hw : w.all isBlank)
    (h : readWhole x (s ++ w) = .ok a) : readWhole x s = .ok a := by
  obtain ⟨p, r, hs, hp, hr⟩ := readWhole_eq_ok_iff.1 h
  obtain ⟨q, c, rfl, hc⟩ := hends hp trivial
  rcases List.append_eq_append_iff.1 hs with ⟨u, hu, rfl⟩ | ⟨u, rfl, rfl⟩
  · -- the last byte of the document would be white space if the document went beyond `s`
    rcases List.eq_nil_or_concat u with rfl | ⟨v, d, rfl⟩
    · rw [List.append_nil] at hu
      rw [← hu]
      exact readWhole_eq_ok_iff.2 ⟨q ++ [c], [], by simp, hx hp [] (.inr trivial), rfl⟩
    · exfalso
      rw [List.concat_eq_append, ← List.append_assoc] at hu
      have hcd : c = d := List.singleton_inj.1 (List.append_inj' hu rfl).2
      have hd : isBlank d := by
        apply List.all_eq_true.1 hw
        simp
      rw [hcd, hd] at hc
      cases hc
  · rw [List.all_append, Bool.and_eq_true] at hr
    exact readWhole_eq_ok_iff.2 ⟨q ++ [c], u, rfl, hx hp u (.inr trivial), hr.1⟩

end InterfaceDocs.Json
