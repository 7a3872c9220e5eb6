import InterfaceDocs.Proofs.Json.Sequence
import InterfaceDocs.Proofs.Json.Taken

/-!
# Which item is read where

What the readers of lists, dictionaries and records take is nested (`Shape.takesNested_reader`), and
nested bytes have only one end.  So a reader that gets through such a value reads each item where the
commas say that it stands: after so many items, each with its comma (`ItemsBefore`), it stands at the
next one (`Enclosure.fold_reaches`, `Shape.ofList_reaches`).  In an object that gives a field twice it
would stand at the second key with the field already there, which is a fault
(`Shape.not_accepts_repeated`).
-/

namespace InterfaceDocs.Json

open Reader Bytes

variable {α β σ : Type}

/-! ## Items between brackets -/

/-- What stands before the next item, or before the end if there is none: nested bytes, and then the
closing byte at the end. -/
def UpToItem (k : Bracket) (p : Bytes) : Bool → Prop
  | true => Nested true p
  | false => EndedBy k.closing (Nested true) p

namespace Enclosure

variable {e : Enclosure} {k : Bracket}

/-- What follows an item: the comma or the closing byte, with white space around it. -/
theorem more_cases {s r : Bytes} {more : Bool} (h : e.more.run s = .ok (more, r)) :
    ∃ w, (∀ b ∈ w, isBlank b) ∧
      ((more = false ∧ s = w ++ e.close :: r) ∨
        (more = true ∧ ∃ t, s = w ++ Ascii.comma :: t ∧ r = t.dropWhile isBlank ∧
          r.head? ≠ some e.close)) := by
  obtain ⟨p, rfl, hp⟩ := takes_of_run h
  obtain ⟨b, p₁, p₂, rfl, h₁, h₂⟩ := takes_bind.1 hp
  obtain ⟨w, hw, rfl⟩ := takes_token h₁
  refine ⟨w, hw, ?_⟩
  split at h₂
  · next hb =>
    obtain ⟨rfl, rfl⟩ := takes_pure.1 h₂
    exact .inl ⟨rfl, by simp [hb]⟩
  · split at h₂
    · next hb =>
      right
      unfold Takes at h₂
      rw [run_bind_of_ok (run_peekToken _)] at h₂
      split at h₂
      · cases h₂
      · next hhead =>
        obtain ⟨rfl, hr⟩ := Prod.mk.inj (Except.ok.inj h₂)
        rw [hr] at hhead
        exact ⟨rfl, p₂ ++ r, by simp [hb], hr.symm, hhead⟩
    · exact absurd h₂ (not_takes_fail _ _ _ _)

theorem takes_more (he : e.close = k.closing) {p r : Bytes} {more : Bool}
    (h : e.more.Takes p r more) : UpToItem k p more := by
  obtain ⟨w, hw, ⟨rfl, hs⟩ | ⟨rfl, t, hs, hr, -⟩⟩ := more_cases h
  · have hp : p ++ r = w ++ [k.closing] ++ r := by rw [hs, he, List.append_assoc, List.singleton_append]
    exact ⟨w, nested_blanks hw, List.append_cancel_right hp⟩
  · have hp : p ++ r = w ++ Ascii.comma :: t.takeWhile isBlank ++ r := by
      rw [hs, List.append_assoc, List.cons_append, hr, List.takeWhile_append_dropWhile]
    have hafter : Nested true (t.takeWhile isBlank) :=
      nested_blanks (List.all_eq_true.1 List.all_takeWhile)
    rw [List.append_cancel_right hp]
    exact (nested_blanks hw).append (.inert (by decide) hafter)

theorem takes_any (he : e.close = k.closing) {p r : Bytes} {more : Bool}
    (h : e.any.Takes p r more) : UpToItem k p more := by
  cases more with
  | false =>
    obtain ⟨w, hw, rfl⟩ := takes_token (takes_any_false.1 h)
    exact ⟨w, nested_blanks hw, by rw [he]⟩
  | true =>
    obtain ⟨b?, w, q, rfl, hpeek, hq⟩ := takes_bind.1 h
    obtain ⟨hw, -⟩ := takes_peekToken hpeek
    cases b? with
    | none => exact absurd hq (not_takes_fail _ _ _ _)
    | some b =>
      dsimp only at hq
      split at hq
      · obtain ⟨_, _, _, -, -, hpure⟩ := takes_bind.1 hq
        exact absurd (takes_pure.1 hpure).2 nofun
      · obtain ⟨rfl, -⟩ := takes_pure.1 hq
        rw [List.append_nil]
        exact nested_blanks hw

/-- Items are read up to the closing byte. -/
theorem takesIn_fold (he : e.close = k.closing) {item : σ → Reader σ}
    (hitem : ∀ a, TakesNested (item a)) (a : σ) :
    TakesIn (EndedBy k.closing (Nested true)) (e.fold item a) := by
  intro p r b h
  obtain ⟨more, p₁, p₂, rfl, hany, hrest⟩ := takes_bind.1 h
  have hfirst := takes_any he hany
  cases more with
  | false =>
    obtain ⟨rfl, -⟩ := takes_pure.1 hrest
    rw [List.append_nil]
    exact hfirst
  | true =>
    refine EndedBy.prepend hfirst ?_
    refine takes_iterate_induction (motive := fun _ p => EndedBy k.closing (Nested true) p) ?_ ?_ hrest
    · intro a p hturn
      obtain ⟨a', q, q', rfl, hq, hturn⟩ := takes_bind.1 hturn
      obtain ⟨more, q₁, q₂, rfl, hmore, hpure⟩ := takes_bind.1 hturn
      have hend := takes_more he hmore
      cases more with
      | false =>
        obtain ⟨rfl, -⟩ := takes_pure.1 hpure
        rw [List.append_nil]
        exact hend.prepend (hitem a hq).commas_allowed
      | true => exact absurd (takes_pure.1 hpure).2 nofun
    · intro a a' p₁ p₂ _ hturn _ hrest
      obtain ⟨a'', q, q', rfl, hq, hturn⟩ := takes_bind.1 hturn
      obtain ⟨more, q₁, q₂, rfl, hmore, hpure⟩ := takes_bind.1 hturn
      have hcomma := takes_more he hmore
      cases more with
      | false => exact absurd (takes_pure.1 hpure).2 nofun
      | true =>
        obtain ⟨rfl, -⟩ := takes_pure.1 hpure
        rw [List.append_nil]
        exact hrest.prepend ((hitem a hq).commas_allowed.append hcomma)

end Enclosure

theorem takesIn_listBody {item : σ → Reader σ} (hitem : ∀ a, TakesNested (item a)) (a : σ) :
    TakesIn (fun p => Nested false (Ascii.openBracket :: p)) (Enclosure.list.fold item a) :=
  fun _ _ _ h => nested_bracketed .list (Enclosure.takesIn_fold rfl hitem a h)

theorem takesIn_objectBody {item : σ → Reader σ} (hitem : ∀ a, TakesNested (item a)) (a : σ) :
    TakesIn (fun p => Nested false (Ascii.openBrace :: p)) (Enclosure.object.fold item a) :=
  fun _ _ _ h => nested_bracketed .object (Enclosure.takesIn_fold rfl hitem a h)

theorem takesNested_pushItem {item : Reader α} (h : TakesNested item) (items : List α) :
    TakesNested (pushItem item items) := h.map fun a => a :: items

theorem takesNested_list {item : Reader α} (h : TakesNested item) : TakesNested (list item) := by
  refine takesNested_token fun b => .ite (fun hb => ?_) fun _ => takesIn_mismatch _ b
  rw [hb]
  exact (takesIn_listBody (takesNested_pushItem h) []).map List.reverse

theorem takesNested_dictionaryEntry (entries : StringMap) : TakesNested (dictionaryEntry entries) :=
  takesNested_key.bind fun _ => takesNested_colon.bind fun _ => takesNested_text.bind fun _ =>
    takesNested_pure _

theorem takesNested_dictionary : TakesNested dictionary := by
  refine takesNested_token fun b => .ite (fun hb => ?_) fun _ => takesIn_mismatch _ b
  rw [hb]
  exact takesIn_objectBody takesNested_dictionaryEntry ∅

/-! ## Records -/

namespace Shape

variable {shape : Shape σ}

theorem takesNested_entry (h : ∀ f ∈ shape.fields, TakesNested f.read) (state : σ × List String) :
    TakesNested (shape.entry state) := by
  refine takesNested_key.bind fun k => ?_
  cases hk : shape.field? k with
  | none => exact takesNested_colon.bind fun _ => takesNested_skip.bind fun _ => takesNested_pure _
  | some f =>
    have hf : TakesNested f.read := h f (List.mem_of_find?_eq_some hk)
    refine .ite (fun _ => takesIn_fail _) fun _ => ?_
    exact takesNested_colon.bind fun _ => hf.bind fun _ => takesNested_pure _

theorem takesIn_ofObject (h : ∀ f ∈ shape.fields, TakesNested f.read) :
    TakesIn (fun p => Nested false (Ascii.openBrace :: p)) shape.ofObject := by
  have hfold := takesIn_objectBody (takesNested_entry h) (shape.empty, [])
  refine hfold.answer fun state => ?_
  obtain ⟨record, present⟩ := state
  dsimp only
  cases shape.missing? present with
  | some f => exact takesIn_fail _
  | none => exact takesIn_pure (S := (· = [])) rfl record

theorem takesIn_closeList : TakesIn (EndedBy Ascii.closeBracket (Nested true)) closeList := by
  intro p r u h
  obtain ⟨b, p₁, p₂, rfl, h₁, h₂⟩ := takes_bind.1 h
  obtain ⟨w, hw, rfl⟩ := takes_token h₁
  split at h₂
  · next hb =>
    obtain ⟨rfl, -⟩ := takes_pure.1 h₂
    exact ⟨w, nested_blanks hw, by rw [hb, List.append_nil]⟩
  · split at h₂
    · obtain ⟨c, p₃, p₄, -, -, hfail⟩ := takes_bind.1 h₂
      split at hfail
      · exact absurd hfail (not_takes_fail _ _ _ _)
      · exact absurd hfail (not_takes_fail _ _ _ _)
    · exact absurd h₂ (not_takes_fail _ _ _ _)

theorem takes_anyAt {index : Nat} {p r : Bytes} {more : Bool} (h : (anyAt index).Takes p r more) :
    UpToItem .list p more := by
  unfold anyAt at h
  split at h
  · exact Enclosure.takes_any (k := .list) rfl h
  · exact Enclosure.takes_more (k := .list) rfl h

theorem takesIn_fieldsFrom {fs : List (RecordField σ)} (hfs : ∀ f ∈ fs, TakesNested f.read)
    (index : Nat) (record : σ) :
    TakesIn (EndedBy Ascii.closeBracket (Nested true)) (shape.fieldsFrom index record fs) := by
  induction fs generalizing index record with
  | nil => exact takesIn_closeList.map fun _ => record
  | cons f fs ih =>
    obtain ⟨hf, hfs⟩ := List.forall_mem_cons.1 hfs
    intro p r a h
    rw [fieldsFrom_cons] at h
    obtain ⟨more, p₁, p₂, rfl, hany, hrest⟩ := takes_bind.1 h
    have hfirst := takes_anyAt hany
    cases more with
    | true =>
      obtain ⟨set, q₁, q₂, rfl, hread, hnext⟩ := takes_bind.1 hrest
      have hend := ih hfs _ _ hnext
      exact (hend.prepend (hf hread).commas_allowed).prepend hfirst
    | false =>
      rw [if_neg nofun] at hrest
      cases hahead : (f :: fs).findIdx? fun g => g.presence ≠ .defaulted with
      | some ahead =>
        rw [hahead] at hrest
        exact absurd hrest (not_takes_fail _ _ _ _)
      | none =>
        rw [hahead] at hrest
        obtain ⟨rfl, -⟩ := takes_pure.1 hrest
        rw [List.append_nil]
        exact hfirst

/-- A record takes nested bytes if its fields do. -/
theorem takesNested_reader (h : ∀ f ∈ shape.fields, TakesNested f.read) : TakesNested shape.reader := by
  refine takesNested_token fun b => .ite (fun hb => ?_) fun _ => .ite (fun hb => ?_) fun _ =>
    takesIn_mismatch _ b
  · rw [hb]
    exact takesIn_ofObject h
  · rw [hb]
    exact fun _ _ _ hp => nested_bracketed .list (takesIn_fieldsFrom h 0 shape.empty hp)

end Shape

/-! ## The place of an item -/

/-- The reader gets through. -/
def Reader.Accepts (x : Reader α) (s : Bytes) : Prop := ∃ a r, x.run s = .ok (a, r)

theorem accepts_bind {x : Reader α} {f : α → Reader β} {s : Bytes} :
    (x >>= f).Accepts s ↔ ∃ a r, x.run s = .ok (a, r) ∧ (f a).Accepts r := by
  constructor
  · rintro ⟨b, t, h⟩
    obtain ⟨a, r, ha, hb⟩ := run_bind_eq_ok_iff.1 h
    exact ⟨a, r, ha, b, t, hb⟩
  · rintro ⟨a, r, ha, b, t, hb⟩
    exact ⟨b, t, run_bind_eq_ok_iff.2 ⟨a, r, ha, hb⟩⟩

theorem accepts_of_bind {x : Reader α} {f : α → Reader β} {s : Bytes} (h : (x >>= f).Accepts s) :
    x.Accepts s := by
  obtain ⟨a, r, ha, -⟩ := accepts_bind.1 h
  exact ⟨a, r, ha⟩

theorem accepts_bind_of_ok {x : Reader α} {f : α → Reader β} {s r : Bytes} {a : α}
    (hx : x.run s = .ok (a, r)) : (x >>= f).Accepts s ↔ (f a).Accepts r := by
  unfold Reader.Accepts
  rw [run_bind_of_ok hx]

/-- So many items, each with the comma behind it.  The items may be anything that is nested. -/
inductive ItemsBefore : Nat → Bytes → Prop
  | nil : ItemsBefore 0 []
  | cons {n : Nat} {v x : Bytes} (hv : Nested false v) (h : ItemsBefore n x) :
      ItemsBefore (n + 1) (v ++ Ascii.comma :: x)

/-- The next byte after white space closes nothing. -/
def NotClosing (s : Bytes) : Prop := ∀ k : Bracket, (s.dropWhile isBlank).head? ≠ some k.closing

theorem dropWhile_stop {v t : Bytes} {b : UInt8} (hb : isBlank b = false) :
    (v ++ b :: t).dropWhile isBlank = v.dropWhile isBlank ++ b :: t := by
  rw [List.dropWhile_append]
  split
  · next hnil =>
    rw [List.isEmpty_iff.1 hnil, List.dropWhile_cons_of_neg (by rw [hb]; decide)]
    rfl
  · rfl

namespace ItemsBefore

variable {n : Nat} {v x t : Bytes}

theorem dropWhile_cons (v x t : Bytes) : (v ++ Ascii.comma :: x ++ t).dropWhile isBlank =
    v.dropWhile isBlank ++ Ascii.comma :: (x ++ t) := by
  rw [List.append_assoc, List.cons_append, dropWhile_stop (by decide)]

theorem notClosing (hx : ItemsBefore n x) (ht : NotClosing t) : NotClosing (x ++ t) := by
  cases hx with
  | nil => exact ht
  | @cons _ v x hv hx =>
    intro k
    rw [dropWhile_cons]
    cases hdrop : v.dropWhile isBlank with
    | nil =>
      show some Ascii.comma ≠ some k.closing
      cases k <;> decide
    | cons b u =>
      intro hhead
      obtain rfl := Option.some.inj hhead
      have hnested := hv.dropWhile_blanks
      rw [hdrop] at hnested
      exact hnested.head_not_stops rfl (k.stops_closing false)

end ItemsBefore

namespace Enclosure

variable {e : Enclosure} {k : Bracket} {item : σ → Reader σ}

/-- What is read behind a nested item is the comma behind it. -/
theorem more_after (he : e.close = k.closing) {p r r' v t : Bytes} {more : Bool}
    (hp : Nested false p) (hmore : e.more.run r = .ok (more, r')) (hv : Nested false v)
    (h : p ++ r = v ++ Ascii.comma :: t) : more = true ∧ r' = t.dropWhile isBlank := by
  obtain ⟨w, hw, ⟨-, rfl⟩ | ⟨rfl, u, rfl, rfl, -⟩⟩ := more_cases hmore
  · exfalso
    rw [← List.append_assoc, he] at h
    obtain rfl := (hp.append (nested_blanks hw)).eq_of_append hv (k.stops_closing false) stops_comma h
    have hcomma : k.closing = Ascii.comma := (List.cons.inj (List.append_cancel_left h)).1
    revert hcomma
    cases k <;> decide
  · rw [← List.append_assoc] at h
    obtain rfl := (hp.append (nested_blanks hw)).eq_of_append hv stops_comma stops_comma h
    obtain rfl := (List.cons.inj (List.append_cancel_left h)).2
    exact ⟨rfl, rfl⟩

/-- Something is read behind the opening bracket if nothing closes it at once. -/
theorem any_notClosing (he : e.close = k.closing) {s r : Bytes} {more : Bool} (hs : NotClosing s)
    (h : e.any.run s = .ok (more, r)) : more = true ∧ r = s.dropWhile isBlank := by
  have hhead := hs k
  unfold any at h
  rw [run_bind_of_ok (run_peekToken _)] at h
  split at h
  · cases h
  · next b hb =>
    rw [← he, hb] at hhead
    rw [if_neg fun hclose => hhead (congrArg _ hclose)] at h
    cases h
    exact ⟨rfl, rfl⟩

/-- The items of an enclosure, from the first one on. -/
abbrev items (e : Enclosure) (item : σ → Reader σ) (a : σ) : Reader σ :=
  iterate (e.itemTurn item) (e.itemTurn_advances item) a

theorem accepts_item {a : σ} {s : Bytes} (h : (e.items item a).Accepts s) : (item a).Accepts s := by
  obtain ⟨b, t, h⟩ := h
  rw [iterate_run] at h
  cases hturn : (e.itemTurn item a).run s with
  | error fault =>
    rw [hturn] at h
    cases h
  | ok p => exact accepts_of_bind ⟨p.1, p.2, hturn⟩

section

variable (he : e.close = k.closing) (hitem : ∀ a, TakesNested (item a))

include he hitem

/-- One item is read up to its comma, and then those behind the comma. -/
theorem items_step {a : σ} {v t : Bytes} (hv : Nested false v)
    (h : (e.items item a).Accepts (v ++ Ascii.comma :: t)) :
    ∃ a' r, (item a).run (v ++ Ascii.comma :: t) = .ok (a', r) ∧
      (e.items item a').Accepts (t.dropWhile isBlank) := by
  obtain ⟨b, s, h⟩ := h
  -- behind the item stands a comma, so its turn is not the last one
  have hturn : ∀ turn r, (e.itemTurn item a).run (v ++ Ascii.comma :: t) = .ok (turn, r) →
      ∃ a' r', (item a).run (v ++ Ascii.comma :: t) = .ok (a', r') ∧ turn = .again a' ∧
        r = t.dropWhile isBlank := by
    intro turn r hturn
    obtain ⟨a', r', ha', hmore⟩ := run_bind_eq_ok_iff.1 hturn
    obtain ⟨more, r'', hmore, hpure⟩ := run_bind_eq_ok_iff.1 hmore
    obtain ⟨p, hp, htakes⟩ := takes_of_run ha'
    obtain ⟨rfl, rfl⟩ := more_after he (hitem a htakes) hmore hv hp.symm
    cases hpure
    exact ⟨a', r', ha', rfl, rfl⟩
  rw [iterate_run] at h
  split at h
  · cases h
  · next b' r hdone =>
    obtain ⟨a', r', ha', hagain, -⟩ := hturn _ _ hdone
    cases hagain
  · next a'' r hagain =>
    obtain ⟨a', r', ha', heq, rfl⟩ := hturn _ _ hagain
    cases heq
    exact ⟨_, r', ha', b, s, h⟩

variable {P : σ → Prop} (hP : ∀ a s a' r, P a → (item a).run s = .ok (a', r) → P a')

include hP

/-- After so many items, the rest is read from behind the last comma on; what each item preserves has
been preserved. -/
theorem items_reach {n : Nat} {x t : Bytes} (hx : ItemsBefore n x) {a : σ} (ha : P a)
    (h : (e.items item a).Accepts ((x ++ t).dropWhile isBlank)) :
    ∃ a', P a' ∧ (e.items item a').Accepts (t.dropWhile isBlank) := by
  induction hx generalizing a with
  | nil => exact ⟨a, ha, h⟩
  | cons hv hx ih =>
    rw [ItemsBefore.dropWhile_cons] at h
    obtain ⟨a', r, ha', hrest⟩ := items_step he hitem hv.dropWhile_blanks h
    exact ih (hP _ _ _ _ ha ha') hrest

/-- Behind the opening bracket, and after so many items. -/
theorem fold_reaches {n : Nat} {x t : Bytes} (hx : ItemsBefore n x) (ht : NotClosing t) {a : σ}
    (ha : P a) (h : (e.fold item a).Accepts (x ++ t)) :
    ∃ a', P a' ∧ (e.items item a').Accepts (t.dropWhile isBlank) := by
  obtain ⟨more, r, hany, hrest⟩ := accepts_bind.1 h
  obtain ⟨rfl, rfl⟩ := any_notClosing he (hx.notClosing ht) hany
  exact items_reach he hitem hP hx ha hrest

end

end Enclosure

/-- The item of a list that stands behind so many others. -/
theorem list_reaches {item : Reader α} (hitem : TakesNested item) {n : Nat} {x t : Bytes}
    (hx : ItemsBefore n x) (ht : NotClosing t)
    (h : (Enclosure.list.fold (pushItem item) []).Accepts (x ++ t)) :
    item.Accepts (t.dropWhile isBlank) := by
  obtain ⟨items, -, hitems⟩ := Enclosure.fold_reaches (k := .list) (P := fun _ => True) rfl
    (takesNested_pushItem hitem) (fun _ _ _ _ _ _ => trivial) hx ht trivial h
  exact accepts_of_bind (Enclosure.accepts_item hitems)

/-! ## Keys and brackets in the bytes -/

/-- One byte with white space before it. -/
def IsToken (b : UInt8) (p : Bytes) : Prop := ∃ w, IsBlanks w ∧ p = ofChars w ++ [b]

/-- A string that stands for the name, with white space before it. -/
def IsKeyFor (name : String) (p : Bytes) : Prop :=
  ∃ w cs, IsBlanks w ∧ SpellsText name cs ∧ p = ofChars w ++ ofChars cs

theorem IsToken.dropWhile {b : UInt8} {p : Bytes} (h : IsToken b p) (hb : isBlank b = false)
    (s : Bytes) : (p ++ s).dropWhile isBlank = b :: s := by
  obtain ⟨w, hw, rfl⟩ := h
  rw [List.append_assoc, Json.dropWhile_blanks hw]
  exact List.dropWhile_cons_of_neg (by rw [hb]; decide)

theorem IsToken.nextToken {b : UInt8} {p : Bytes} (h : IsToken b p) (hb : isBlank b = false)
    (fault : Fault) (s : Bytes) : (nextToken fault).run (p ++ s) = .ok (b, s) := by
  rw [run_nextToken, h.dropWhile hb, run_next_cons]

theorem IsToken.notClosing {k : Bracket} {p : Bytes} (h : IsToken k.opening p) (s : Bytes) :
    NotClosing (p ++ s) := by
  intro l
  have hk : isBlank k.opening = false := by cases k <;> rfl
  rw [h.dropWhile hk]
  intro hhead
  exact (l.stops_closing true).ne_opening k (Option.some.inj hhead).symm

namespace IsKeyFor

variable {name : String} {p : Bytes}

theorem key_run (h : IsKeyFor name p) (s : Bytes) : key.run (p ++ s) = .ok (name, s) := by
  obtain ⟨w, cs, hw, hcs, rfl⟩ := h
  rw [List.append_assoc]
  exact Json.key_run hcs hw s

theorem key_run_dropWhile (h : IsKeyFor name p) (s : Bytes) :
    key.run ((p ++ s).dropWhile isBlank) = .ok (name, s) := by
  obtain ⟨w, cs, hw, hcs, rfl⟩ := h
  rw [List.append_assoc, Json.dropWhile_blanks hw, (startsToken_spellsText hcs).dropWhile]
  exact Json.key_run hcs isBlanks_nil s

theorem nested (h : IsKeyFor name p) : Nested false p := takesNested_key (h.key_run [])

theorem notClosing (h : IsKeyFor name p) (s : Bytes) : NotClosing (p ++ s) := by
  obtain ⟨w, cs, hw, ⟨-⟩, rfl⟩ := h
  intro k
  rw [List.append_assoc, Json.dropWhile_blanks hw, ofChars_quoted,
    List.dropWhile_cons_of_neg (by decide)]
  intro hhead
  exact (k.stops_closing true).ne_quote (Option.some.inj hhead).symm

end IsKeyFor

/-! ## The place of a field -/

namespace Shape

variable {shape : Shape σ} {name : String} {f : RecordField σ}

theorem accepts_object {p s : Bytes} (hp : IsToken Ascii.openBrace p) :
    shape.reader.Accepts (p ++ s) ↔ shape.ofObject.Accepts s := by
  unfold reader
  rw [accepts_bind_of_ok (hp.nextToken (by decide) _ _), if_pos rfl]

theorem accepts_list {p s : Bytes} (hp : IsToken Ascii.openBracket p) :
    shape.reader.Accepts (p ++ s) ↔ shape.ofList.Accepts s := by
  unfold reader
  rw [accepts_bind_of_ok (hp.nextToken (by decide) _ _), if_neg (by decide), if_pos rfl]

/-- White space before a record makes no difference. -/
theorem reader_accepts_dropWhile {s : Bytes} :
    shape.reader.Accepts (s.dropWhile isBlank) ↔ shape.reader.Accepts s := by
  have hrun : shape.reader.run (s.dropWhile isBlank) = shape.reader.run s := by
    unfold reader
    rw [run_bind, run_bind, run_nextToken, run_nextToken, List.dropWhile_idempotent]
  unfold Reader.Accepts
  rw [hrun]

/-- An entry whose key names a field of the shape: the field has not been there, and is now. -/
theorem entry_run_field (hf : shape.field? name = some f) {state state' : σ × List String}
    {s t r : Bytes} (hkey : key.run s = .ok (name, t))
    (h : (shape.entry state).run s = .ok (state', r)) :
    f.name ∉ state.2 ∧ f.name ∈ state'.2 ∧ (colon >>= fun _ => f.read).Accepts t := by
  unfold entry at h
  rw [run_bind_of_ok hkey, hf] at h
  dsimp only at h
  split at h
  · cases h
  · next hnew =>
    obtain ⟨u, t', hcolon, h⟩ := run_bind_eq_ok_iff.1 h
    obtain ⟨set, t'', hset, h⟩ := run_bind_eq_ok_iff.1 h
    cases h
    exact ⟨hnew, List.mem_cons_self, accepts_bind.2 ⟨u, t', hcolon, set, _, hset⟩⟩

/-- Fields that have been there stay there. -/
theorem mem_of_entry_run {state state' : σ × List String} {s r : Bytes} {k : String}
    (hk : k ∈ state.2) (h : (shape.entry state).run s = .ok (state', r)) : k ∈ state'.2 := by
  unfold entry at h
  obtain ⟨k', t, -, h⟩ := run_bind_eq_ok_iff.1 h
  cases hf : shape.field? k' with
  | none =>
    rw [hf] at h
    obtain ⟨_, _, -, h⟩ := run_bind_eq_ok_iff.1 h
    obtain ⟨_, _, -, h⟩ := run_bind_eq_ok_iff.1 h
    cases h
    exact hk
  | some f =>
    rw [hf] at h
    dsimp only at h
    split at h
    · cases h
    · obtain ⟨_, _, -, h⟩ := run_bind_eq_ok_iff.1 h
      obtain ⟨_, _, -, h⟩ := run_bind_eq_ok_iff.1 h
      cases h
      exact List.mem_cons_of_mem _ hk

section

variable (hfields : ∀ f ∈ shape.fields, TakesNested f.read)

include hfields

/-- The field of an object whose key stands behind so many entries. -/
theorem ofObject_reaches {n : Nat} {x q s : Bytes} (hx : ItemsBefore n x)
    (hq : IsKeyFor name q) (hf : shape.field? name = some f)
    (h : shape.ofObject.Accepts (x ++ (q ++ s))) : (colon >>= fun _ => f.read).Accepts s := by
  obtain ⟨state, -, hitems⟩ := Enclosure.fold_reaches (k := .object) (P := fun _ => True) rfl
    (takesNested_entry hfields) (fun _ _ _ _ _ _ => trivial) hx (hq.notClosing s) trivial
    (accepts_of_bind h)
  obtain ⟨state', r, hentry⟩ := Enclosure.accepts_item hitems
  exact (entry_run_field hf (hq.key_run_dropWhile s) hentry).2.2

/-- **An object that gives a field twice is never read**, whatever stands before the second key and
whatever follows it. -/
theorem not_accepts_repeated {k₁ k₂ : String} (h₁ : shape.field? k₁ = some f)
    (h₂ : shape.field? k₂ = some f) {m n : Nat} {x q₁ v y q₂ rest : Bytes} (hx : ItemsBefore m x)
    (hq₁ : IsKeyFor k₁ q₁) (hv : Nested false v) (hy : ItemsBefore n y) (hq₂ : IsKeyFor k₂ q₂) :
    ¬shape.ofObject.Accepts (x ++ (q₁ ++ (v ++ Ascii.comma :: (y ++ (q₂ ++ rest))))) := by
  intro h
  have hentries := takesNested_entry hfields
  obtain ⟨state, -, hitems⟩ := Enclosure.fold_reaches (k := .object) (P := fun _ => True) rfl
    hentries (fun _ _ _ _ _ _ => trivial) hx (hq₁.notClosing _) trivial (accepts_of_bind h)
  -- the entry of the first key ends at the comma, and then the field is there
  have hsplit : (q₁ ++ (v ++ Ascii.comma :: (y ++ (q₂ ++ rest)))).dropWhile isBlank =
      (q₁ ++ v).dropWhile isBlank ++ Ascii.comma :: (y ++ (q₂ ++ rest)) := by
    rw [← List.append_assoc, dropWhile_stop (by decide)]
  have hkey₁ := hq₁.key_run_dropWhile (v ++ Ascii.comma :: (y ++ (q₂ ++ rest)))
  rw [hsplit] at hitems hkey₁
  obtain ⟨state₁, r₁, hentry₁, hitems₁⟩ := Enclosure.items_step (k := .object) rfl hentries
    (hq₁.nested.append hv).dropWhile_blanks hitems
  have hpresent := (entry_run_field h₁ hkey₁ hentry₁).2.1
  -- it is still there at the second key
  obtain ⟨state₂, hstill, hitems₂⟩ := Enclosure.items_reach (k := .object)
    (P := fun state : σ × List String => f.name ∈ state.2) rfl hentries
    (fun _ _ _ _ hk => mem_of_entry_run hk) hy hpresent hitems₁
  obtain ⟨state₃, r₃, hentry₂⟩ := Enclosure.accepts_item hitems₂
  exact (entry_run_field h₂ (hq₂.key_run_dropWhile rest) hentry₂).1 hstill

end

/-- From the field of a list that is next on, the one behind so many others. -/
theorem fieldsFrom_reaches {n : Nat} {x t : Bytes} (hx : ItemsBefore n x)
    {g : RecordField σ} {fs : List (RecordField σ)} (hfs : ∀ f ∈ g :: fs, TakesNested f.read)
    (hf : (g :: fs)[n]? = some f) {index : Nat} {record : σ}
    (h : (g.read >>= fun set => shape.fieldsFrom (index + 1) (set record) fs).Accepts
      ((x ++ t).dropWhile isBlank)) : f.read.Accepts (t.dropWhile isBlank) := by
  induction hx generalizing g fs index record with
  | nil =>
    obtain rfl := Option.some.inj hf
    exact accepts_of_bind h
  | cons hv hx ih =>
    obtain ⟨hg, hrest⟩ := List.forall_mem_cons.1 hfs
    cases fs with
    | nil => cases hf
    | cons g' fs =>
      rw [ItemsBefore.dropWhile_cons] at h
      obtain ⟨set, r, hread, h⟩ := accepts_bind.1 h
      obtain ⟨p, hp, htakes⟩ := takes_of_run hread
      rw [fieldsFrom_cons] at h
      obtain ⟨more, r', hmore, h⟩ := accepts_bind.1 h
      obtain ⟨rfl, rfl⟩ := Enclosure.more_after (k := .list) rfl (hg htakes) hmore
        hv.dropWhile_blanks hp.symm
      exact ih hrest hf h

/-- The field of a list that stands behind so many others. -/
theorem ofList_reaches (hfields : ∀ f ∈ shape.fields, TakesNested f.read) {n : Nat} {x t : Bytes}
    (hx : ItemsBefore n x) (ht : NotClosing t) (hf : shape.fields[n]? = some f)
    (h : shape.ofList.Accepts (x ++ t)) : f.read.Accepts (t.dropWhile isBlank) := by
  unfold ofList at h
  cases hfs : shape.fields with
  | nil =>
    rw [hfs] at hf
    cases hf
  | cons g fs =>
    rw [hfs] at h hf hfields
    rw [fieldsFrom_cons] at h
    obtain ⟨more, r, hany, h⟩ := accepts_bind.1 h
    obtain ⟨rfl, rfl⟩ := Enclosure.any_notClosing (k := .list) rfl (hx.notClosing ht) hany
    exact fieldsFrom_reaches hx hfields hf h

end Shape

end InterfaceDocs.Json
