import InterfaceDocs.Proofs.Json.Skip

/-!
# Quotes and brackets in the bytes

Bytes are `Nested` if every quote and every bracket that is opened in them is closed again; nothing
else is asked of them.  Such a stretch has only one end: up to a closing bracket, or up to a comma
outside of all brackets, two of them are the same (`Nested.eq_of_append`).  So where the items of a
list or an object stand can be told from the bytes alone, whether or not they can be read.
-/

namespace InterfaceDocs.Json

open Reader

variable {commas : Bool}

/-! ## Between quotes -/

/-- The bytes of a string between its quotes: a byte behind a backslash ends nothing. -/
inductive InQuotes : Bytes → Prop
  | nil : InQuotes []
  | plain {b : UInt8} {p : Bytes} (hq : b ≠ Ascii.quote) (hb : b ≠ Ascii.backslash)
      (h : InQuotes p) : InQuotes (b :: p)
  | escaped {b : UInt8} {p : Bytes} (h : InQuotes p) : InQuotes (Ascii.backslash :: b :: p)

namespace InQuotes

theorem append {p q : Bytes} (hp : InQuotes p) (hq : InQuotes q) : InQuotes (p ++ q) := by
  induction hp with
  | nil => exact hq
  | plain hne hb _ ih => exact .plain hne hb ih
  | escaped _ ih => exact .escaped ih

/-- The first quote that is not escaped ends the string. -/
theorem eq_of_append {p q t u : Bytes} (hp : InQuotes p) (hq : InQuotes q)
    (h : p ++ Ascii.quote :: t = q ++ Ascii.quote :: u) : p = q := by
  induction hp generalizing q with
  | nil =>
    cases hq with
    | nil => rfl
    | plain hne => exact absurd (List.cons.inj h).1.symm hne
    | escaped => exact absurd (List.cons.inj h).1 (by decide)
  | plain hne hb _ ih =>
    cases hq with
    | nil => exact absurd (List.cons.inj h).1 hne
    | plain _ _ hq =>
      obtain ⟨rfl, hrest⟩ := List.cons.inj h
      rw [ih hq hrest]
    | escaped => exact absurd (List.cons.inj h).1 hb
  | escaped _ ih =>
    cases hq with
    | nil => exact absurd (List.cons.inj h).1 (by decide)
    | plain _ hb => exact absurd (List.cons.inj h).1.symm hb
    | escaped hq =>
      obtain ⟨rfl, hrest⟩ := List.cons.inj (List.cons.inj h).2
      rw [ih hq hrest]

end InQuotes

/-! ## Nested bytes -/

/-- The byte that opens a bracket. -/
def Bracket.opening : Bracket → UInt8
  | list => Ascii.openBracket
  | object => Ascii.openBrace

/-- The bytes that open or close something. -/
def marks : List UInt8 :=
  [Ascii.quote, Ascii.openBracket, Ascii.closeBracket, Ascii.openBrace, Ascii.closeBrace]

/-- A byte that opens and closes nothing; a comma only where commas may stand. -/
def IsInert (commas : Bool) (b : UInt8) : Prop := b ∉ marks ∧ (b = Ascii.comma → commas = true)

instance (commas : Bool) (b : UInt8) : Decidable (IsInert commas b) :=
  inferInstanceAs (Decidable (_ ∧ _))

/-- Bytes in which all quotes and brackets that are opened are closed again.  Between brackets commas
may stand; `commas` tells whether they may stand outside of all brackets too. -/
inductive Nested : Bool → Bytes → Prop
  | nil {commas : Bool} : Nested commas []
  | inert {commas : Bool} {b : UInt8} {p : Bytes} (hb : IsInert commas b) (h : Nested commas p) :
      Nested commas (b :: p)
  | quoted {commas : Bool} {q p : Bytes} (hq : InQuotes q) (h : Nested commas p) :
      Nested commas (Ascii.quote :: (q ++ Ascii.quote :: p))
  | bracketed {commas : Bool} (k : Bracket) {x p : Bytes} (hx : Nested true x)
      (h : Nested commas p) : Nested commas (k.opening :: (x ++ k.closing :: p))

/-- A byte at which nested bytes end: a closing bracket, or a comma where none may stand. -/
def Stops (commas : Bool) (b : UInt8) : Prop :=
  b = Ascii.closeBracket ∨ b = Ascii.closeBrace ∨ (b = Ascii.comma ∧ commas = false)

theorem quote_mem_marks : Ascii.quote ∈ marks := by decide

namespace Bracket

theorem opening_mem_marks (k : Bracket) : k.opening ∈ marks := by cases k <;> decide

theorem opening_ne_quote (k : Bracket) : k.opening ≠ Ascii.quote := by cases k <;> decide

theorem opening_inj {k l : Bracket} (h : k.opening = l.opening) : k = l := by
  cases k <;> cases l <;> first | rfl | exact absurd h (by decide)

theorem stops_closing (k : Bracket) (commas : Bool) : Stops commas k.closing := by
  cases k with
  | list => exact .inl rfl
  | object => exact .inr (.inl rfl)

end Bracket

theorem stops_comma : Stops false Ascii.comma := .inr (.inr ⟨rfl, rfl⟩)

namespace Stops

variable {b : UInt8}

theorem not_isInert (h : Stops commas b) : ¬IsInert commas b := by
  rintro ⟨hmark, hcomma⟩
  rcases h with rfl | rfl | ⟨rfl, rfl⟩
  · exact hmark (by decide)
  · exact hmark (by decide)
  · exact absurd (hcomma rfl) nofun

theorem ne_quote (h : Stops commas b) : b ≠ Ascii.quote := by
  rcases h with rfl | rfl | ⟨rfl, -⟩ <;> decide

theorem ne_opening (h : Stops commas b) (k : Bracket) : b ≠ k.opening := by
  rcases h with rfl | rfl | ⟨rfl, -⟩ <;> cases k <;> decide

end Stops

/-- A class of bytes without the comma, the quote and the brackets. -/
theorem isInert_of_class {c : UInt8 → Bool} (h : (Ascii.comma :: marks).all (!c ·)) {b : UInt8}
    (hb : c b) : IsInert commas b := by
  have hnot : b ∉ Ascii.comma :: marks := by
    intro hmem
    have hb' := List.all_eq_true.1 h b hmem
    rw [hb] at hb'
    cases hb'
  rw [List.mem_cons, not_or] at hnot
  exact ⟨hnot.2, fun hcomma => absurd hcomma hnot.1⟩

theorem isInert_of_isBlank {b : UInt8} (h : isBlank b) : IsInert commas b :=
  isInert_of_class (by decide) h

theorem isInert_of_isDigit {b : UInt8} (h : Ascii.isDigit b) : IsInert commas b :=
  isInert_of_class (by decide) h

theorem isInert_of_startsNumber {b : UInt8} (h : startsNumber b) : IsInert commas b :=
  isInert_of_class (by decide) h

theorem nested_of_forall {p : Bytes} (h : ∀ b ∈ p, IsInert commas b) : Nested commas p := by
  induction p with
  | nil => exact .nil
  | cons b p ih =>
    obtain ⟨hb, hp⟩ := List.forall_mem_cons.1 h
    exact .inert hb (ih hp)

theorem nested_of_all {p : Bytes} (h : p.all (IsInert commas ·)) : Nested commas p :=
  nested_of_forall fun b hb => of_decide_eq_true (List.all_eq_true.1 h b hb)

theorem nested_blanks {w : Bytes} (h : ∀ b ∈ w, isBlank b) : Nested commas w :=
  nested_of_forall fun b hb => isInert_of_isBlank (h b hb)

namespace Nested

theorem append {p q : Bytes} (hp : Nested commas p) (hq : Nested commas q) :
    Nested commas (p ++ q) := by
  induction hp with
  | nil => exact hq
  | inert hb _ ih => exact .inert hb (ih hq)
  | quoted ht _ ih =>
    rw [List.cons_append, List.append_assoc]
    exact .quoted ht (ih hq)
  | bracketed k hx _ _ ih =>
    rw [List.cons_append, List.append_assoc]
    exact .bracketed k hx (ih hq)

theorem commas_allowed {p : Bytes} (h : Nested false p) : Nested true p := by
  generalize hc : false = c at h
  induction h with
  | nil => exact .nil
  | inert hb _ ih => exact .inert ⟨hb.1, fun _ => rfl⟩ (ih hc)
  | quoted hq _ ih => exact .quoted hq (ih hc)
  | bracketed k hx _ _ ih => exact .bracketed k hx (ih hc)

/-- Nested bytes do not start with a byte at which they would end. -/
theorem head_not_stops {p : Bytes} (h : Nested commas p) {b : UInt8} (hb : p.head? = some b) :
    ¬Stops commas b := by
  intro hstop
  cases h with
  | nil => cases hb
  | inert hinert =>
    cases hb
    exact hstop.not_isInert hinert
  | quoted =>
    cases hb
    exact hstop.ne_quote rfl
  | bracketed k =>
    cases hb
    exact hstop.ne_opening k rfl

/-- **Nested bytes have only one end.** -/
theorem eq_of_append {x y t u : Bytes} {a b : UInt8} (hx : Nested commas x) (hy : Nested commas y)
    (ha : Stops commas a) (hb : Stops commas b) (h : x ++ a :: t = y ++ b :: u) : x = y := by
  induction hx generalizing y t u a b with
  | nil =>
    cases y with
    | nil => rfl
    | cons c y =>
      obtain ⟨rfl, -⟩ := List.cons.inj h
      exact absurd ha (hy.head_not_stops rfl)
  | @inert _ c x hc hx ih =>
    cases hy with
    | nil =>
      obtain ⟨rfl, -⟩ := List.cons.inj h
      exact absurd hc hb.not_isInert
    | inert _ hy =>
      obtain ⟨rfl, hrest⟩ := List.cons.inj h
      rw [ih hy ha hb hrest]
    | quoted =>
      obtain ⟨rfl, -⟩ := List.cons.inj h
      exact absurd quote_mem_marks hc.1
    | bracketed k =>
      obtain ⟨rfl, -⟩ := List.cons.inj h
      exact absurd k.opening_mem_marks hc.1
  | @quoted _ q x hq hx ih =>
    cases hy with
    | nil => exact absurd (List.cons.inj h).1.symm hb.ne_quote
    | inert hc =>
      obtain ⟨rfl, -⟩ := List.cons.inj h
      exact absurd quote_mem_marks hc.1
    | @quoted _ q' y hq' hy =>
      have hrest : q ++ Ascii.quote :: (x ++ a :: t) = q' ++ Ascii.quote :: (y ++ b :: u) := by
        simpa using h
      obtain rfl := hq.eq_of_append hq' hrest
      rw [ih hy ha hb (List.cons.inj (List.append_cancel_left hrest)).2]
    | bracketed k => exact absurd (List.cons.inj h).1.symm k.opening_ne_quote
  | @bracketed _ k z x hz hx ihz ih =>
    cases hy with
    | nil => exact absurd (List.cons.inj h).1.symm (hb.ne_opening k)
    | inert hc =>
      obtain ⟨rfl, -⟩ := List.cons.inj h
      exact absurd k.opening_mem_marks hc.1
    | quoted => exact absurd (List.cons.inj h).1 k.opening_ne_quote
    | @bracketed _ l z' y hz' hy =>
      obtain rfl := Bracket.opening_inj (List.cons.inj h).1
      have hrest : z ++ k.closing :: (x ++ a :: t) = z' ++ k.closing :: (y ++ b :: u) := by
        simpa using h
      obtain rfl := ihz hz' (k.stops_closing true) (k.stops_closing true) hrest
      rw [ih hy ha hb (List.cons.inj (List.append_cancel_left hrest)).2]

/-- White space in front is no part of the structure. -/
theorem dropWhile_blanks {p : Bytes} (h : Nested commas p) : Nested commas (p.dropWhile isBlank) := by
  induction h with
  | nil => exact .nil
  | @inert _ b p hb hp ih =>
    rw [List.dropWhile_cons]
    split
    · exact ih
    · exact .inert hb hp
  | quoted hq hp =>
    rw [List.dropWhile_cons_of_neg (by decide)]
    exact .quoted hq hp
  | bracketed k hx hp =>
    have hk : isBlank k.opening = false := by cases k <;> rfl
    rw [List.dropWhile_cons_of_neg (by rw [hk]; decide)]
    exact .bracketed k hx hp

end Nested

end InterfaceDocs.Json
