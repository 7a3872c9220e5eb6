import Mathlib.Data.List.DropRight
import InterfaceDocs.Proofs.Json.Text
import InterfaceDocs.Proofs.Json.Number

/-!
# Any value can be skipped

`skip` takes every value of the grammar off the front, whatever its kind and however deeply it is
nested (`skip_reads`).  The induction is on the value, under any brackets that are open already;
`close` is what is left to do after it.
-/

namespace InterfaceDocs.Json

open Reader Bytes

/-! ## The start of a value -/

theorem startsToken_text {cs : List Char} (h : IsText cs) : StartsToken cs := by
  obtain ⟨-⟩ := h
  exact StartsToken.of_ascii (by decide) (by decide) _

theorem startsNumber_isStart {b : UInt8} (h : startsNumber b) :
    IsStart b ∧ b ≠ Ascii.letter 'n' ∧ b ≠ Ascii.letter 't' ∧ b ≠ Ascii.letter 'f' := by
  refine ⟨⟨?_, ?_, ?_⟩, ?_, ?_, ?_⟩
  · cases hb : isBlank b with
    | false => rfl
    | true =>
      simp only [isBlank, Bool.or_eq_true, decide_eq_true_eq, or_assoc] at hb
      rcases hb with rfl | rfl | rfl | rfl <;> exact absurd h (by decide)
  all_goals
    rintro rfl
    exact absurd h (by decide)

theorem startsToken_bracketed {opening closing : Char} {vs : List (List Char)} {cs : List Char}
    (h : Bracketed opening closing vs cs) (ho : opening.toNat < 0x80)
    (hs : IsStart opening.toUInt8) : StartsToken cs := by
  cases h with
  | empty => exact StartsToken.of_ascii ho hs _
  | items => exact StartsToken.of_ascii ho hs _

theorem startsToken_value {v : List Char} (h : IsValue v) : StartsToken v := by
  cases h with
  | null => exact StartsToken.of_ascii (by decide) (by decide) _
  | true => exact StartsToken.of_ascii (by decide) (by decide) _
  | false => exact StartsToken.of_ascii (by decide) (by decide) _
  | number h =>
    obtain ⟨b, r, hbr, hb, -⟩ := numeral_run h
    exact ⟨b, r, hbr, (startsNumber_isStart hb).1⟩
  | text h => exact startsToken_text h
  | list h => exact startsToken_bracketed h (by decide) (by decide)
  | object h => exact startsToken_bracketed h (by decide) (by decide)

/-! ## What is left to do -/

/-- What follows a turn. -/
def resume : Turn (List Bracket) Unit → Reader Unit
  | .done () => pure ()
  | .again outer => iterate skipTurn skipTurn_advances outer

/-- Takes a value and all that follows in the brackets that are open. -/
def skipIn (outer : List Bracket) : Reader Unit := iterate skipTurn skipTurn_advances outer

theorem skipIn_eq (outer : List Bracket) : skipIn outer = skipTurn outer >>= resume := by
  ext s
  rw [skipIn, iterate_run, run_bind]
  cases (skipTurn outer).run s with
  | error fault => rfl
  | ok p =>
    obtain ⟨turn, r⟩ := p
    cases turn <;> rfl

/-- White space before a value makes no difference. -/
theorem skipIn_dropWhile (outer : List Bracket) (s : Bytes) :
    (skipIn outer).run (s.dropWhile isBlank) = (skipIn outer).run s := by
  rw [skipIn_eq]
  unfold skipTurn
  rw [bind_assoc, run_bind, run_bind, run_nextToken, run_nextToken, List.dropWhile_idempotent]

/-- Takes what follows a value in the brackets that are open. -/
def close (outer : List Bracket) : Reader Unit := afterValue outer >>= resume

theorem skipIn_run {b : UInt8} (hb : isBlank b = false) {before : List Char}
    (h : IsBlanks before) (outer : List Bracket) (s : Bytes) :
    (skipIn outer).run (ofChars before ++ b :: s) = (skipFrom outer b >>= resume).run s := by
  rw [skipIn_eq]
  unfold skipTurn
  rw [bind_assoc, run_bind_of_ok (nextToken_blanks h hb _ s)]

/-! ## Items -/

/-- Runs through the items up to the closing bracket: `item` stands for what is done from the start
of an item, `after` for what is done from its end. -/
theorem Items.run_eq {ρ : Type} {closing : Char} {vs : List (List Char)} {cs : List Char}
    (h : Items closing vs cs) {item after : Bytes → ρ} {s : Bytes} {result : ρ}
    (hd : Delimited (ofChars [closing] ++ s))
    (hv : ∀ v ∈ vs, ∀ before t, IsBlanks before → Delimited t →
      item (ofChars before ++ (ofChars v ++ t)) = after t)
    (hcomma : ∀ b t, IsBlanks b → after (ofChars b ++ Ascii.comma :: t) = item t)
    (hclose : ∀ b, IsBlanks b → after (ofChars b ++ (ofChars [closing] ++ s)) = result) :
    item (ofChars cs ++ s) = result := by
  induction h with
  | @last v a b ha hb =>
    rw [ofChars_item, hv v List.mem_cons_self a _ ha (delimited_blanks hb hd), hclose b hb]
  | @more v a b vs cs ha hb _ ih =>
    have hc : Delimited (Ascii.comma :: (ofChars cs ++ s)) := delimited_cons (.inl rfl) _
    rw [ofChars_item, ofChars_comma, List.cons_append,
      hv v List.mem_cons_self a _ ha (delimited_blanks hb hc), hcomma b _ hb]
    exact ih fun w hw => hv w (List.mem_cons_of_mem v hw)

/-- The first item is where white space ends. -/
theorem Items.dropWhile {closing : Char} {vs : List (List Char)} {cs : List Char}
    (h : Items closing vs cs) (hv : ∀ v ∈ vs, StartsToken v) (s : Bytes) :
    ∃ b r, (ofChars cs ++ s).dropWhile isBlank = b :: r ∧ IsStart b := by
  have hfirst : ∃ v a t, StartsToken v ∧ IsBlanks a ∧ cs = a ++ (v ++ t) := by
    cases h with
    | @last v a b ha _ => exact ⟨v, a, _, hv v List.mem_cons_self, ha, rfl⟩
    | @more v a b vs rest ha _ _ => exact ⟨v, a, _, hv v List.mem_cons_self, ha, rfl⟩
  obtain ⟨v, a, t, hs, ha, rfl⟩ := hfirst
  rw [ofChars_append, List.append_assoc, dropWhile_blanks ha]
  have hvt := hs.append t
  rw [hvt.dropWhile]
  obtain ⟨b, r, hbr, hb⟩ := hvt
  exact ⟨b, r ++ s, by rw [hbr]; rfl, hb⟩

/-! ## Parts of values -/

theorem word_run (bs s : Bytes) : (word bs).run (bs ++ s) = .ok ((), s) := by
  induction bs with
  | nil => rfl
  | cons b bs ih =>
    rw [List.cons_append]
    unfold word
    rw [run_bind_of_ok (run_next_cons _ _ _), if_pos rfl, ih]

/-- A key and its colon, with white space around each. -/
theorem skipKey_run {k before between : List Char} (h : IsText k) (hb : IsBlanks before)
    (hc : IsBlanks between) (s : Bytes) :
    skipKey.run (ofChars before ++ (ofChars k ++ (ofChars between ++ Ascii.colon :: s))) =
      .ok ((), s) := by
  obtain ⟨hbody⟩ := h
  rename_i body
  unfold skipKey
  rw [ofChars_quoted, run_bind_of_ok (nextToken_blanks hb (by decide) _ _), if_pos rfl,
    run_bind_of_ok (skipText_run hbody _)]
  exact run_bind_of_ok (nextToken_blanks hc (by decide) _ s)

/-! ## Inside of brackets -/

namespace Bracket

/-- The byte that ends the items. -/
def closing : Bracket → UInt8
  | list => Ascii.closeBracket
  | object => Ascii.closeBrace

/-- Takes an item, and all that follows in the brackets that are open. -/
def itemIn (outer : List Bracket) : Bracket → Reader Unit
  | list => skipIn (list :: outer)
  | object => do
    skipKey
    skipIn (object :: outer)

/-- Takes what follows the opening bracket. -/
def openedIn (outer : List Bracket) : Bracket → Reader Unit
  | list => afterOpenBracket outer >>= resume
  | object => afterOpenBrace outer >>= resume

variable (outer : List Bracket) (k : Bracket)

theorem close_comma {b : List Char} (hb : IsBlanks b) (s : Bytes) :
    (close (k :: outer)).run (ofChars b ++ Ascii.comma :: s) = (k.itemIn outer).run s := by
  cases k with
  | list =>
    unfold close afterValue
    rw [bind_assoc, run_bind_of_ok (nextToken_blanks hb (by decide) _ s)]
    rfl
  | object =>
    unfold close afterValue
    rw [bind_assoc, run_bind_of_ok (nextToken_blanks hb (by decide) _ s)]
    show (skipKey >>= (fun _ => pure (.again (object :: outer))) >>= resume).run s = _
    rw [bind_assoc]
    rfl

theorem close_end {b : List Char} (hb : IsBlanks b) (s : Bytes) :
    (close (k :: outer)).run (ofChars b ++ k.closing :: s) = (close outer).run s := by
  unfold close closing
  cases k with
  | list =>
    rw [afterValue, bind_assoc, run_bind_of_ok (nextToken_blanks hb (by decide) _ s)]
    rfl
  | object =>
    rw [afterValue, bind_assoc, run_bind_of_ok (nextToken_blanks hb (by decide) _ s)]
    rfl

theorem openedIn_end {b : List Char} (hb : IsBlanks b) (s : Bytes) :
    (k.openedIn outer).run (ofChars b ++ k.closing :: s) = (close outer).run s := by
  unfold openedIn closing
  cases k with
  | list =>
    unfold afterOpenBracket
    rw [bind_assoc, run_bind_of_ok (run_peekToken _), dropWhile_blanks hb]
    rfl
  | object =>
    unfold afterOpenBrace
    rw [bind_assoc, run_bind_of_ok (run_peekToken _), dropWhile_blanks hb]
    rfl

/-- White space before an item makes no difference. -/
theorem itemIn_dropWhile (s : Bytes) :
    (k.itemIn outer).run (s.dropWhile isBlank) = (k.itemIn outer).run s := by
  cases k with
  | list => exact skipIn_dropWhile _ s
  | object =>
    unfold itemIn skipKey
    rw [bind_assoc, run_bind, run_bind, run_nextToken, run_nextToken, List.dropWhile_idempotent]

theorem openedIn_items {s r : Bytes} {b : UInt8} (hs : s.dropWhile isBlank = b :: r)
    (hb : IsStart b) : (k.openedIn outer).run s = (k.itemIn outer).run s := by
  rw [← itemIn_dropWhile]
  unfold openedIn
  cases k with
  | list =>
    unfold afterOpenBracket
    rw [bind_assoc, run_bind_of_ok (run_peekToken s), hs, List.head?_cons]
    dsimp only
    rw [if_neg hb.ne_closeBracket]
    rfl
  | object =>
    unfold afterOpenBrace
    rw [bind_assoc, run_bind_of_ok (run_peekToken s), hs, List.head?_cons]
    dsimp only
    rw [if_neg hb.ne_closeBrace]
    show (skipKey >>= (fun _ => pure (.again (object :: outer))) >>= resume).run _ = _
    rw [bind_assoc]
    rfl

/-- Takes all that is between the brackets, if every item can be taken. -/
theorem openedIn_run {opening closing : Char} {vs : List (List Char)} {cs : List Char}
    (h : Bracketed opening closing vs cs) (ho : opening.toNat < 0x80)
    (hk : ∀ s, ofChars [closing] ++ s = k.closing :: s)
    (hs : ∀ v ∈ vs, StartsToken v)
    (hv : ∀ v ∈ vs, ∀ before t, IsBlanks before → Delimited t →
      (k.itemIn outer).run (ofChars before ++ (ofChars v ++ t)) = (close (k :: outer)).run t)
    (s : Bytes) :
    ∃ r, ofChars cs ++ s = opening.toUInt8 :: r ∧
      (k.openedIn outer).run r = (close outer).run s := by
  cases h with
  | @empty a ha =>
    refine ⟨ofChars a ++ k.closing :: s, ?_, k.openedIn_end outer ha s⟩
    rw [ofChars_ascii ho, ofChars_append, List.cons_append, List.append_assoc, hk]
  | @items vs rest h =>
    refine ⟨ofChars rest ++ s, by rw [ofChars_ascii ho, List.cons_append], ?_⟩
    obtain ⟨b, r, hbr, hb⟩ := h.dropWhile hs s
    rw [k.openedIn_items outer hbr hb]
    have hd : Delimited (ofChars [closing] ++ s) := by
      rw [hk]
      cases k with
      | list => exact delimited_cons (.inr (.inl rfl)) s
      | object => exact delimited_cons (.inr (.inr rfl)) s
    refine h.run_eq hd hv (fun b t hb => k.close_comma outer hb t) fun b hb => ?_
    rw [hk]
    exact k.close_end outer hb s

end Bracket

/-! ## Values -/

theorem skipFrom_number {b : UInt8} (h : startsNumber b) (outer : List Bracket) {s r : Bytes}
    {n : Numeral} (hn : (numeral .invalidNumber b).run s = .ok (n, r)) :
    (skipFrom outer b >>= resume).run s = (close outer).run r := by
  obtain ⟨-, hnull, htrue, hfalse⟩ := startsNumber_isStart h
  unfold skipFrom
  rw [if_neg hnull, if_neg htrue, if_neg hfalse, if_pos h, bind_assoc, run_bind_of_ok hn]
  rfl

/-- An entry is taken off if its value is. -/
theorem Bracket.object_itemIn_entry {outer : List Bracket} {e : EntryText} (hk : IsText e.key)
    (hs : e.IsSpaced) {before : List Char} (hb : IsBlanks before) {t : Bytes}
    {x : Except Fault (Unit × Bytes)}
    (hv : ∀ before, IsBlanks before →
      (skipIn (.object :: outer)).run (ofChars before ++ (ofChars e.value ++ t)) = x) :
    (Bracket.object.itemIn outer).run (ofChars before ++ (ofChars e.text ++ t)) = x := by
  unfold Bracket.itemIn
  rw [e.ofChars_text]
  show (skipKey >>= fun _ => skipIn (.object :: outer)).run _ = x
  rw [run_bind_of_ok (skipKey_run hk hb hs.1 _)]
  exact hv e.afterColon hs.2

/-- A value is taken off inside of any brackets. -/
theorem skipIn_value {v : List Char} (h : IsValue v) (outer : List Bracket) (before : List Char)
    (s : Bytes) (hb : IsBlanks before) (hs : Delimited s) :
    (skipIn outer).run (ofChars before ++ (ofChars v ++ s)) = (close outer).run s := by
  -- the first byte decides the turn; a list or an object goes on with one more bracket open
  induction h generalizing outer before s with
  | null =>
    show (skipIn outer).run (ofChars before ++ Ascii.letter 'n' :: _) = _
    rw [skipIn_run (by decide) hb]
    unfold skipFrom
    rw [if_pos rfl, bind_assoc]
    exact run_bind_of_ok (word_run _ s)
  | true =>
    show (skipIn outer).run (ofChars before ++ Ascii.letter 't' :: _) = _
    rw [skipIn_run (by decide) hb]
    unfold skipFrom
    rw [if_neg (by decide), if_pos rfl, bind_assoc]
    exact run_bind_of_ok (word_run _ s)
  | false =>
    show (skipIn outer).run (ofChars before ++ Ascii.letter 'f' :: _) = _
    rw [skipIn_run (by decide) hb]
    unfold skipFrom
    rw [if_neg (by decide), if_neg (by decide), if_pos rfl, bind_assoc]
    exact run_bind_of_ok (word_run _ s)
  | number h =>
    obtain ⟨b, r, hbr, hstart, hrun⟩ := numeral_run h
    obtain ⟨n, hn⟩ := hrun .invalidNumber s hs
    rw [hbr, List.cons_append, skipIn_run (startsNumber_isStart hstart).1.not_blank hb]
    exact skipFrom_number hstart outer hn
  | text h =>
    obtain ⟨hbody⟩ := h
    rw [ofChars_quoted, skipIn_run (by decide) hb]
    unfold skipFrom
    rw [if_neg (by decide), if_neg (by decide), if_neg (by decide), if_neg (by decide), if_pos rfl,
      bind_assoc]
    exact run_bind_of_ok (skipText_run hbody s)
  | list h hv ih =>
    obtain ⟨r, hr, hrun⟩ := Bracket.list.openedIn_run outer h (by decide) (fun _ => rfl)
      (fun v hm => startsToken_value (hv v hm)) (fun v hm => ih v hm _) s
    rw [hr, skipIn_run (by decide) hb]
    exact hrun
  | @object es cs h hk hv ih =>
    have hstart : ∀ v ∈ es.map EntryText.text, StartsToken v := by
      intro v hm
      obtain ⟨e, he, rfl⟩ := List.mem_map.1 hm
      exact (startsToken_text (hk e he).2).append _
    have hitem : ∀ v ∈ es.map EntryText.text, ∀ before t, IsBlanks before → Delimited t →
        (Bracket.object.itemIn outer).run (ofChars before ++ (ofChars v ++ t)) =
          (close (.object :: outer)).run t := by
      intro v hm before t hb ht
      obtain ⟨e, he, rfl⟩ := List.mem_map.1 hm
      obtain ⟨hspaced, hkey⟩ := hk e he
      exact Bracket.object_itemIn_entry hkey hspaced hb fun a ha => ih e he _ a t ha ht
    obtain ⟨r, hr, hrun⟩ :=
      Bracket.object.openedIn_run outer h (by decide) (fun _ => rfl) hstart hitem s
    rw [hr, skipIn_run (by decide) hb]
    exact hrun

theorem skip_reads {v : List Char} (h : IsValue v) : Reads skip v () :=
  fun before s hb hs => skipIn_value h [] before s hb hs

end InterfaceDocs.Json
