import InterfaceDocs.Proofs.Json.Skip

/-!
# Strings, lists and dictionaries are read as they are meant

A sequence of items between brackets takes a state through its items (`Folds`), whatever white space
stands around them (`fold_run`).  Lists and dictionaries are such sequences.
-/

namespace InterfaceDocs.Json

open Reader Bytes

/-! ## Strings -/

theorem startsToken_spellsText {t : String} {cs : List Char} (h : SpellsText t cs) :
    StartsToken cs := by
  obtain ⟨-⟩ := h
  exact StartsToken.of_ascii (by decide) (by decide) _

theorem text_reads {t : String} {cs : List Char} (h : SpellsText t cs) : Reads text cs t := by
  obtain ⟨hbody⟩ := h
  intro before s hb _
  unfold text
  rw [ofChars_quoted, run_bind_of_ok (nextToken_blanks hb (by decide) _ _), if_pos rfl,
    textBody_run hbody s]

theorem optionalText_reads {t : String} {cs : List Char} (h : SpellsText t cs) :
    Reads optionalText cs (some t) := by
  obtain ⟨hbody⟩ := h
  intro before s hb _
  unfold optionalText
  rw [ofChars_quoted, run_bind_of_ok (nextToken_blanks hb (by decide) _ _), if_neg (by decide),
    if_pos rfl, run_bind_of_ok (textBody_run hbody s), run_pure]

theorem optionalText_reads_null : Reads optionalText ['n', 'u', 'l', 'l'] none := by
  intro before s hb _
  unfold optionalText
  show (nextToken _ >>= _).run (ofChars before ++ Ascii.letter 'n' :: _) = _
  rw [run_bind_of_ok (nextToken_blanks hb (by decide) _ _), if_pos rfl]
  exact run_bind_of_ok (word_run _ s)

/-- The key of an entry, which needs no delimiter. -/
theorem key_run {k : String} {cs before : List Char} (h : SpellsText k cs) (hb : IsBlanks before)
    (s : Bytes) : key.run (ofChars before ++ (ofChars cs ++ s)) = .ok (k, s) := by
  obtain ⟨hbody⟩ := h
  unfold key
  rw [ofChars_quoted, run_bind_of_ok (nextToken_blanks hb (by decide) _ _), if_pos rfl,
    textBody_run hbody s]

theorem colon_run {before : List Char} (hb : IsBlanks before) (s : Bytes) :
    colon.run (ofChars before ++ Ascii.colon :: s) = .ok ((), s) :=
  run_bind_of_ok (nextToken_blanks hb (by decide) _ s)

/-! ## Items -/

variable {σ : Type}

/-- The items take the state from the first one to the second, one item after the other. -/
inductive Folds (item : σ → Reader σ) : List (List Char) → σ → σ → Prop
  | nil {a : σ} : Folds item [] a a
  | cons {v : List Char} {vs : List (List Char)} {a b c : σ} (hs : StartsToken v)
      (h : Reads (item a) v b) (ht : Folds item vs b c) : Folds item (v :: vs) a c

theorem Folds.startsToken {item : σ → Reader σ} {vs : List (List Char)} {a b : σ}
    (h : Folds item vs a b) : ∀ v ∈ vs, StartsToken v := by
  induction h with
  | nil => simp
  | cons hs _ _ ih => exact List.forall_mem_cons.2 ⟨hs, ih⟩

namespace Enclosure

/-- The enclosure ends at the byte of the character, which is a closing bracket. -/
structure ClosesAt (e : Enclosure) (closing : Char) : Prop where
  ofChars_eq : ∀ s, ofChars [closing] ++ s = e.close :: s
  isEnd : e.close = Ascii.closeBracket ∨ e.close = Ascii.closeBrace

theorem list_closesAt : list.ClosesAt ']' := ⟨fun _ => rfl, .inl rfl⟩

theorem object_closesAt : object.ClosesAt '\x7d' := ⟨fun _ => rfl, .inr rfl⟩

variable {e : Enclosure} {closing : Char}

namespace ClosesAt

theorem ne_of_isStart (h : e.ClosesAt closing) {b : UInt8} (hb : IsStart b) : b ≠ e.close := by
  rcases h.isEnd with he | he
  · rw [he]; exact hb.ne_closeBracket
  · rw [he]; exact hb.ne_closeBrace

theorem not_blank (h : e.ClosesAt closing) : isBlank e.close = false := by
  rcases h.isEnd with he | he
  · rw [he]; rfl
  · rw [he]; rfl

theorem ne_comma (h : e.ClosesAt closing) : Ascii.comma ≠ e.close := by
  rcases h.isEnd with he | he
  · rw [he]; decide
  · rw [he]; decide

end ClosesAt

theorem more_end (h : e.ClosesAt closing) {b : List Char} (hb : IsBlanks b) (s : Bytes) :
    e.more.run (ofChars b ++ (ofChars [closing] ++ s)) = .ok (false, s) := by
  unfold more
  rw [h.ofChars_eq, run_bind_of_ok (nextToken_blanks hb h.not_blank _ s), if_pos rfl, run_pure]

theorem more_comma (h : e.ClosesAt closing) {b : List Char} (hb : IsBlanks b) {s r : Bytes}
    {c : UInt8} (hs : s.dropWhile isBlank = c :: r) (hc : IsStart c) :
    e.more.run (ofChars b ++ Ascii.comma :: s) = .ok (true, s.dropWhile isBlank) := by
  unfold more
  rw [run_bind_of_ok (nextToken_blanks hb (by decide) _ s), if_neg h.ne_comma, if_pos rfl,
    run_bind_of_ok (run_peekToken s), hs, List.head?_cons,
    if_neg fun he => h.ne_of_isStart hc (Option.some.inj he), run_pure]

/-- From the first item on, with no white space before it. -/
theorem iterate_run_items (h : e.ClosesAt closing) {item : σ → Reader σ} {vs : List (List Char)}
    {cs : List Char} (hi : Items closing vs cs) {a c : σ} (hf : Folds item vs a c) (s : Bytes) :
    (iterate (e.itemTurn item) (e.itemTurn_advances item) a).run
      ((ofChars cs ++ s).dropWhile isBlank) = .ok (c, s) := by
  -- a comma is taken together with the white space after it, so no turn sees any before its item
  induction hi generalizing a with
  | @last v x b hx hb =>
    cases hf with
    | cons hs hv ht =>
      cases ht
      have hd : Delimited (ofChars b ++ (ofChars [closing] ++ s)) := by
        refine delimited_blanks hb ?_
        rw [h.ofChars_eq]
        exact delimited_cons (.inr h.isEnd) s
      have hturn : (e.itemTurn item a).run (ofChars v ++ (ofChars b ++ (ofChars [closing] ++ s))) =
          .ok (.done c, s) := by
        unfold itemTurn
        rw [run_bind_of_ok (hv.run hd), run_bind_of_ok (more_end h hb s)]
        rfl
      rw [ofChars_item, dropWhile_blanks hx, hs.dropWhile]
      exact iterate_run_done hturn _
  | @more v x b vs cs hx hb hrest ih =>
    cases hf with
    | @cons _ _ _ a' _ hs hv ht =>
      obtain ⟨d, r, hdr, hd⟩ := hrest.dropWhile ht.startsToken s
      have hc : Delimited (ofChars b ++ Ascii.comma :: (ofChars cs ++ s)) :=
        delimited_blanks hb (delimited_cons (.inl rfl) _)
      have hturn : (e.itemTurn item a).run
          (ofChars v ++ (ofChars b ++ Ascii.comma :: (ofChars cs ++ s))) =
            .ok (.again a', (ofChars cs ++ s).dropWhile isBlank) := by
        unfold itemTurn
        rw [run_bind_of_ok (hv.run hc), run_bind_of_ok (more_comma h hb hdr hd)]
        rfl
      rw [ofChars_item, ofChars_comma, List.cons_append, dropWhile_blanks hx, hs.dropWhile,
        iterate_run_again hturn]
      exact ih ht

/-- All items, after the opening bracket. -/
theorem fold_run (h : e.ClosesAt closing) {opening : Char} (ho : opening.toNat < 0x80)
    {item : σ → Reader σ} {vs : List (List Char)} {cs : List Char}
    (hi : Bracketed opening closing vs cs) {a c : σ} (hf : Folds item vs a c) (s : Bytes) :
    ∃ r, ofChars cs ++ s = opening.toUInt8 :: r ∧ (e.fold item a).run r = .ok (c, s) := by
  unfold fold any
  cases hi with
  | @empty x hx =>
    cases hf
    refine ⟨ofChars x ++ (ofChars [closing] ++ s), ?_, ?_⟩
    · rw [ofChars_ascii ho, ofChars_append, List.cons_append, List.append_assoc]
    · rw [bind_assoc, run_bind_of_ok (run_peekToken _), dropWhile_blanks hx, h.ofChars_eq,
        List.dropWhile_cons_of_neg (by rw [h.not_blank]; decide), List.head?_cons]
      dsimp only
      rw [if_pos rfl]
      rfl
  | @items vs cs hi =>
    obtain ⟨b, r, hbr, hb⟩ := hi.dropWhile hf.startsToken s
    refine ⟨ofChars cs ++ s, by rw [ofChars_ascii ho, List.cons_append], ?_⟩
    have hrun := iterate_run_items h hi hf s
    rw [bind_assoc, run_bind_of_ok (run_peekToken _), hbr, List.head?_cons]
    rw [hbr] at hrun
    dsimp only
    rw [if_neg (h.ne_of_isStart hb)]
    exact hrun

end Enclosure

/-! ## Lists -/

variable {α : Type} {spells : α → List Char → Prop} {item : Reader α}

theorem pushItem_folds {as : List α} {vs : List (List Char)}
    (h : List.Forall₂ (fun a v => StartsToken v ∧ Reads item v a) as vs) (acc : List α) :
    Folds (pushItem item) vs acc (as.reverse ++ acc) := by
  induction h generalizing acc with
  | nil => exact .nil
  | @cons a v as vs hv _ ih =>
    rw [List.reverse_cons, List.append_assoc]
    exact .cons hv.1 (hv.2.map fun a => a :: acc) (ih (a :: acc))

theorem list_reads (hitem : ∀ a v, spells a v → StartsToken v ∧ Reads item v a) {as : List α}
    {cs : List Char} (h : SpellsList spells as cs) : Reads (list item) cs as := by
  obtain ⟨vs, hb, hvs⟩ := h
  intro before s hbefore _
  have hf := pushItem_folds (hvs.imp fun a v => hitem a v) []
  obtain ⟨r, hr, hrun⟩ := Enclosure.fold_run Enclosure.list_closesAt (by decide) hb hf s
  unfold list
  rw [hr, run_bind_of_ok (nextToken_blanks hbefore (by decide) _ _), if_pos (by decide),
    run_bind_of_ok hrun, run_pure, List.append_nil, List.reverse_reverse]

/-! ## Objects -/

theorem dictionaryEntry_reads {m : StringMap} {k t : String} {e : EntryText}
    (hk : SpellsText k e.key) (hs : e.IsSpaced) (ht : SpellsText t e.value) :
    Reads (dictionaryEntry m) e.text (m.insert k t) := by
  intro before s hb hd
  unfold dictionaryEntry
  rw [e.ofChars_text, run_bind_of_ok (key_run hk hb _), run_bind_of_ok (colon_run hs.1 _),
    run_bind_of_ok (text_reads ht e.afterColon s hs.2 hd), run_pure]

/-- The map has the entries so far, and no others. -/
def HasEntries (m : StringMap) (es : List (String × EntryText)) (x : StringMap) : Prop :=
  ∀ k, x[k]? = if k ∈ es.map Prod.fst then m[k]? else none

theorem HasEntries.insert {m x : StringMap} {es : List (String × EntryText)}
    (h : HasEntries m es x) {e : String × EntryText} {t : String} (ht : m[e.1]? = some t) :
    HasEntries m (es ++ [e]) (x.insert e.1 t) := by
  intro k
  rw [Std.ExtTreeMap.getElem?_insert, h k]
  by_cases hk : k = e.1
  · rw [hk, if_pos Std.ReflCmp.compare_self, if_pos (by simp), ht]
  · have hne : ¬compare e.1 k = .eq := fun he => hk (Std.LawfulEqCmp.eq_of_compare he).symm
    have hmem : k ∈ (es ++ [e]).map Prod.fst ↔ k ∈ es.map Prod.fst := by simp [hk]
    rw [if_neg hne, if_congr hmem rfl rfl]

theorem dictionaryEntry_folds {m : StringMap} {es todo : List (String × EntryText)} {x : StringMap}
    (hs : ∀ e ∈ todo, e.2.IsSpaced ∧ SpellsText e.1 e.2.key)
    (hv : ∀ e ∈ todo, ∃ t, m[e.1]? = some t ∧ SpellsText t e.2.value) (hx : HasEntries m es x) :
    ∃ y, Folds dictionaryEntry (todo.map fun e => e.2.text) x y ∧ HasEntries m (es ++ todo) y := by
  induction todo generalizing es x with
  | nil => exact ⟨x, .nil, by rwa [List.append_nil]⟩
  | cons e todo ih =>
    obtain ⟨hspaced, hk⟩ := hs e List.mem_cons_self
    obtain ⟨t, ht, hspells⟩ := hv e List.mem_cons_self
    obtain ⟨y, hy, hm⟩ := ih (fun d hd => hs d (List.mem_cons_of_mem e hd))
      (fun d hd => hv d (List.mem_cons_of_mem e hd)) (hx.insert ht)
    refine ⟨y, .cons ((startsToken_spellsText hk).append _)
      (dictionaryEntry_reads hk hspaced hspells) hy, ?_⟩
    rwa [List.append_assoc] at hm

theorem dictionary_reads {m : StringMap} {cs : List Char} (h : SpellsMap m cs) :
    Reads dictionary cs m := by
  obtain ⟨es, hes, hv, hall⟩ := h
  intro before s hbefore _
  have hempty : HasEntries m [] ∅ := fun k => Std.ExtTreeMap.getElem?_empty
  obtain ⟨y, hf, hy⟩ :=
    dictionaryEntry_folds (fun e he => ⟨hes.spaced e he, hes.keys e he⟩) hv hempty
  have hym : y = m := by
    apply Std.ExtTreeMap.ext_getElem?
    intro k
    rw [hy k, List.nil_append]
    by_cases hk : k ∈ es.map Prod.fst
    · rw [if_pos hk]
    · rw [if_neg hk, Std.ExtTreeMap.getElem?_eq_none fun hm => hk (hall k hm)]
  obtain ⟨r, hr, hrun⟩ :=
    Enclosure.fold_run Enclosure.object_closesAt (by decide) hes.bracketed hf s
  unfold dictionary
  rw [hr, run_bind_of_ok (nextToken_blanks hbefore (by decide) _ _), if_pos (by decide), hrun, hym]

end InterfaceDocs.Json
