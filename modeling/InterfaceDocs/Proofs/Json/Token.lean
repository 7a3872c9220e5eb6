import InterfaceDocs.Proofs.Text.Utf8
import InterfaceDocs.Proofs.Json.Grammar
import InterfaceDocs.Json.Sequence

/-!
# Tokens and the white space around them

What a reader has to do with characters that spell a value: take them off, with the white space
before them, and leave what follows (`Reads`).  What follows is `Delimited`: a number has no other
end than the byte after it.
-/

namespace InterfaceDocs

namespace Bytes

theorem utf8EncodeChar_ascii {c : Char} (h : c.toNat < 0x80) :
    String.utf8EncodeChar c = [c.toUInt8] := by
  have hc : c.val.toNat ≤ 0x7f := Nat.le_of_lt_succ h
  unfold String.utf8EncodeChar
  rw [if_pos hc]
  rfl

theorem ofChars_ascii {c : Char} (h : c.toNat < 0x80) (cs : List Char) :
    ofChars (c :: cs) = c.toUInt8 :: ofChars cs := by
  rw [ofChars_cons, utf8EncodeChar_ascii h]
  rfl

theorem ofChars_comma (cs : List Char) : ofChars (',' :: cs) = Ascii.comma :: ofChars cs := by
  rw [ofChars_ascii (by decide)]
  rfl

end Bytes

namespace Json

open Reader Bytes

/-! ## White space -/

theorem isBlank_of_isBlanks {cs : List Char} (h : IsBlanks cs) : ∀ b ∈ ofChars cs, isBlank b := by
  induction cs with
  | nil => simp
  | cons c cs ih =>
    have hcs : IsBlanks cs := fun d hd => h d (List.mem_cons_of_mem c hd)
    intro b hb
    rcases h c List.mem_cons_self with rfl | rfl | rfl | rfl
    all_goals
      rw [ofChars_ascii (by decide), List.mem_cons] at hb
      rcases hb with rfl | hb
      · decide
      · exact ih hcs b hb

theorem dropWhile_blanks {cs : List Char} (h : IsBlanks cs) (s : Bytes) :
    (ofChars cs ++ s).dropWhile isBlank = s.dropWhile isBlank :=
  List.dropWhile_append_of_pos (isBlank_of_isBlanks h)

theorem isBlanks_nil : IsBlanks [] := fun _ h => absurd h List.not_mem_nil

@[simp] theorem run_peekToken (s : Bytes) :
    peekToken.run s = .ok ((s.dropWhile isBlank).head?, s.dropWhile isBlank) := rfl

theorem run_nextToken (fault : Fault) (s : Bytes) :
    (nextToken fault).run s = (next fault).run (s.dropWhile isBlank) := rfl

/-- The next byte after white space, if it is no white space itself. -/
theorem nextToken_blanks {cs : List Char} (h : IsBlanks cs) {b : UInt8} (hb : isBlank b = false)
    (fault : Fault) (s : Bytes) : (nextToken fault).run (ofChars cs ++ b :: s) = .ok (b, s) := by
  rw [run_nextToken, dropWhile_blanks h, List.dropWhile_cons_of_neg (by rw [hb]; decide),
    run_next_cons]

/-! ## The start of a value -/

/-- A byte that starts a value or a key: no white space, and no end of a list or an object. -/
structure IsStart (b : UInt8) : Prop where
  not_blank : isBlank b = false
  ne_closeBracket : b ≠ Ascii.closeBracket
  ne_closeBrace : b ≠ Ascii.closeBrace

instance (b : UInt8) : Decidable (IsStart b) :=
  decidable_of_iff (isBlank b = false ∧ b ≠ Ascii.closeBracket ∧ b ≠ Ascii.closeBrace)
    ⟨fun ⟨h₁, h₂, h₃⟩ => ⟨h₁, h₂, h₃⟩, fun ⟨h₁, h₂, h₃⟩ => ⟨h₁, h₂, h₃⟩⟩

def StartsToken (cs : List Char) : Prop := ∃ b s, ofChars cs = b :: s ∧ IsStart b

namespace StartsToken

theorem of_ascii {c : Char} (h : c.toNat < 0x80) (hb : IsStart c.toUInt8) (cs : List Char) :
    StartsToken (c :: cs) := ⟨c.toUInt8, ofChars cs, ofChars_ascii h cs, hb⟩

theorem append {cs : List Char} (h : StartsToken cs) (ds : List Char) : StartsToken (cs ++ ds) := by
  obtain ⟨b, s, hs, hb⟩ := h
  exact ⟨b, s ++ ofChars ds, by rw [ofChars_append, hs]; rfl, hb⟩

theorem dropWhile {cs : List Char} (h : StartsToken cs) (s : Bytes) :
    (ofChars cs ++ s).dropWhile isBlank = ofChars cs ++ s := by
  obtain ⟨b, t, hs, hb⟩ := h
  rw [hs, List.cons_append, List.dropWhile_cons_of_neg (by rw [hb.not_blank]; decide)]

end StartsToken

theorem EntryText.ofChars_text (e : EntryText) (s : Bytes) :
    ofChars e.text ++ s = ofChars e.key ++ (ofChars e.beforeColon ++
      Ascii.colon :: (ofChars e.afterColon ++ (ofChars e.value ++ s))) := by
  unfold EntryText.text
  rw [ofChars_append, ofChars_append, ofChars_ascii (by decide), ofChars_append, List.append_assoc,
    List.append_assoc, List.cons_append, List.append_assoc]
  rfl

/-- An item and what stands around it. -/
theorem ofChars_item (before v after rest : List Char) (s : Bytes) :
    ofChars (before ++ (v ++ (after ++ rest))) ++ s =
      ofChars before ++ (ofChars v ++ (ofChars after ++ (ofChars rest ++ s))) := by
  rw [ofChars_append, ofChars_append, ofChars_append, List.append_assoc, List.append_assoc,
    List.append_assoc]

/-! ## The end of a value -/

/-- Nothing follows, or white space, or a byte that ends an item. -/
def Delimited (s : Bytes) : Prop :=
  ∀ b, s.head? = some b →
    isBlank b ∨ b = Ascii.comma ∨ b = Ascii.closeBracket ∨ b = Ascii.closeBrace

theorem delimited_nil : Delimited [] := fun _ h => by cases h

theorem delimited_cons {b : UInt8}
    (h : b = Ascii.comma ∨ b = Ascii.closeBracket ∨ b = Ascii.closeBrace) (s : Bytes) :
    Delimited (b :: s) := by
  intro c hc
  cases hc
  exact .inr h

theorem delimited_blanks {cs : List Char} (h : IsBlanks cs) {s : Bytes} (hs : Delimited s) :
    Delimited (ofChars cs ++ s) := by
  intro b hb
  cases hc : ofChars cs with
  | nil =>
    rw [hc] at hb
    exact hs b hb
  | cons c t =>
    rw [hc] at hb
    have hcb : c = b := Option.some.inj hb
    refine .inl (isBlank_of_isBlanks h b ?_)
    rw [hc, hcb]
    exact List.mem_cons_self

/-! ## Readers of values -/

variable {α β : Type}

/-- The reader takes the characters for the value, wherever they stand. -/
def Reads (x : Reader α) (cs : List Char) (a : α) : Prop :=
  ∀ before s, IsBlanks before → Delimited s →
    x.run (ofChars before ++ (ofChars cs ++ s)) = .ok (a, s)

namespace Reads

theorem run {x : Reader α} {cs : List Char} {a : α} (h : Reads x cs a) {s : Bytes}
    (hs : Delimited s) : x.run (ofChars cs ++ s) = .ok (a, s) := h [] s isBlanks_nil hs

theorem map {x : Reader α} {cs : List Char} {a : α} (h : Reads x cs a) (f : α → β) :
    Reads (f <$> x) cs (f a) := by
  intro before s hb hs
  show (x >>= fun a => pure (f a)).run _ = _
  rw [run_bind_of_ok (h before s hb hs), run_pure]

/-- A document is a value with white space around it. -/
theorem readWhole_eq {x : Reader α} {cs before after : List Char} {a : α} (h : Reads x cs a)
    (hb : IsBlanks before) (ha : IsBlanks after) :
    readWhole x (ofChars (before ++ (cs ++ after))) = .ok a := by
  have hd : Delimited (ofChars after) := by
    rw [← List.append_nil (ofChars after)]
    exact delimited_blanks ha delimited_nil
  rw [ofChars_append, ofChars_append]
  unfold readWhole
  rw [h before _ hb hd]
  dsimp only
  rw [if_pos]
  exact List.all_eq_true.2 (isBlank_of_isBlanks ha)

end Reads

end Json

end InterfaceDocs
