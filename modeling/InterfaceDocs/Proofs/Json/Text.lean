import InterfaceDocs.Proofs.Json.Token

/-!
# Strings are read as they are meant

Every spelling of a text is read as that text, whichever escapes it uses, and what stands after the
closing quote is left (`textBody_run`).  A string that nobody asks for is passed over even if its
escapes make no text (`skipText_run`).
-/

namespace InterfaceDocs.Json

open Reader Bytes

theorem ofChars_escape (c : Char) (h : c.toNat < 0x80) (cs : List Char) :
    ofChars ('\\' :: c :: cs) = Ascii.backslash :: c.toUInt8 :: ofChars cs := by
  rw [ofChars_ascii (by decide), ofChars_ascii h]
  rfl

theorem ofChars_quoted (body : List Char) (s : Bytes) :
    ofChars ('"' :: (body ++ ['"'])) ++ s = Ascii.quote :: (ofChars body ++ Ascii.quote :: s) := by
  rw [ofChars_ascii (by decide), ofChars_append, ofChars_ascii (by decide), ofChars_nil,
    List.cons_append, List.append_assoc]
  rfl

/-! ## Escapes by number -/

theorem hexValue_of_spellsDigit {n : Nat} {c : Char} (h : SpellsDigit n c) :
    c.toNat < 0x80 ∧ Ascii.hexValue? c.toUInt8 = some n := by
  obtain ⟨hn, hc⟩ := h
  have hall : ∀ n < 16, ((Nat.digitChar n).toNat < 0x80 ∧
      Ascii.hexValue? (Nat.digitChar n).toUInt8 = some n) ∧
      ((Nat.digitChar n).toUpper.toNat < 0x80 ∧
      Ascii.hexValue? (Nat.digitChar n).toUpper.toUInt8 = some n) := by
    decide +kernel
  rcases hc with rfl | rfl
  · exact (hall n hn).1
  · exact (hall n hn).2

theorem fourHexDigits_run {n : Nat} {ds : List Char} (h : SpellsNumber n ds) (s : Bytes) :
    fourHexDigits.run (ofChars ds ++ s) = .ok (n, s) := by
  obtain ⟨ha, hb, hc, hd⟩ := h
  rename_i k l m n a b c d
  obtain ⟨ha, hk⟩ := hexValue_of_spellsDigit ha
  obtain ⟨hb, hl⟩ := hexValue_of_spellsDigit hb
  obtain ⟨hc, hm⟩ := hexValue_of_spellsDigit hc
  obtain ⟨hd, hn⟩ := hexValue_of_spellsDigit hd
  have hnumber : hexNumber? a.toUInt8 b.toUInt8 c.toUInt8 d.toUInt8 =
      some (((k * 16 + l) * 16 + m) * 16 + n) := by
    simp [hexNumber?, hk, hl, hm, hn]
  rw [ofChars_ascii ha, ofChars_ascii hb, ofChars_ascii hc, ofChars_ascii hd]
  unfold fourHexDigits nextInText
  simp only [ofChars_nil, List.cons_append, List.nil_append, run_bind, run_next_cons, hnumber]
  rfl

theorem codePoint_run {c : Char} {ds : List Char} (h : SpellsNumber c.toNat ds) (s : Bytes) :
    codePoint.run (ofChars ds ++ s) = .ok (c.toNat, s) := by
  have hc : c.toNat < 0xd800 ∨ 0xdfff < c.toNat := by
    rcases c.valid with hv | hv
    · exact .inl hv
    · exact .inr hv.1
  have hlow : isLowSurrogate c.toNat = false := by
    simp only [isLowSurrogate, Bool.and_eq_false_iff, decide_eq_false_iff_not]
    omega
  have hhigh : isHighSurrogate c.toNat = false := by
    simp only [isHighSurrogate, Bool.and_eq_false_iff, decide_eq_false_iff_not]
    omega
  unfold codePoint
  rw [run_bind_of_ok (fourHexDigits_run h s), hlow, hhigh]
  rfl

theorem codePoint_run_pair {high low : Nat} {hs ls : List Char} (hh : SpellsNumber high hs)
    (hl : SpellsNumber low ls) (hhigh : 0xd800 ≤ high ∧ high ≤ 0xdbff)
    (hlow : 0xdc00 ≤ low ∧ low ≤ 0xdfff) (s : Bytes) :
    codePoint.run (ofChars (hs ++ '\\' :: 'u' :: ls) ++ s) =
      .ok (pairedSurrogates high low, s) := by
  have hnot : isLowSurrogate high = false := by
    simp only [isLowSurrogate, Bool.and_eq_false_iff, decide_eq_false_iff_not]
    omega
  have hhigh : isHighSurrogate high = true := by simpa [isHighSurrogate] using hhigh
  have hlow : isLowSurrogate low = true := by simpa [isLowSurrogate] using hlow
  have hsecond : lowSurrogate.run (Ascii.backslash :: Ascii.letter 'u' :: (ofChars ls ++ s)) =
      .ok (low, s) := by
    unfold lowSurrogate nextInText
    simp only [run_bind, run_next_cons, if_true, fourHexDigits_run hl s, hlow]
    rfl
  rw [ofChars_append, List.append_assoc, ofChars_ascii (by decide), ofChars_ascii (by decide)]
  unfold codePoint
  rw [run_bind_of_ok (fourHexDigits_run hh _), hnot, hhigh]
  exact run_bind_of_ok hsecond

/-! ## Turns -/

section turns

variable {escape : Reader Bytes}

/-- The reader of a string, after the bytes that it has taken. -/
abbrev textFrom (escape : Reader Bytes) (taken : Bytes) : Reader Bytes :=
  iterate (textTurn escape) (textTurn_advances escape) taken

theorem textFrom_quote (taken s : Bytes) :
    (textFrom escape taken).run (Ascii.quote :: s) = .ok (taken.reverse, s) :=
  iterate_run_done rfl _

theorem textFrom_escape {bs r s : Bytes} (h : escape.run s = .ok (bs, r)) (taken : Bytes) :
    (textFrom escape taken).run (Ascii.backslash :: s) =
      (textFrom escape (bs.reverse ++ taken)).run r := by
  have hturn : (textTurn escape taken).run (Ascii.backslash :: s) =
      .ok (.again (bs.reverse ++ taken), r) := by
    unfold textTurn nextInText
    rw [run_bind_of_ok (run_next_cons _ _ _), if_neg (by decide), if_pos rfl, run_bind_of_ok h]
    rfl
  exact iterate_run_again hturn _

/-- Bytes that stand for themselves are taken one by one. -/
theorem textFrom_bytes {bs : Bytes}
    (h : ∀ b ∈ bs, b ≠ Ascii.quote ∧ b ≠ Ascii.backslash ∧ ¬b < Ascii.space) (taken s : Bytes) :
    (textFrom escape taken).run (bs ++ s) = (textFrom escape (bs.reverse ++ taken)).run s := by
  induction bs generalizing taken with
  | nil => rfl
  | cons b bs ih =>
    obtain ⟨hq, he, hc⟩ := h b List.mem_cons_self
    have hturn : (textTurn escape taken).run (b :: (bs ++ s)) =
        .ok (.again (b :: taken), bs ++ s) := by
      unfold textTurn nextInText
      rw [run_bind_of_ok (run_next_cons _ _ _), if_neg hq, if_neg he, if_neg hc]
      rfl
    rw [List.cons_append, textFrom, iterate_run_again hturn,
      ih fun d hd => h d (List.mem_cons_of_mem b hd), List.reverse_cons, List.append_assoc]
    rfl

end turns

/-! ## Characters -/

/-- No byte of a plain character ends the string, starts an escape or is refused. -/
theorem utf8EncodeChar_of_isPlain {c : Char} (h : IsPlain c) :
    ∀ b ∈ String.utf8EncodeChar c, b ≠ Ascii.quote ∧ b ≠ Ascii.backslash ∧ ¬b < Ascii.space := by
  obtain ⟨hq, hb, hs⟩ := h
  have hq : c.val.toNat ≠ 0x22 := fun he => hq (Char.toNat_inj.1 he)
  have hb : c.val.toNat ≠ 0x5c := fun he => hb (Char.toNat_inj.1 he)
  have hs : 0x20 ≤ c.val.toNat := hs
  have hlt := Bytes.val_lt c
  unfold String.utf8EncodeChar
  generalize c.val.toNat = n at *
  dsimp only
  intro b hmem
  -- a character of one byte is its own byte; in a longer one every byte is at least 0x80
  repeat' split at hmem
  all_goals
    simp only [List.mem_cons, List.not_mem_nil, or_false] at hmem
    rcases hmem with rfl | rfl | rfl | rfl
  all_goals
    simp only [ne_eq, ← UInt8.toNat_inj, UInt8.lt_iff_toNat_lt, UInt8.toNat_ofNat',
      UInt8.toNat_ofNat]
    omega

theorem simpleEscape_of_mem {c letter : Char} (h : (c, letter) ∈ shortEscapes) :
    letter.toNat < 0x80 ∧ simpleEscape? letter.toUInt8 = some c.toUInt8 ∧ c.toNat < 0x80 := by
  have hall : ∀ p ∈ shortEscapes, p.2.toNat < 0x80 ∧
      simpleEscape? p.2.toUInt8 = some p.1.toUInt8 ∧ p.1.toNat < 0x80 := by
    decide +kernel
  exact hall _ h

theorem escapeWith_run_short {c letter : Char} (h : (c, letter) ∈ shortEscapes)
    (byNumber : Reader Bytes) (s : Bytes) :
    (escapeWith byNumber).run (letter.toUInt8 :: s) = .ok ([c.toUInt8], s) := by
  obtain ⟨-, he, -⟩ := simpleEscape_of_mem h
  unfold escapeWith nextInText
  rw [run_bind_of_ok (run_next_cons _ _ _), he]
  rfl

theorem escapeWith_run_number {byNumber : Reader Bytes} {bs r s : Bytes}
    (h : byNumber.run s = .ok (bs, r)) :
    (escapeWith byNumber).run (Ascii.letter 'u' :: s) = .ok (bs, r) := by
  unfold escapeWith nextInText
  rw [run_bind_of_ok (run_next_cons _ _ _)]
  exact h

theorem decoded_run_number {c : Char} {n : Nat} {s r : Bytes} (h : codePoint.run s = .ok (n, r))
    (hn : n = c.toNat) :
    decoded.run (Ascii.letter 'u' :: s) = .ok (String.utf8EncodeChar c, r) := by
  rw [hn] at h
  unfold decoded
  refine escapeWith_run_number ?_
  rw [run_bind_of_ok h, Char.ofNat_toNat]
  rfl

theorem checked_run_short {c letter : Char} (h : (c, letter) ∈ shortEscapes) (s : Bytes) :
    checked.run (letter.toUInt8 :: s) = .ok ([c.toUInt8], s) := escapeWith_run_short h _ s

theorem checked_run_number {n : Nat} {ds : List Char} (h : SpellsNumber n ds) (s : Bytes) :
    checked.run (Ascii.letter 'u' :: (ofChars ds ++ s)) = .ok ([], s) :=
  escapeWith_run_number (run_bind_of_ok (fourHexDigits_run h s))

theorem decoded_char {c : Char} {cs : List Char} (h : SpellsChar c cs) (taken s : Bytes) :
    (textFrom decoded taken).run (ofChars cs ++ s) =
      (textFrom decoded ((String.utf8EncodeChar c).reverse ++ taken)).run s := by
  cases h with
  | plain h =>
    rw [ofChars_cons, ofChars_nil, List.append_nil]
    exact textFrom_bytes (utf8EncodeChar_of_isPlain h) taken s
  | short h =>
    obtain ⟨hl, -, hc⟩ := simpleEscape_of_mem h
    rw [ofChars_escape _ hl, utf8EncodeChar_ascii hc]
    exact textFrom_escape (escapeWith_run_short h _ s) taken
  | number h =>
    rw [ofChars_escape 'u' (by decide)]
    exact textFrom_escape (decoded_run_number (codePoint_run h s) rfl) taken
  | pair hh hl hhigh hlow hc =>
    rw [ofChars_escape 'u' (by decide)]
    exact textFrom_escape (decoded_run_number (codePoint_run_pair hh hl hhigh hlow s) hc.symm) taken

/-! ## Strings -/

theorem textFrom_run {cs body : List Char} (h : SpellsChars cs body) (taken s : Bytes) :
    (textFrom decoded taken).run (ofChars body ++ Ascii.quote :: s) =
      .ok (taken.reverse ++ ofChars cs, s) := by
  induction h generalizing taken with
  | nil => rw [ofChars_nil, List.append_nil]; exact textFrom_quote taken s
  | cons hc _ ih =>
    rw [ofChars_append, List.append_assoc, decoded_char hc, ih, ofChars_cons, List.reverse_append,
      List.reverse_reverse, List.append_assoc]

/-- Any spelling of a text is read as the text. -/
theorem textBody_run {t : String} {body : List Char} (h : SpellsChars t.toList body) (s : Bytes) :
    textBody.run (ofChars body ++ Ascii.quote :: s) = .ok (t, s) := by
  unfold textBody textBytes
  rw [run_bind_of_ok (textFrom_run h [] s), List.reverse_nil, List.nil_append,
    ← ofString_eq_ofChars, toString?_ofString]
  rfl

theorem textFrom_checked {body : List Char} (h : IsTextBody body) (taken s : Bytes) :
    ∃ bs, (textFrom checked taken).run (ofChars body ++ Ascii.quote :: s) = .ok (bs, s) := by
  induction h generalizing taken with
  | nil => exact ⟨_, textFrom_quote taken s⟩
  | plain h _ ih =>
    rw [ofChars_cons, List.append_assoc, textFrom_bytes (utf8EncodeChar_of_isPlain h)]
    exact ih _
  | short h _ ih =>
    rw [ofChars_escape _ (simpleEscape_of_mem h).1, List.cons_append, List.cons_append,
      textFrom_escape (checked_run_short h _)]
    exact ih _
  | number h _ ih =>
    rw [ofChars_escape 'u' (by decide), ofChars_append, List.cons_append, List.cons_append,
      List.append_assoc, textFrom_escape (checked_run_number h _)]
    exact ih _

theorem skipText_run {body : List Char} (h : IsTextBody body) (s : Bytes) :
    skipText.run (ofChars body ++ Ascii.quote :: s) = .ok ((), s) := by
  obtain ⟨bs, hbs⟩ := textFrom_checked h [] s
  exact run_bind_of_ok hbs

end InterfaceDocs.Json
