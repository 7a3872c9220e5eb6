import InterfaceDocs.Proofs.Json.Extent
import InterfaceDocs.Proofs.Json.Nesting

/-!
# Readers take nested bytes

All that the readers of strings, numbers and skipped values take is nested.  `TakesIn S` says that
all that a reader takes is in `S`; of a sequence of readers it is shown for its parts.  A reader that
starts behind an opening quote or bracket takes nested bytes and then the one that closes it
(`EndedBy`).
-/

namespace InterfaceDocs.Json

open Reader

variable {α β σ : Type} {commas : Bool}

/-! ## What readers take -/

/-- All that the reader takes is in `S`. -/
def TakesIn (S : Bytes → Prop) (x : Reader α) : Prop := ∀ ⦃p r a⦄, x.Takes p r a → S p

/-- All that the reader takes is nested, with commas between brackets only. -/
abbrev TakesNested (x : Reader α) : Prop := TakesIn (Nested false) x

/-- The bytes are in `S` up to the last one, which is `b`. -/
def EndedBy (b : UInt8) (S : Bytes → Prop) (p : Bytes) : Prop := ∃ q, S q ∧ p = q ++ [b]

theorem EndedBy.prepend {b : UInt8} {p v : Bytes} (hv : Nested true v)
    (h : EndedBy b (Nested true) p) : EndedBy b (Nested true) (v ++ p) := by
  obtain ⟨q, hq, rfl⟩ := h
  exact ⟨v ++ q, hv.append hq, (List.append_assoc ..).symm⟩

theorem nested_quoted {p : Bytes} (h : EndedBy Ascii.quote InQuotes p) :
    Nested commas (Ascii.quote :: p) := by
  obtain ⟨q, hq, rfl⟩ := h
  exact .quoted hq .nil

theorem nested_bracketed (k : Bracket) {p : Bytes} (h : EndedBy k.closing (Nested true) p) :
    Nested commas (k.opening :: p) := by
  obtain ⟨x, hx, rfl⟩ := h
  exact .bracketed k hx .nil

section combinators

variable {S T : Bytes → Prop}

theorem takesIn_fail (fault : Fault) : TakesIn S (fail fault : Reader α) :=
  fun p r a h => absurd h (not_takes_fail fault p r a)

theorem takesIn_mismatch (wanted : String) (b : UInt8) : TakesIn S (mismatch wanted b : Reader α) :=
  fun p r a h => absurd h (not_takes_mismatch p r a)

theorem takesIn_pure (h : S []) (a : α) : TakesIn S (pure a : Reader α) := by
  intro p r b hb
  obtain ⟨rfl, -⟩ := takes_pure.1 hb
  exact h

theorem TakesIn.ite {c : Prop} [Decidable c] {x y : Reader α} (hx : c → TakesIn S x)
    (hy : ¬c → TakesIn S y) : TakesIn S (if c then x else y) := by
  split
  · next h => exact hx h
  · next h => exact hy h

/-- A reader that refuses some bytes. -/
theorem TakesIn.orFail {c : Prop} [Decidable c] {x : Reader α} {fault : Fault}
    (hx : c → TakesIn S x) : TakesIn S (if c then x else fail fault) :=
  .ite hx fun _ => takesIn_fail fault

/-- What a sequence takes, from what its first reader takes on. -/
theorem TakesIn.bind {U : Bytes → Prop} {x : Reader α} {f : α → Reader β} (hx : TakesIn S x)
    (hf : ∀ a, TakesIn T (f a)) (happend : ∀ p q, S p → T q → U (p ++ q)) : TakesIn U (x >>= f) := by
  intro p r b h
  obtain ⟨a, p₁, p₂, rfl, h₁, h₂⟩ := takes_bind.1 h
  exact happend p₁ p₂ (hx h₁) (hf a h₂)

/-- What follows the first reader only makes an answer of its answer. -/
theorem TakesIn.answer {x : Reader α} {f : α → Reader β} (hx : TakesIn S x)
    (hf : ∀ a, TakesIn (· = []) (f a)) : TakesIn S (x >>= f) := by
  refine hx.bind hf fun p q hp hq => ?_
  rw [hq, List.append_nil]
  exact hp

theorem TakesIn.map {x : Reader α} (hx : TakesIn S x) (f : α → β) : TakesIn S (f <$> x) :=
  hx.answer fun a => takesIn_pure (S := (· = [])) rfl (f a)

theorem TakesNested.bind {x : Reader α} {f : α → Reader β} (hx : TakesNested x)
    (hf : ∀ a, TakesNested (f a)) : TakesNested (x >>= f) := TakesIn.bind hx hf fun _ _ => Nested.append

theorem takesNested_pure (a : α) : TakesNested (pure a : Reader α) := takesIn_pure .nil a

theorem takes_token {fault : Fault} {p r : Bytes} {b : UInt8} (h : (nextToken fault).Takes p r b) :
    ∃ w, (∀ c ∈ w, isBlank c) ∧ p = w ++ [b] := by
  obtain ⟨_, w, q, rfl, hw, hq⟩ := takes_bind.1 h
  obtain rfl := takes_next.1 hq
  rw [blanks_eq] at hw
  obtain ⟨_, w, u, rfl, hw, hu⟩ := takes_bind.1 hw
  obtain ⟨rfl, -⟩ := takes_pure.1 hu
  rw [List.append_nil]
  exact ⟨w, (takes_takeWhile.1 hw).2.1, rfl⟩

theorem takes_peekToken {p r : Bytes} {b : Option UInt8} (h : peekToken.Takes p r b) :
    (∀ c ∈ p, isBlank c) ∧ b = r.head? := by
  obtain ⟨_, w, q, rfl, hw, hq⟩ := takes_bind.1 h
  obtain ⟨rfl, hb⟩ := takes_peek.1 hq
  rw [blanks_eq] at hw
  obtain ⟨_, w, u, rfl, hw, hu⟩ := takes_bind.1 hw
  obtain ⟨rfl, -⟩ := takes_pure.1 hu
  rw [List.append_nil, List.append_nil]
  exact ⟨(takes_takeWhile.1 hw).2.1, hb⟩

/-- A reader that goes by the next byte. -/
theorem takesIn_token {fault : Fault} {f : UInt8 → Reader α}
    (hblanks : ∀ w p, Nested false w → S p → S (w ++ p))
    (hf : ∀ b, TakesIn (fun p => S (b :: p)) (f b)) : TakesIn S (nextToken fault >>= f) := by
  intro p r a h
  obtain ⟨b, p₁, p₂, rfl, h₁, h₂⟩ := takes_bind.1 h
  obtain ⟨w, hw, rfl⟩ := takes_token h₁
  rw [List.append_assoc]
  exact hblanks w _ (nested_blanks hw) (hf b h₂)

theorem takesNested_token {fault : Fault} {f : UInt8 → Reader α}
    (hf : ∀ b, TakesIn (fun p => Nested false (b :: p)) (f b)) :
    TakesNested (nextToken fault >>= f) := takesIn_token (fun _ _ => Nested.append) hf

end combinators

theorem takesNested_word {bs : Bytes} (h : bs.all (IsInert false ·)) : TakesNested (word bs) := by
  induction bs with
  | nil => exact takesNested_pure ()
  | cons b bs ih =>
    rw [List.all_cons, Bool.and_eq_true, decide_eq_true_eq] at h
    obtain ⟨hb, hbs⟩ := h
    intro p r a hp
    obtain ⟨c, p₁, p₂, rfl, h₁, h₂⟩ := takes_bind.1 hp
    obtain rfl := takes_next.1 h₁
    split at h₂
    · next hc => exact .inert (hc ▸ hb) (ih hbs h₂)
    · exact absurd h₂ (not_takes_fail _ _ _ _)

/-! ## Strings -/

theorem inQuotes_hexDigit {b : UInt8} {n : Nat} (h : Ascii.hexValue? b = some n) {p : Bytes}
    (hp : InQuotes p) : InQuotes (b :: p) := by
  refine .plain ?_ ?_ hp
  all_goals
    rintro rfl
    exact absurd h (by decide +revert)

theorem takesIn_fourHexDigits : TakesIn InQuotes fourHexDigits := by
  intro p r n h
  obtain ⟨a, p₁, q₁, rfl, ha, h₁⟩ := takes_bind.1 h
  obtain ⟨b, p₂, q₂, rfl, hb, h₂⟩ := takes_bind.1 h₁
  obtain ⟨c, p₃, q₃, rfl, hc, h₃⟩ := takes_bind.1 h₂
  obtain ⟨d, p₄, q₄, rfl, hd, h₄⟩ := takes_bind.1 h₃
  obtain rfl := takes_next.1 ha
  obtain rfl := takes_next.1 hb
  obtain rfl := takes_next.1 hc
  obtain rfl := takes_next.1 hd
  cases hn : hexNumber? a b c d with
  | none =>
    rw [hn] at h₄
    exact absurd h₄ (not_takes_fail _ _ _ _)
  | some k =>
    rw [hn] at h₄
    obtain ⟨rfl, -⟩ := takes_pure.1 h₄
    simp only [hexNumber?, Option.bind_eq_bind, Option.bind_eq_some_iff] at hn
    obtain ⟨_, ha, _, hb, _, hc, _, hd, -⟩ := hn
    exact inQuotes_hexDigit ha (inQuotes_hexDigit hb (inQuotes_hexDigit hc (inQuotes_hexDigit hd .nil)))

theorem takesIn_lowSurrogate : TakesIn InQuotes lowSurrogate := by
  intro p r n h
  obtain ⟨b, p₁, q₁, rfl, hb, h₁⟩ := takes_bind.1 h
  obtain rfl := takes_next.1 hb
  split at h₁
  · next hback =>
    obtain ⟨c, p₂, q₂, rfl, hc, h₂⟩ := takes_bind.1 h₁
    obtain rfl := takes_next.1 hc
    rw [hback]
    have htail : TakesIn InQuotes (if c = Ascii.letter 'u' then do
        let low ← fourHexDigits
        if isLowSurrogate low then pure low else fail .loneSurrogate
      else fail .unfinishedSurrogatePair) :=
      .orFail fun _ => takesIn_fourHexDigits.bind
        (fun low => .orFail fun _ => takesIn_pure .nil low) fun _ _ => .append
    exact .escaped (htail h₂)
  · exact absurd h₁ (not_takes_fail _ _ _ _)

theorem takesIn_codePoint : TakesIn InQuotes codePoint := by
  unfold codePoint
  refine takesIn_fourHexDigits.bind (fun n => ?_) fun _ _ => InQuotes.append
  refine .ite (fun _ => takesIn_fail _) fun _ => .ite (fun _ => ?_) fun _ => takesIn_pure .nil n
  exact takesIn_lowSurrogate.map _

/-- One byte behind the backslash is not looked at; what an escape takes after it has no quote. -/
def EscapeTakes (p : Bytes) : Prop := ∃ b q, InQuotes q ∧ p = b :: q

theorem takesIn_escapeWith {byNumber : Reader Bytes} (h : TakesIn InQuotes byNumber) :
    TakesIn EscapeTakes (escapeWith byNumber) := by
  intro p r bs hp
  obtain ⟨b, p₁, q, rfl, hb, hq⟩ := takes_bind.1 hp
  obtain rfl := takes_next.1 hb
  refine ⟨b, q, ?_, rfl⟩
  cases hc : simpleEscape? b with
  | some c =>
    rw [hc] at hq
    exact takesIn_pure (S := InQuotes) .nil _ hq
  | none =>
    rw [hc] at hq
    exact TakesIn.orFail (fun _ => h) hq

theorem takesIn_decoded : TakesIn EscapeTakes decoded :=
  takesIn_escapeWith (takesIn_codePoint.map _)

theorem takesIn_checked : TakesIn EscapeTakes checked :=
  takesIn_escapeWith (takesIn_fourHexDigits.map _)

/-- A string is read up to its closing quote. -/
theorem takesIn_textBytes {escape : Reader Bytes} (h : TakesIn EscapeTakes escape) :
    TakesIn (EndedBy Ascii.quote InQuotes) (textBytes escape) := by
  intro p r bs hp
  refine takes_iterate_induction (motive := fun _ p => EndedBy Ascii.quote InQuotes p) ?_ ?_ hp
  · intro taken p hturn
    obtain ⟨b, p₁, q, rfl, hb, hq⟩ := takes_bind.1 hturn
    obtain rfl := takes_next.1 hb
    split at hq
    · next hquote =>
      obtain ⟨rfl, -⟩ := takes_pure.1 hq
      exact ⟨[], .nil, by rw [hquote]; rfl⟩
    · split at hq
      · obtain ⟨_, _, _, -, -, hpure⟩ := takes_bind.1 hq
        exact absurd (takes_pure.1 hpure).2 nofun
      · split at hq
        · exact absurd hq (not_takes_fail _ _ _ _)
        · exact absurd (takes_pure.1 hq).2 nofun
  · rintro taken taken' p₁ p₂ - hturn - ⟨q, hq, rfl⟩
    obtain ⟨b, p₁, q₁, rfl, hb, hq₁⟩ := takes_bind.1 hturn
    obtain rfl := takes_next.1 hb
    split at hq₁
    · exact absurd (takes_pure.1 hq₁).2 nofun
    · next hquote =>
      split at hq₁
      · next hback =>
        obtain ⟨_, p₃, p₄, rfl, hescape, hpure⟩ := takes_bind.1 hq₁
        obtain ⟨rfl, -⟩ := takes_pure.1 hpure
        obtain ⟨c, q₂, hq₂, rfl⟩ := h hescape
        refine ⟨Ascii.backslash :: c :: (q₂ ++ q), .escaped (hq₂.append hq), ?_⟩
        simp [hback]
      · next hback =>
        split at hq₁
        · exact absurd hq₁ (not_takes_fail _ _ _ _)
        · obtain ⟨rfl, -⟩ := takes_pure.1 hq₁
          exact ⟨b :: q, .plain hquote hback hq, rfl⟩

theorem takesIn_textBody : TakesIn (EndedBy Ascii.quote InQuotes) textBody := by
  unfold textBody
  refine (takesIn_textBytes takesIn_decoded).answer fun bs => ?_
  cases bs.toString? with
  | some t => exact takesIn_pure (S := (· = [])) rfl t
  | none => exact takesIn_fail _

theorem takesIn_skipText : TakesIn (EndedBy Ascii.quote InQuotes) skipText :=
  (takesIn_textBytes takesIn_checked).map fun _ => ()

/-- A string behind its opening quote. -/
theorem takesIn_string : TakesIn (fun p => Nested false (Ascii.quote :: p)) textBody :=
  fun _ _ _ h => nested_quoted (takesIn_textBody h)

theorem takesNested_text : TakesNested text := by
  refine takesNested_token fun b => .ite (fun hb => ?_) fun _ => takesIn_mismatch _ b
  rw [hb]
  exact takesIn_string

theorem takesNested_optionalText : TakesNested optionalText := by
  refine takesNested_token fun b => .ite (fun hb => ?_) fun _ => .ite (fun hb => ?_) fun _ =>
    takesIn_mismatch _ b
  · rw [hb]
    have hnull : TakesNested (word ("ull".toList.map Ascii.letter)) := takesNested_word (by decide)
    exact fun p r a h => .inert (by decide) (hnull.map (fun _ => none) h)
  · rw [hb]
    exact takesIn_string.map some

theorem takesNested_key : TakesNested key := by
  refine takesNested_token fun b => .orFail fun hb => ?_
  rw [hb]
  exact takesIn_string

theorem takesNested_colon : TakesNested colon := by
  refine takesNested_token fun b => .orFail fun hb => ?_
  rw [hb]
  exact takesIn_pure (.inert (by decide) .nil) ()

/-! ## Numbers -/

theorem takesNested_moreDigits (first : UInt8) : TakesNested (moreDigits first) := by
  have hdigits : TakesNested (takeWhile Ascii.isDigit) := fun p r bs h =>
    nested_of_forall fun b hb => isInert_of_isDigit ((takes_takeWhile.1 h).2.1 b hb)
  exact hdigits.map _

/-- The byte that has been looked at is the one that is taken. -/
theorem takesNested_peek {f : Option UInt8 → Reader α}
    (h : ∀ b p r a, (f b).Takes p r a → b = (p ++ r).head? → Nested false p) :
    TakesNested (peek >>= f) := by
  intro p r a hp
  obtain ⟨b, p₁, p₂, rfl, h₁, h₂⟩ := takes_bind.1 hp
  obtain ⟨rfl, hb⟩ := takes_peek.1 h₁
  exact h b p₂ r a h₂ hb

theorem takesNested_next {b : UInt8} (hb : IsInert false b) {atEnd : Fault}
    {f : UInt8 → Reader α} (hf : TakesNested (f b)) {p r : Bytes} {a : α}
    (h : (next atEnd >>= f).Takes p r a) (hhead : some b = (p ++ r).head?) : Nested false p := by
  obtain ⟨c, p₁, p₂, rfl, h₁, h₂⟩ := takes_bind.1 h
  obtain rfl := takes_next.1 h₁
  obtain rfl := Option.some.inj hhead
  exact .inert hb (hf h₂)

theorem takesNested_someDigits (atEnd : Fault) : TakesNested (someDigits atEnd) := by
  intro p r ds h
  obtain ⟨b, p₁, p₂, rfl, h₁, h₂⟩ := takes_bind.1 h
  obtain rfl := takes_next.1 h₁
  split at h₂
  · next hb => exact .inert (isInert_of_isDigit hb) (takesNested_moreDigits b h₂)
  · exact absurd h₂ (not_takes_fail _ _ _ _)

theorem takesNested_fractionDigits (atEnd : Fault) : TakesNested (fractionDigits atEnd) := by
  refine takesNested_peek fun b p r ds h hb => ?_
  split at h
  · next hpoint =>
    rw [hpoint] at hb
    exact takesNested_next (by decide) (takesNested_someDigits atEnd) h hb
  · exact takesNested_pure _ h

theorem takesNested_exponentSign (atEnd : Fault) : TakesNested (exponentSign atEnd) := by
  refine takesNested_peek fun b p r negative h hb => ?_
  split at h
  · next hminus =>
    rw [hminus] at hb
    exact takesNested_next (by decide) (takesNested_pure true) h hb
  · split at h
    · next hplus =>
      rw [hplus] at hb
      exact takesNested_next (by decide) (takesNested_pure false) h hb
    · exact takesNested_pure _ h

theorem takesNested_exponentPart (atEnd : Fault) : TakesNested (exponentPart atEnd) := by
  refine takesNested_peek fun b p r n h hb => ?_
  split at h
  · next hmark =>
    have htail : TakesNested (do
        let negative ← exponentSign atEnd
        let ds ← someDigits atEnd
        let n : Int := digitsValue ds
        pure (some (if negative then -n else n))) :=
      (takesNested_exponentSign atEnd).bind fun _ => (takesNested_someDigits atEnd).bind fun _ =>
        takesNested_pure _
    rcases hmark with hmark | hmark
    · rw [hmark] at hb
      exact takesNested_next (by decide) htail h hb
    · rw [hmark] at hb
      exact takesNested_next (by decide) htail h hb
  · exact takesNested_pure _ h

theorem takesNested_wholeDigits (first : UInt8) : TakesNested (wholeDigits first) := by
  refine .ite (fun _ => takesNested_peek fun b p r ds h _ => ?_) fun _ =>
    .orFail fun _ => takesNested_moreDigits first
  cases b with
  | none => exact takesNested_pure _ h
  | some b => exact TakesIn.ite (fun _ => takesIn_fail _) (fun _ => takesNested_pure _) h

theorem isInert_of_wholeDigits {lead : UInt8} {p r : Bytes} {ds : List Nat}
    (h : (wholeDigits lead).Takes p r ds) : IsInert false lead := by
  unfold wholeDigits at h
  split at h
  · next hzero =>
    rw [hzero]
    decide
  · split at h
    · next hdigit => exact isInert_of_isDigit hdigit
    · exact absurd h (not_takes_fail _ _ _ _)

theorem takesNested_numeral (atEnd : Fault) (first : UInt8) : TakesNested (numeral atEnd first) := by
  have hdigits : ∀ (negative : Bool) (lead : UInt8) (p r : Bytes) (n : Numeral), (do
      let whole ← wholeDigits lead
      let fraction ← fractionDigits atEnd
      let exponent ← exponentPart atEnd
      pure (⟨negative, whole, fraction, exponent⟩ : Numeral)).Takes p r n →
        IsInert false lead ∧ Nested false p := by
    intro negative lead p r n h
    obtain ⟨whole, p₁, p₂, rfl, hwhole, hrest⟩ := takes_bind.1 h
    have htail : TakesNested (do
        let fraction ← fractionDigits atEnd
        let exponent ← exponentPart atEnd
        pure (⟨negative, whole, fraction, exponent⟩ : Numeral)) :=
      (takesNested_fractionDigits atEnd).bind fun _ => (takesNested_exponentPart atEnd).bind fun _ =>
        takesNested_pure _
    exact ⟨isInert_of_wholeDigits hwhole, (takesNested_wholeDigits lead hwhole).append (htail hrest)⟩
  intro p r n h
  unfold numeral at h
  dsimp only at h
  split at h
  · obtain ⟨lead, p₁, p₂, rfl, hlead, hrest⟩ := takes_bind.1 h
    obtain rfl := takes_next.1 hlead
    obtain ⟨hinert, hnested⟩ := hdigits _ _ _ _ _ hrest
    exact .inert hinert hnested
  · exact (hdigits _ _ _ _ _ h).2

/-! ## Skipped values -/

/-- Bytes that close all the brackets that are open, the innermost first, and end there. -/
inductive Closes : List Bracket → Bytes → Prop
  | nil : Closes [] []
  | cons {k : Bracket} {outer : List Bracket} {x t : Bytes} (hx : Nested true x)
      (ht : Closes outer t) : Closes (k :: outer) (x ++ k.closing :: t)

/-- Nested bytes and then what closes all the brackets that are open. -/
def Completes (outer : List Bracket) (p : Bytes) : Prop :=
  ∃ v t, Nested false v ∧ Closes outer t ∧ p = v ++ t

/-- The bytes of a turn are in `S` together with those of all turns after it. -/
def TurnIn (S : Bytes → Prop) (p : Bytes) : Turn (List Bracket) Unit → Prop
  | .done () => S p
  | .again outer => ∀ q, Completes outer q → S (p ++ q)

theorem Closes.prepend {k : Bracket} {outer : List Bracket} {p v : Bytes} (hv : Nested true v)
    (h : Closes (k :: outer) p) : Closes (k :: outer) (v ++ p) := by
  cases h with
  | cons hx ht =>
    rw [← List.append_assoc]
    exact .cons (hv.append hx) ht

/-- Closing a bracket that has just been opened completes the value. -/
theorem Closes.completes {k : Bracket} {outer : List Bracket} {p : Bytes}
    (h : Closes (k :: outer) p) : Completes outer (k.opening :: p) := by
  cases h with
  | @cons _ _ x t hx ht =>
    exact ⟨k.opening :: (x ++ [k.closing]), t, nested_bracketed k ⟨x, hx, rfl⟩, ht, by simp⟩

theorem Completes.closes {k : Bracket} {outer : List Bracket} {p : Bytes}
    (h : Completes (k :: outer) p) : Closes (k :: outer) p := by
  obtain ⟨v, t, hv, ht, rfl⟩ := h
  exact ht.prepend hv.commas_allowed

/-- Bytes in front of a turn. -/
theorem TurnIn.prepend {S T : Bytes → Prop} {p v : Bytes} {turn : Turn (List Bracket) Unit}
    (hS : ∀ q, S q → T (v ++ q)) (h : TurnIn S p turn) : TurnIn T (v ++ p) turn := by
  cases turn with
  | done => exact hS p h
  | again outer =>
    intro q hq
    rw [List.append_assoc]
    exact hS _ (h q hq)

theorem takesNested_skipKey : TakesNested skipKey := by
  refine takesNested_token fun b => .orFail fun hb => ?_
  rw [hb]
  exact takesIn_skipText.bind (fun _ => takesNested_colon) fun p q hp hq => (nested_quoted hp).append hq

theorem turnIn_again {k : Bracket} {outer : List Bracket} {v : Bytes} (hv : Nested true v) :
    TurnIn (Closes (k :: outer)) v (.again (k :: outer)) := fun _ hq => hq.closes.prepend hv

/-- What follows a value closes brackets up to the place of the next value. -/
theorem takes_afterValue {outer : List Bracket} {p r : Bytes} {turn : Turn (List Bracket) Unit}
    (h : (afterValue outer).Takes p r turn) : TurnIn (Closes outer) p turn := by
  induction outer generalizing p with
  | nil =>
    obtain ⟨rfl, rfl⟩ := takes_pure.1 h
    exact Closes.nil
  | cons k outer ih =>
    have hclose : ∀ w q, (∀ c ∈ w, isBlank c) → (afterValue outer).Takes q r turn →
        TurnIn (Closes (k :: outer)) (w ++ [k.closing] ++ q) turn := by
      intro w q hw hq
      refine (ih hq).prepend fun t ht => ?_
      rw [List.append_assoc]
      exact .cons (nested_blanks hw) ht
    cases k with
    | list =>
      obtain ⟨b, p₁, p₂, rfl, h₁, h₂⟩ := takes_bind.1 h
      obtain ⟨w, hw, rfl⟩ := takes_token h₁
      split at h₂
      · next hb =>
        obtain ⟨rfl, rfl⟩ := takes_pure.1 h₂
        rw [List.append_nil, hb]
        exact turnIn_again ((nested_blanks hw).append (.inert (by decide) .nil))
      · split at h₂
        · next hb =>
          rw [hb]
          exact hclose w p₂ hw h₂
        · exact absurd h₂ (not_takes_fail _ _ _ _)
    | object =>
      obtain ⟨b, p₁, p₂, rfl, h₁, h₂⟩ := takes_bind.1 h
      obtain ⟨w, hw, rfl⟩ := takes_token h₁
      split at h₂
      · next hb =>
        obtain ⟨_, p₂, p₃, rfl, hkey, hpure⟩ := takes_bind.1 h₂
        obtain ⟨rfl, rfl⟩ := takes_pure.1 hpure
        have hcomma : Nested true (w ++ [b]) := by
          rw [hb]
          exact (nested_blanks hw).append (.inert (by decide) .nil)
        rw [List.append_nil]
        exact turnIn_again (hcomma.append (takesNested_skipKey hkey).commas_allowed)
      · split at h₂
        · next hb =>
          rw [hb]
          exact hclose w p₂ hw h₂
        · exact absurd h₂ (not_takes_fail _ _ _ _)

/-- What follows an opening bracket: its closing byte at once, or what is read up to the first value. -/
theorem takes_afterOpening {k : Bracket} {outer : List Bracket} {atEnd : Fault}
    {first : Reader (Turn (List Bracket) Unit)}
    (hfirst : ∀ p r turn, first.Takes p r turn → TurnIn (Closes (k :: outer)) p turn)
    {p r : Bytes} {turn : Turn (List Bracket) Unit}
    (h : (peekToken >>= fun b? => match b? with
      | none => fail atEnd
      | some b => if b = k.closing then next atEnd >>= fun _ => afterValue outer
        else first).Takes p r turn) :
    TurnIn (Completes outer) (k.opening :: p) turn := by
  suffices TurnIn (Closes (k :: outer)) p turn from
    this.prepend (v := [k.opening]) fun _ hq => hq.completes
  obtain ⟨b?, w, q, rfl, hpeek, hq⟩ := takes_bind.1 h
  obtain ⟨hw, hb?⟩ := takes_peekToken hpeek
  cases b? with
  | none => exact absurd hq (not_takes_fail _ _ _ _)
  | some b =>
    dsimp only at hq
    split at hq
    · next hb =>
      obtain ⟨c, p₁, p₂, rfl, hnext, hafter⟩ := takes_bind.1 hq
      obtain rfl := takes_next.1 hnext
      obtain rfl := Option.some.inj hb?
      rw [hb, ← List.append_assoc]
      refine (takes_afterValue hafter).prepend fun t ht => ?_
      rw [List.append_assoc]
      exact .cons (nested_blanks hw) ht
    · refine (hfirst q r turn hq).prepend fun t ht => ?_
      exact ht.prepend (nested_blanks hw)

theorem takes_skipFrom {outer : List Bracket} {b : UInt8} {p r : Bytes}
    {turn : Turn (List Bracket) Unit} (h : (skipFrom outer b).Takes p r turn) :
    TurnIn (Completes outer) (b :: p) turn := by
  -- a value without items, and then what follows it
  have hafter : ∀ {γ : Type} {x : Reader γ}, TakesIn (fun p => Nested false (b :: p)) x →
      (x >>= fun _ => afterValue outer).Takes p r turn → TurnIn (Completes outer) (b :: p) turn := by
    intro γ x hx h
    obtain ⟨_, p₁, p₂, rfl, h₁, h₂⟩ := takes_bind.1 h
    show TurnIn _ ((b :: p₁) ++ p₂) turn
    exact (takes_afterValue h₂).prepend fun t ht => ⟨b :: p₁, t, hx h₁, ht, rfl⟩
  have hword : ∀ {bs : Bytes}, IsInert false b → bs.all (IsInert false ·) →
      TakesIn (fun p => Nested false (b :: p)) (word bs) := fun hb hbs p r a hp =>
    .inert hb (takesNested_word hbs hp)
  unfold skipFrom at h
  split at h
  · next hb =>
    subst hb
    exact hafter (hword (by decide) (by decide)) h
  split at h
  · next hb =>
    subst hb
    exact hafter (hword (by decide) (by decide)) h
  split at h
  · next hb =>
    subst hb
    exact hafter (hword (by decide) (by decide)) h
  split at h
  · next hb =>
    exact hafter (fun p r n hp => .inert (isInert_of_startsNumber hb) (takesNested_numeral _ b hp)) h
  split at h
  · next hb =>
    subst hb
    exact hafter (fun p r u hp => nested_quoted (takesIn_skipText hp)) h
  split at h
  · next hb =>
    subst hb
    refine takes_afterOpening (k := .list) (fun p r turn hp => ?_) h
    obtain ⟨rfl, rfl⟩ := takes_pure.1 hp
    exact turnIn_again .nil
  split at h
  · next hb =>
    subst hb
    refine takes_afterOpening (k := .object) (fun p r turn hp => ?_) h
    obtain ⟨_, p₁, p₂, rfl, hkey, hpure⟩ := takes_bind.1 hp
    obtain ⟨rfl, rfl⟩ := takes_pure.1 hpure
    rw [List.append_nil]
    exact turnIn_again (takesNested_skipKey hkey).commas_allowed
  · exact absurd h (not_takes_fail _ _ _ _)

theorem takesNested_skip : TakesNested skip := by
  have hturn : ∀ {outer : List Bracket} {p r : Bytes} {turn : Turn (List Bracket) Unit},
      (skipTurn outer).Takes p r turn → TurnIn (Completes outer) p turn := by
    intro outer p r turn h
    obtain ⟨b, p₁, p₂, rfl, h₁, h₂⟩ := takes_bind.1 h
    obtain ⟨w, hw, rfl⟩ := takes_token h₁
    rw [List.append_assoc]
    refine (takes_skipFrom h₂).prepend fun q hq => ?_
    obtain ⟨v, t, hv, ht, rfl⟩ := hq
    exact ⟨w ++ v, t, (nested_blanks hw).append hv, ht, (List.append_assoc ..).symm⟩
  intro p r u h
  -- all turns together complete the value and, with no bracket open before it, nothing else
  have hall : Completes [] p := by
    refine takes_iterate_induction (motive := Completes) ?_ ?_ h
    · intro outer p hdone
      exact hturn hdone
    · intro outer outer' p₁ p₂ _ hagain _ hrest
      exact hturn hagain p₂ hrest
  obtain ⟨v, t, hv, ht, rfl⟩ := hall
  cases ht
  rw [List.append_nil]
  exact hv

end InterfaceDocs.Json
