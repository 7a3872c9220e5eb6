import InterfaceDocs.Json.Number
import InterfaceDocs.Proofs.Json.Token

/-!
# Numbers are read to their end

A number of the grammar is taken as a whole when a byte follows that cannot belong to it
(`numeral_run`).  Each part takes its longest run of digits, so what follows a part must not go on
with it: `EndsDigits`, `EndsExponent` and `EndsNumber` say so.
-/

namespace InterfaceDocs.Json

open Reader Bytes

/-! ## What may follow -/

/-- No digit follows. -/
def EndsDigits (s : Bytes) : Prop := ∀ b, s.head? = some b → Ascii.isDigit b = false

/-- Neither a digit nor an exponent follows. -/
def EndsExponent (s : Bytes) : Prop :=
  ∀ b, s.head? = some b →
    Ascii.isDigit b = false ∧ b ≠ Ascii.letter 'e' ∧ b ≠ Ascii.letter 'E'

/-- Nothing follows that could go on with the number. -/
def EndsNumber (s : Bytes) : Prop := EndsExponent s ∧ s.head? ≠ some Ascii.point

theorem EndsExponent.endsDigits {s : Bytes} (h : EndsExponent s) : EndsDigits s :=
  fun b hb => (h b hb).1

theorem Delimited.endsNumber {s : Bytes} (h : Delimited s) : EndsNumber s := by
  have hhead : ∀ b, s.head? = some b → Ascii.isDigit b = false ∧ b ≠ Ascii.letter 'e' ∧
      b ≠ Ascii.letter 'E' ∧ b ≠ Ascii.point := by
    intro b hb
    have hcases := h b hb
    simp only [isBlank, Bool.or_eq_true, decide_eq_true_eq, or_assoc] at hcases
    rcases hcases with rfl | rfl | rfl | rfl | rfl | rfl | rfl
    all_goals decide
  refine ⟨fun b hb => ?_, fun hp => ?_⟩
  · obtain ⟨hd, he, hE, -⟩ := hhead b hb
    exact ⟨hd, he, hE⟩
  · exact (hhead _ hp).2.2.2 rfl

/-! ## Digits -/

theorem isDigit_toUInt8 {c : Char} (h : c.isDigit) :
    c.toNat < 0x80 ∧ Ascii.isDigit c.toUInt8 ∧ (c.toUInt8 = Ascii.zero ↔ c = '0') := by
  have hc : 48 ≤ c.toNat ∧ c.toNat ≤ 57 := by
    simpa [Char.isDigit, UInt32.le_iff_toNat_le] using h
  have hall : ∀ n < 58, 48 ≤ n → (Char.ofNat n).toNat < 0x80 ∧
      Ascii.isDigit (Char.ofNat n).toUInt8 ∧ ((Char.ofNat n).toUInt8 = Ascii.zero ↔ Char.ofNat n = '0') := by
    decide +kernel
  have := hall c.toNat (by omega) hc.1
  rwa [Char.ofNat_toNat] at this

theorem ofChars_isDigit {ds : List Char} (h : ∀ c ∈ ds, c.isDigit) :
    ∀ b ∈ ofChars ds, Ascii.isDigit b := by
  induction ds with
  | nil => simp
  | cons c ds ih =>
    obtain ⟨hc, hd, -⟩ := isDigit_toUInt8 (h c List.mem_cons_self)
    intro b hb
    rw [ofChars_ascii hc, List.mem_cons] at hb
    rcases hb with rfl | hb
    · exact hd
    · exact ih (fun d hd => h d (List.mem_cons_of_mem c hd)) b hb

theorem moreDigits_run {ds : List Char} (h : ∀ c ∈ ds, c.isDigit) (first : UInt8) {s : Bytes}
    (hs : EndsDigits s) : ∃ ns, (moreDigits first).run (ofChars ds ++ s) = .ok (ns, s) := by
  refine ⟨(first :: ofChars ds).map Ascii.digitValue, ?_⟩
  have hstop : s.takeWhile Ascii.isDigit = [] ∧ s.dropWhile Ascii.isDigit = s := by
    cases s with
    | nil => exact ⟨rfl, rfl⟩
    | cons b s =>
      have hb := hs b rfl
      exact ⟨List.takeWhile_cons_of_neg (by rw [hb]; decide),
        List.dropWhile_cons_of_neg (by rw [hb]; decide)⟩
  have htake : (takeWhile Ascii.isDigit).run (ofChars ds ++ s) = .ok (ofChars ds, s) := by
    rw [run_takeWhile, List.takeWhile_append_of_pos (ofChars_isDigit h),
      List.dropWhile_append_of_pos (ofChars_isDigit h), hstop.1, hstop.2, List.append_nil]
  exact run_bind_of_ok htake

theorem someDigits_run {ds : List Char} (h : IsDigits ds) (atEnd : Fault) {s : Bytes}
    (hs : EndsDigits s) : ∃ ns, (someDigits atEnd).run (ofChars ds ++ s) = .ok (ns, s) := by
  obtain ⟨hne, hds⟩ := h
  cases ds with
  | nil => exact absurd rfl hne
  | cons c ds =>
    obtain ⟨hc, hd, -⟩ := isDigit_toUInt8 (hds c List.mem_cons_self)
    obtain ⟨ns, hns⟩ := moreDigits_run (fun d hd => hds d (List.mem_cons_of_mem c hd)) c.toUInt8 hs
    refine ⟨ns, ?_⟩
    rw [ofChars_ascii hc, List.cons_append]
    unfold someDigits
    rw [run_bind_of_ok (run_next_cons _ _ _), if_pos hd, hns]

/-! ## The parts of a number -/

/-- The digits before the point, of which the first byte has been taken. -/
theorem wholeDigits_run {whole : List Char} (h : IsWhole whole) :
    ∃ b r, ofChars whole = b :: r ∧ Ascii.isDigit b ∧
      ∀ s, EndsDigits s → ∃ ns, (wholeDigits b).run (r ++ s) = .ok (ns, s) := by
  rcases h with rfl | ⟨⟨hne, hds⟩, hzero⟩
  · refine ⟨Ascii.zero, [], rfl, by decide, fun s hs => ⟨[0], ?_⟩⟩
    unfold wholeDigits
    rw [if_pos rfl, List.nil_append, run_bind_of_ok (run_peek s)]
    cases s with
    | nil => rfl
    | cons b s =>
      show (if Ascii.isDigit b then fail .invalidNumber else pure [0] : Reader (List Nat)).run _ = _
      rw [hs b rfl, if_neg (by decide), run_pure]
  · cases whole with
    | nil => exact absurd rfl hne
    | cons c ds =>
      obtain ⟨hc, hd, h0⟩ := isDigit_toUInt8 (hds c List.mem_cons_self)
      have hne0 : c.toUInt8 ≠ Ascii.zero := fun he => hzero (by rw [h0.1 he]; rfl)
      refine ⟨c.toUInt8, ofChars ds, ofChars_ascii hc ds, hd, fun s hs => ?_⟩
      unfold wholeDigits
      rw [if_neg hne0, if_pos hd]
      exact moreDigits_run (fun d hd => hds d (List.mem_cons_of_mem c hd)) c.toUInt8 hs

theorem fractionDigits_run {fraction : List Char} (h : IsFraction fraction) (atEnd : Fault)
    {s : Bytes} (hs : EndsDigits s) (hp : s.head? ≠ some Ascii.point) :
    ∃ ns, (fractionDigits atEnd).run (ofChars fraction ++ s) = .ok (ns, s) := by
  unfold fractionDigits
  rcases h with rfl | ⟨ds, hds, rfl⟩
  · refine ⟨[], ?_⟩
    rw [ofChars_nil, List.nil_append, run_bind_of_ok (run_peek s), if_neg hp, run_pure]
  · obtain ⟨ns, hns⟩ := someDigits_run hds atEnd hs
    refine ⟨ns, ?_⟩
    rw [ofChars_ascii (by decide), List.cons_append, run_bind_of_ok (run_peek _), List.head?_cons,
      if_pos (by rfl), run_bind_of_ok (run_next_cons _ _ _), hns]

theorem exponentSign_run {sign : List Char} (h : sign = [] ∨ sign = ['+'] ∨ sign = ['-'])
    (atEnd : Fault) {ds : List Char} (hds : IsDigits ds) (s : Bytes) :
    ∃ negative, (exponentSign atEnd).run (ofChars (sign ++ ds) ++ s) =
      .ok (negative, ofChars ds ++ s) := by
  unfold exponentSign
  rcases h with rfl | rfl | rfl
  · refine ⟨false, ?_⟩
    cases ds with
    | nil => exact absurd rfl hds.1
    | cons c ds =>
      obtain ⟨hc, hd, -⟩ := isDigit_toUInt8 (hds.2 c List.mem_cons_self)
      have hminus : c.toUInt8 ≠ Ascii.minus := by
        intro he
        rw [he] at hd
        exact absurd hd (by decide)
      have hplus : c.toUInt8 ≠ Ascii.plus := by
        intro he
        rw [he] at hd
        exact absurd hd (by decide)
      rw [List.nil_append, ofChars_ascii hc, List.cons_append, run_bind_of_ok (run_peek _),
        List.head?_cons, if_neg (fun he => hminus (Option.some.inj he)),
        if_neg (fun he => hplus (Option.some.inj he)), run_pure]
  · exact ⟨false, rfl⟩
  · exact ⟨true, rfl⟩

theorem exponentPart_run {exponent : List Char} (h : IsExponent exponent) (atEnd : Fault)
    {s : Bytes} (hs : EndsExponent s) :
    ∃ e, (exponentPart atEnd).run (ofChars exponent ++ s) = .ok (e, s) := by
  unfold exponentPart
  rcases h with rfl | ⟨mark, sign, ds, hmark, hsign, hds, rfl⟩
  · refine ⟨none, ?_⟩
    rw [ofChars_nil, List.nil_append, run_bind_of_ok (run_peek s), if_neg ?_, run_pure]
    rintro (he | he)
    · exact (hs _ he).2.1 rfl
    · exact (hs _ he).2.2 rfl
  · obtain ⟨negative, hneg⟩ := exponentSign_run hsign atEnd hds s
    obtain ⟨ns, hns⟩ := someDigits_run hds atEnd hs.endsDigits
    refine ⟨some (if negative then -digitsValue ns else digitsValue ns), ?_⟩
    have hm : ofChars (mark :: (sign ++ ds)) = mark.toUInt8 :: ofChars (sign ++ ds) := by
      rcases hmark with rfl | rfl
      · exact ofChars_ascii (by decide) _
      · exact ofChars_ascii (by decide) _
    have hletter : mark.toUInt8 = Ascii.letter 'e' ∨ mark.toUInt8 = Ascii.letter 'E' :=
      hmark.imp (congrArg Char.toUInt8) (congrArg Char.toUInt8)
    rw [hm, List.cons_append, run_bind_of_ok (run_peek _), List.head?_cons,
      if_pos (hletter.imp (congrArg some) (congrArg some)), run_bind_of_ok (run_next_cons _ _ _),
      run_bind_of_ok hneg, run_bind_of_ok hns, run_pure]

/-! ## Numbers -/

/-- An exponent, or what follows the number, begins with no digit and no point. -/
theorem IsExponent.endsDigits {exponent : List Char} (h : IsExponent exponent) {s : Bytes}
    (hs : EndsNumber s) :
    EndsDigits (ofChars exponent ++ s) ∧ (ofChars exponent ++ s).head? ≠ some Ascii.point := by
  rcases h with rfl | ⟨mark, sign, ds, hmark, -, -, rfl⟩
  · exact ⟨hs.1.endsDigits, hs.2⟩
  · have hhead : ∃ b t, ofChars (mark :: (sign ++ ds)) = b :: t ∧ Ascii.isDigit b = false ∧
        b ≠ Ascii.point := by
      rcases hmark with rfl | rfl
      · exact ⟨_, _, ofChars_ascii (by decide) _, by decide, by decide⟩
      · exact ⟨_, _, ofChars_ascii (by decide) _, by decide, by decide⟩
    obtain ⟨b, t, hbt, hd, hp⟩ := hhead
    rw [hbt, List.cons_append]
    refine ⟨fun c hc => ?_, fun hc => hp (Option.some.inj hc)⟩
    rw [← Option.some.inj hc]
    exact hd

theorem IsFraction.endsDigits {fraction : List Char} (h : IsFraction fraction) {s : Bytes}
    (hs : EndsDigits s) : EndsDigits (ofChars fraction ++ s) := by
  rcases h with rfl | ⟨ds, -, rfl⟩
  · exact hs
  · intro b hb
    rw [ofChars_ascii (by decide), List.cons_append] at hb
    rw [← Option.some.inj hb]
    decide

/-- The parts after the sign, of which the first byte has been taken. -/
theorem numeral_parts {whole fraction exponent : List Char} (hw : IsWhole whole)
    (hf : IsFraction fraction) (he : IsExponent exponent) :
    ∃ b r, ofChars (whole ++ (fraction ++ exponent)) = b :: r ∧ Ascii.isDigit b ∧
      ∀ (negative : Bool) (atEnd : Fault) (s : Bytes), Delimited s → ∃ n, (do
        let ws ← wholeDigits b
        let fs ← fractionDigits atEnd
        let e ← exponentPart atEnd
        pure (⟨negative, ws, fs, e⟩ : Numeral)).run (r ++ s) = .ok (n, s) := by
  obtain ⟨b, r, hbr, hd, hwhole⟩ := wholeDigits_run hw
  refine ⟨b, r ++ ofChars (fraction ++ exponent), ?_, hd, fun negative atEnd s hs => ?_⟩
  · rw [ofChars_append, hbr, List.cons_append]
  · obtain ⟨hends, hpoint⟩ := he.endsDigits hs.endsNumber
    obtain ⟨ws, hws⟩ := hwhole _ (hf.endsDigits hends)
    obtain ⟨fs, hfs⟩ := fractionDigits_run hf atEnd hends hpoint
    obtain ⟨e, he⟩ := exponentPart_run he atEnd hs.endsNumber.1
    refine ⟨⟨negative, ws, fs, e⟩, ?_⟩
    rw [ofChars_append, List.append_assoc, List.append_assoc, run_bind_of_ok hws,
      run_bind_of_ok hfs, run_bind_of_ok he, run_pure]

/-- A number starts with a digit or a minus, and is taken from there up to what follows. -/
theorem numeral_run {cs : List Char} (h : IsNumber cs) :
    ∃ b r, ofChars cs = b :: r ∧ startsNumber b ∧ ∀ (atEnd : Fault) (s : Bytes), Delimited s →
      ∃ n, (numeral atEnd b).run (r ++ s) = .ok (n, s) := by
  cases h with
  | parts hsign hw hf he =>
    obtain ⟨b, r, hbr, hd, hparts⟩ := numeral_parts hw hf he
    unfold numeral startsNumber
    rcases hsign with rfl | rfl
    · have hminus : b ≠ Ascii.minus := by
        rintro rfl
        exact absurd hd (by decide)
      refine ⟨b, r, hbr, by simp [hd], fun atEnd s hs => ?_⟩
      simp only [hminus, decide_false]
      exact hparts false atEnd s hs
    · refine ⟨Ascii.minus, b :: r, ?_, by decide, fun atEnd s hs => ?_⟩
      · rw [ofChars_append, hbr]
        rfl
      · exact hparts true atEnd s hs

end InterfaceDocs.Json
