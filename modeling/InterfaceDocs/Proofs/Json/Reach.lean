import InterfaceDocs.Json.Record

/-!
# How far readers look

A reader that takes bytes off the front looks at those bytes and at the one after them, and at
nothing else (`Local`): a number or white space ends only where another byte follows.  A reader whose
last byte is a closing bracket does not even look at the next one (`LocalFor`), and it ends at a byte
that is no white space (`EndsFor`).  Both properties hold of a sequence of readers if they hold of
its parts, and of a repetition if they hold of its turns.
-/

namespace InterfaceDocs.Json

open Reader

variable {α β σ : Type}

namespace Reader

/-! ## What a reader takes -/

/-- The reader takes `p` off the front, with `r` behind it. -/
def Takes (x : Reader α) (p r : Bytes) (a : α) : Prop := x.run (p ++ r) = .ok (a, r)

theorem takes_pure {a b : α} {p r : Bytes} :
    (pure a : Reader α).Takes p r b ↔ p = [] ∧ b = a := by
  unfold Takes
  rw [run_pure]
  constructor
  · intro h
    obtain ⟨rfl, hr⟩ := Prod.mk.inj (Except.ok.inj h)
    exact ⟨List.append_left_eq_self.1 hr, rfl⟩
  · rintro ⟨rfl, rfl⟩
    rfl

theorem takes_of_run {x : Reader α} {s r : Bytes} {a : α} (h : x.run s = .ok (a, r)) :
    ∃ p, s = p ++ r ∧ x.Takes p r a := by
  obtain ⟨p, rfl⟩ := x.forward h
  exact ⟨p, rfl, h⟩

/-- A sequence takes what its first reader takes and then what its second one takes. -/
theorem takes_bind {x : Reader α} {f : α → Reader β} {p r : Bytes} {b : β} :
    (x >>= f).Takes p r b ↔
      ∃ a p₁ p₂, p = p₁ ++ p₂ ∧ x.Takes p₁ (p₂ ++ r) a ∧ (f a).Takes p₂ r b := by
  constructor
  · intro h
    obtain ⟨a, s, hx, hf⟩ := run_bind_eq_ok_iff.1 h
    obtain ⟨p₂, rfl, hp₂⟩ := takes_of_run hf
    obtain ⟨p₁, hp, hp₁⟩ := takes_of_run hx
    rw [← List.append_assoc] at hp
    exact ⟨a, p₁, p₂, List.append_cancel_right hp, hp₁, hp₂⟩
  · rintro ⟨a, p₁, p₂, rfl, hx, hf⟩
    unfold Takes at *
    rw [List.append_assoc, run_bind_of_ok hx, hf]

/-- A repetition takes what its first turn takes and then what the others take. -/
theorem takes_iterate {step : σ → Reader (Turn σ β)} {advances : Advances step} {a : σ}
    {p r : Bytes} {b : β} :
    (iterate step advances a).Takes p r b ↔
      (step a).Takes p r (.done b) ∨
        ∃ a' p₁ p₂, p = p₁ ++ p₂ ∧ p₁ ≠ [] ∧ (step a).Takes p₁ (p₂ ++ r) (.again a') ∧
          (iterate step advances a').Takes p₂ r b := by
  constructor
  · intro h
    unfold Takes at h
    rw [iterate_run] at h
    split at h
    · cases h
    · next hdone =>
      cases h
      exact .inl hdone
    · next a' s hagain =>
      right
      obtain ⟨p₂, rfl, hp₂⟩ := takes_of_run h
      obtain ⟨p₁, hp, hp₁⟩ := takes_of_run hagain
      rw [← List.append_assoc] at hp
      refine ⟨a', p₁, p₂, List.append_cancel_right hp, ?_, hp₁, hp₂⟩
      rintro rfl
      have hlt := advances _ _ _ _ hp₁
      simp at hlt
  · rintro (hdone | ⟨a', p₁, p₂, rfl, -, hagain, hrest⟩)
    · exact iterate_run_done hdone advances
    · unfold Takes at *
      rw [List.append_assoc, iterate_run_again hagain, hrest]

/-! ## The two properties -/

/-- The reader looks at what it takes and at the next byte; where its answer is in `P`, it does not
look at the next byte either. -/
def LocalFor (P : α → Prop) (x : Reader α) : Prop :=
  ∀ ⦃p r a⦄, x.Takes p r a → ∀ r', r'.head? = r.head? ∨ P a → x.Takes p r' a

/-- The reader looks at what it takes and at the next byte. -/
abbrev Local (x : Reader α) : Prop := LocalFor (fun _ => False) x

/-- Where its answer is in `P`, the reader takes a byte last that is no white space. -/
def EndsFor (P : α → Prop) (x : Reader α) : Prop :=
  ∀ ⦃p r a⦄, x.Takes p r a → P a → ∃ q c, p = q ++ [c] ∧ isBlank c = false

theorem LocalFor.toLocal {P : α → Prop} {x : Reader α} (h : LocalFor P x) : Local x :=
  fun _ _ _ hx r' hr => h hx r' (.inl (hr.resolve_right id))

theorem endsFor_false (x : Reader α) : EndsFor (fun _ => False) x := fun _ _ _ _ h => h.elim

/-- A reader that never succeeds has both properties. -/
theorem localFor_of_fails {P : α → Prop} {x : Reader α} (h : ∀ p r a, ¬x.Takes p r a) :
    LocalFor P x := fun p r a hx => absurd hx (h p r a)

theorem endsFor_of_fails {P : α → Prop} {x : Reader α} (h : ∀ p r a, ¬x.Takes p r a) :
    EndsFor P x := fun p r a hx => absurd hx (h p r a)

theorem not_takes_fail (fault : Fault) (p r : Bytes) (a : α) :
    ¬(fail fault : Reader α).Takes p r a := nofun

theorem localFor_fail (P : α → Prop) (fault : Fault) : LocalFor P (fail fault : Reader α) :=
  localFor_of_fails (not_takes_fail fault)

theorem endsFor_fail (P : α → Prop) (fault : Fault) : EndsFor P (fail fault : Reader α) :=
  endsFor_of_fails (not_takes_fail fault)

/-! ## Choices -/

theorem LocalFor.ite {P : α → Prop} {c : Prop} [Decidable c] {x y : Reader α} (hx : LocalFor P x)
    (hy : LocalFor P y) : LocalFor P (if c then x else y) := by
  split
  · exact hx
  · exact hy

theorem EndsFor.ite {P : α → Prop} {c : Prop} [Decidable c] {x y : Reader α} (hx : EndsFor P x)
    (hy : EndsFor P y) : EndsFor P (if c then x else y) := by
  split
  · exact hx
  · exact hy

/-- A reader that refuses some bytes. -/
theorem LocalFor.orFail {P : α → Prop} {c : Prop} [Decidable c] {x : Reader α} {fault : Fault}
    (hx : LocalFor P x) : LocalFor P (if c then x else fail fault) := hx.ite (localFor_fail P fault)

/-! ## Sequences -/

theorem endsFor_pure {P : α → Prop} {a : α} (h : ¬P a) : EndsFor P (pure a : Reader α) := by
  intro p r b hb hP
  obtain ⟨-, rfl⟩ := takes_pure.1 hb
  exact absurd hP h

theorem localFor_pure (P : α → Prop) (a : α) : LocalFor P (pure a : Reader α) := by
  intro p r b h r' _
  exact takes_pure.2 (takes_pure.1 h)

/-- In a sequence, the second reader takes the last byte unless the answer of the first decides. -/
theorem LocalFor.bind {P : α → Prop} {Q : β → Prop} {x : Reader α} {f : α → Reader β}
    (hx : LocalFor P x) (hf : ∀ a, LocalFor Q (f a)) (h : ∀ a, P a ∨ EndsFor Q (f a)) :
    LocalFor Q (x >>= f) := by
  intro p r b hb r' hr
  obtain ⟨a, p₁, p₂, rfl, hp₁, hp₂⟩ := takes_bind.1 hb
  have hp₁' : x.Takes p₁ (p₂ ++ r') a := by
    apply hx hp₁
    cases p₂ with
    | cons c p₂ => exact .inl rfl
    | nil =>
      rcases hr with hr | hQ
      · exact .inl hr
      · rcases h a with hP | hends
        · exact .inr hP
        · obtain ⟨q, c, hq, -⟩ := hends hp₂ hQ
          simp at hq
  exact takes_bind.2 ⟨a, p₁, p₂, rfl, hp₁', hf a hp₂ r' hr⟩

theorem Local.bind {x : Reader α} {f : α → Reader β} (hx : Local x) (hf : ∀ a, Local (f a)) :
    Local (x >>= f) := LocalFor.bind hx hf fun a => .inr (endsFor_false (f a))

theorem Local.map {x : Reader α} (hx : Local x) (f : α → β) : Local (f <$> x) :=
  Local.bind hx fun a => localFor_pure _ (f a)

/-- What follows the first reader takes the last byte, or it is only an answer and takes nothing. -/
theorem EndsFor.bind {P : α → Prop} {Q : β → Prop} {x : Reader α} {f : α → Reader β}
    (hx : EndsFor P x) (hf : ∀ a, EndsFor Q (f a) ∨ P a ∧ ∃ b, f a = pure b) :
    EndsFor Q (x >>= f) := by
  intro p r b hb hQ
  obtain ⟨a, p₁, p₂, rfl, hp₁, hp₂⟩ := takes_bind.1 hb
  rcases hf a with hends | ⟨hP, b', hpure⟩
  · obtain ⟨q, c, rfl, hc⟩ := hends hp₂ hQ
    exact ⟨p₁ ++ q, c, (List.append_assoc ..).symm, hc⟩
  · rw [hpure] at hp₂
    obtain ⟨rfl, -⟩ := takes_pure.1 hp₂
    rw [List.append_nil]
    exact hx hp₁ hP

theorem EndsFor.bind_right {Q : β → Prop} (x : Reader α) {f : α → Reader β}
    (hf : ∀ a, EndsFor Q (f a)) : EndsFor Q (x >>= f) :=
  EndsFor.bind (endsFor_false x) fun a => .inl (hf a)

/-! ## Repetitions -/

section

variable {P : Turn σ β → Prop} {Q : β → Prop} {step : σ → Reader (Turn σ β)}
  {advances : Advances step}

/-- What holds of the last turn, and of every turn before others of which it holds, holds of a
repetition. -/
theorem takes_iterate_induction {motive : σ → Bytes → Prop} {r : Bytes} {b : β}
    (done : ∀ a p, (step a).Takes p r (.done b) → motive a p)
    (again : ∀ a a' p₁ p₂, p₁ ≠ [] → (step a).Takes p₁ (p₂ ++ r) (.again a') →
      (iterate step advances a').Takes p₂ r b → motive a' p₂ → motive a (p₁ ++ p₂))
    {a : σ} {p : Bytes} (h : (iterate step advances a).Takes p r b) : motive a p := by
  induction hn : p.length using Nat.strongRecOn generalizing a p with
  | _ n ih =>
    rcases takes_iterate.1 h with hdone | ⟨a', p₁, p₂, rfl, hne, hagain, hrest⟩
    · exact done a p hdone
    · have hlt : p₂.length < n := by
        have hpos := List.length_pos_iff.2 hne
        rw [List.length_append] at hn
        omega
      exact again a a' p₁ p₂ hne hagain hrest (ih p₂.length hlt hrest rfl)

theorem EndsFor.iterate (hstep : ∀ a, EndsFor P (step a)) (h : ∀ b, Q b → P (.done b)) (a : σ) :
    EndsFor Q (iterate step advances a) := by
  intro p r b hb hQ
  refine takes_iterate_induction (motive := fun _ p => ∃ q c, p = q ++ [c] ∧ isBlank c = false)
    ?_ ?_ hb
  · intro a p hdone
    exact hstep a hdone (h b hQ)
  · rintro a a' p₁ p₂ - - - ⟨q, c, rfl, hc⟩
    exact ⟨p₁ ++ q, c, (List.append_assoc ..).symm, hc⟩

theorem LocalFor.iterate (hstep : ∀ a, LocalFor P (step a)) (h : ∀ b, Q b → P (.done b))
    (hends : ∀ a, EndsFor Q (iterate step advances a)) (a : σ) :
    LocalFor Q (iterate step advances a) := by
  intro p r b hb r' hr
  refine takes_iterate_induction (motive := fun a p => (Reader.iterate step advances a).Takes p r' b)
    ?_ ?_ hb
  · intro a p hdone
    exact takes_iterate.2 (.inl (hstep a hdone r' (hr.imp_right (h b))))
  · intro a a' p₁ p₂ hne hagain hrest ih
    have hhead : (p₂ ++ r').head? = (p₂ ++ r).head? := by
      cases p₂ with
      | cons c p₂ => rfl
      | nil =>
        rcases hr with hr | hQ
        · exact hr
        · obtain ⟨q, c, hq, -⟩ := hends a' hrest hQ
          simp at hq
    exact takes_iterate.2 (.inr ⟨a', p₁, p₂, rfl, hne, hstep a hagain _ (.inl hhead), ih⟩)

theorem Local.iterate (hstep : ∀ a, Local (step a)) (a : σ) : Local (iterate step advances a) :=
  LocalFor.iterate hstep (fun _ => id) (fun _ => endsFor_false _) a

end

/-! ## Primitive readers -/

theorem takes_next {fault : Fault} {p r : Bytes} {b : UInt8} :
    (next fault).Takes p r b ↔ p = [b] := by
  unfold Takes
  constructor
  · intro h
    cases p with
    | nil =>
      cases r with
      | nil => cases h
      | cons c r =>
        obtain ⟨-, hr⟩ := Prod.mk.inj (Except.ok.inj h)
        exact absurd hr.symm (List.cons_ne_self c r)
    | cons c p =>
      obtain ⟨rfl, hr⟩ := Prod.mk.inj (Except.ok.inj h)
      rw [List.append_left_eq_self.1 hr]
  · rintro rfl
    rfl

theorem localFor_next (P : UInt8 → Prop) (fault : Fault) : LocalFor P (next fault) := by
  intro p r b h r' _
  exact takes_next.2 (takes_next.1 h)

theorem takes_peek {p r : Bytes} {b : Option UInt8} : peek.Takes p r b ↔ p = [] ∧ b = r.head? := by
  unfold Takes
  rw [run_peek]
  constructor
  · intro h
    obtain ⟨hb, hr⟩ := Prod.mk.inj (Except.ok.inj h)
    obtain rfl := List.append_left_eq_self.1 hr
    exact ⟨rfl, hb.symm⟩
  · rintro ⟨rfl, rfl⟩
    rfl

theorem local_peek : Local peek := by
  intro p r b h r' hr
  obtain ⟨rfl, rfl⟩ := takes_peek.1 h
  exact takes_peek.2 ⟨rfl, (hr.resolve_right id).symm⟩

theorem takes_takeWhile {c : UInt8 → Bool} {p r bs : Bytes} :
    (takeWhile c).Takes p r bs ↔ bs = p ∧ (∀ b ∈ p, c b) ∧ ∀ b, r.head? = some b → ¬c b := by
  unfold Takes
  rw [run_takeWhile]
  constructor
  · intro h
    obtain ⟨hbs, hr⟩ := Prod.mk.inj (Except.ok.inj h)
    have hp : (p ++ r).takeWhile c = p := by
      have hsplit := List.takeWhile_append_dropWhile (p := c) (l := p ++ r)
      rw [hr] at hsplit
      exact List.append_cancel_right hsplit
    rw [hp] at hbs
    refine ⟨hbs.symm, fun b hb => ?_, fun b hb hc => ?_⟩
    · rw [← hp] at hb
      exact List.all_eq_true.1 List.all_takeWhile b hb
    · rw [← hr] at hb
      have hnot := List.head?_dropWhile_not c (p ++ r)
      rw [hb] at hnot
      simp [hc] at hnot
  · rintro ⟨rfl, hall, hhead⟩
    have hstop : r.takeWhile c = [] ∧ r.dropWhile c = r := by
      cases r with
      | nil => exact ⟨rfl, rfl⟩
      | cons b r =>
        exact ⟨List.takeWhile_cons_of_neg (hhead b rfl), List.dropWhile_cons_of_neg (hhead b rfl)⟩
    rw [List.takeWhile_append_of_pos hall, List.dropWhile_append_of_pos hall, hstop.1, hstop.2,
      List.append_nil]

theorem local_takeWhile (c : UInt8 → Bool) : Local (takeWhile c) := by
  intro p r bs h r' hr
  obtain ⟨rfl, hall, hhead⟩ := takes_takeWhile.1 h
  refine takes_takeWhile.2 ⟨rfl, hall, ?_⟩
  rwa [hr.resolve_right id]

theorem blanks_eq : blanks = takeWhile isBlank >>= fun _ => pure () := rfl

theorem local_blanks : Local blanks := by
  rw [blanks_eq]
  exact (local_takeWhile isBlank).bind fun _ => localFor_pure _ _

theorem local_peekToken : Local peekToken := local_blanks.bind fun _ => local_peek

theorem endsFor_next (fault : Fault) : EndsFor (fun b => isBlank b = false) (next fault) := by
  intro p r b h hb
  exact ⟨[], b, takes_next.1 h, hb⟩

theorem endsFor_nextToken (fault : Fault) :
    EndsFor (fun b => isBlank b = false) (nextToken fault) :=
  EndsFor.bind_right _ fun _ => endsFor_next fault

/-- The next byte after white space is no white space, so the byte after it does not matter. -/
theorem localFor_nextToken (P : UInt8 → Prop) (fault : Fault) : LocalFor P (nextToken fault) := by
  intro p r b h r' _
  unfold nextToken at h ⊢
  obtain ⟨u, p₁, p₂, rfl, hp₁, hp₂⟩ := takes_bind.1 h
  obtain rfl := takes_next.1 hp₂
  exact takes_bind.2 ⟨u, p₁, [b], rfl, local_blanks hp₁ _ (.inl rfl), takes_next.2 rfl⟩

theorem local_word (bs : Bytes) : Local (word bs) := by
  induction bs with
  | nil => exact localFor_pure _ ()
  | cons b bs ih =>
    unfold word
    exact Local.bind (localFor_next _ _) fun c => .orFail ih

end Reader

end InterfaceDocs.Json
