import InterfaceDocs.Text.Bytes
import InterfaceDocs.Json.Fault

/-!
# Readers of bytes

A `Reader` takes a value off the front of the bytes or stops with a fault.  Its one law, `forward`,
says that what it leaves is a tail of what it was given.  Readers form a monad; the primitive ones
below look at the next byte or take bytes off, and `iterate` repeats a step whose every repetition
takes at least one byte, which is why it ends.

    (iterate step h a).run s = match (step a).run s with …        (iterate_run)
-/

namespace InterfaceDocs.Json

/-- A reader leaves a tail of its input. -/
structure Reader (α : Type) where
  run : Bytes → Except Fault (α × Bytes)
  forward : ∀ {s a r}, run s = .ok (a, r) → r <:+ s

namespace Reader

variable {α β σ : Type}

/-! ## The monad -/

protected def pure (a : α) : Reader α where
  run s := .ok (a, s)
  forward h := by cases h; exact List.suffix_refl _

protected def bind (x : Reader α) (f : α → Reader β) : Reader β where
  run s :=
    match x.run s with
    | .error fault => .error fault
    | .ok (a, r) => (f a).run r
  forward {s b t} h := by
    split at h
    · cases h
    · next a r hx => exact ((f a).forward h).trans (x.forward hx)

instance : Monad Reader where
  pure := Reader.pure
  bind := Reader.bind

@[ext] theorem ext {x y : Reader α} (h : ∀ s, x.run s = y.run s) : x = y := by
  cases x; cases y; congr; exact funext h

@[simp] theorem run_pure (a : α) (s : Bytes) : (pure a : Reader α).run s = .ok (a, s) := rfl

theorem run_bind (x : Reader α) (f : α → Reader β) (s : Bytes) :
    (x >>= f).run s = match x.run s with
      | .error fault => .error fault
      | .ok (a, r) => (f a).run r := rfl

theorem run_bind_of_ok {x : Reader α} {f : α → Reader β} {s r : Bytes} {a : α}
    (h : x.run s = .ok (a, r)) : (x >>= f).run s = (f a).run r := by
  rw [run_bind, h]

/-- A sequence of two readers succeeds exactly when both do, one after the other. -/
theorem run_bind_eq_ok_iff {x : Reader α} {f : α → Reader β} {s t : Bytes} {b : β} :
    (x >>= f).run s = .ok (b, t) ↔ ∃ a r, x.run s = .ok (a, r) ∧ (f a).run r = .ok (b, t) := by
  rw [run_bind]
  cases x.run s with
  | error fault => simp
  | ok p =>
    obtain ⟨a, r⟩ := p
    exact ⟨fun h => ⟨a, r, rfl, h⟩, fun ⟨_, _, e, h⟩ => by cases e; exact h⟩

theorem id_map (x : Reader α) : id <$> x = x := by
  ext s
  show (x >>= fun a => pure (id a)).run s = x.run s
  rw [run_bind]
  split <;> simp_all

theorem bind_assoc (x : Reader α) (f : α → Reader β) (g : β → Reader σ) :
    x >>= f >>= g = x >>= fun a => f a >>= g := by
  ext s
  simp only [run_bind]
  cases x.run s <;> rfl

instance : LawfulMonad Reader := LawfulMonad.mk' Reader id_map (fun _ _ => rfl) bind_assoc

theorem length_le (x : Reader α) {s r : Bytes} {a : α} (h : x.run s = .ok (a, r)) :
    r.length ≤ s.length := (x.forward h).length_le

/-! ## Primitive readers -/

def fail (fault : Fault) : Reader α where
  run _ := .error fault
  forward h := by cases h

/-- The next byte, left where it is. -/
def peek : Reader (Option UInt8) where
  run s := .ok (s.head?, s)
  forward h := by cases h; exact List.suffix_refl _

/-- The next byte, or a fault when there is none. -/
def next (atEnd : Fault) : Reader UInt8 where
  run
    | [] => .error atEnd
    | b :: r => .ok (b, r)
  forward {s a r} h := by
    cases s with
    | nil => cases h
    | cons b t => cases h; exact List.suffix_cons ..

/-- The longest run of bytes of one class. -/
def takeWhile (p : UInt8 → Bool) : Reader Bytes where
  run s := .ok (s.takeWhile p, s.dropWhile p)
  forward h := by cases h; exact List.dropWhile_suffix p

/-- White space between the tokens of a document. -/
def isBlank (b : UInt8) : Bool :=
  b = Ascii.space || b = Ascii.newline || b = Ascii.tab || b = Ascii.carriageReturn

/-- Takes white space off the front. -/
def blanks : Reader Unit where
  run s := .ok ((), s.dropWhile isBlank)
  forward h := by cases h; exact List.dropWhile_suffix isBlank

/-- The next byte after white space, left where it is. -/
def peekToken : Reader (Option UInt8) := do
  blanks
  peek

/-- The next byte after white space. -/
def nextToken (atEnd : Fault) : Reader UInt8 := do
  blanks
  next atEnd

/-- The rest of a word of which every letter has to be there. -/
def word : List UInt8 → Reader Unit
  | [] => pure ()
  | b :: bs => do
    if (← next (.endOfInput .value)) = b then word bs else fail .expectedIdent

@[simp] theorem run_peek (s : Bytes) : peek.run s = .ok (s.head?, s) := rfl

@[simp] theorem run_next_cons (fault : Fault) (b : UInt8) (r : Bytes) :
    (next fault).run (b :: r) = .ok (b, r) := rfl

@[simp] theorem run_takeWhile (p : UInt8 → Bool) (s : Bytes) :
    (takeWhile p).run s = .ok (s.takeWhile p, s.dropWhile p) := rfl

/-! ## Readers that take at least one byte -/

/-- Every success takes at least one byte. -/
def Strict (x : Reader α) : Prop := ∀ s a r, x.run s = .ok (a, r) → r.length < s.length

theorem strict_next (fault : Fault) : Strict (next fault) := by
  intro s a r h
  cases s with
  | nil => cases h
  | cons b t => cases h; simp

theorem Strict.bind {x : Reader α} (hx : Strict x) (f : α → Reader β) : Strict (x >>= f) := by
  intro s b t h
  obtain ⟨a, r, ha, hb⟩ := run_bind_eq_ok_iff.1 h
  exact Nat.lt_of_le_of_lt ((f a).length_le hb) (hx s a r ha)

theorem Strict.bind_left (x : Reader α) {f : α → Reader β} (hf : ∀ a, Strict (f a)) :
    Strict (x >>= f) := by
  intro s b t h
  obtain ⟨a, r, ha, hb⟩ := run_bind_eq_ok_iff.1 h
  exact Nat.lt_of_lt_of_le (hf a r b t hb) (x.length_le ha)

theorem strict_nextToken (fault : Fault) : Strict (nextToken fault) :=
  Strict.bind_left _ fun _ => strict_next fault

/-! ## Repetition -/

/-- Whether a repetition goes on or is over. -/
inductive Turn (σ β : Type)
  | again (state : σ)
  | done (result : β)

/-- Every turn that asks for another one takes at least one byte. -/
def Advances (step : σ → Reader (Turn σ β)) : Prop :=
  ∀ a s a' r, (step a).run s = .ok (.again a', r) → r.length < s.length

theorem advances_of_strict {step : σ → Reader (Turn σ β)} (h : ∀ a, Strict (step a)) :
    Advances step := fun a s a' r => h a s (.again a') r

def runTurns (step : σ → Reader (Turn σ β)) (advances : Advances step) (a : σ) (s : Bytes) :
    Except Fault (β × Bytes) :=
  match _h : (step a).run s with
  | .error fault => .error fault
  | .ok (.done b, r) => .ok (b, r)
  | .ok (.again a', r) => runTurns step advances a' r
termination_by s.length
decreasing_by exact advances _ _ _ _ _h

theorem runTurns_eq (step : σ → Reader (Turn σ β)) (advances : Advances step) (a : σ) (s : Bytes) :
    runTurns step advances a s = match (step a).run s with
      | .error fault => .error fault
      | .ok (.done b, r) => .ok (b, r)
      | .ok (.again a', r) => runTurns step advances a' r := by
  rw [runTurns]
  split <;> simp_all only

/-- Repeats a step, from the state that the last turn left, until a turn is done. -/
def iterate (step : σ → Reader (Turn σ β)) (advances : Advances step) (a : σ) : Reader β where
  run := runTurns step advances a
  forward {s b t} h := by
    induction hn : s.length using Nat.strongRecOn generalizing a s with
    | _ n ih =>
      rw [runTurns_eq] at h
      split at h
      · cases h
      · next r hr => cases h; exact (step a).forward hr
      · next a' r hr =>
        exact (ih r.length (hn ▸ advances _ _ _ _ hr) a' h rfl).trans ((step a).forward hr)

theorem iterate_run (step : σ → Reader (Turn σ β)) (advances : Advances step) (a : σ) (s : Bytes) :
    (iterate step advances a).run s = match (step a).run s with
      | .error fault => .error fault
      | .ok (.done b, r) => .ok (b, r)
      | .ok (.again a', r) => (iterate step advances a').run r :=
  runTurns_eq step advances a s

theorem iterate_run_done {step : σ → Reader (Turn σ β)} {a : σ} {b : β} {s r : Bytes}
    (h : (step a).run s = .ok (.done b, r)) (advances : Advances step) :
    (iterate step advances a).run s = .ok (b, r) := by
  rw [iterate_run, h]

theorem iterate_run_again {step : σ → Reader (Turn σ β)} {a a' : σ} {s r : Bytes}
    (h : (step a).run s = .ok (.again a', r)) (advances : Advances step) :
    (iterate step advances a).run s = (iterate step advances a').run r := by
  rw [iterate_run, h]

end Reader

end InterfaceDocs.Json
