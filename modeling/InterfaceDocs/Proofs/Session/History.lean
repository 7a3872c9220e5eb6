import InterfaceDocs.Session
import InterfaceDocs.Store.Memory

/-!
# Sessions over time

A `Host` changes its store while a session is asked for docstrings.  `history` runs changes and
calls in any order and keeps a `Moment` for every call: the store as it was, the question, the
answer, and the session before and after it.

What a session has cached is the catalogue that the first successful call has built, from the store
as it was at that moment (`history_moment`).  In terms of the answers alone this says that a session
answers like the store until it succeeds, and like its first catalogue from then on.
-/

namespace InterfaceDocs

/-! ## Hosts -/

/-- A store that changes in the hands of its owner. -/
structure Host where
  State : Type
  Change : Type
  apply : Change → State → State
  /-- The store that a session sees. -/
  store : State → Store

/-- What the owner of a store in memory may do to it. -/
inductive MemoryChange
  /-- Adds a resource, or replaces it. -/
  | insert (resource : String) (content : Bytes)
  /-- Removes all resources. -/
  | clear
  /-- Reads of a resource fail from now on. -/
  | failRead (resource : String) (failure : Failure)
  /-- Discovery fails from now on. -/
  | failDiscover (failure : Failure)
  /-- Nothing is to fail any more. -/
  | heal

/-- A store in memory, and the failures that it is to meet. -/
structure FaultyMemory where
  memory : MemoryStore
  faults : Faults

namespace FaultyMemory

def change (w : FaultyMemory) : MemoryChange → FaultyMemory
  | .insert resource content => { w with memory := w.memory.insert resource content }
  | .clear => { w with memory := { w.memory with resources := ∅ } }
  | .failRead resource failure =>
    { w with faults := { w.faults with onRead := w.faults.onRead.insert resource failure } }
  | .failDiscover failure => { w with faults := { w.faults with onDiscover := some failure } }
  | .heal => { w with faults := Faults.empty }

end FaultyMemory

/-- The owner of a store in memory. -/
def Host.memory : Host where
  State := FaultyMemory
  Change := MemoryChange
  apply c w := w.change c
  store w := w.memory.store.withFaults w.faults

/-! ## Calls and answers -/

namespace Session

inductive Call
  | docsOf (resource : String)
  | catalogue
  | lookup (key : String)

inductive Answer
  | docs (result : Except Failure Docs)
  | catalogue (result : Except Failure Catalogue)
  | docstring (result : Except Failure (Option String))

/-- A catalogue, or a look-up in one, has been had. -/
def Answer.HasCatalogue : Answer → Prop
  | .docs _ => False
  | .catalogue result => ∃ c, result = .ok c
  | .docstring result => ∃ d, result = .ok d

instance : DecidablePred Answer.HasCatalogue
  | .docs _ => isFalse id
  | .catalogue (.ok c) => isTrue ⟨c, rfl⟩
  | .docstring (.ok d) => isTrue ⟨d, rfl⟩
  | .catalogue (.error _) => isFalse fun ⟨_, h⟩ => nomatch h
  | .docstring (.error _) => isFalse fun ⟨_, h⟩ => nomatch h

/-- Answers one call, and gives the session after it. -/
def answer (x : Session) (s : Store) : Call → Answer × Session
  | .docsOf resource => (.docs (x.docsOf s resource).value, x)
  | .catalogue =>
    let (result, x) := (x.catalogue s).value
    (.catalogue result, x)
  | .lookup key =>
    let (result, x) := (x.lookup s key).value
    (.docstring result, x)

inductive Event (host : Host)
  | change (c : host.Change)
  | call (c : Call)

/-- A call as it came to pass. -/
structure Moment where
  store : Store
  call : Call
  answer : Answer
  before : Session
  after : Session

/-- All calls of a run, in order. -/
def history (host : Host) (x : Session) (w : host.State) : List (Event host) → List Moment
  | [] => []
  | .change c :: events => history host x (host.apply c w) events
  | .call c :: events =>
    ⟨host.store w, c, (x.answer (host.store w) c).1, x, (x.answer (host.store w) c).2⟩
      :: history host (x.answer (host.store w) c).2 w events

/-! ## One call -/

variable {settings : Settings}

/-- The catalogue that a session has if it knows one, and else that of the store. -/
def known (settings : Settings) (cached : Option Catalogue) (s : Store) :
    Except Failure Catalogue :=
  match cached with
  | some c => .ok c
  | none => (s.catalogue settings).value

/-- What a call is to be answered, given the catalogue that the session has cached. -/
def rightAnswer (settings : Settings) (cached : Option Catalogue) (s : Store) : Call → Answer
  | .docsOf resource => .docs (s.docsOf settings resource).value
  | .catalogue => .catalogue (known settings cached s)
  | .lookup key => .docstring ((known settings cached s).map fun c => c.docs[key]?)

/-- The catalogue that a call builds in a session without one. -/
def built? (settings : Settings) (s : Store) : Call → Option Catalogue
  | .docsOf _ => none
  | .catalogue | .lookup _ => (s.catalogue settings).value.toOption

theorem value_catalogue (cached : Option Catalogue) (s : Store) :
    (Session.catalogue ⟨settings, cached⟩ s).value =
      (known settings cached s, ⟨settings, cached.or (s.catalogue settings).value.toOption⟩) := by
  cases cached with
  | some c => rfl
  | none =>
    unfold Session.catalogue known
    simp only [Logged.value_bind, Option.none_or]
    cases (s.catalogue settings).value <;> rfl

theorem value_lookup (cached : Option Catalogue) (s : Store) (key : String) :
    (Session.lookup ⟨settings, cached⟩ s key).value =
      ((known settings cached s).map fun c => c.docs[key]?,
        ⟨settings, cached.or (s.catalogue settings).value.toOption⟩) := by
  unfold Session.lookup
  rw [Logged.value_bind, value_catalogue]
  rfl

/-- A call is answered from what is cached, and caches what it builds if nothing is. -/
theorem answer_eq (cached : Option Catalogue) (s : Store) (c : Call) :
    Session.answer ⟨settings, cached⟩ s c =
      (rightAnswer settings cached s c, ⟨settings, cached.or (built? settings s c)⟩) := by
  cases c with
  | docsOf resource => simp [Session.answer, rightAnswer, built?, Session.docsOf]
  | catalogue => simp [Session.answer, rightAnswer, built?, value_catalogue]
  | lookup key => simp [Session.answer, rightAnswer, built?, value_lookup]

theorem catalogue_of_built? {s : Store} {call : Call} {c : Catalogue}
    (h : built? settings s call = some c) : (s.catalogue settings).value = .ok c := by
  cases call with
  | docsOf resource => cases h
  | catalogue | lookup key =>
    unfold built? at h
    cases hs : (s.catalogue settings).value with
    | error failure => rw [hs] at h; cases h
    | ok c' => rw [hs] at h; cases h; rfl

/-- In a session that has cached nothing, an answer has a catalogue exactly when the call builds it. -/
theorem hasCatalogue_rightAnswer_none (s : Store) (c : Call) :
    (rightAnswer settings none s c).HasCatalogue ↔ (built? settings s c).isSome := by
  cases c with
  | docsOf resource => simp [rightAnswer, built?, Answer.HasCatalogue]
  | catalogue =>
    unfold rightAnswer built? known Answer.HasCatalogue
    cases (s.catalogue settings).value <;> simp [Except.toOption]
  | lookup key =>
    unfold rightAnswer built? known Answer.HasCatalogue
    cases (s.catalogue settings).value <;> simp [Except.toOption, Except.map]

/-! ## Whole runs -/

/-- The catalogue that the first successful call builds. -/
def firstBuilt? (settings : Settings) (moments : List Moment) : Option Catalogue :=
  moments.findSome? fun m => built? settings m.store m.call

/-- A moment of a session that has cached the given catalogue, or none yet. -/
structure Moment.Answered (settings : Settings) (cached : Option Catalogue) (m : Moment) : Prop where
  before : m.before = ⟨settings, cached⟩
  answer : m.answer = rightAnswer settings cached m.store m.call
  after : m.after = ⟨settings, cached.or (built? settings m.store m.call)⟩

variable {host : Host} {events : List (Event host)} {earlier later : List Moment} {m : Moment}

/-- At every moment, what is cached is what was cached at the start, or else the catalogue that the
first successful call has built. -/
theorem history_moment {cached : Option Catalogue} {w : host.State}
    (h : history host ⟨settings, cached⟩ w events = earlier ++ m :: later) :
    m.Answered settings (cached.or (firstBuilt? settings earlier)) := by
  -- along the events; a change leaves the session alone, and a call is the first moment or goes
  -- into what is cached for the others
  induction events generalizing cached w earlier with
  | nil => simp [history] at h
  | cons event events ih =>
    cases event with
    | change c => exact ih h
    | call c =>
      unfold history at h
      rw [answer_eq] at h
      cases earlier with
      | nil =>
        obtain ⟨rfl, -⟩ := List.cons.inj h
        rw [firstBuilt?, List.findSome?_nil, Option.or_none]
        exact ⟨rfl, rfl, rfl⟩
      | cons e earlier =>
        obtain ⟨rfl, hrest⟩ := List.cons.inj h
        have hm := ih hrest
        rw [Option.or_assoc] at hm
        unfold firstBuilt? at hm ⊢
        rw [List.findSome?_cons]
        cases hb : built? settings (host.store w) c with
        | none => simpa [hb] using hm
        | some built => simpa [hb] using hm

/-- While no answer has a catalogue, none is built. -/
theorem firstBuilt?_eq_none {w : host.State}
    (h : history host (start settings) w events = earlier ++ later)
    (hnone : ∀ e ∈ earlier, ¬e.answer.HasCatalogue) : firstBuilt? settings earlier = none := by
  cases hf : firstBuilt? settings earlier with
  | none => rfl
  | some c =>
    exfalso
    obtain ⟨before, e, after, rfl, he, hbefore⟩ := List.findSome?_eq_some_iff.1 hf
    have hsplit : history host (start settings) w events = before ++ e :: (after ++ later) := by
      rw [h]
      simp
    have hm := history_moment hsplit
    rw [Option.none_or, firstBuilt?, List.findSome?_eq_none_iff.2 hbefore] at hm
    refine hnone e (by simp) ?_
    rw [hm.answer, hasCatalogue_rightAnswer_none, he]
    rfl

/-- **A session answers like its store until it has a catalogue, and by that one from then on.**
For every host, every run of changes and calls in any order, and every call `m` of it:

* if no call before it had a catalogue, nothing is cached, `m` is answered as the store at that
  moment answers, and if `m` fails nothing is cached after it either;
* if `first` was the first call to have one, the store had that catalogue then, and `m` is answered
  by it, whatever has become of the store;
* single resources are read from the store as it is, and what is cached stays as it is. -/
theorem history_cached (host : Host) (settings : Settings) (w : host.State)
    (events : List (Event host)) (earlier later : List Moment) (m : Moment)
    (h : history host (start settings) w events = earlier ++ m :: later) :
    ((∀ e ∈ earlier, ¬e.answer.HasCatalogue) →
      m.before.cached = none ∧
      (m.call = .catalogue → m.answer = .catalogue (m.store.catalogue settings).value) ∧
      (∀ key, m.call = .lookup key →
        m.answer = .docstring ((m.store.catalogue settings).value.map fun c => c.docs[key]?)) ∧
      (¬m.answer.HasCatalogue → m.after.cached = none)) ∧
    (∀ before first between, earlier = before ++ first :: between →
      (∀ e ∈ before, ¬e.answer.HasCatalogue) → first.answer.HasCatalogue →
      ∃ c, (first.store.catalogue settings).value = .ok c ∧
        (first.call = .catalogue → first.answer = .catalogue (.ok c)) ∧
        (m.call = .catalogue → m.answer = .catalogue (.ok c)) ∧
        (∀ key, m.call = .lookup key → m.answer = .docstring (.ok c.docs[key]?))) ∧
    (∀ resource, m.call = .docsOf resource →
      m.answer = .docs (m.store.docsOf settings resource).value ∧ m.after = m.before) := by
  have hm := history_moment h
  rw [Option.none_or] at hm
  refine ⟨fun hnone => ?_, fun before first between he hbefore hfirst => ?_, fun resource hc => ?_⟩
  · rw [firstBuilt?_eq_none h hnone] at hm
    refine ⟨?_, fun hc => ?_, fun key hc => ?_, fun hfail => ?_⟩
    · rw [hm.before]
    · rw [hm.answer, hc]
      rfl
    · rw [hm.answer, hc]
      rfl
    · rw [hm.answer, hasCatalogue_rightAnswer_none, Option.not_isSome_iff_eq_none] at hfail
      rw [hm.after, hfail]
      rfl
  · subst he
    have hf : history host (start settings) w events
        = before ++ first :: (between ++ m :: later) := by
      rw [h]
      simp
    have hfm := history_moment hf
    rw [Option.none_or, firstBuilt?_eq_none hf hbefore] at hfm
    rw [hfm.answer, hasCatalogue_rightAnswer_none] at hfirst
    obtain ⟨c, hb⟩ := Option.isSome_iff_exists.1 hfirst
    have hstore := catalogue_of_built? hb
    have hcached : firstBuilt? settings (before ++ first :: between) = some c := by
      have hnone : firstBuilt? settings before = none := firstBuilt?_eq_none hf hbefore
      unfold firstBuilt? at hnone ⊢
      rw [List.findSome?_append, hnone, List.findSome?_cons, hb]
      rfl
    rw [hcached] at hm
    refine ⟨c, hstore, fun hc => ?_, fun hc => ?_, fun key hc => ?_⟩
    · rw [hfm.answer, hc, ← hstore]
      rfl
    · rw [hm.answer, hc]
      rfl
    · rw [hm.answer, hc]
      rfl
  · rw [hm.answer, hm.after, hm.before, hc]
    simp [rightAnswer, built?]

/-- A store is asked while it is empty, filled, asked for a key, emptied and asked again. -/
def refill : List (Event Host.memory) :=
  [.call .catalogue,
   .change (.insert "d/a.json" (Bytes.ofString "\x7b\"types\": [\x7b\"name\": \"T\", \"doc\": \"t\"\x7d]\x7d")),
   .call (.lookup "T"), .change .clear, .call .catalogue]

def refillSettings : Settings := ⟨"d", [], 100⟩

def refillMoments : List Moment :=
  history Host.memory (start refillSettings) ⟨MemoryStore.empty refillSettings, Faults.empty⟩ refill

theorem refill_cached :
    ∃ failed first last c, refillMoments = [failed, first] ++ last :: [] ∧
      ¬failed.answer.HasCatalogue ∧ first.answer.HasCatalogue ∧
      (first.store.catalogue refillSettings).value = .ok c ∧ last.answer = .catalogue (.ok c) := by
  have h : refillMoments = [refillMoments[0], refillMoments[1]] ++ refillMoments[2] :: [] := rfl
  have hfailed : ¬refillMoments[0].answer.HasCatalogue := by decide +kernel
  have hfirst : refillMoments[1].answer.HasCatalogue := by decide +kernel
  obtain ⟨-, hafter, -⟩ := history_cached Host.memory refillSettings
    ⟨MemoryStore.empty refillSettings, Faults.empty⟩ refill _ _ _ h
  obtain ⟨c, hc, -, hlast, -⟩ := hafter [_] _ [] rfl (by simpa using hfailed) hfirst
  exact ⟨_, _, _, c, h, hfailed, hfirst, hc, hlast rfl⟩

end Session

end InterfaceDocs
