import Mathlib.Logic.Basic
import InterfaceDocs.Metadata.Resolve
import InterfaceDocs.Proofs.Name.Path

/-!
# What metadata resolves to

Metadata that `IsSound` resolves to its entries under their full names, and no other metadata
resolves to anything (`interface_eq_ok_iff`).  The scopes that are preferred decide only what stands
before the bare names (`stem`): whether the metadata is sound does not depend on them.  An interface
that has been resolved `IsWellNamed`.
-/

namespace InterfaceDocs

/-! ## Steps that may fail -/

section

variable {ε α β : Type}

theorem Except.bind_eq_ok_iff {x : Except ε α} {f : α → Except ε β} {b : β} :
    x >>= f = .ok b ↔ ∃ a, x = .ok a ∧ f a = .ok b := by
  cases x with
  | error e => exact ⟨nofun, nofun⟩
  | ok a => exact ⟨fun h => ⟨a, rfl, h⟩, fun ⟨_, ha, h⟩ => by cases ha; exact h⟩

theorem Except.map_eq_ok_iff {x : Except ε α} {f : α → β} {b : β} :
    x.map f = .ok b ↔ ∃ a, x = .ok a ∧ f a = b := by
  cases x with
  | error e => exact ⟨nofun, nofun⟩
  | ok a =>
    show Except.ok (f a) = Except.ok b ↔ _
    simp

theorem Except.mapError_eq_ok_iff {δ : Type} {x : Except ε α} {f : ε → δ} {a : α} :
    x.mapError f = .ok a ↔ x = .ok a := by
  cases x with
  | error e => exact ⟨nofun, nofun⟩
  | ok b =>
    show Except.ok b = Except.ok a ↔ _
    rw [Except.ok.injEq, Except.ok.injEq]

theorem Except.mapError_eq_error_iff {δ : Type} {x : Except ε α} {f : ε → δ} {d : δ} :
    x.mapError f = .error d ↔ ∃ e, x = .error e ∧ d = f e := by
  cases x with
  | error e =>
    show Except.error (f e) = Except.error d ↔ _
    simp [eq_comm]
  | ok a => exact ⟨nofun, nofun⟩

theorem forM_eq_ok_iff {f : α → Except ε Unit} {l : List α} :
    l.forM f = .ok () ↔ ∀ a ∈ l, f a = .ok () := by
  induction l with
  | nil => exact ⟨fun _ => nofun, fun _ => rfl⟩
  | cons a l ih =>
    rw [List.forall_mem_cons, ← ih]
    show (f a >>= fun _ => l.forM f) = .ok () ↔ _
    rw [Except.bind_eq_ok_iff]
    constructor
    · rintro ⟨⟨⟩, ha, hl⟩
      exact ⟨ha, hl⟩
    · rintro ⟨ha, hl⟩
      exact ⟨(), ha, hl⟩

/-- Steps that succeed where a condition holds, whatever the index, and give what a function says. -/
theorem mapM_zipIdx_eq_ok_iff {f : α × Nat → Except ε β} {P : α → Prop} {g : α → β}
    (hf : ∀ a n b, f (a, n) = .ok b ↔ P a ∧ b = g a) {l : List α} {bs : List β} (n : Nat) :
    (l.zipIdx n).mapM f = .ok bs ↔ (∀ a ∈ l, P a) ∧ bs = l.map g := by
  induction l generalizing bs n with
  | nil =>
    rw [List.zipIdx_nil, List.mapM_nil]
    constructor
    · intro h
      cases h
      exact ⟨nofun, rfl⟩
    · rintro ⟨-, rfl⟩
      rfl
  | cons a l ih =>
    rw [List.zipIdx_cons, List.mapM_cons, Except.bind_eq_ok_iff, List.forall_mem_cons]
    constructor
    · rintro ⟨b, hb, h⟩
      obtain ⟨cs, hcs, h⟩ := Except.bind_eq_ok_iff.1 h
      obtain ⟨hP, rfl⟩ := (hf a n b).1 hb
      obtain ⟨hall, rfl⟩ := (ih (n + 1)).1 hcs
      cases h
      exact ⟨⟨hP, hall⟩, rfl⟩
    · rintro ⟨⟨hP, hall⟩, rfl⟩
      have hrest := (ih (n + 1)).2 ⟨hall, rfl⟩
      exact ⟨g a, (hf a n _).2 ⟨hP, rfl⟩, Except.bind_eq_ok_iff.2 ⟨l.map g, hrest, rfl⟩⟩

end

/-! ## Names that follow the rules -/

def Method.IsWellNamed (x : Method) : Prop :=
  Name.isIdentifier x.name ∧ ∀ p ∈ x.params, Name.isIdentifier p.name

/-- The names of an interface follow the rules. -/
structure Interface.IsWellNamed (i : Interface) : Prop where
  types : ∀ t ∈ i.types, Name.isPath t.name ∧ ∀ m ∈ t.members, Name.isIdentifier m.name
  services : ∀ s ∈ i.services, Name.isPath s.name ∧ ∀ m ∈ s.methods, m.IsWellNamed

namespace Metadata

/-- An entry has a name, and the one that counts is a path. -/
def HasPath (qualified bare : Option String) : Prop :=
  ∃ name, qualified.or bare = some name ∧ Name.isPath name

def TypeEntry.IsSound (e : TypeEntry) : Prop :=
  HasPath e.qualifiedName e.name ∧ ∀ l ∈ e.members, Name.isIdentifier l.name

def ServiceEntry.IsSound (e : ServiceEntry) : Prop :=
  HasPath e.qualifiedName e.name ∧ ∀ x ∈ e.methods, x.IsWellNamed

/-- The names in the metadata follow the rules. -/
structure IsSound (m : Metadata) : Prop where
  commonNamespace : ∀ name, m.commonNamespace = some name → name = "" ∨ Name.isPath name
  types : ∀ e ∈ m.allTypes, e.IsSound
  services : ∀ e ∈ m.services, e.IsSound

/-! ## Full names -/

/-- The full name of an entry, where `stem` stands before bare names. -/
def nameBehind (stem : String) (qualified bare : Option String) : String :=
  match qualified, bare with
  | some name, _ => name
  | none, some name => stem ++ name
  | none, none => ""

def TypeEntry.behind (stem : String) (e : TypeEntry) : TypeDecl :=
  ⟨nameBehind stem e.qualifiedName e.name, e.doc, e.members⟩

def ServiceEntry.behind (stem : String) (e : ServiceEntry) : Service :=
  ⟨nameBehind stem e.qualifiedName e.name, e.doc, e.methods⟩

/-- The entries under their full names, where `stem` stands before bare names. -/
def behind (stem : String) (m : Metadata) : Interface :=
  ⟨m.allTypes.map (TypeEntry.behind stem), m.services.map (ServiceEntry.behind stem)⟩

/-- What stands before a bare name in a namespace. -/
def stemOf (home? : Option String) : String :=
  match home? with
  | some home => home ++ "."
  | none => ""

/-- What stands before the bare names of the metadata. -/
def stem (m : Metadata) (scopes : List String) : String := stemOf (m.home? scopes)

theorem qualify_eq (home? : Option String) (name : String) :
    qualify home? name = stemOf home? ++ name := by
  cases home? with
  | some home => rfl
  | none => exact String.empty_append.symm

theorem isPath_nameBehind {stem : String} (hstem : Name.IsStem stem) {qualified bare : Option String}
    (h : HasPath qualified bare) : Name.isPath (nameBehind stem qualified bare) := by
  obtain ⟨name, hname, hpath⟩ := h
  cases qualified with
  | some q =>
    cases hname
    exact hpath
  | none =>
    obtain rfl : bare = some name := hname
    show Name.isPath (stem ++ name)
    rw [hstem.isPath_append]
    exact hpath

theorem fullName_eq_ok_iff {home? : Option String} (hstem : Name.IsStem (stemOf home?))
    {kind : EntryKind} {index : Nat} {qualified bare : Option String} {name : String} :
    fullName home? kind index qualified bare = .ok name ↔
      HasPath qualified bare ∧ name = nameBehind (stemOf home?) qualified bare := by
  have hcheck : ∀ t, (if Name.isPath t then Except.ok t else .error (Flaw.invalidName kind t)) =
      .ok name ↔ Name.isPath t ∧ name = t := by
    intro t
    split
    · next ht => simp [ht, eq_comm]
    · next ht => simp [ht]
  unfold fullName HasPath
  cases qualified with
  | some q =>
    show (if Name.isPath q then _ else _) = _ ↔ _
    rw [hcheck]
    simp [nameBehind]
  | none =>
    cases bare with
    | none => simp
    | some n =>
      show (if Name.isPath (qualify home? n) then _ else _) = _ ↔ _
      rw [hcheck, qualify_eq, hstem.isPath_append]
      simp [nameBehind]

/-! ## Checks -/

theorem checkNamespace_eq_ok_iff {m : Metadata} :
    m.checkNamespace = .ok () ↔
      ∀ name, m.commonNamespace = some name → name = "" ∨ Name.isPath name := by
  unfold checkNamespace
  cases m.commonNamespace with
  | none => exact ⟨fun _ => nofun, fun _ => rfl⟩
  | some name => simp [or_iff_not_imp_left]

theorem checkName_eq_ok_iff {owner name : String} :
    checkName owner name = .ok () ↔ Name.isIdentifier name := by
  unfold checkName
  split
  · next h => exact ⟨fun _ => h, fun _ => rfl⟩
  · next h => exact ⟨nofun, fun h' => absurd h' h⟩

theorem checkLeaves_eq_ok_iff {owner : String} {leaves : List Leaf} :
    checkLeaves owner leaves = .ok () ↔ ∀ l ∈ leaves, Name.isIdentifier l.name := by
  unfold checkLeaves
  rw [forM_eq_ok_iff]
  exact forall₂_congr fun l _ => checkName_eq_ok_iff

theorem checkMethod_eq_ok_iff {service : String} {x : Method} :
    checkMethod service x = .ok () ↔ x.IsWellNamed := by
  unfold checkMethod
  rw [Except.bind_eq_ok_iff]
  constructor
  · rintro ⟨⟨⟩, hname, hparams⟩
    exact ⟨checkName_eq_ok_iff.1 hname, checkLeaves_eq_ok_iff.1 hparams⟩
  · rintro ⟨hname, hparams⟩
    exact ⟨(), checkName_eq_ok_iff.2 hname, checkLeaves_eq_ok_iff.2 hparams⟩

theorem checkMethods_eq_ok_iff {service : String} {xs : List Method} :
    xs.forM (checkMethod service) = .ok () ↔ ∀ x ∈ xs, x.IsWellNamed := by
  rw [forM_eq_ok_iff]
  exact forall₂_congr fun x _ => checkMethod_eq_ok_iff

/-! ## Declarations -/

section

variable {home? : Option String} (hstem : Name.IsStem (stemOf home?))

include hstem

theorem TypeEntry.declare_eq_ok_iff (e : TypeEntry) (index : Nat) (t : TypeDecl) :
    e.declare home? index = .ok t ↔ e.IsSound ∧ t = e.behind (stemOf home?) := by
  unfold TypeEntry.declare
  rw [Except.bind_eq_ok_iff]
  constructor
  · rintro ⟨name, hname, h⟩
    obtain ⟨⟨⟩, hmembers, h⟩ := Except.bind_eq_ok_iff.1 h
    obtain ⟨hpath, rfl⟩ := (fullName_eq_ok_iff hstem).1 hname
    cases h
    exact ⟨⟨hpath, checkLeaves_eq_ok_iff.1 hmembers⟩, rfl⟩
  · rintro ⟨⟨hpath, hmembers⟩, rfl⟩
    have hname : fullName home? .type index e.qualifiedName e.name = .ok _ :=
      (fullName_eq_ok_iff hstem).2 ⟨hpath, rfl⟩
    exact ⟨_, hname, Except.bind_eq_ok_iff.2 ⟨(), checkLeaves_eq_ok_iff.2 hmembers, rfl⟩⟩

theorem ServiceEntry.declare_eq_ok_iff (e : ServiceEntry) (index : Nat) (s : Service) :
    e.declare home? index = .ok s ↔ e.IsSound ∧ s = e.behind (stemOf home?) := by
  unfold ServiceEntry.declare
  rw [Except.bind_eq_ok_iff]
  constructor
  · rintro ⟨name, hname, h⟩
    obtain ⟨⟨⟩, hmethods, h⟩ := Except.bind_eq_ok_iff.1 h
    obtain ⟨hpath, rfl⟩ := (fullName_eq_ok_iff hstem).1 hname
    cases h
    exact ⟨⟨hpath, checkMethods_eq_ok_iff.1 hmethods⟩, rfl⟩
  · rintro ⟨⟨hpath, hmethods⟩, rfl⟩
    have hname : fullName home? .service index e.qualifiedName e.name = .ok _ :=
      (fullName_eq_ok_iff hstem).2 ⟨hpath, rfl⟩
    exact ⟨_, hname, Except.bind_eq_ok_iff.2 ⟨(), checkMethods_eq_ok_iff.2 hmethods, rfl⟩⟩

theorem declare_eq_ok_iff {m : Metadata} {i : Interface} :
    m.declare home? = .ok i ↔ ((∀ e ∈ m.allTypes, e.IsSound) ∧ ∀ e ∈ m.services, e.IsSound) ∧
      i = m.behind (stemOf home?) := by
  have htypes : ∀ ts, (m.allTypes.zipIdx.mapM fun x => x.1.declare home? x.2) = .ok ts ↔ _ :=
    fun ts => mapM_zipIdx_eq_ok_iff (TypeEntry.declare_eq_ok_iff hstem) 0
  have hservices : ∀ ss, (m.services.zipIdx.mapM fun x => x.1.declare home? x.2) = .ok ss ↔ _ :=
    fun ss => mapM_zipIdx_eq_ok_iff (ServiceEntry.declare_eq_ok_iff hstem) 0
  unfold declare
  rw [Except.bind_eq_ok_iff]
  constructor
  · rintro ⟨ts, hts, h⟩
    obtain ⟨ss, hss, h⟩ := Except.bind_eq_ok_iff.1 h
    obtain ⟨ht, rfl⟩ := (htypes ts).1 hts
    obtain ⟨hs, rfl⟩ := (hservices ss).1 hss
    cases h
    exact ⟨⟨ht, hs⟩, rfl⟩
  · rintro ⟨⟨ht, hs⟩, rfl⟩
    exact ⟨_, (htypes _).2 ⟨ht, rfl⟩,
      Except.bind_eq_ok_iff.2 ⟨_, (hservices _).2 ⟨hs, rfl⟩, rfl⟩⟩

end

/-! ## Resolution -/

/-- Whatever scopes are preferred, what stands before bare names is nothing, or a path and a point. -/
theorem isStem_stem {m : Metadata}
    (h : ∀ name, m.commonNamespace = some name → name = "" ∨ Name.isPath name)
    (scopes : List String) : Name.IsStem (m.stem scopes) := by
  unfold stem
  cases hhome : m.home? scopes with
  | none => exact .inl rfl
  | some home =>
    refine .inr ⟨home, ?_, rfl⟩
    unfold home? at hhome
    cases hc : m.commonNamespace with
    | some name =>
      rw [hc] at hhome
      dsimp only at hhome
      split at hhome
      · cases hhome
      · next hne =>
        cases hhome
        exact (h home hc).resolve_left hne
    | none =>
      rw [hc] at hhome
      obtain ⟨c, hfound, rfl⟩ := Option.map_eq_some_iff.1 hhome
      have hpath := List.find?_some hfound
      exact hpath

/-- **Metadata resolves exactly if it is sound**, and to its entries under their full names. -/
theorem interface_eq_ok_iff {m : Metadata} {scopes : List String} {i : Interface} :
    m.interface scopes = .ok i ↔ m.IsSound ∧ i = m.behind (m.stem scopes) := by
  unfold interface
  rw [Except.bind_eq_ok_iff]
  constructor
  · rintro ⟨⟨⟩, hc, h⟩
    have hcommon := checkNamespace_eq_ok_iff.1 hc
    obtain ⟨⟨htypes, hservices⟩, hi⟩ := (declare_eq_ok_iff (isStem_stem hcommon scopes)).1 h
    exact ⟨⟨hcommon, htypes, hservices⟩, hi⟩
  · rintro ⟨⟨hcommon, htypes, hservices⟩, hi⟩
    exact ⟨(), checkNamespace_eq_ok_iff.2 hcommon,
      (declare_eq_ok_iff (isStem_stem hcommon scopes)).2 ⟨⟨htypes, hservices⟩, hi⟩⟩

theorem IsSound.isWellNamed_behind {m : Metadata} (h : m.IsSound) {stem : String}
    (hstem : Name.IsStem stem) : (m.behind stem).IsWellNamed := by
  refine ⟨fun t ht => ?_, fun s hs => ?_⟩
  · obtain ⟨e, he, rfl⟩ := List.mem_map.1 ht
    obtain ⟨hpath, hmembers⟩ := h.types e he
    exact ⟨isPath_nameBehind hstem hpath, hmembers⟩
  · obtain ⟨e, he, rfl⟩ := List.mem_map.1 hs
    obtain ⟨hpath, hmethods⟩ := h.services e he
    exact ⟨isPath_nameBehind hstem hpath, hmethods⟩

end Metadata

/-! ## Resources -/

namespace Interface

variable {resource : String} {s : Bytes} {settings : Settings} {i : Interface}

theorem value_parse (resource : String) (s : Bytes) (settings : Settings) :
    (parse resource s settings).value = match Metadata.read s with
      | .error fault => .error (.malformed resource (.json fault))
      | .ok m => (m.interface settings.namespaceScopes).mapError (.malformed resource) := by
  unfold parse
  cases Metadata.read s <;> rfl

theorem parse_eq_ok_iff :
    (parse resource s settings).value = .ok i ↔ ∃ m, Metadata.read s = .ok m ∧ m.IsSound ∧
      i = m.behind (m.stem settings.namespaceScopes) := by
  rw [value_parse]
  cases hm : Metadata.read s with
  | error fault => exact ⟨nofun, nofun⟩
  | ok m =>
    simp only [Except.mapError_eq_ok_iff, Metadata.interface_eq_ok_iff, Except.ok.injEq,
      exists_eq_left']

/-- A resource that is not accepted is malformed. -/
theorem parse_malformed (h : ∀ i, (parse resource s settings).value ≠ .ok i) :
    ∃ flaw, (parse resource s settings).value = .error (.malformed resource flaw) := by
  rw [value_parse] at h ⊢
  cases hm : Metadata.read s with
  | error fault => exact ⟨_, rfl⟩
  | ok m =>
    rw [hm] at h
    dsimp only at h ⊢
    cases hi : m.interface settings.namespaceScopes with
    | error flaw => exact ⟨flaw, rfl⟩
    | ok i =>
      rw [hi] at h
      exact absurd rfl (h i)

/-- The names of what a resource declares follow the rules. -/
theorem isWellNamed_of_parse (h : (parse resource s settings).value = .ok i) : i.IsWellNamed := by
  obtain ⟨m, -, hm, rfl⟩ := parse_eq_ok_iff.1 h
  exact hm.isWellNamed_behind (Metadata.isStem_stem hm.commonNamespace _)

end Interface

end InterfaceDocs
