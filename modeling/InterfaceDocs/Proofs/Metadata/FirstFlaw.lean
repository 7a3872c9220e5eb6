import Mathlib.Data.List.Forall2
import InterfaceDocs.Proofs.Metadata.Resolve

/-!
# The first flaw of metadata

The names of a document stand at sites, in the order of declaration (`Metadata.sites`):

    the namespace for all languages,
    each type's own name and then the names of its members,
    each service's own name and then, method by method, the method and its parameters

Each check follows the sites that it looks at: what it comes to is the flaw of the first site that is
not sound, or its result if all of them are (`judge`).  Checks one after the other follow their sites
one after the other (`judge_bind`), and so resolution follows all sites of the metadata
(`interface_eq_judge`).  `Interface.parse_firstFlaw` says what that means for a resource.
-/

namespace InterfaceDocs.Metadata

/-! ## Sites -/

/-- A name that is checked, and where it stands. -/
inductive Site
  | commonNamespace (name : String)
  /-- The name of a type or service, by its place among those of its kind. -/
  | entry (kind : EntryKind) (index : Nat) (qualified bare : Option String)
  /-- The name of a member, a method or a parameter of the owner. -/
  | element (owner name : String)
deriving DecidableEq, Repr

instance (qualified bare : Option String) : Decidable (HasPath qualified bare) :=
  decidable_of_iff ((qualified.or bare).any Name.isPath) (Option.any_eq_true ..)

namespace Site

/-- The name at the site follows the rules. -/
def IsSound : Site → Prop
  | commonNamespace name => name = "" ∨ Name.isPath name
  | entry _ _ qualified bare => HasPath qualified bare
  | element _ name => Name.isIdentifier name

instance : DecidablePred IsSound
  | commonNamespace _ => inferInstanceAs (Decidable (_ ∨ _))
  | entry _ _ qualified bare => inferInstanceAs (Decidable (HasPath qualified bare))
  | element _ name => inferInstanceAs (Decidable (Name.isIdentifier name))

/-- What is wrong at a site that is not sound, where `stem` stands before bare names. -/
def flaw (stem : String) : Site → Flaw
  | commonNamespace name => .invalidNamespace name
  | entry kind index none none => .nameless kind index
  | entry kind _ qualified bare => .invalidName kind (nameBehind stem qualified bare)
  | element owner name => .invalidElementName name owner

end Site

def leafSites (owner : String) (leaves : List Leaf) : List Site :=
  leaves.map fun l => .element owner l.name

/-- The name of a method and those of its parameters. -/
def methodSites (service : String) (x : Method) : List Site :=
  .element service x.name :: leafSites (methodKey service x.name) x.params

def TypeEntry.sites (stem : String) (e : TypeEntry) (index : Nat) : List Site :=
  .entry .type index e.qualifiedName e.name ::
    leafSites (nameBehind stem e.qualifiedName e.name) e.members

def ServiceEntry.sites (stem : String) (e : ServiceEntry) (index : Nat) : List Site :=
  .entry .service index e.qualifiedName e.name ::
    e.methods.flatMap (methodSites (nameBehind stem e.qualifiedName e.name))

/-- All names of the metadata, in the order of declaration. -/
def sites (stem : String) (m : Metadata) : List Site :=
  m.commonNamespace.toList.map .commonNamespace ++
    (m.allTypes.zipIdx.flatMap (fun x => x.1.sites stem x.2) ++
      m.services.zipIdx.flatMap fun x => x.1.sites stem x.2)

/-! ## Following sites -/

section

variable {α β : Type} {stem : String}

/-- What a check comes to: the flaw of the first site that is not sound, or else a result. -/
def judge (stem : String) (xs : List Site) (a : α) : Except Flaw α :=
  match xs.find? fun x => !decide x.IsSound with
  | some x => .error (x.flaw stem)
  | none => .ok a

theorem judge_cons (x : Site) (xs : List Site) (a : α) :
    judge stem (x :: xs) a = if x.IsSound then judge stem xs a else .error (x.flaw stem) := by
  unfold judge
  by_cases hx : x.IsSound
  · rw [List.find?_cons_of_neg (by simp [hx]), if_pos hx]
  · rw [List.find?_cons_of_pos (by simp [hx]), if_neg hx]

/-- A check and then one of its result follow the sites of both.  What the second one does matters
only where the first one has found nothing. -/
theorem judge_bind {xs ys : List Site} {f : α → Except Flaw β} {a : α} {b : β}
    (h : (∀ x ∈ xs, x.IsSound) → f a = judge stem ys b) :
    judge stem xs a >>= f = judge stem (xs ++ ys) b := by
  induction xs with
  | nil => exact h nofun
  | cons x xs ih =>
    rw [List.cons_append, judge_cons, judge_cons]
    by_cases hx : x.IsSound
    · rw [if_pos hx, if_pos hx]
      exact ih fun hxs => h (List.forall_mem_cons.2 ⟨hx, hxs⟩)
    · rw [if_neg hx, if_neg hx]
      rfl

theorem judge_bind_pure (xs : List Site) (a : α) (g : α → β) :
    judge stem xs a >>= (fun x => pure (g x)) = judge stem xs (g a) := by
  unfold judge
  split <;> rfl

theorem forM_eq_judge {f : α → Except Flaw Unit} {s : α → List Site}
    (h : ∀ a, f a = judge stem (s a) ()) (l : List α) :
    l.forM f = judge stem (l.flatMap s) () := by
  induction l with
  | nil => rfl
  | cons a l ih =>
    show (f a >>= fun _ => l.forM f) = _
    rw [h, List.flatMap_cons]
    exact judge_bind fun _ => ih

theorem mapM_eq_judge {f : α → Except Flaw β} {s : α → List Site} {g : α → β}
    (h : ∀ a, f a = judge stem (s a) (g a)) (l : List α) :
    l.mapM f = judge stem (l.flatMap s) (l.map g) := by
  induction l with
  | nil => rfl
  | cons a l ih =>
    rw [List.mapM_cons, h, List.flatMap_cons, List.map_cons]
    refine judge_bind fun _ => ?_
    rw [ih]
    exact judge_bind_pure _ _ _

/-- What is done with the elements of a list and not with their places. -/
theorem map_fst_zipIdx (g : α → β) (l : List α) : (l.zipIdx.map fun x => g x.1) = l.map g := by
  show l.zipIdx.map (g ∘ Prod.fst) = l.map g
  rw [← List.map_map, List.zipIdx_map_fst]

theorem judge_eq_error_iff {xs : List Site} {a : α} {flaw : Flaw} :
    judge stem xs a = .error flaw ↔ ∃ before x after, xs = before ++ x :: after ∧
      (∀ y ∈ before, y.IsSound) ∧ ¬x.IsSound ∧ flaw = x.flaw stem := by
  unfold judge
  constructor
  · intro h
    cases hfound : xs.find? fun x => !decide x.IsSound with
    | none =>
      rw [hfound] at h
      cases h
    | some x =>
      rw [hfound] at h
      cases h
      obtain ⟨hx, before, after, hsplit, hbefore⟩ := List.find?_eq_some_iff_append.1 hfound
      exact ⟨before, x, after, hsplit, by simpa using hbefore, by simpa using hx, rfl⟩
  · rintro ⟨before, x, after, hsplit, hbefore, hx, rfl⟩
    have hfound : (xs.find? fun x => !decide x.IsSound) = some x :=
      List.find?_eq_some_iff_append.2
        ⟨by simpa using hx, before, after, hsplit, by simpa using hbefore⟩
    rw [hfound]

end

/-! ## The checks follow their sites -/

section

variable (stem : String)

theorem checkName_eq_judge (owner name : String) :
    checkName owner name = judge stem [.element owner name] () := by
  rw [judge_cons]
  rfl

theorem checkLeaves_eq_judge (owner : String) (leaves : List Leaf) :
    checkLeaves owner leaves = judge stem (leafSites owner leaves) () := by
  unfold checkLeaves leafSites
  rw [forM_eq_judge fun l : Leaf => checkName_eq_judge stem owner l.name,
    ← List.map_eq_flatMap]

theorem checkMethod_eq_judge (service : String) (x : Method) :
    checkMethod service x = judge stem (methodSites service x) () := by
  unfold checkMethod
  rw [checkName_eq_judge stem]
  exact judge_bind fun _ => checkLeaves_eq_judge stem _ _

theorem checkNamespace_eq_judge (m : Metadata) :
    m.checkNamespace = judge stem (m.commonNamespace.toList.map .commonNamespace) () := by
  unfold checkNamespace
  cases m.commonNamespace with
  | none => rfl
  | some name =>
    rw [Option.toList_some, List.map_singleton, judge_cons]
    simp only [Site.IsSound, Bool.or_eq_true, decide_eq_true_eq]
    rfl

end

section

variable {home? : Option String} (hstem : Name.IsStem (stemOf home?))

include hstem

/-- A bare name is checked behind its namespace, and passes exactly if it is a path itself. -/
theorem fullName_eq_judge (kind : EntryKind) (index : Nat) (qualified bare : Option String) :
    fullName home? kind index qualified bare =
      judge (stemOf home?) [.entry kind index qualified bare]
        (nameBehind (stemOf home?) qualified bare) := by
  rw [judge_cons]
  split
  · next hsound => exact (fullName_eq_ok_iff hstem).2 ⟨hsound, rfl⟩
  · next hflaw =>
    unfold fullName
    cases qualified with
    | some q =>
      have hpath : ¬Name.isPath q := fun h => hflaw ⟨q, rfl, h⟩
      exact if_neg hpath
    | none =>
      cases bare with
      | none => rfl
      | some n =>
        have hpath : ¬Name.isPath (qualify home? n) := by
          rw [qualify_eq, hstem.isPath_append]
          exact fun h => hflaw ⟨n, rfl, h⟩
        rw [Option.none_or, Option.map_some]
        dsimp only
        rw [if_neg hpath, qualify_eq]
        rfl

theorem TypeEntry.declare_eq_judge (e : TypeEntry) (index : Nat) :
    e.declare home? index =
      judge (stemOf home?) (e.sites (stemOf home?) index) (e.behind (stemOf home?)) := by
  unfold TypeEntry.declare
  rw [fullName_eq_judge hstem]
  refine judge_bind fun _ => ?_
  rw [checkLeaves_eq_judge (stemOf home?)]
  exact judge_bind_pure _ _ fun _ => e.behind (stemOf home?)

theorem ServiceEntry.declare_eq_judge (e : ServiceEntry) (index : Nat) :
    e.declare home? index =
      judge (stemOf home?) (e.sites (stemOf home?) index) (e.behind (stemOf home?)) := by
  unfold ServiceEntry.declare
  rw [fullName_eq_judge hstem]
  refine judge_bind fun _ => ?_
  rw [forM_eq_judge (checkMethod_eq_judge (stemOf home?) _)]
  exact judge_bind_pure _ _ fun _ => e.behind (stemOf home?)

theorem declare_eq_judge (m : Metadata) :
    m.declare home? = judge (stemOf home?)
      (m.allTypes.zipIdx.flatMap (fun x => x.1.sites (stemOf home?) x.2) ++
        m.services.zipIdx.flatMap fun x => x.1.sites (stemOf home?) x.2)
      (m.behind (stemOf home?)) := by
  have htypes : (m.allTypes.zipIdx.mapM fun x => x.1.declare home? x.2) = _ :=
    mapM_eq_judge (fun x : TypeEntry × Nat => TypeEntry.declare_eq_judge hstem x.1 x.2) _
  have hservices : (m.services.zipIdx.mapM fun x => x.1.declare home? x.2) = _ :=
    mapM_eq_judge (fun x : ServiceEntry × Nat => ServiceEntry.declare_eq_judge hstem x.1 x.2) _
  unfold declare
  rw [htypes]
  refine judge_bind fun _ => ?_
  rw [hservices, map_fst_zipIdx, map_fst_zipIdx]
  exact judge_bind_pure _ _ _

end

/-- **Resolution stops at the first flaw.** -/
theorem interface_eq_judge (m : Metadata) (scopes : List String) :
    m.interface scopes =
      judge (m.stem scopes) (m.sites (m.stem scopes)) (m.behind (m.stem scopes)) := by
  unfold interface
  rw [checkNamespace_eq_judge (m.stem scopes)]
  refine judge_bind fun hsound => ?_
  -- the namespace has passed, so what stands before bare names is a path and a point
  have hcommon : ∀ name, m.commonNamespace = some name → name = "" ∨ Name.isPath name := by
    intro name hname
    exact hsound (.commonNamespace name) (by simp [hname])
  exact declare_eq_judge (isStem_stem hcommon scopes) m

/-! ## What entries are declared as -/

/-- The full name is the one that is written, or else the bare name behind the stem. -/
def IsFullName (stem : String) (qualified bare : Option String) (name : String) : Prop :=
  qualified = some name ∨ qualified = none ∧ ∃ n, bare = some n ∧ name = stem ++ n

/-- A type is an entry under its full name, with nothing else changed. -/
structure TypeEntry.IsDeclaredAs (stem : String) (e : TypeEntry) (t : TypeDecl) : Prop where
  name : IsFullName stem e.qualifiedName e.name t.name
  doc : t.doc = e.doc
  members : t.members = e.members

/-- A service is an entry under its full name, with nothing else changed. -/
structure ServiceEntry.IsDeclaredAs (stem : String) (e : ServiceEntry) (s : Service) : Prop where
  name : IsFullName stem e.qualifiedName e.name s.name
  doc : s.doc = e.doc
  methods : s.methods = e.methods

theorem isFullName_nameBehind {qualified bare : Option String} (h : HasPath qualified bare)
    (stem : String) : IsFullName stem qualified bare (nameBehind stem qualified bare) := by
  obtain ⟨name, hname, -⟩ := h
  cases qualified with
  | some q => exact .inl rfl
  | none =>
    obtain rfl : bare = some name := hname
    exact .inr ⟨rfl, name, rfl, rfl⟩

variable {m : Metadata}

theorem forall₂_isDeclaredAs_types (h : m.IsSound) (stem : String) :
    List.Forall₂ (TypeEntry.IsDeclaredAs stem) m.allTypes (m.behind stem).types := by
  show List.Forall₂ _ _ (m.allTypes.map _)
  rw [List.forall₂_map_right_iff, List.forall₂_same]
  exact fun e he => ⟨isFullName_nameBehind (h.types e he).1 stem, rfl, rfl⟩

theorem forall₂_isDeclaredAs_services (h : m.IsSound) (stem : String) :
    List.Forall₂ (ServiceEntry.IsDeclaredAs stem) m.services (m.behind stem).services := by
  show List.Forall₂ _ _ (m.services.map _)
  rw [List.forall₂_map_right_iff, List.forall₂_same]
  exact fun e he => ⟨isFullName_nameBehind (h.services e he).1 stem, rfl, rfl⟩

end Metadata

/-! ## Resources -/

namespace Interface

open Metadata

/-- **A document is accepted exactly if it is sound, and else its first flaw is reported.**

* All names that the document gives follow the rules, or there is no interface.
* The interface has the types of all kinds, one kind after the other, and the services, each under its
  full name, and with nothing but this name changed.
* A failure tells the resource and what is wrong at the first site, in the order of declaration, where
  a name does not follow the rules. -/
theorem parse_firstFlaw {resource : String} {s : Bytes} {settings : Settings} {m : Metadata}
    (h : Metadata.read s = .ok m) :
    ((∃ i, (parse resource s settings).value = .ok i) ↔ m.IsSound) ∧
    (∀ i, (parse resource s settings).value = .ok i →
      List.Forall₂ (TypeEntry.IsDeclaredAs (m.stem settings.namespaceScopes))
          (m.types ++ m.enums ++ m.structs ++ m.exceptions ++ m.typedefs) i.types ∧
        List.Forall₂ (ServiceEntry.IsDeclaredAs (m.stem settings.namespaceScopes))
          m.services i.services) ∧
    ∀ failure, (parse resource s settings).value = .error failure ↔
      ∃ before x after, m.sites (m.stem settings.namespaceScopes) = before ++ x :: after ∧
        (∀ y ∈ before, y.IsSound) ∧ ¬x.IsSound ∧
        failure = .malformed resource (x.flaw (m.stem settings.namespaceScopes)) := by
  rw [value_parse, h]
  dsimp only
  simp only [Except.mapError_eq_ok_iff, interface_eq_ok_iff]
  refine ⟨⟨fun ⟨_, hm, _⟩ => hm, fun hm => ⟨_, hm, rfl⟩⟩, ?_, fun failure => ?_⟩
  · rintro i ⟨hm, rfl⟩
    exact ⟨forall₂_isDeclaredAs_types hm _, forall₂_isDeclaredAs_services hm _⟩
  · rw [interface_eq_judge, Except.mapError_eq_error_iff]
    simp only [judge_eq_error_iff]
    constructor
    · rintro ⟨flaw, ⟨before, x, after, hsplit, hbefore, hx, rfl⟩, rfl⟩
      exact ⟨before, x, after, hsplit, hbefore, hx, rfl⟩
    · rintro ⟨before, x, after, hsplit, hbefore, hx, rfl⟩
      exact ⟨_, ⟨before, x, after, hsplit, hbefore, hx, rfl⟩, rfl⟩

/-- Of a flaw in an enum and one in a struct that is written before it, the one in the enum counts. -/
theorem parse_firstFlaw_twoKinds :
    let text := Bytes.ofString "\x7b\"namespace\":\"n\",\"structs\":[\x7b\"name\":\"a-b\"\x7d],"
      ++ Bytes.ofString "\"enums\":[\x7b\"name\":\"E\",\"members\":["
      ++ Bytes.ofString "\x7b\"name\":\"A\"\x7d,\x7b\"name\":\"B.C\"\x7d]\x7d]\x7d"
    ∃ m, Metadata.read text = .ok m ∧ ¬m.IsSound ∧
      (parse "r" text .standard).value = .error (.malformed "r" (.invalidElementName "B.C" "n.E")) := by
  intro text
  have hsites : (Metadata.read text).map (fun m => m.sites (m.stem ["java", "*"])) = .ok
      [.commonNamespace "n", .entry .type 0 none (some "E"), .element "n.E" "A",
        .element "n.E" "B.C", .entry .type 1 none (some "a-b")] := by
    decide +kernel
  obtain ⟨m, hread, hm⟩ := Except.map_eq_ok_iff.1 hsites
  obtain ⟨hiff, -, hfailure⟩ := @parse_firstFlaw "r" text .standard m hread
  have herror := (hfailure (.malformed "r" (.invalidElementName "B.C" "n.E"))).2
    ⟨[.commonNamespace "n", .entry .type 0 none (some "E"), .element "n.E" "A"],
      .element "n.E" "B.C", [.entry .type 1 none (some "a-b")], hm, by decide +kernel,
      by decide +kernel, rfl⟩
  refine ⟨m, hread, fun hsound => ?_, herror⟩
  obtain ⟨i, hi⟩ := hiff.2 hsound
  rw [herror] at hi
  cases hi

end Interface

end InterfaceDocs
