import Mathlib.Control.Monad.Basic
import InterfaceDocs.Interface
import InterfaceDocs.Proofs.Metadata.Resolve

/-!
# Which elements share a key

A `Place` is an element of an interface together with what encloses it; the elements are those of the
places, in order (`elements_eq`).  Where all names follow the rules, a key is read back from its end:
no point stands in the name of a member or parameter, and no number sign in any name.  So two elements
share a key only as `Place.SharesKey` lists it (`Interface.key_eq_iff`), of which the one case with
elements of different shape is a member `m` of a type `t` and a type or service called `t.m`.
-/

namespace InterfaceDocs

/-! ## Places -/

/-- An element and what encloses it. -/
inductive Place
  | type (t : TypeDecl)
  | member (t : TypeDecl) (m : Leaf)
  | service (s : Service)
  | method (s : Service) (m : Method)
  | param (s : Service) (m : Method) (p : Leaf)

namespace Place

def element : Place → Element
  | type t => ⟨t.name, .type, t.doc⟩
  | member t m => ⟨memberKey t.name m.name, .member, m.doc⟩
  | service s => ⟨s.name, .service, s.doc⟩
  | method s m => ⟨methodKey s.name m.name, .method, m.doc⟩
  | param s m p => ⟨paramKey (methodKey s.name m.name) p.name, .param, p.doc⟩

/-- The full name of a type or a service. -/
def fullName? : Place → Option String
  | type t => some t.name
  | service s => some s.name
  | _ => none

/-- Two elements with the same names, or a member whose key is the name of a type or service. -/
inductive SharesKey : Place → Place → Prop
  /-- Two types or services, in any mix, of the same name. -/
  | named {x y : Place} {name : String} (hx : x.fullName? = some name) (hy : y.fullName? = some name) :
    SharesKey x y
  /-- Two members of the same name, whose types have the same name. -/
  | members {t u : TypeDecl} {m l : Leaf} (owner : t.name = u.name) (name : m.name = l.name) :
    SharesKey (member t m) (member u l)
  /-- A member `m` of a type `t`, and a type or service called `t.m`. -/
  | memberNamed {t : TypeDecl} {m : Leaf} {y : Place}
    (hy : y.fullName? = some (t.name ++ "." ++ m.name)) : SharesKey (member t m) y
  | namedMember {t : TypeDecl} {m : Leaf} {x : Place}
    (hx : x.fullName? = some (t.name ++ "." ++ m.name)) : SharesKey x (member t m)
  /-- Two methods of the same name, whose services have the same name. -/
  | methods {s r : Service} {m n : Method} (owner : s.name = r.name) (name : m.name = n.name) :
    SharesKey (method s m) (method r n)
  /-- Two parameters of the same name, whose methods and services have the same names. -/
  | params {s r : Service} {m n : Method} {p l : Leaf} (service : s.name = r.name)
    (method : m.name = n.name) (name : p.name = l.name) : SharesKey (param s m p) (param r n l)

end Place

def TypeDecl.places (t : TypeDecl) : List Place := .type t :: t.members.map (.member t)

def Method.places (s : Service) (m : Method) : List Place := .method s m :: m.params.map (.param s m)

def Service.places (s : Service) : List Place := .service s :: s.methods.flatMap (Method.places s)

/-- All places of an interface, in the order of declaration. -/
def Interface.places (i : Interface) : List Place :=
  i.types.flatMap TypeDecl.places ++ i.services.flatMap Service.places

theorem TypeDecl.elements_eq (t : TypeDecl) : t.elements = t.places.map Place.element := by
  unfold TypeDecl.elements TypeDecl.places
  rw [List.map_cons, List.map_map]
  rfl

theorem Method.elements_eq (s : Service) (m : Method) :
    m.elements s.name = (m.places s).map Place.element := by
  unfold Method.elements Method.places
  rw [List.map_cons, List.map_map]
  rfl

theorem Service.elements_eq (s : Service) : s.elements = s.places.map Place.element := by
  unfold Service.elements Service.places
  rw [List.map_cons, List.map_flatMap]
  simp only [← Method.elements_eq]
  rfl

theorem Interface.elements_eq (i : Interface) : i.elements = i.places.map Place.element := by
  unfold Interface.elements Interface.places
  rw [List.map_append, List.map_flatMap, List.map_flatMap]
  simp only [← TypeDecl.elements_eq, ← Service.elements_eq]

/-! ## Keys read back -/

/-- The key of a member is read back at its last point. -/
theorem memberKey_inj {owner owner' name name' : String} (h : Name.isIdentifier name)
    (h' : Name.isIdentifier name') :
    memberKey owner name = memberKey owner' name' ↔ owner = owner' ∧ name = name' := by
  unfold memberKey
  rw [show "." = String.singleton '.' from rfl]
  exact Text.append_singleton_inj (Name.point_not_mem h) (Name.point_not_mem h')

/-- What stands before and behind the last number sign is read back. -/
theorem methodKey_inj {service service' name name' : String} (h : '#' ∉ name.toList)
    (h' : '#' ∉ name'.toList) :
    methodKey service name = methodKey service' name' ↔ service = service' ∧ name = name' := by
  unfold methodKey
  rw [show "#" = String.singleton '#' from rfl]
  exact Text.append_singleton_inj h h'

theorem paramKey_eq (service method name : String) :
    paramKey (methodKey service method) name = methodKey service (memberKey method name) := by
  simp only [paramKey, methodKey, memberKey, String.append_assoc]

theorem mem_memberKey {owner name : String} {c : Char} :
    c ∈ (memberKey owner name).toList ↔ c ∈ owner.toList ∨ c = '.' ∨ c ∈ name.toList := by
  simp [memberKey]

theorem mem_methodKey {service name : String} {c : Char} :
    c ∈ (methodKey service name).toList ↔ c ∈ service.toList ∨ c = '#' ∨ c ∈ name.toList := by
  simp [methodKey]

theorem sign_not_mem_memberKey {owner name : String} (ho : '#' ∉ owner.toList)
    (hn : '#' ∉ name.toList) : '#' ∉ (memberKey owner name).toList := by
  simp [mem_memberKey, ho, hn]

namespace Place

/-! ## Well-named places -/

def IsWellNamed : Place → Prop
  | type t => Name.isPath t.name
  | member t m => Name.isPath t.name ∧ Name.isIdentifier m.name
  | service s => Name.isPath s.name
  | method s m => Name.isPath s.name ∧ Name.isIdentifier m.name
  | param s m p => Name.isPath s.name ∧ Name.isIdentifier m.name ∧ Name.isIdentifier p.name

/-- The key of a place is made of the letters of names, points and number signs. -/
theorem letter_of_mem_key {x : Place} (hx : x.IsWellNamed) {c : Char}
    (hc : c ∈ x.element.key.toList) : Name.continuesIdentifier c ∨ c = '.' ∨ c = '#' := by
  have hpath : ∀ {t : String}, Name.isPath t → c ∈ t.toList →
      Name.continuesIdentifier c ∨ c = '.' ∨ c = '#' :=
    fun ht hc => (Name.continuesIdentifier_or_point_of_mem ht hc).imp_right .inl
  have hname : ∀ {t : String}, Name.isIdentifier t → c ∈ t.toList →
      Name.continuesIdentifier c ∨ c = '.' ∨ c = '#' :=
    fun ht hc => .inl (Name.continuesIdentifier_of_mem ht hc)
  cases x with
  | type t => exact hpath hx hc
  | member t m =>
    rcases mem_memberKey.1 hc with hc | hc | hc
    · exact hpath hx.1 hc
    · exact .inr (.inl hc)
    · exact hname hx.2 hc
  | service s => exact hpath hx hc
  | method s m =>
    rcases mem_methodKey.1 hc with hc | hc | hc
    · exact hpath hx.1 hc
    · exact .inr (.inr hc)
    · exact hname hx.2 hc
  | param s m p =>
    obtain ⟨hs, hm, hp⟩ := hx
    rw [element, paramKey_eq] at hc
    rcases mem_methodKey.1 hc with hc | hc | hc
    · exact hpath hs hc
    · exact .inr (.inr hc)
    · rcases mem_memberKey.1 hc with hc | hc | hc
      · exact hname hm hc
      · exact .inr (.inl hc)
      · exact hname hp hc

/-- The service of a method or parameter, and what stands behind the number sign. -/
def methodPart? : Place → Option (String × String)
  | method s m => some (s.name, m.name)
  | param s m p => some (s.name, memberKey m.name p.name)
  | _ => none

theorem key_of_methodPart {x : Place} {service rest : String}
    (h : x.methodPart? = some (service, rest)) : x.element.key = methodKey service rest := by
  cases x with
  | type t => cases h
  | member t m => cases h
  | service s => cases h
  | method s m =>
    cases h
    rfl
  | param s m p =>
    cases h
    exact paramKey_eq s.name m.name p.name

theorem sign_not_mem_methodPart {x : Place} (hx : x.IsWellNamed) {service rest : String}
    (h : x.methodPart? = some (service, rest)) : '#' ∉ rest.toList := by
  cases x with
  | type t => cases h
  | member t m => cases h
  | service s => cases h
  | method s m =>
    cases h
    exact Name.sign_not_mem hx.2
  | param s m p =>
    cases h
    obtain ⟨-, hm, hp⟩ := hx
    exact sign_not_mem_memberKey (Name.sign_not_mem hm) (Name.sign_not_mem hp)

/-- Outside of methods there are the types and services, whose keys are their names, and members. -/
theorem cases_of_no_methodPart {x : Place} (h : x.methodPart? = none) :
    x.fullName? = some x.element.key ∨ ∃ t m, x = member t m := by
  cases x with
  | type t => exact .inl rfl
  | service s => exact .inl rfl
  | member t m => exact .inr ⟨t, m, rfl⟩
  | method s m => cases h
  | param s m p => cases h

theorem sign_not_mem_key {x : Place} (hx : x.IsWellNamed) (h : x.methodPart? = none) :
    '#' ∉ x.element.key.toList := by
  cases x with
  | type t => exact Name.sign_not_mem_path hx
  | service s => exact Name.sign_not_mem_path hx
  | member t m => exact sign_not_mem_memberKey (Name.sign_not_mem_path hx.1) (Name.sign_not_mem hx.2)
  | method s m => cases h
  | param s m p => cases h

/-- What stands before and behind the number sign can be told from the key. -/
theorem methodPart?_eq_of_key_eq {x y : Place} (hx : x.IsWellNamed) (hy : y.IsWellNamed)
    (h : x.element.key = y.element.key) : x.methodPart? = y.methodPart? := by
  have hmixed : ∀ {x y : Place}, y.IsWellNamed → x.element.key = y.element.key →
      ∀ part, x.methodPart? = some part → y.methodPart? ≠ none := by
    rintro x y hy h ⟨service, rest⟩ hxp hyn
    have hsign := sign_not_mem_key hy hyn
    rw [← h, key_of_methodPart hxp] at hsign
    exact hsign (mem_methodKey.2 (.inr (.inl rfl)))
  cases hxp : x.methodPart? with
  | none =>
    cases hyp : y.methodPart? with
    | none => rfl
    | some part => exact absurd hxp (hmixed hx h.symm part hyp)
  | some part =>
    cases hyp : y.methodPart? with
    | none => exact absurd hyp (hmixed hy h part hxp)
    | some part' =>
      have hr := sign_not_mem_methodPart hx hxp
      have hr' := sign_not_mem_methodPart hy hyp
      rw [key_of_methodPart hxp, key_of_methodPart hyp, methodKey_inj hr hr'] at h
      rw [Prod.ext h.1 h.2]

theorem element_key_of_fullName {x : Place} {name : String} (h : x.fullName? = some name) :
    x.element.key = name := by
  cases x with
  | type t => exact Option.some.inj h
  | service s => exact Option.some.inj h
  | member t m => cases h
  | method s m => cases h
  | param s m p => cases h

/-! ## Shared keys -/

theorem SharesKey.key_eq {x y : Place} (h : SharesKey x y) : x.element.key = y.element.key := by
  cases h with
  | named hx hy => rw [element_key_of_fullName hx, element_key_of_fullName hy]
  | members owner name => simp [element, owner, name]
  | memberNamed hy =>
    rw [element_key_of_fullName hy]
    rfl
  | namedMember hx =>
    rw [element_key_of_fullName hx]
    rfl
  | methods owner name => simp [element, owner, name]
  | params service method name => simp [element, service, method, name]

/-- Outside of methods, the names of types are dotted like the keys of members. -/
theorem sharesKey_of_no_methodPart {x y : Place} (hx : x.IsWellNamed) (hy : y.IsWellNamed)
    (hxn : x.methodPart? = none) (hyn : y.methodPart? = none)
    (h : x.element.key = y.element.key) : SharesKey x y := by
  rcases cases_of_no_methodPart hxn with hxf | ⟨t, m, rfl⟩
  · rcases cases_of_no_methodPart hyn with hyf | ⟨u, l, rfl⟩
    · rw [h] at hxf
      exact .named hxf hyf
    · rw [h] at hxf
      exact .namedMember hxf
  · rcases cases_of_no_methodPart hyn with hyf | ⟨u, l, rfl⟩
    · rw [← h] at hyf
      exact .memberNamed hyf
    · obtain ⟨howner, hname⟩ := (memberKey_inj hx.2 hy.2).1 h
      exact .members howner hname

/-- Behind the number sign stands a name, or two names with a point between them. -/
theorem sharesKey_of_methodPart {x y : Place} (hx : x.IsWellNamed) (hy : y.IsWellNamed)
    {part : String × String} (hxp : x.methodPart? = some part) (hyp : y.methodPart? = some part) :
    SharesKey x y := by
  have hpoint : ∀ {m n p : String}, Name.isIdentifier m → m ≠ memberKey n p := by
    rintro m n p hm rfl
    exact Name.point_not_mem hm (by simp [memberKey])
  rw [← hyp] at hxp
  cases x with
  | type t =>
    rw [hyp] at hxp
    cases hxp
  | member t m =>
    rw [hyp] at hxp
    cases hxp
  | service s =>
    rw [hyp] at hxp
    cases hxp
  | method s m =>
    cases y with
    | type u => cases hyp
    | member u l => cases hyp
    | service r => cases hyp
    | method r n =>
      obtain ⟨howner, hname⟩ := Prod.mk.inj (Option.some.inj hxp)
      exact .methods howner hname
    | param r n l =>
      obtain ⟨-, hname⟩ := Prod.mk.inj (Option.some.inj hxp)
      exact absurd hname (hpoint hx.2)
  | param s m p =>
    cases y with
    | type u => cases hyp
    | member u l => cases hyp
    | service r => cases hyp
    | method r n =>
      obtain ⟨-, hname⟩ := Prod.mk.inj (Option.some.inj hxp)
      exact absurd hname.symm (hpoint hy.2)
    | param r n l =>
      obtain ⟨hservice, hrest⟩ := Prod.mk.inj (Option.some.inj hxp)
      obtain ⟨hmethod, hname⟩ := (memberKey_inj hx.2.2 hy.2.2).1 hrest
      exact .params hservice hmethod hname

/-- Elements whose names follow the rules share a key exactly in the listed cases. -/
theorem key_eq_iff_sharesKey {x y : Place} (hx : x.IsWellNamed) (hy : y.IsWellNamed) :
    x.element.key = y.element.key ↔ SharesKey x y := by
  constructor
  · intro h
    have hpart := methodPart?_eq_of_key_eq hx hy h
    cases hxp : x.methodPart? with
    | none => exact sharesKey_of_no_methodPart hx hy hxp (hpart ▸ hxp) h
    | some part => exact sharesKey_of_methodPart hx hy hxp (hpart ▸ hxp)
  · exact SharesKey.key_eq

/-- Methods share keys with methods only, and parameters with parameters. -/
theorem SharesKey.kind_iff {x y : Place} (h : SharesKey x y) :
    (x.element.kind = .method ↔ y.element.kind = .method) ∧
      (x.element.kind = .param ↔ y.element.kind = .param) := by
  have hnamed : ∀ {z : Place} {name : String}, z.fullName? = some name →
      z.element.kind ≠ .method ∧ z.element.kind ≠ .param := by
    intro z name hz
    cases z with
    | type t => exact ⟨nofun, nofun⟩
    | service s => exact ⟨nofun, nofun⟩
    | member t m => cases hz
    | method s m => cases hz
    | param s m p => cases hz
  cases h with
  | named hx hy => simp [hnamed hx, hnamed hy]
  | members owner name => exact ⟨Iff.rfl, Iff.rfl⟩
  | @memberNamed t m y hy => simp [hnamed hy, show (member t m).element.kind = .member from rfl]
  | @namedMember t m x hx => simp [hnamed hx, show (member t m).element.kind = .member from rfl]
  | methods owner name => exact ⟨Iff.rfl, Iff.rfl⟩
  | params service method name => exact ⟨Iff.rfl, Iff.rfl⟩

end Place

/-! ## Interfaces of resources -/

theorem Interface.IsWellNamed.places {i : Interface} (h : i.IsWellNamed) :
    ∀ x ∈ i.places, x.IsWellNamed := by
  intro x hx
  unfold Interface.places at hx
  rcases List.mem_append.1 hx with hx | hx
  · obtain ⟨t, ht, hx⟩ := List.mem_flatMap.1 hx
    obtain ⟨hpath, hmembers⟩ := h.types t ht
    rcases List.mem_cons.1 hx with rfl | hx
    · exact hpath
    · obtain ⟨m, hm, rfl⟩ := List.mem_map.1 hx
      exact ⟨hpath, hmembers m hm⟩
  · obtain ⟨s, hs, hx⟩ := List.mem_flatMap.1 hx
    obtain ⟨hpath, hmethods⟩ := h.services s hs
    rcases List.mem_cons.1 hx with rfl | hx
    · exact hpath
    · obtain ⟨m, hm, hx⟩ := List.mem_flatMap.1 hx
      obtain ⟨hname, hparams⟩ := hmethods m hm
      rcases List.mem_cons.1 hx with rfl | hx
      · exact ⟨hpath, hname⟩
      · obtain ⟨p, hp, rfl⟩ := List.mem_map.1 hx
        exact ⟨hpath, hname, hparams p hp⟩

/-- **Which elements share a key.**  The elements of an interface are those of its places, in order;
any two of them share a key exactly in the cases that `Place.SharesKey` lists; so a method and a
parameter never share one with each other, nor with a type, a member or a service. -/
theorem Interface.key_eq_iff {resource : String} {s : Bytes} {settings : Settings} {i : Interface}
    (h : (parse resource s settings).value = .ok i) :
    i.elements = i.places.map Place.element ∧
    (∀ x ∈ i.places, ∀ y ∈ i.places, x.element.key = y.element.key ↔ x.SharesKey y) ∧
    ∀ e ∈ i.elements, ∀ e' ∈ i.elements, e.key = e'.key →
      (e.kind = .method ↔ e'.kind = .method) ∧ (e.kind = .param ↔ e'.kind = .param) := by
  have hwell := (isWellNamed_of_parse h).places
  have hiff : ∀ x ∈ i.places, ∀ y ∈ i.places, x.element.key = y.element.key ↔ x.SharesKey y :=
    fun x hx y hy => Place.key_eq_iff_sharesKey (hwell x hx) (hwell y hy)
  refine ⟨i.elements_eq, hiff, fun e he e' he' hkey => ?_⟩
  rw [i.elements_eq] at he he'
  obtain ⟨x, hx, rfl⟩ := List.mem_map.1 he
  obtain ⟨y, hy, rfl⟩ := List.mem_map.1 he'
  exact ((hiff x hx y hy).1 hkey).kind_iff

/-- A type with a member, and a service whose name is the key of the member. -/
theorem Interface.key_eq_memberNamed :
    let text := Bytes.ofString
        "\x7b\"types\":[\x7b\"qualifiedName\":\"a.T\",\"members\":[\x7b\"name\":\"m\"\x7d]\x7d],"
      ++ Bytes.ofString "\"services\":[\x7b\"qualifiedName\":\"a.T.m\",\"methods\":[]\x7d]\x7d"
    let t : TypeDecl := ⟨"a.T", none, [⟨"m", none⟩]⟩
    let s : Service := ⟨"a.T.m", none, []⟩
    (parse "r" text .standard).value = .ok ⟨[t], [s]⟩ ∧
      (Place.member t ⟨"m", none⟩).element.key = (Place.service s).element.key ∧
      (Place.type t).element.key ≠ (Place.service s).element.key := by
  intro text t s
  have h : (parse "r" text .standard).value = .ok ⟨[t], [s]⟩ := by decide +kernel
  obtain ⟨-, hiff, -⟩ := key_eq_iff h
  have htype : Place.type t ∈ Interface.places ⟨[t], [s]⟩ := List.mem_cons_self
  have hmember : Place.member t ⟨"m", none⟩ ∈ Interface.places ⟨[t], [s]⟩ :=
    List.mem_cons_of_mem _ List.mem_cons_self
  have hservice : Place.service s ∈ Interface.places ⟨[t], [s]⟩ :=
    List.mem_cons_of_mem _ (List.mem_cons_of_mem _ List.mem_cons_self)
  refine ⟨h, (hiff _ hmember _ hservice).2 (.memberNamed rfl), fun hkey => ?_⟩
  cases (hiff _ htype _ hservice).1 hkey with
  | named hx hy =>
    cases hx
    exact absurd hy (by decide)

end InterfaceDocs
