import Mathlib.Data.List.TakeDrop
import Mathlib.Data.List.TakeWhile
import InterfaceDocs.Proofs.Report.Links

/-!
# Keys lead back to methods

The key of a method or a parameter is split into the names of its service and its method, and no other
key is (`Place.splitMethodKey?_key`), since no number sign stands in a name and no point in the name of a
method.  So the section of an element names a method exactly if it is one or a parameter of one, and names
its own (`Place.entrySection_key`):

    ### ns.Service#method.param

    _RPC `method` of `ns.Service`_

    The docstring of the parameter.

A page is its head, the sections of elements that are declared, in the order of their keys, and the
failures (`Report.markdown_methods`).
-/

namespace InterfaceDocs

/-! ## Keys taken apart -/

theorem ne_of_not_mem {c : Char} {cs : List Char} (h : c ∉ cs) : ∀ d ∈ cs, decide (d ≠ c) = true := by
  intro d hd
  rw [decide_eq_true_iff]
  rintro rfl
  exact h hd

theorem splitMethodKey?_of_not_mem {key : String} (h : '#' ∉ key.toList) :
    splitMethodKey? key = none := by
  unfold splitMethodKey?
  rw [List.span_eq_takeWhile_dropWhile, List.dropWhile_eq_nil_iff.2 (ne_of_not_mem h)]

/-- A key is split at its number sign, and what stands behind it ends at the next point. -/
theorem splitMethodKey?_methodKey {service rest : String} (h : '#' ∉ service.toList) :
    splitMethodKey? (methodKey service rest) =
      some (service, String.ofList (rest.toList.takeWhile (· ≠ '.'))) := by
  have hchars : (methodKey service rest).toList = service.toList ++ '#' :: rest.toList := by
    simp [methodKey]
  unfold splitMethodKey?
  rw [List.span_eq_takeWhile_dropWhile, hchars, List.takeWhile_append_of_pos (ne_of_not_mem h),
    List.dropWhile_append_of_pos (ne_of_not_mem h), List.takeWhile_cons_of_neg (by simp),
    List.dropWhile_cons_of_neg (by simp), List.append_nil]
  simp

/-- A name ends where the text ends, or at the point behind it. -/
theorem takeWhile_point {name : String} (h : Name.isIdentifier name) (rest : List Char)
    (hrest : rest.head?.all (· = '.')) :
    String.ofList ((name.toList ++ rest).takeWhile (· ≠ '.')) = name := by
  rw [List.takeWhile_append_of_pos (ne_of_not_mem (Name.point_not_mem h))]
  cases rest with
  | nil => simp
  | cons c rest =>
    obtain rfl : c = '.' := by simpa using hrest
    simp

namespace Place

/-- The names of the service and the method that an element belongs to. -/
def methodNames? : Place → Option (String × String)
  | method s m | param s m _ => some (s.name, m.name)
  | _ => none

/-- The key of an element tells its service and its method, if it has them. -/
theorem splitMethodKey?_key {x : Place} (hx : x.IsWellNamed) :
    splitMethodKey? x.element.key = x.methodNames? := by
  cases x with
  | type t => exact splitMethodKey?_of_not_mem (sign_not_mem_key hx rfl)
  | member t m => exact splitMethodKey?_of_not_mem (sign_not_mem_key hx rfl)
  | service s => exact splitMethodKey?_of_not_mem (sign_not_mem_key hx rfl)
  | method s m =>
    obtain ⟨hs, hm⟩ := hx
    have hname := takeWhile_point hm [] rfl
    rw [List.append_nil] at hname
    rw [element, splitMethodKey?_methodKey (Name.sign_not_mem_path hs), hname]
    rfl
  | param s m p =>
    obtain ⟨hs, hm, -⟩ := hx
    have hname := takeWhile_point hm ('.' :: p.name.toList) rfl
    have hchars : (memberKey m.name p.name).toList = m.name.toList ++ '.' :: p.name.toList := by
      simp [memberKey]
    rw [element, paramKey_eq, splitMethodKey?_methodKey (Name.sign_not_mem_path hs), hchars, hname]
    rfl

end Place

/-! ## The form of keys -/

/-- A path, or a path and behind a number sign an identifier, or two with a point between them. -/
def IsKeyForm (k : String) : Prop :=
  Name.isPath k ∨ ∃ service method, Name.isPath service ∧ Name.isIdentifier method ∧
    (k = service ++ "#" ++ method ∨
      ∃ param, Name.isIdentifier param ∧ k = service ++ "#" ++ method ++ "." ++ param)

theorem Name.isPath_of_isIdentifier {t : String} (h : Name.isIdentifier t) : Name.isPath t := by
  unfold Name.isPath
  rw [Text.pieces_of_not_mem (Name.point_not_mem h), List.all_cons, List.all_nil, Bool.and_true]
  exact h

theorem IsKey.isKeyForm {k : String} (h : IsKey k) : IsKeyForm k := by
  obtain ⟨x, hx, rfl⟩ := h
  cases x with
  | type t => exact .inl hx
  | member t m =>
    left
    show Name.isPath (t.name ++ "." ++ m.name)
    rw [Name.isPath_append_point, hx.1, Name.isPath_of_isIdentifier hx.2]
    rfl
  | service s => exact .inl hx
  | method s m => exact .inr ⟨s.name, m.name, hx.1, hx.2, .inl rfl⟩
  | param s m p => exact .inr ⟨s.name, m.name, hx.1, hx.2.1, .inr ⟨p.name, hx.2.2, rfl⟩⟩

/-! ## Sections -/

namespace Place

/-- The line that names the method that the element belongs to, and a blank line. -/
def methodText : Place → String
  | method s m | param s m _ => "_RPC `" ++ m.name ++ "` of `" ++ s.name ++ "`_\n\n"
  | _ => ""

/-- The docstring and a blank line; an empty docstring leaves nothing. -/
def docText (doc : String) : String := if doc = "" then "" else Text.trimEnd doc ++ "\n\n"

/-- The section of a documented element. -/
def sectionText (x : Place) : String :=
  "### " ++ x.element.key ++ "\n\n" ++ x.methodText ++ docText (x.element.doc.getD "")

end Place

/-- Lines with a line break between them, and one at the end. -/
theorem intercalate_newline (t : String) (ts : List String) :
    "\n".intercalate (t :: ts) ++ "\n" = t ++ "\n" ++ String.join (ts.map (· ++ "\n")) := by
  induction ts generalizing t with
  | nil => simp
  | cons u ts ih =>
    rw [String.intercalate_cons_of_ne_nil (List.cons_ne_nil u ts), String.append_assoc, ih,
      List.map_cons, String.join_cons, String.append_assoc]

theorem Place.join_methodLines {x : Place} (hx : x.IsWellNamed) :
    String.join ((Report.methodLines x.element.key).map (· ++ "\n")) = x.methodText := by
  unfold Report.methodLines
  rw [splitMethodKey?_key hx]
  cases x with
  | type t => rfl
  | member t m => rfl
  | service s => rfl
  | method s m => simp [methodNames?, methodText, String.append_assoc]
  | param s m p => simp [methodNames?, methodText, String.append_assoc]

/-- The section of a key is that of the element that has the key. -/
theorem Place.entrySection_key {x : Place} (hx : x.IsWellNamed) {doc : String}
    (hdoc : x.element.doc = some doc) : Report.entrySection x.element.key doc = x.sectionText := by
  have hlines : String.join ((Report.docLines doc).map (· ++ "\n")) = docText doc := by
    unfold Report.docLines docText
    split
    · rfl
    · simp [String.append_assoc]
  unfold Report.entrySection sectionText
  rw [intercalate_newline, List.map_append, String.join_append, join_methodLines hx, hlines, hdoc]
  simp [String.append_assoc]

/-! ## Pages -/

namespace Report

/-- Every entry is one of a declared element. -/
theorem exists_places {docs : Docs} (h : docs.IsBuilt) {es : List (String × String)}
    (hes : ∀ e ∈ es, docs[e.1]? = some e.2) :
    ∃ xs : List Place, (∀ x ∈ xs, x.IsDeclared) ∧
      xs.map (fun x => (x.element.key, x.element.doc)) = es.map fun e => (e.1, some e.2) := by
  induction es with
  | nil => exact ⟨[], List.forall_mem_nil _, rfl⟩
  | cons e es ih =>
    obtain ⟨he, hrest⟩ := List.forall_mem_cons.1 hes
    obtain ⟨x, hx, hkey, hdoc⟩ := h.exists_place he
    obtain ⟨xs, hxs, heq⟩ := ih hrest
    refine ⟨x :: xs, List.forall_mem_cons.2 ⟨hx, hxs⟩, ?_⟩
    rw [List.map_cons, List.map_cons, heq, hkey, hdoc]

/-- The sections of entries are those of the elements that they document. -/
theorem map_entrySection {xs : List Place} (hxs : ∀ x ∈ xs, x.IsDeclared)
    {es : List (String × String)}
    (h : xs.map (fun x => (x.element.key, x.element.doc)) = es.map fun e => (e.1, some e.2)) :
    es.map (fun e => entrySection e.1 e.2) = xs.map Place.sectionText := by
  induction es generalizing xs with
  | nil =>
    rw [List.map_nil, List.map_eq_nil_iff] at h
    rw [h]
    rfl
  | cons e es ih =>
    obtain ⟨x, xs', rfl, hx, hrest⟩ := List.map_eq_cons_iff.1 h
    obtain ⟨hdeclared, hxs'⟩ := List.forall_mem_cons.1 hxs
    obtain ⟨hkey, hdoc⟩ := Prod.mk.inj hx
    rw [List.map_cons, List.map_cons, ih hxs' hrest, ← hkey,
      Place.entrySection_key hdeclared.isWellNamed hdoc]

/-- **Keys lead back to the methods that they belong to.**

* In an interface that is accepted, splitting the key of an element gives the names of its service and
  its method if it is a method or a parameter, and nothing otherwise.
* Every catalogue, and all docstrings that a store gives, are built from resources.
* Keys of docstrings that are built from resources have the form of a path, or of a path and a method,
  or of a path, a method and a parameter.  Their page has a section for each key, that of a declared
  element with this key and docstring, and in it the line about a method for methods and parameters,
  with the names of their own service and method, and for nothing else. -/
theorem markdown_methods :
    (∀ {resource : String} {s : Bytes} {settings : Settings} {i : Interface},
      (Interface.parse resource s settings).value = .ok i →
        i.elements = i.places.map Place.element ∧
        ∀ x ∈ i.places, splitMethodKey? x.element.key = x.methodNames?) ∧
    (∀ (s : Store) (settings : Settings),
      (∀ resources, (s.catalogueOf settings resources).value.docs.IsBuilt) ∧
      ∀ docs, s.Gives settings docs → docs.IsBuilt) ∧
    ∀ r : Report, r.docs.IsBuilt →
      (∀ k ∈ r.docs, IsKeyForm k) ∧
      ∃ xs : List Place, (∀ x ∈ xs, x.IsDeclared) ∧
        xs.map (fun x => (x.element.key, x.element.doc)) =
          r.docs.toList.map (fun e => (e.1, some e.2)) ∧
        r.markdown = head r.links ++ String.join (xs.map Place.sectionText) ++ failureList r.failures := by
  refine ⟨fun {_ _ _ i} hi => ⟨i.elements_eq, fun x hx => ?_⟩, fun s settings => ?_, fun r hr => ?_⟩
  · exact Place.splitMethodKey?_key ((Interface.isWellNamed_of_parse hi).places x hx)
  · exact ⟨s.isBuilt_catalogueOf settings, fun docs hdocs => hdocs.isBuilt⟩
  · obtain ⟨xs, hxs, heq⟩ := exists_places hr fun e he =>
      Std.ExtTreeMap.mem_toList_iff_getElem?_eq_some.1 (show (e.1, e.2) ∈ r.docs.toList from he)
    refine ⟨fun k hk => (hr.isKey hk).isKeyForm, xs, hxs, heq, ?_⟩
    rw [head_links, ← map_entrySection hxs heq]
    rfl

/-- A method with a parameter. -/
theorem markdown_methods_oneParameter :
    let text := Bytes.ofString
        "\x7b\"services\":[\x7b\"name\":\"S\",\"methods\":[\x7b\"name\":\"get\",\"doc\":\"Gets.\","
      ++ Bytes.ofString "\"params\":[\x7b\"name\":\"id\",\"doc\":\"\"\x7d]\x7d]\x7d]\x7d"
    let p : Leaf := ⟨"id", some ""⟩
    let m : Method := ⟨"get", some "Gets.", [p]⟩
    let s : Service := ⟨"S", none, [m]⟩
    (Interface.parse "r" text .standard).value = .ok ⟨[], [s]⟩ ∧
      splitMethodKey? (Place.param s m p).element.key = some ("S", "get") ∧
      ∃ docs, (Docs.parse "r" text .standard).value = .ok docs ∧ docs.IsBuilt ∧
        ∃ xs : List Place, xs.map (fun x => x.element.key) = ["S#get", "S#get.id"] ∧
          (Report.mk docs []).markdown =
            head (Report.mk docs []).links ++ String.join (xs.map Place.sectionText) ++ "" := by
  intro text p m s
  obtain ⟨hsplit, -, hpage⟩ := markdown_methods
  have hparse : (Interface.parse "r" text .standard).value = .ok ⟨[], [s]⟩ := by decide +kernel
  have hkeys : (Docs.parse "r" text .standard).value.map (fun docs => docs.toList.map Prod.fst) =
      .ok ["S#get", "S#get.id"] := by
    decide +kernel
  obtain ⟨docs, hdocs, hkeys⟩ := Except.map_eq_ok_iff.1 hkeys
  obtain ⟨-, xs, -, hxs, hmarkdown⟩ := hpage ⟨docs, []⟩ (.parsed hdocs)
  refine ⟨hparse, (hsplit hparse).2 (.param s m p) ?_, docs, hdocs, .parsed hdocs, xs, ?_, hmarkdown⟩
  · simp [Interface.places, Service.places, Method.places, s, m]
  · have hfst := congrArg (List.map Prod.fst) hxs
    rw [List.map_map, List.map_map] at hfst
    exact hfst.trans hkeys

end Report

end InterfaceDocs
