import Mathlib.Data.List.Nodup
import InterfaceDocs.Proofs.Docs.Collect

/-!
# What the preferred scopes decide

Two settings may prefer different namespaces, and so put different stems before the bare names of a
document.  Nothing else comes of it (`Interface.parse_preference`): a resource is accepted with both
or with neither, and the interfaces agree but for what stands before the bare names.

Where all names are bare, all keys are: what is behind a stem `p` is the same as without one, with `p`
before every key (`elements_behind`).

    (m.behind p).elements = (m.behind "").elements.map (Element.behind p)

Keys are then repeated with both stems or with neither, and a key has the same docstring
(`Docs.SameBehind`).
-/

namespace InterfaceDocs

/-! ## Elements behind a stem -/

/-- An element with a stem before its key. -/
def Element.behind (stem : String) (e : Element) : Element := { e with key := stem ++ e.key }

theorem append_right_injective (stem : String) : Function.Injective (stem ++ ·) := by
  intro a b h
  have hchars := congrArg String.toList h
  simp only [String.toList_append] at hchars
  exact String.toList_injective (List.append_cancel_left hchars)

theorem map_key_behind (stem : String) (es : List Element) :
    (es.map (Element.behind stem)).map Element.key = (es.map Element.key).map (stem ++ ·) := by
  rw [List.map_map, List.map_map]
  rfl

theorem nodup_keys_behind (stem : String) (es : List Element) :
    ((es.map (Element.behind stem)).map Element.key).Nodup ↔ (es.map Element.key).Nodup := by
  rw [map_key_behind]
  exact List.nodup_map_iff (append_right_injective stem)

theorem TypeDecl.elements_behind (stem name : String) (doc : Option String) (members : List Leaf) :
    TypeDecl.elements ⟨stem ++ name, doc, members⟩ =
      (TypeDecl.elements ⟨name, doc, members⟩).map (Element.behind stem) := by
  simp [elements, Element.behind, memberKey, String.append_assoc]

theorem Method.elements_behind (stem service : String) (m : Method) :
    m.elements (stem ++ service) = (m.elements service).map (Element.behind stem) := by
  simp [elements, Element.behind, methodKey, paramKey, String.append_assoc]

theorem Service.elements_behind (stem name : String) (doc : Option String) (methods : List Method) :
    Service.elements ⟨stem ++ name, doc, methods⟩ =
      (Service.elements ⟨name, doc, methods⟩).map (Element.behind stem) := by
  unfold elements
  rw [List.map_cons, List.map_flatMap,
    List.flatMap_congr fun m _ => Method.elements_behind stem name m]
  rfl

namespace Metadata

/-- All names in the metadata are bare. -/
def IsBare (m : Metadata) : Prop :=
  (∀ e ∈ m.allTypes, e.qualifiedName = none) ∧ ∀ e ∈ m.services, e.qualifiedName = none

instance (m : Metadata) : Decidable m.IsBare := inferInstanceAs (Decidable (_ ∧ _))

theorem nameBehind_bare {qualified bare : Option String} (hbare : qualified = none)
    (h : HasPath qualified bare) (stem : String) :
    nameBehind stem qualified bare = stem ++ nameBehind "" qualified bare := by
  obtain ⟨name, hname, -⟩ := h
  subst hbare
  obtain rfl : bare = some name := hname
  show stem ++ name = stem ++ ("" ++ name)
  rw [String.empty_append]

theorem elements_behind {m : Metadata} (h : m.IsSound) (hbare : m.IsBare) (stem : String) :
    (m.behind stem).elements = (m.behind "").elements.map (Element.behind stem) := by
  have htypes : ∀ e ∈ m.allTypes, (e.behind stem).elements =
      (e.behind "").elements.map (Element.behind stem) := by
    intro e he
    unfold TypeEntry.behind
    rw [nameBehind_bare (hbare.1 e he) (h.types e he).1 stem]
    exact TypeDecl.elements_behind stem _ _ _
  have hservices : ∀ e ∈ m.services, (e.behind stem).elements =
      (e.behind "").elements.map (Element.behind stem) := by
    intro e he
    unfold ServiceEntry.behind
    rw [nameBehind_bare (hbare.2 e he) (h.services e he).1 stem]
    exact Service.elements_behind stem _ _ _
  unfold Interface.elements behind
  rw [List.map_append, List.map_flatMap, List.map_flatMap, List.flatMap_map, List.flatMap_map,
    List.flatMap_map, List.flatMap_map, List.flatMap_congr htypes, List.flatMap_congr hservices]

end Metadata

/-! ## Docstrings behind a stem -/

/-- Two maps have the same docstrings, one behind one stem and the other behind the other. -/
structure Docs.SameBehind (stem stem' : String) (docs docs' : Docs) : Prop where
  same : ∀ k, docs[stem ++ k]? = docs'[stem' ++ k]?
  left : ∀ k ∈ docs, ∃ n, k = stem ++ n
  right : ∀ k ∈ docs', ∃ n, k = stem' ++ n

section

variable {es : List Element} (h : (es.map Element.key).Nodup) (stem : String)

include h

theorem getElem?_documented_behind (k : String) :
    (documented (es.map (Element.behind stem)))[stem ++ k]? = (documented es)[k]? := by
  apply Option.ext
  intro d
  rw [getElem?_documented ((nodup_keys_behind stem es).2 h), getElem?_documented h]
  constructor
  · rintro ⟨e', he', hkey, hdoc⟩
    obtain ⟨e, he, rfl⟩ := List.mem_map.1 he'
    exact ⟨e, he, append_right_injective stem hkey, hdoc⟩
  · rintro ⟨e, he, rfl, hdoc⟩
    exact ⟨e.behind stem, List.mem_map.2 ⟨e, he, rfl⟩, rfl, hdoc⟩

theorem exists_of_mem_documented_behind {k : String}
    (hk : k ∈ documented (es.map (Element.behind stem))) : ∃ n, k = stem ++ n := by
  obtain ⟨e', he', rfl⟩ :=
    exists_element_of_mem_documented ((nodup_keys_behind stem es).2 h) hk
  obtain ⟨e, -, rfl⟩ := List.mem_map.1 he'
  exact ⟨e.key, rfl⟩

theorem sameBehind_documented (stem' : String) :
    Docs.SameBehind stem stem' (documented (es.map (Element.behind stem)))
      (documented (es.map (Element.behind stem'))) := by
  refine ⟨fun k => ?_, fun k hk => exists_of_mem_documented_behind h stem hk,
    fun k hk => exists_of_mem_documented_behind h stem' hk⟩
  rw [getElem?_documented_behind h, getElem?_documented_behind h]

end

/-! ## Two settings -/

/-- **The preferred scopes decide what stands before bare names, and nothing else.**  With any two
settings a resource is accepted by both or by neither.  If it is accepted, there is what each of them
puts before bare names, nothing or a path and a point, and apart from that the interfaces are the same.
If all names are bare, there are docstrings with both or with neither, and the same behind the two. -/
theorem Interface.parse_preference (resource : String) (s : Bytes) (settings settings' : Settings) :
    ((∃ i, (parse resource s settings).value = .ok i) ↔
      ∃ j, (parse resource s settings').value = .ok j) ∧
    ∀ i j, (parse resource s settings).value = .ok i →
      (parse resource s settings').value = .ok j →
      ∃ m stem stem', Metadata.read s = .ok m ∧ Name.IsStem stem ∧ Name.IsStem stem' ∧
        i = m.behind stem ∧ j = m.behind stem' ∧
        (m.IsBare →
          ((∃ docs, (Docs.parse resource s settings).value = .ok docs) ↔
            ∃ docs, (Docs.parse resource s settings').value = .ok docs) ∧
          ∀ docs docs', (Docs.parse resource s settings).value = .ok docs →
            (Docs.parse resource s settings').value = .ok docs' →
            docs.SameBehind stem stem' docs') := by
  constructor
  · simp only [parse_eq_ok_iff]
    constructor
    · rintro ⟨i, m, hread, hm, -⟩
      exact ⟨_, m, hread, hm, rfl⟩
    · rintro ⟨j, m, hread, hm, -⟩
      exact ⟨_, m, hread, hm, rfl⟩
  · intro i j hi hj
    obtain ⟨m, hread, hm, rfl⟩ := parse_eq_ok_iff.1 hi
    obtain ⟨m', hread', -, rfl⟩ := parse_eq_ok_iff.1 hj
    rw [hread] at hread'
    cases hread'
    refine ⟨m, _, _, hread, Metadata.isStem_stem hm.commonNamespace _,
      Metadata.isStem_stem hm.commonNamespace _, rfl, rfl, fun hbare => ?_⟩
    -- with either settings the docstrings are those of the elements without a stem, behind one
    have hdocs : ∀ settings docs, (Docs.parse resource s settings).value = .ok docs ↔
        ((m.behind "").elements.map Element.key).Nodup ∧ docs = documented
          ((m.behind "").elements.map (Element.behind (m.stem settings.namespaceScopes))) := by
      intro settings docs
      have hparse : (parse resource s settings).value = .ok _ :=
        parse_eq_ok_iff.2 ⟨m, hread, hm, rfl⟩
      rw [Docs.parse_eq_ok_iff, hparse]
      simp only [Except.ok.injEq, exists_eq_left']
      rw [Metadata.elements_behind hm hbare, nodup_keys_behind]
    constructor
    · simp only [hdocs]
      constructor
      · rintro ⟨docs, hnodup, -⟩
        exact ⟨_, hnodup, rfl⟩
      · rintro ⟨docs, hnodup, -⟩
        exact ⟨_, hnodup, rfl⟩
    · intro docs docs' hd hd'
      obtain ⟨hnodup, rfl⟩ := (hdocs settings docs).1 hd
      obtain ⟨-, rfl⟩ := (hdocs settings' docs').1 hd'
      exact sameBehind_documented hnodup _ _

/-- A bare name in a document with a namespace for each of two languages. -/
theorem Interface.parse_preference_twoLanguages :
    let text := Bytes.ofString
        "\x7b\"namespaces\":\x7b\"java\":\"a.b\",\"cpp\":\"c\"\x7d,"
      ++ Bytes.ofString "\"types\":[\x7b\"name\":\"T\",\"doc\":\"t\"\x7d]\x7d"
    let java : Settings := ⟨"d", ["java"], 100⟩
    let cpp : Settings := ⟨"d", ["cpp"], 100⟩
    (parse "r" text java).value = .ok ⟨[⟨"a.b.T", some "t", []⟩], []⟩ ∧
    (parse "r" text cpp).value = .ok ⟨[⟨"c.T", some "t", []⟩], []⟩ ∧
    ∃ stem stem' docs docs', Name.IsStem stem ∧ Name.IsStem stem' ∧
      (Docs.parse "r" text java).value = .ok docs ∧ (Docs.parse "r" text cpp).value = .ok docs' ∧
      docs.SameBehind stem stem' docs' ∧ docs["a.b.T"]? = some "t" ∧ docs'["c.T"]? = some "t" := by
  intro text java cpp
  have hjava : (parse "r" text java).value = .ok ⟨[⟨"a.b.T", some "t", []⟩], []⟩ := by
    decide +kernel
  have hcpp : (parse "r" text cpp).value = .ok ⟨[⟨"c.T", some "t", []⟩], []⟩ := by decide +kernel
  obtain ⟨m, stem, stem', hread, hstem, hstem', -, -, hdocs⟩ :=
    (parse_preference "r" text java cpp).2 _ _ hjava hcpp
  have hbare : (Metadata.read text).map (fun m => decide m.IsBare) = .ok true := by decide +kernel
  rw [hread] at hbare
  obtain ⟨-, hsame⟩ := hdocs (of_decide_eq_true (Except.ok.inj hbare))
  have hjavaDocs : ((Docs.parse "r" text java).value.map (·["a.b.T"]?)) = .ok (some "t") := by
    decide +kernel
  have hcppDocs : ((Docs.parse "r" text cpp).value.map (·["c.T"]?)) = .ok (some "t") := by
    decide +kernel
  obtain ⟨docs, hd, hdoc⟩ := Except.map_eq_ok_iff.1 hjavaDocs
  obtain ⟨docs', hd', hdoc'⟩ := Except.map_eq_ok_iff.1 hcppDocs
  exact ⟨hjava, hcpp, stem, stem', docs, docs', hstem, hstem', hd, hd', hsame docs docs' hd hd',
    hdoc, hdoc'⟩

end InterfaceDocs
