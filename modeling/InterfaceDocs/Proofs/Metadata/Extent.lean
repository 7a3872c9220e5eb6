import InterfaceDocs.Proofs.Json.Extent
import InterfaceDocs.Proofs.Metadata.Resolve

/-!
# A document ends where it ends

A resource that is accepted may be followed by white space, which changes nothing, and by nothing
else; and no part of it that lacks its last byte, white space apart, is accepted itself
(`Interface.parse_append`).  So a resource that was cut off or run into another one is noticed.
-/

namespace InterfaceDocs

open Json Json.Reader

namespace Json

/-- The white space of a document: space, tab, newline and carriage return. -/
def IsSpace (b : UInt8) : Prop :=
  b = Ascii.space ∨ b = Ascii.tab ∨ b = Ascii.newline ∨ b = Ascii.carriageReturn

instance : DecidablePred IsSpace := fun _ => inferInstanceAs (Decidable (_ ∨ _))

theorem isBlank_iff {b : UInt8} : isBlank b ↔ IsSpace b := by
  unfold IsSpace
  simp only [isBlank, Bool.or_eq_true, decide_eq_true_eq]
  constructor
  · rintro (((h | h) | h) | h) <;> simp [h]
  · rintro (h | h | h | h) <;> simp [h]

theorem all_isBlank_iff {s : Bytes} : s.all isBlank ↔ ∀ b ∈ s, IsSpace b := by
  rw [List.all_eq_true]
  exact forall₂_congr fun b _ => isBlank_iff

end Json

namespace Metadata

/-! ## How far the shapes look -/

theorem local_leaf : Local leafShape.reader := by
  refine (Shape.localFor_reader ?_).toLocal
  exact List.forall_mem_cons.2
    ⟨local_text.map _, List.forall_mem_singleton.2 (local_optionalText.map _)⟩

theorem local_method : Local methodShape.reader := by
  refine (Shape.localFor_reader ?_).toLocal
  exact List.forall_mem_cons.2 ⟨local_text.map _, List.forall_mem_cons.2 ⟨local_optionalText.map _,
    List.forall_mem_singleton.2 ((local_list local_leaf).map _)⟩⟩

theorem local_type : Local typeShape.reader := by
  refine (Shape.localFor_reader ?_).toLocal
  exact List.forall_mem_cons.2 ⟨local_optionalText.map _, List.forall_mem_cons.2
    ⟨local_optionalText.map _, List.forall_mem_cons.2 ⟨local_optionalText.map _,
      List.forall_mem_singleton.2 ((local_list local_leaf).map _)⟩⟩⟩

theorem local_service : Local serviceShape.reader := by
  refine (Shape.localFor_reader ?_).toLocal
  exact List.forall_mem_cons.2 ⟨local_optionalText.map _, List.forall_mem_cons.2
    ⟨local_optionalText.map _, List.forall_mem_cons.2 ⟨local_optionalText.map _,
      List.forall_mem_singleton.2 ((local_list local_method).map _)⟩⟩⟩

/-- What follows a document makes no difference to it. -/
theorem localFor_document : LocalFor (fun _ => True) documentShape.reader := by
  have htypes := local_list local_type
  refine Shape.localFor_reader ?_
  exact List.forall_mem_cons.2 ⟨local_optionalText.map _, List.forall_mem_cons.2
    ⟨local_dictionary.map _, List.forall_mem_cons.2 ⟨htypes.map _, List.forall_mem_cons.2
      ⟨htypes.map _, List.forall_mem_cons.2 ⟨htypes.map _, List.forall_mem_cons.2 ⟨htypes.map _,
        List.forall_mem_cons.2 ⟨htypes.map _,
          List.forall_mem_singleton.2 ((local_list local_service).map _)⟩⟩⟩⟩⟩⟩⟩

variable {s t : Bytes} {m : Metadata}

theorem read_append (h : read s = .ok m) (t : Bytes) :
    read (s ++ t) = if t.all isBlank then .ok m else .error .trailingCharacters :=
  readWhole_append localFor_document h t

theorem read_of_append_blanks (ht : t.all isBlank) (h : read (s ++ t) = .ok m) : read s = .ok m :=
  readWhole_of_append_blanks localFor_document documentShape.endsFor_reader ht h

end Metadata

namespace Interface

variable {resource : String} {settings : Settings} {s : Bytes} {i : Interface}

/-- A resource that is accepted together with white space behind it is accepted without it. -/
theorem parse_of_append_blanks {t : Bytes} (ht : t.all isBlank)
    (h : (parse resource (s ++ t) settings).value = .ok i) :
    (parse resource s settings).value = .ok i := by
  obtain ⟨m, hread, hm, hi⟩ := parse_eq_ok_iff.1 h
  exact parse_eq_ok_iff.2 ⟨m, Metadata.read_of_append_blanks ht hread, hm, hi⟩

/-- Only white space may follow a resource that is accepted. -/
theorem all_isBlank_of_parse_append {t : Bytes} {j : Interface}
    (h : (parse resource s settings).value = .ok i)
    (hj : (parse resource (s ++ t) settings).value = .ok j) : t.all isBlank := by
  obtain ⟨m, hread, -, -⟩ := parse_eq_ok_iff.1 h
  obtain ⟨m', hread', -, -⟩ := parse_eq_ok_iff.1 hj
  rw [Metadata.read_append hread] at hread'
  by_cases ht : t.all isBlank
  · exact ht
  · rw [if_neg ht] at hread'
    cases hread'

/-- **An accepted resource can neither be extended nor cut off.**

* Followed by other bytes it is accepted exactly if these are white space.
* White space behind it changes nothing.
* With anything else behind it, it is malformed: there are trailing characters.
* Without a tail that is more than white space, and whatever white space is left behind the cut, it
  is malformed. -/
theorem parse_append (h : (parse resource s settings).value = .ok i) :
    (∀ t, (∃ j, (parse resource (s ++ t) settings).value = .ok j) ↔ ∀ b ∈ t, IsSpace b) ∧
    (∀ t, (∀ b ∈ t, IsSpace b) → parse resource (s ++ t) settings = parse resource s settings) ∧
    (∀ t, (∃ b ∈ t, ¬IsSpace b) → (parse resource (s ++ t) settings).value =
      .error (.malformed resource (.json .trailingCharacters))) ∧
    (∀ u t, s = u ++ t → (∃ b ∈ t, ¬IsSpace b) → ∀ blanks, (∀ b ∈ blanks, IsSpace b) →
      ∃ flaw, (parse resource (u ++ blanks) settings).value = .error (.malformed resource flaw)) := by
  obtain ⟨m, hread, -, -⟩ := parse_eq_ok_iff.1 h
  have hblanks : ∀ t, (∀ b ∈ t, IsSpace b) →
      parse resource (s ++ t) settings = parse resource s settings := by
    intro t ht
    unfold parse
    rw [Metadata.read_append hread, if_pos (all_isBlank_iff.2 ht), hread]
  refine ⟨fun t => ⟨?_, fun ht => ?_⟩, hblanks, fun t ht => ?_, fun u t hs ht blanks hw => ?_⟩
  · rintro ⟨j, hj⟩
    exact all_isBlank_iff.1 (all_isBlank_of_parse_append h hj)
  · rw [hblanks t ht]
    exact ⟨i, h⟩
  · have hall : ¬t.all isBlank := by
      obtain ⟨b, hb, hnot⟩ := ht
      intro hall
      exact hnot (all_isBlank_iff.1 hall b hb)
    rw [value_parse, Metadata.read_append hread, if_neg hall]
  · subst hs
    apply parse_malformed
    intro j hj
    -- the part would be accepted without the white space, so the tail would be white space
    have hu := parse_of_append_blanks (all_isBlank_iff.2 hw) hj
    obtain ⟨b, hb, hnot⟩ := ht
    exact hnot (all_isBlank_iff.1 (all_isBlank_of_parse_append hu h) b hb)

/-- A resource with one type, cut off before its last bracket and followed by a letter. -/
theorem parse_append_oneType :
    let text := Bytes.ofString "\x7b\"types\":[\x7b\"name\":\"T\"\x7d]"
    (parse "r" (text ++ [Ascii.closeBrace]) .standard).value = .ok ⟨[⟨"T", none, []⟩], []⟩ ∧
    (∃ j, (parse "r" ((text ++ [Ascii.closeBrace]) ++ [Ascii.space]) .standard).value = .ok j) ∧
    (parse "r" ((text ++ [Ascii.closeBrace]) ++ [Ascii.letter 'x']) .standard).value =
      .error (.malformed "r" (.json .trailingCharacters)) ∧
    ∃ flaw, (parse "r" (text ++ [Ascii.space]) .standard).value = .error (.malformed "r" flaw) := by
  intro text
  have h : (parse "r" (text ++ [Ascii.closeBrace]) .standard).value = .ok ⟨[⟨"T", none, []⟩], []⟩ := by
    decide +kernel
  obtain ⟨hiff, -, hmore, hless⟩ := parse_append h
  have hspace : ∀ b ∈ [Ascii.space], IsSpace b := all_isBlank_iff.1 (by decide)
  refine ⟨h, (hiff _).2 hspace, hmore _ ⟨_, List.mem_cons_self, by decide⟩, ?_⟩
  exact hless text _ rfl ⟨_, List.mem_cons_self, by decide⟩ _ hspace

end Interface

end InterfaceDocs
