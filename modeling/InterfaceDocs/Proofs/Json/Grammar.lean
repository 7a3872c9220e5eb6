import Mathlib.Data.List.Forall2
import InterfaceDocs.Json.Sequence

/-!
# The grammar of JSON

Which characters spell what, without regard to how they are read.  `SpellsText t cs` says that `cs`
is a string that stands for `t`, in any of its spellings; `IsValue cs` that `cs` is a value of any
kind and depth.  Lists and objects are both items between brackets (`Bracketed`), with commas between
them and white space around each.
-/

namespace InterfaceDocs.Json

/-- White space between tokens. -/
def IsBlanks (cs : List Char) : Prop := ∀ c ∈ cs, c = ' ' ∨ c = '\n' ∨ c = '\t' ∨ c = '\r'

instance (cs : List Char) : Decidable (IsBlanks cs) := List.decidableBAll _ cs

/-! ## Strings -/

/-- A hexadecimal digit of either case, and its value. -/
def SpellsDigit (n : Nat) (c : Char) : Prop :=
  n < 16 ∧ (c = Nat.digitChar n ∨ c = (Nat.digitChar n).toUpper)

/-- Four hexadecimal digits, and the number that they spell. -/
inductive SpellsNumber : Nat → List Char → Prop
  | digits {k l m n : Nat} {a b c d : Char} (ha : SpellsDigit k a) (hb : SpellsDigit l b)
      (hc : SpellsDigit m c) (hd : SpellsDigit n d) :
      SpellsNumber (((k * 16 + l) * 16 + m) * 16 + n) [a, b, c, d]

/-- The characters that have an escape of one letter, with that letter. -/
def shortEscapes : List (Char × Char) :=
  [('"', '"'), ('\\', '\\'), ('/', '/'), ('\x08', 'b'), ('\x0c', 'f'), ('\n', 'n'), ('\r', 'r'),
   ('\t', 't')]

/-- A character that may stand for itself in a string. -/
def IsPlain (c : Char) : Prop := c ≠ '"' ∧ c ≠ '\\' ∧ 0x20 ≤ c.toNat

instance (c : Char) : Decidable (IsPlain c) :=
  inferInstanceAs (Decidable (c ≠ '"' ∧ c ≠ '\\' ∧ 0x20 ≤ c.toNat))

/-- One character of a string, in one of its spellings. -/
inductive SpellsChar : Char → List Char → Prop
  | plain {c : Char} (h : IsPlain c) : SpellsChar c [c]
  | short {c letter : Char} (h : (c, letter) ∈ shortEscapes) : SpellsChar c ['\\', letter]
  | number {c : Char} {ds : List Char} (h : SpellsNumber c.toNat ds) :
      SpellsChar c ('\\' :: 'u' :: ds)
  /-- A character beyond the first plane, by the two halves of its surrogate pair. -/
  | pair {c : Char} {high low : Nat} {hs ls : List Char} (hh : SpellsNumber high hs)
      (hl : SpellsNumber low ls) (hhigh : 0xd800 ≤ high ∧ high ≤ 0xdbff)
      (hlow : 0xdc00 ≤ low ∧ low ≤ 0xdfff)
      (hc : c.toNat = 0x10000 + (high - 0xd800) * 0x400 + (low - 0xdc00)) :
      SpellsChar c ('\\' :: 'u' :: (hs ++ '\\' :: 'u' :: ls))

/-- Characters one after the other. -/
inductive SpellsChars : List Char → List Char → Prop
  | nil : SpellsChars [] []
  | cons {c : Char} {cs s t : List Char} (h : SpellsChar c s) (ht : SpellsChars cs t) :
      SpellsChars (c :: cs) (s ++ t)

/-- A string that stands for a text. -/
inductive SpellsText : String → List Char → Prop
  | quoted {t : String} {body : List Char} (h : SpellsChars t.toList body) :
      SpellsText t ('"' :: (body ++ ['"']))

theorem spellsChars_self {cs : List Char} (h : ∀ c ∈ cs, IsPlain c) : SpellsChars cs cs := by
  induction cs with
  | nil => exact .nil
  | cons c cs ih =>
    obtain ⟨hc, hcs⟩ := List.forall_mem_cons.1 h
    exact .cons (.plain hc) (ih hcs)

/-- A text of plain characters is spelled by itself in quotes. -/
theorem spellsText_self {t : String} (h : ∀ c ∈ t.toList, IsPlain c) :
    SpellsText t ('"' :: (t.toList ++ ['"'])) := .quoted (spellsChars_self h)

/-- A string that is well formed, whether or not its escapes make a text: a surrogate may stand
alone in it. -/
inductive IsTextBody : List Char → Prop
  | nil : IsTextBody []
  | plain {c : Char} {t : List Char} (h : IsPlain c) (ht : IsTextBody t) : IsTextBody (c :: t)
  | short {c letter : Char} {t : List Char} (h : (c, letter) ∈ shortEscapes) (ht : IsTextBody t) :
      IsTextBody ('\\' :: letter :: t)
  | number {n : Nat} {ds t : List Char} (h : SpellsNumber n ds) (ht : IsTextBody t) :
      IsTextBody ('\\' :: 'u' :: (ds ++ t))

inductive IsText : List Char → Prop
  | quoted {body : List Char} (h : IsTextBody body) : IsText ('"' :: (body ++ ['"']))

/-! ## Numbers -/

/-- One digit or more. -/
def IsDigits (cs : List Char) : Prop := cs ≠ [] ∧ ∀ c ∈ cs, c.isDigit

/-- A zero stands alone before the point. -/
def IsWhole (cs : List Char) : Prop := cs = ['0'] ∨ (IsDigits cs ∧ cs.head? ≠ some '0')

def IsFraction (cs : List Char) : Prop := cs = [] ∨ ∃ ds, IsDigits ds ∧ cs = '.' :: ds

def IsExponent (cs : List Char) : Prop :=
  cs = [] ∨ ∃ mark sign ds, (mark = 'e' ∨ mark = 'E') ∧ (sign = [] ∨ sign = ['+'] ∨ sign = ['-']) ∧
    IsDigits ds ∧ cs = mark :: (sign ++ ds)

inductive IsNumber : List Char → Prop
  | parts {sign whole fraction exponent : List Char} (hs : sign = [] ∨ sign = ['-'])
      (hw : IsWhole whole) (hf : IsFraction fraction) (he : IsExponent exponent) :
      IsNumber (sign ++ (whole ++ (fraction ++ exponent)))

/-! ## Items between brackets -/

/-- One item or more, up to the closing bracket. -/
inductive Items (closing : Char) : List (List Char) → List Char → Prop
  | last {v a b : List Char} (ha : IsBlanks a) (hb : IsBlanks b) :
      Items closing [v] (a ++ (v ++ (b ++ [closing])))
  | more {v a b : List Char} {vs : List (List Char)} {rest : List Char} (ha : IsBlanks a)
      (hb : IsBlanks b) (h : Items closing vs rest) :
      Items closing (v :: vs) (a ++ (v ++ (b ++ ',' :: rest)))

inductive Bracketed (opening closing : Char) : List (List Char) → List Char → Prop
  | empty {a : List Char} (ha : IsBlanks a) :
      Bracketed opening closing [] (opening :: (a ++ [closing]))
  | items {vs : List (List Char)} {rest : List Char} (h : Items closing vs rest) :
      Bracketed opening closing vs (opening :: rest)

/-- An entry of an object in its parts. -/
structure EntryText where
  key : List Char
  beforeColon : List Char
  afterColon : List Char
  value : List Char

namespace EntryText

def text (e : EntryText) : List Char :=
  e.key ++ (e.beforeColon ++ ':' :: (e.afterColon ++ e.value))

/-- Only white space stands around the colon. -/
def IsSpaced (e : EntryText) : Prop := IsBlanks e.beforeColon ∧ IsBlanks e.afterColon

end EntryText

/-- An object with entries for the keys, in this order. -/
structure SpellsEntries (es : List (String × EntryText)) (cs : List Char) : Prop where
  bracketed : Bracketed '\x7b' '\x7d' (es.map fun e => e.2.text) cs
  spaced : ∀ e ∈ es, e.2.IsSpaced
  keys : ∀ e ∈ es, SpellsText e.1 e.2.key

/-- A list whose items stand for the elements, each in one of its spellings. -/
def SpellsList {α : Type} (spells : α → List Char → Prop) (as : List α) (cs : List Char) : Prop :=
  ∃ vs, Bracketed '[' ']' vs cs ∧ List.Forall₂ spells as vs

/-- An object with an entry for each key of the map, in any order. -/
def SpellsMap (m : StringMap) (cs : List Char) : Prop :=
  ∃ es, SpellsEntries es cs ∧ (∀ e ∈ es, ∃ t, m[e.1]? = some t ∧ SpellsText t e.2.value) ∧
    ∀ k ∈ m, k ∈ es.map Prod.fst

/-! ## Values -/

inductive IsValue : List Char → Prop
  | null : IsValue ['n', 'u', 'l', 'l']
  | true : IsValue ['t', 'r', 'u', 'e']
  | false : IsValue ['f', 'a', 'l', 's', 'e']
  | number {cs : List Char} (h : IsNumber cs) : IsValue cs
  | text {cs : List Char} (h : IsText cs) : IsValue cs
  | list {vs : List (List Char)} {cs : List Char} (h : Bracketed '[' ']' vs cs)
      (hv : ∀ v ∈ vs, IsValue v) : IsValue cs
  | object {es : List EntryText} {cs : List Char}
      (h : Bracketed '\x7b' '\x7d' (es.map EntryText.text) cs)
      (hk : ∀ e ∈ es, e.IsSpaced ∧ IsText e.key) (hv : ∀ e ∈ es, IsValue e.value) : IsValue cs

/-! ## Records -/

/-- How a field of a record may be written. -/
structure FieldSpelling where
  /-- The field's names. -/
  keys : List String
  Value : List Char → Prop
  mayOmit : Prop

/-- Among the entries, the field is written once, under one of its names; or not at all, if it may
be left out. -/
def FieldSpelling.IsWrittenIn (f : FieldSpelling) (es : List (String × EntryText)) : Prop :=
  (∃ e, es.filter (·.1 ∈ f.keys) = [e] ∧ f.Value e.2.value) ∨ (f.mayOmit ∧ ∀ e ∈ es, e.1 ∉ f.keys)

/-- An object that writes the fields in any order, among any number of entries with other keys,
which may have any values. -/
def SpellsRecord (fields : List FieldSpelling) (cs : List Char) : Prop :=
  ∃ es, SpellsEntries es cs ∧ (∀ f ∈ fields, f.IsWrittenIn es) ∧
    ∀ e ∈ es, (∀ f ∈ fields, e.1 ∉ f.keys) → IsValue e.2.value

end InterfaceDocs.Json
