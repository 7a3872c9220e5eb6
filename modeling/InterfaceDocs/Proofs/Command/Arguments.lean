import Mathlib.Data.List.TakeWhile
import InterfaceDocs.Command.Arguments

/-!
# Asking again with other keys and in another format

Every item that is read from arguments can be written as one argument: an option by its long name,
with its value behind an equals sign, and a root as it is, behind `--`.  Arguments written in this way
are read as what they were written for (`readArguments_arguments`).  So a request can be made again
with other keys and in another format, and with all else as it was (`exists_arguments_reasked`).
-/

namespace InterfaceDocs.Command

/-! ## Items that can be written -/

namespace Item

/-- An option is given with a value exactly if it takes one. -/
def IsFitting : Item → Prop
  | root _ => True
  | flag name => name.takesValue = false
  | setting name _ => name.takesValue = true

/-- What one argument says fits, and so does the value that may come after it. -/
def Fits (read : List Item × Option OptionName) : Prop :=
  (∀ i ∈ read.1, i.IsFitting) ∧ ∀ name ∈ read.2, name.takesValue = true

end Item

open Item

theorem fits_of_readCluster {cs : List Char} {read : List Item × Option OptionName}
    (h : readCluster cs = some read) : Fits read := by
  induction cs generalizing read with
  | nil =>
    cases h
    exact ⟨nofun, nofun⟩
  | cons c cs ih =>
    rw [readCluster] at h
    obtain ⟨name, -, h⟩ := Option.bind_eq_some_iff.1 h
    split at h
    · next htakes =>
      split at h <;> cases h
      · exact ⟨nofun, by simpa [Option.mem_def] using htakes⟩
      · exact ⟨by simpa [IsFitting] using htakes, nofun⟩
      · exact ⟨by simpa [IsFitting] using htakes, nofun⟩
    · next htakes =>
      obtain ⟨⟨items, pending⟩, hrest, h⟩ := Option.bind_eq_some_iff.1 h
      cases h
      obtain ⟨hitems, hpending⟩ := ih hrest
      exact ⟨List.forall_mem_cons.2 ⟨by simpa [IsFitting] using htakes, hitems⟩, hpending⟩

theorem fits_of_readLong {cs : List Char} {read : List Item × Option OptionName}
    (h : readLong cs = some read) : Fits read := by
  unfold readLong at h
  obtain ⟨name, -, h⟩ := Option.bind_eq_some_iff.1 h
  split at h
  · next htakes =>
    cases h
    exact ⟨nofun, by simpa [Option.mem_def] using htakes⟩
  · next htakes =>
    cases h
    exact ⟨by simpa [IsFitting] using htakes, nofun⟩
  · next htakes =>
    cases h
    exact ⟨by simpa [IsFitting] using htakes, nofun⟩
  · cases h

theorem fits_of_readArgument {a : String} {read : List Item × Option OptionName}
    (h : readArgument a = some read) : Fits read := by
  unfold readArgument at h
  split at h
  · exact fits_of_readLong h
  · cases h
    exact ⟨by simp [IsFitting], nofun⟩
  · exact fits_of_readCluster h
  · cases h
    exact ⟨by simp [IsFitting], nofun⟩

/-- All items that are read from arguments fit. -/
theorem isFitting_of_readArguments {pending : Option OptionName} {args : List String}
    {items : List Item} (h : readArguments pending args = some items)
    (hpending : ∀ name ∈ pending, name.takesValue = true) : ∀ i ∈ items, i.IsFitting := by
  induction args generalizing pending items with
  | nil =>
    cases pending with
    | none =>
      cases h
      exact nofun
    | some name => cases h
  | cons a args ih =>
    cases pending with
    | some name =>
      rw [readArguments] at h
      split at h
      · obtain ⟨more, hmore, rfl⟩ := Option.map_eq_some_iff.1 h
        exact List.forall_mem_cons.2 ⟨hpending name rfl, ih hmore nofun⟩
      · cases h
    | none =>
      rw [readArguments] at h
      split at h
      · cases h
        simp [IsFitting]
      · obtain ⟨⟨first, pending⟩, hfirst, h⟩ := Option.bind_eq_some_iff.1 h
        obtain ⟨more, hmore, h⟩ := Option.bind_eq_some_iff.1 h
        cases h
        obtain ⟨hitems, hnext⟩ := fits_of_readArgument hfirst
        exact List.forall_mem_append.2 ⟨hitems, ih hmore hnext⟩

/-! ## Items as arguments -/

/-- The one argument that says what the item says. -/
def Item.text : Item → String
  | root path => path
  | flag name => "--" ++ name.long
  | setting name value => "--" ++ name.long ++ "=" ++ value

/-- Arguments for options, and for roots behind them. -/
def arguments (options : List Item) (roots : List String) : List String :=
  options.map Item.text ++ "--" :: roots

namespace OptionName

theorem mem_all (name : OptionName) : name ∈ all := by cases name <;> decide

theorem ofLong?_long (name : OptionName) : ofLong? name.long = some name := by
  cases name <;> rfl

theorem long_ne_nil (name : OptionName) : name.long.toList ≠ [] := by cases name <;> simp [long]

theorem equals_not_mem_long (name : OptionName) : '=' ∉ name.long.toList := by
  cases name <;> simp [long]

theorem ne_equals_of_mem_long {name : OptionName} {c : Char} (h : c ∈ name.long.toList) :
    decide (c ≠ '=') = true :=
  decide_eq_true (ne_of_mem_of_not_mem h name.equals_not_mem_long)

end OptionName

theorem readLong_long {name : OptionName} (h : name.takesValue = false) :
    readLong name.long.toList = some ([.flag name], none) := by
  unfold readLong
  rw [List.takeWhile_eq_self_iff.2 fun _ => name.ne_equals_of_mem_long,
    List.dropWhile_eq_nil_iff.2 fun _ => name.ne_equals_of_mem_long, String.ofList_toList,
    name.ofLong?_long, Option.bind_eq_bind, Option.bind_some, h]
  rfl

theorem readLong_long_append {name : OptionName} (h : name.takesValue = true) (value : List Char) :
    readLong (name.long.toList ++ '=' :: value) =
      some ([.setting name (String.ofList value)], none) := by
  unfold readLong
  rw [List.takeWhile_append_of_pos fun _ => name.ne_equals_of_mem_long,
    List.dropWhile_append_of_pos fun _ => name.ne_equals_of_mem_long,
    List.takeWhile_cons_of_neg (by decide), List.dropWhile_cons_of_neg (by decide),
    List.append_nil, String.ofList_toList, name.ofLong?_long, Option.bind_eq_bind, Option.bind_some,
    h]
  rfl

theorem readArgument_text {i : Item} (hfits : i.IsFitting) (hroot : i.root? = none) :
    readArgument i.text = some ([i], none) := by
  cases i with
  | root path => cases hroot
  | flag name =>
    have htext : (Item.flag name).text.toList = '-' :: '-' :: name.long.toList := by
      simp [Item.text]
    unfold readArgument
    rw [htext]
    exact readLong_long hfits
  | setting name value =>
    have htext : (Item.setting name value).text.toList =
        '-' :: '-' :: (name.long.toList ++ '=' :: value.toList) := by
      simp [Item.text]
    unfold readArgument
    rw [htext]
    exact (readLong_long_append hfits value.toList).trans (by rw [String.ofList_toList])

theorem text_ne_hyphens {i : Item} (hroot : i.root? = none) : i.text ≠ "--" := by
  intro h
  have hlist := congrArg String.toList h
  cases i with
  | root path => cases hroot
  | flag name => exact name.long_ne_nil (by simpa [Item.text] using hlist)
  | setting name value => simp [Item.text] at hlist

/-- Arguments are read as what they were written for. -/
theorem readArguments_arguments {options : List Item} (hfits : ∀ i ∈ options, i.IsFitting)
    (hroots : ∀ i ∈ options, i.root? = none) (roots : List String) :
    readArguments none (arguments options roots) = some (options ++ roots.map .root) := by
  induction options with
  | nil => rfl
  | cons i options ih =>
    obtain ⟨hi, hfits⟩ := List.forall_mem_cons.1 hfits
    obtain ⟨hiroot, hroots⟩ := List.forall_mem_cons.1 hroots
    show readArguments none (i.text :: arguments options roots) = _
    rw [readArguments, if_neg (text_ne_hyphens hiroot), readArgument_text hi hiroot,
      Option.bind_eq_bind, Option.bind_some]
    simp only [ih hfits hroots]
    rfl

/-! ## The same with other keys and in another format -/

/-- The items under a name. -/
def named (items : List Item) (name : OptionName) : List Item := items.filter (·.name? = some name)

theorem named_append (items items' : List Item) (name : OptionName) :
    named (items ++ items') name = named items name ++ named items' name := List.filter_append ..

theorem valuesOf_eq_of_named_eq {items items' : List Item} {name : OptionName}
    (h : named items name = named items' name) : valuesOf items name = valuesOf items' name := by
  have hnamed : ∀ is : List Item, valuesOf is name = valuesOf (named is name) name := by
    intro is
    rw [valuesOf, valuesOf, named, List.filterMap_filter]
    refine congrArg (List.filterMap · is) (funext fun i => ?_)
    cases i <;> simp [Item.name?]
  rw [hnamed items, hnamed items', h]

theorem isGiven_eq_of_named_eq {items items' : List Item} {name : OptionName}
    (h : named items name = named items' name) : isGiven items name = isGiven items' name := by
  have hnamed : ∀ is : List Item, isGiven is name = !(named is name).isEmpty := by
    intro is
    rw [isGiven, named, Bool.eq_iff_iff]
    simp
  rw [hnamed items, hnamed items', h]

theorem noneTwice_iff {items : List Item} :
    noneTwice items ↔ ∀ name : OptionName, name.repeats ∨ (named items name).length ≤ 1 := by
  simp [noneTwice, named, OptionName.mem_all]

/-- Whether an item is an option other than a key or the format. -/
def isOther (i : Item) : Bool :=
  i.name?.any fun name => name ≠ .key && name ≠ .format

/-- The options of the items, but with these keys and this format. -/
def reasked (keys : List String) (format : String) (items : List Item) : List Item :=
  items.filter isOther ++ .setting .format format :: keys.map (.setting .key ·)

theorem named_filter_isOther (name : OptionName) (items : List Item) :
    named (items.filter isOther) name =
      if name = .key ∨ name = .format then [] else named items name := by
  rw [named, List.filter_filter]
  split
  · next hname =>
    refine List.filter_eq_nil_iff.2 fun i _ => ?_
    rcases hname with rfl | rfl <;> cases h : i.name? <;> simp +contextual [isOther, h]
  · next hname =>
    refine List.filter_congr fun i _ => ?_
    by_cases h : i.name? = some name <;> simp [isOther, h, not_or.1 hname]

theorem root?_of_mem_reasked {keys : List String} {format : String} {items : List Item} {i : Item}
    (h : i ∈ reasked keys format items) : i.root? = none := by
  rcases List.mem_append.1 h with h | h
  · have hother := (List.mem_filter.1 h).2
    cases i with
    | root path => cases hother
    | flag | setting => rfl
  · rcases List.mem_cons.1 h with rfl | h
    · rfl
    · obtain ⟨k, -, rfl⟩ := List.mem_map.1 h
      rfl

theorem isFitting_of_mem_reasked {keys : List String} {format : String} {items : List Item}
    (hitems : ∀ i ∈ items, i.IsFitting) {i : Item} (h : i ∈ reasked keys format items) :
    i.IsFitting := by
  rcases List.mem_append.1 h with h | h
  · exact hitems i (List.mem_filter.1 h).1
  · rcases List.mem_cons.1 h with rfl | h
    · rfl
    · obtain ⟨k, -, rfl⟩ := List.mem_map.1 h
      rfl

/-- The items of a request with other keys and in another format, roots at the end. -/
def again (keys : List String) (format : String) (items : List Item) : List Item :=
  reasked keys format items ++ (items.filterMap Item.root?).map .root

section

variable {keys : List String} {format : String} {items : List Item}

theorem named_again (name : OptionName) : named (again keys format items) name =
    (if name = .key ∨ name = .format then [] else named items name) ++
      named (.setting .format format :: keys.map (.setting .key ·)) name := by
  have hroots : ∀ roots : List String, named (roots.map .root) name = [] := by
    simp [named, Item.name?]
  rw [again, reasked, named_append, named_append, hroots, List.append_nil, named_filter_isOther]

theorem named_again_of_ne {name : OptionName} (hkey : name ≠ .key) (hformat : name ≠ .format) :
    named (again keys format items) name = named items name := by
  rw [named_again, if_neg (not_or.2 ⟨hkey, hformat⟩)]
  simp [named, Item.name?, hkey.symm, hformat.symm]

theorem named_again_format : named (again keys format items) .format = [.setting .format format] := by
  rw [named_again, if_pos (.inr rfl)]
  simp [named, Item.name?]

theorem valuesOf_again_format : valuesOf (again keys format items) .format = [format] := by
  have hformat : named (again keys format items) .format =
      named [.setting .format format] .format := named_again_format
  rw [valuesOf_eq_of_named_eq hformat]
  rfl

theorem valuesOf_again_key : valuesOf (again keys format items) .key = keys := by
  have hkeys : named (again keys format items) .key = named (keys.map (.setting .key ·)) .key := by
    rw [named_again, if_pos (.inl rfl)]
    rfl
  rw [valuesOf_eq_of_named_eq hkeys, valuesOf, List.filterMap_map]
  exact List.filterMap_some

theorem valuesOf_again (name : OptionName) (hkey : name ≠ .key) (hformat : name ≠ .format) :
    valuesOf (again keys format items) name = valuesOf items name :=
  valuesOf_eq_of_named_eq (named_again_of_ne hkey hformat)

theorem isGiven_again (name : OptionName) (hkey : name ≠ .key) (hformat : name ≠ .format) :
    isGiven (again keys format items) name = isGiven items name :=
  isGiven_eq_of_named_eq (named_again_of_ne hkey hformat)

theorem roots_again :
    (again keys format items).filterMap Item.root? = items.filterMap Item.root? := by
  have hoptions : (reasked keys format items).filterMap Item.root? = [] :=
    List.filterMap_eq_nil_iff.2 fun _ => root?_of_mem_reasked
  rw [again, List.filterMap_append, hoptions, List.nil_append, List.filterMap_map]
  exact List.filterMap_some

theorem noneTwice_again (h : noneTwice items) : noneTwice (again keys format items) := by
  refine noneTwice_iff.2 fun name => ?_
  by_cases hkey : name = .key
  · exact .inl (hkey ▸ rfl)
  by_cases hformat : name = .format
  · right
    rw [hformat, named_again_format]
    exact Nat.le_refl 1
  · rw [named_again_of_ne hkey hformat]
    exact noneTwice_iff.1 h name

end

namespace Options

/-- The limit that items give, if it is a size. -/
def limit? (items : List Item) : Option Nat :=
  match (valuesOf items .maxBytes).head? with
  | some value => size? value
  | none => some Settings.standard.maxResourceBytes

/-- Whether items are refused whatever the values are. -/
def refuses (items : List Item) : Bool :=
  !noneTwice items || (isGiven items .quiet && isGiven items .verbose) ||
    (items.filterMap Item.root?).any (· = "")

/-- The options that items make with a limit. -/
def gathered (items : List Item) (limit : Nat) : Options where
  roots := if items.filterMap Item.root? = [] then ["."] else items.filterMap Item.root?
  resource := (valuesOf items .resource).head?
  keys := valuesOf items .key
  format := (valuesOf items .format).head?.getD "json"
  settings := {
    resourceDir := (valuesOf items .resourceDir).head?.getD Settings.standard.resourceDir
    namespaceScopes :=
      if valuesOf items .namespaceScope = [] then Settings.standard.namespaceScopes
      else valuesOf items .namespaceScope
    maxResourceBytes := limit }
  strict := isGiven items .strict
  verbosity :=
    if isGiven items .quiet then .quiet else if isGiven items .verbose then .verbose else .normal

theorem ofItems?_eq (items : List Item) : ofItems? items = (limit? items).bind fun limit =>
    if refuses items then none else some (gathered items limit) := by
  unfold ofItems? limit?
  cases (valuesOf items .maxBytes).head? <;> rfl

theorem refuses_again {items : List Item} (h : refuses items = false) (keys : List String)
    (format : String) : refuses (again keys format items) = false := by
  rw [refuses, Bool.or_eq_false_iff, Bool.or_eq_false_iff, Bool.not_eq_false'] at h ⊢
  obtain ⟨⟨htwice, hheard⟩, hroots⟩ := h
  refine ⟨⟨noneTwice_again htwice, ?_⟩, ?_⟩
  · rw [isGiven_again .quiet nofun nofun, isGiven_again .verbose nofun nofun, hheard]
  · rw [roots_again, hroots]

theorem limit?_again (keys : List String) (format : String) (items : List Item) :
    limit? (again keys format items) = limit? items := by
  rw [limit?, limit?, valuesOf_again .maxBytes nofun nofun]

theorem gathered_again (keys : List String) (format : String) (items : List Item) (limit : Nat) :
    gathered (again keys format items) limit =
      { gathered items limit with keys := keys, format := format } := by
  simp only [gathered, roots_again, valuesOf_again_key, valuesOf_again_format,
    valuesOf_again .resource nofun nofun, valuesOf_again .resourceDir nofun nofun,
    valuesOf_again .namespaceScope nofun nofun, isGiven_again .strict nofun nofun,
    isGiven_again .quiet nofun nofun, isGiven_again .verbose nofun nofun, List.head?_cons,
    Option.getD_some]

theorem ofItems?_again {items : List Item} {o : Options} (h : ofItems? items = some o)
    (keys : List String) (format : String) :
    ofItems? (again keys format items) = some { o with keys := keys, format := format } := by
  rw [ofItems?_eq] at h ⊢
  obtain ⟨limit, hlimit, h⟩ := Option.bind_eq_some_iff.1 h
  split at h
  · cases h
  · next hfine =>
    cases h
    rw [limit?_again, hlimit, Option.bind_some, refuses_again (Bool.eq_false_iff.2 hfine),
      gathered_again]
    rfl

/-- What can be asked can be asked with other keys and in another format. -/
theorem exists_arguments_reasked {args : List String} {o : Options} (h : ofArguments? args = some o)
    (keys : List String) (format : String) :
    ∃ args', ofArguments? args' = some { o with keys := keys, format := format } := by
  obtain ⟨items, hitems, ho⟩ := Option.bind_eq_some_iff.1 h
  have hfits : ∀ i ∈ items, i.IsFitting := isFitting_of_readArguments hitems nofun
  refine ⟨arguments (reasked keys format items) (items.filterMap Item.root?), ?_⟩
  rw [ofArguments?, readArguments_arguments (fun _ => isFitting_of_mem_reasked hfits)
    fun _ => root?_of_mem_reasked]
  exact ofItems?_again ho keys format

end Options

end InterfaceDocs.Command
