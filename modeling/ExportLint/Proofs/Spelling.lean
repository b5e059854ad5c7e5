import ExportLint.Lookup
import ExportLint.Proofs.Slices

/-! Which entries of an object literal are meant by a name, and that the first of them is found.
The bytes that are looked at in a key are those between its quotes, and they are a text. -/

namespace ExportLint

def inQuotes (name : String) : String := "\"" ++ name ++ "\""

lemma toList_inQuotes (name : String) : (inQuotes name).toList = '"' :: (name.toList ++ ['"']) := by
  simp [inQuotes, String.toList_append]

lemma inQuotes_inj {name name' : String} : inQuotes name = inQuotes name' ↔ name = name' := by
  simp [← String.toList_inj, toList_inQuotes]

namespace Key

def Spelled (name : String) (k : Key) : Prop :=
  k.name? = some name ∨ k.name? = some (inQuotes name)

lemma inside_cuts (inner : String) : (inside (inQuotes inner)).Cuts (inQuotes inner) inner := by
  refine ⟨"\"", "\"", rfl, rfl, ?_⟩
  simp only [inside, Text.byteLength_toList, inQuotes, String.utf8ByteSize_append]
  rfl

lemma slice?_inside (inner : String) :
    (inside (inQuotes inner)).slice? (inQuotes inner) = some inner.toList := by
  rw [Span.slice?_eq_some_iff, String.ofList_toList]
  exact inside_cuts inner

lemma wraps_inQuotes (name : String) : wraps (inQuotes name) name = true := by
  simp only [wraps, Bool.and_eq_true, beq_iff_eq]
  refine ⟨⟨?_, ?_⟩, ?_⟩
  · rw [toList_inQuotes, Text.byteLength_cons, Text.byteLength_append]
    change 1 + (_ + 1) = _
    omega
  · rw [toList_inQuotes, List.head?_cons]
  · rw [toList_inQuotes, ← List.cons_append, List.getLast?_concat]

lemma exists_eq_inQuotes_of_wraps {key name : String} (h : wraps key name = true) :
    ∃ inner, key = inQuotes inner := by
  simp only [wraps, Bool.and_eq_true, beq_iff_eq] at h
  obtain ⟨⟨hsize, hhead⟩, hlast⟩ := h
  obtain ⟨rest, hrest⟩ := List.head?_eq_some_iff.mp hhead
  obtain ⟨front, hfront⟩ := List.getLast?_eq_some_iff.mp hlast
  cases front with
  | nil =>
    -- the same quote would stand at both ends, and the key would be one byte long
    rw [hfront] at hsize
    change 1 = _ + 2 at hsize
    omega
  | cons c inner =>
    rw [hfront, List.cons_append, List.cons.injEq] at hrest
    refine ⟨String.ofList inner, String.toList_inj.mp ?_⟩
    rw [hfront, toList_inQuotes, String.toList_ofList, List.cons_append, hrest.1]

lemma spells_iff {key name : String} :
    spells key name = true ↔ key = name ∨ key = inQuotes name := by
  rw [spells, Bool.or_eq_true, Bool.and_eq_true, beq_iff_eq, beq_iff_eq]
  constructor
  · rintro (h | ⟨hwraps, hslice⟩)
    · exact .inl h
    · obtain ⟨inner, rfl⟩ := exists_eq_inQuotes_of_wraps hwraps
      rw [slice?_inside, Option.some.injEq, String.toList_inj] at hslice
      exact .inr (congrArg inQuotes hslice)
  · rintro (h | rfl)
    · exact .inl h
    · exact .inr ⟨wraps_inQuotes name, slice?_inside name⟩

end Key

lemma Property.answers_iff {p : Property} {name : String} :
    p.answers name = true ↔ p.key.Spelled name := by
  unfold answers Key.Spelled
  cases p.key.name? with
  | none => simp
  | some key => simp [Key.spells_iff]

namespace Entry

def Spelled (name : String) : Entry → Prop
  | property _ key _ => key.Spelled name
  | spread _ _ => False

def First (name : String) (entries : List Entry) (p : Property) : Prop :=
  ∃ before after, entries = before ++ property p.span p.key p.value :: after ∧
    p.key.Spelled name ∧ ∀ e ∈ before, ¬ e.Spelled name

lemma property?_eq_some_iff {e : Entry} {p : Property} :
    e.property? = some p ↔ e = property p.span p.key p.value := by
  cases e with
  | property span key value => cases p; simp [property?]
  | spread span argument => simp [property?]

lemma filter_answers_eq_none_iff {e : Entry} {name : String} :
    e.property?.filter (·.answers name) = none ↔ ¬ e.Spelled name := by
  cases e with
  | property span key value =>
    simp only [property?, Option.filter_eq_none_iff, Option.some.injEq]
    constructor
    · intro h hs
      exact h _ rfl (Property.answers_iff.mpr hs)
    · rintro h p rfl hp
      exact h (Property.answers_iff.mp hp)
  | spread span argument => simp [property?, Spelled]

lemma find?_eq_some_iff {name : String} {entries : List Entry} {p : Property} :
    find? name entries = some p ↔ First name entries p := by
  rw [find?, List.findSome?_eq_some_iff]
  constructor
  · rintro ⟨before, e, after, rfl, he, hbefore⟩
    obtain ⟨hp, ha⟩ := Option.filter_eq_some_iff.mp he
    rw [property?_eq_some_iff] at hp
    subst hp
    exact ⟨before, after, rfl, Property.answers_iff.mp ha,
      fun e he => filter_answers_eq_none_iff.mp (hbefore e he)⟩
  · rintro ⟨before, after, rfl, hs, hbefore⟩
    refine ⟨before, _, after, rfl, ?_, fun e he => filter_answers_eq_none_iff.mpr (hbefore e he)⟩
    exact Option.filter_eq_some_iff.mpr
      ⟨property?_eq_some_iff.mpr rfl, Property.answers_iff.mpr hs⟩

lemma find?_eq_none_iff {name : String} {entries : List Entry} :
    find? name entries = none ↔ ∀ e ∈ entries, ¬ e.Spelled name := by
  rw [find?, List.findSome?_eq_none_iff]
  simp only [filter_answers_eq_none_iff]

lemma find?_isSome_iff {name : String} {entries : List Entry} :
    (find? name entries).isSome = true ↔ ∃ e ∈ entries, e.Spelled name := by
  rw [← Option.ne_none_iff_isSome, ne_eq, find?_eq_none_iff]
  simp only [not_forall, not_not, exists_prop]

end Entry

namespace ObjectLiteral

def Has (o : ObjectLiteral) (name : String) : Prop := ∃ e ∈ o.entries, e.Spelled name

lemma contains_iff {o : ObjectLiteral} {name : String} : o.contains name = true ↔ o.Has name :=
  Entry.find?_isSome_iff

end ObjectLiteral

/-- The entry that holds the props: the first one for `props` or, if there is none, the first one
for `propDefinitions`. -/
def Entry.Holder (entries : List Entry) (p : Property) : Prop :=
  First "props" entries p ∨ (∀ e ∈ entries, ¬ e.Spelled "props") ∧ First "propDefinitions" entries p

lemma Entry.propsHolder?_eq_some_iff {entries : List Entry} {p : Property} :
    propsHolder? entries = some p ↔ Holder entries p := by
  rw [propsHolder?, Option.orElse_eq_orElse, Option.orElse_eq_or, Option.or_eq_some_iff,
    find?_eq_some_iff, find?_eq_some_iff, find?_eq_none_iff, Holder]

/-- The names that keys have, in the order of their entries. -/
def Entry.names (entries : List Entry) : List String :=
  entries.filterMap fun e => e.property?.bind (·.key.name?)

lemma Entry.mem_names_iff {entries : List Entry} {name : String} :
    name ∈ names entries ↔ ∃ e ∈ entries, ∃ p, e.property? = some p ∧ p.key.name? = some name := by
  simp only [names, List.mem_filterMap, Option.bind_eq_some_iff]

lemma Entry.spelled_iff {e : Entry} {name : String} :
    e.Spelled name ↔ ∃ p, e.property? = some p ∧ p.key.Spelled name := by
  cases e with
  | property span key value => simp [Spelled, property?]
  | spread span argument => simp [Spelled, property?]

lemma ObjectLiteral.has_iff_mem_names {o : ObjectLiteral} {name : String} :
    o.Has name ↔ name ∈ Entry.names o.entries ∨ inQuotes name ∈ Entry.names o.entries := by
  rw [Entry.mem_names_iff, Entry.mem_names_iff]
  constructor
  · rintro ⟨e, he, hs⟩
    obtain ⟨p, hp, hname | hname⟩ := Entry.spelled_iff.mp hs
    · exact .inl ⟨e, he, p, hp, hname⟩
    · exact .inr ⟨e, he, p, hp, hname⟩
  · rintro (⟨e, he, p, hp, hname⟩ | ⟨e, he, p, hp, hname⟩)
    · exact ⟨e, he, Entry.spelled_iff.mpr ⟨p, hp, .inl hname⟩⟩
    · exact ⟨e, he, Entry.spelled_iff.mpr ⟨p, hp, .inr hname⟩⟩

theorem lookup_finds_first_spelled :
    (∀ key name : String,
      (Key.spells key name = true ↔ key = name ∨ key = inQuotes name) ∧
      (Key.wraps key name = true → ∃ inner, key = inQuotes inner ∧
        (Key.inside key).Cuts key inner ∧ (Key.inside key).slice? key = some inner.toList)) ∧
    ∀ (o : ObjectLiteral) (name : String),
      (∀ p, o.find? name = some p ↔ Entry.First name o.entries p) ∧
      (o.contains name = true ↔
        name ∈ Entry.names o.entries ∨ inQuotes name ∈ Entry.names o.entries) := by
  refine ⟨fun key name => ⟨Key.spells_iff, fun hwraps => ?_⟩, fun o name => ⟨fun p => ?_, ?_⟩⟩
  · obtain ⟨inner, rfl⟩ := Key.exists_eq_inQuotes_of_wraps hwraps
    exact ⟨inner, rfl, Key.inside_cuts inner, Key.slice?_inside inner⟩
  · exact Entry.find?_eq_some_iff
  · exact ObjectLiteral.contains_iff.trans ObjectLiteral.has_iff_mem_names

/-- Behind entries without a name and one that has only half of its quotes stands the entry meant,
and behind that another one. -/
def twiceSpelled : ObjectLiteral :=
  ⟨⟨0, 60⟩,
    [.spread ⟨2, 9⟩ (.identifier ⟨5, 9⟩ "né"),
      .property ⟨11, 15⟩ (.expr (.number ⟨11, 12⟩ (.finite 3 0))) (.null ⟨14, 15⟩),
      .property ⟨17, 26⟩ (.expr (.string ⟨17, 23⟩ "\"né")) (.null ⟨25, 26⟩),
      .property ⟨28, 38⟩ (.expr (.string ⟨28, 35⟩ "\"né\"")) (.null ⟨37, 38⟩),
      .property ⟨40, 46⟩ (.word ⟨40, 43⟩ "né") (.null ⟨45, 46⟩)]⟩

theorem twiceSpelled_lookup :
    Key.wraps "\"né\"" "né" = true ∧
    (Key.inside "\"né\"").slice? "\"né\"" = some ['n', 'é'] ∧
    twiceSpelled.find? "né" =
      some ⟨⟨28, 38⟩, .expr (.string ⟨28, 35⟩ "\"né\""), .null ⟨37, 38⟩⟩ ∧
    twiceSpelled.contains "né" = true := by
  obtain ⟨hkeys, hlookup⟩ := lookup_finds_first_spelled
  obtain ⟨hfind, hcontains⟩ := hlookup twiceSpelled "né"
  have hwraps : Key.wraps "\"né\"" "né" = true := by decide
  obtain ⟨inner, hinner, -, hslice⟩ := (hkeys "\"né\"" "né").2 hwraps
  obtain rfl : "né" = inner := inQuotes_inj.mp hinner
  refine ⟨hwraps, hslice, ?_, ?_⟩
  · rw [hfind]
    refine ⟨twiceSpelled.entries.take 3, twiceSpelled.entries.drop 4, rfl, .inr rfl, ?_⟩
    simp [twiceSpelled, Entry.Spelled, Key.Spelled, Key.name?, inQuotes]
  · rw [hcontains]
    exact .inl (by decide)

end ExportLint
