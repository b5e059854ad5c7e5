import ExportLint.Proofs.Spelling
import ExportLint.Rule
import Mathlib.Data.List.Forall2

/-! Rules see little of a component: of a key the names it answers to, of a value the text, the
truth or the object that the source shows. Components that agree in that get the same complaints,
but for the names of props that the messages give. -/

namespace ExportLint

variable (K : Key → Key → Prop) (R : Expr → Expr → Prop)

inductive Entry.Like : Entry → Entry → Prop
  | property {span : Span} {key key' : Key} {value value' : Expr} : K key key' → R value value' →
      Like (.property span key value) (.property span key' value')
  | spread {span : Span} {argument argument' : Expr} :
      Like (.spread span argument) (.spread span argument')

structure Property.Like (p p' : Property) : Prop where
  span : p.span = p'.span
  key : K p.key p'.key
  value : R p.value p'.value

def ObjectLiteral.Like (o o' : ObjectLiteral) : Prop :=
  List.Forall₂ (Entry.Like K R) o.entries o'.entries

structure PropEntry.Like (p p' : PropEntry) : Prop where
  property : p.property.Like K R p'.property
  definition : p.definition.Like K R p'.definition

/-- The names by which rules look up entries of a component. -/
def Component.fields : List String :=
  ["key", "name", "version", "description", "type", "props", "propDefinitions"]

/-- The names by which rules look up entries of an object literal that describes a prop. -/
def PropEntry.fields : List String :=
  ["propDefinition", "label", "description", "optional", "default"]

def fieldNames : List String := Component.fields ++ PropEntry.fields

def Unquoted (name : String) : Prop := name.toList.head? ≠ some '"'

instance (name : String) : Decidable (Unquoted name) :=
  inferInstanceAs (Decidable (name.toList.head? ≠ some '"'))

lemma unquoted_of_mem_fieldNames {name : String} (h : name ∈ fieldNames) : Unquoted name := by
  revert name
  decide

/-- A relation between keys that answer to the same names, as far as anyone asks. -/
structure Key.Lookalike : Prop where
  spelled {k k' : Key} : K k k' → ∀ name ∈ fieldNames, (k.Spelled name ↔ k'.Spelled name)

/-- A relation between expressions that show the same text and alike objects. -/
structure Expr.Lookalike : Prop where
  text {e e' : Expr} : R e e' → e.staticString? = e'.staticString?
  object {e e' : Expr} : R e e' → Option.Rel (ObjectLiteral.Like K R) e.object? e'.object?

lemma optionRel_cases {α : Type} {r : α → α → Prop} {a b : Option α} (h : Option.Rel r a b) :
    a = none ∧ b = none ∨ ∃ x y, a = some x ∧ b = some y ∧ r x y := by
  cases h with
  | none => exact .inl ⟨rfl, rfl⟩
  | some hr => exact .inr ⟨_, _, rfl, rfl, hr⟩

lemma forall₂_mem_zip {α : Type} {r : α → α → Prop} {l l' : List α} (h : List.Forall₂ r l l') :
    List.Forall₂ (fun a b => r a b ∧ (a, b) ∈ l.zip l') l l' := by
  rw [List.forall₂_iff_zip] at h ⊢
  exact ⟨h.1, fun hab => ⟨h.2 hab, hab⟩⟩

namespace Rule

/-- How a rule names a prop in its message, if it is about props. -/
def aboutProp? : Rule → Option (String → String)
  | described field => some (describedMessage field)
  | defaulted => some defaultedMessage
  | _ => none

lemma exists_blames {r : Rule} {write : String → String} (h : r.aboutProp? = some write) :
    ∃ blames : PropEntry → Bool, ∀ source span c, r.examine source span c =
      (c.props.filter blames).map fun p => ⟨p.property.span, write (p.displayName source)⟩ := by
  cases r with
  | described field =>
    cases h
    exact ⟨fun p => !p.definition.contains field.word, fun _ _ _ => rfl⟩
  | defaulted =>
    cases h
    exact ⟨fun p => isOptional p && !p.definition.contains "default", fun _ _ _ => rfl⟩
  | _ => cases h

end Rule

/-- Complaints that are the same, or about props that stand in the same place of two components. -/
inductive Complaint.Like (r : Rule) (source : String) (c c' : Component) :
    Complaint → Complaint → Prop
  | same {x : Complaint} : Like r source c c' x x
  | prop {write : String → String} {p p' : PropEntry} : r.aboutProp? = some write →
      (p, p') ∈ c.props.zip c'.props → p.property.span = p'.property.span →
      K p.property.key p'.property.key →
      Like r source c c' ⟨p.property.span, write (p.displayName source)⟩
        ⟨p'.property.span, write (p'.displayName source)⟩

variable {K R}

lemma Entry.Like.property? {e e' : Entry} (h : e.Like K R e') :
    Option.Rel (Property.Like K R) e.property? e'.property? := by
  cases h with
  | property hkey hvalue => exact .some ⟨rfl, hkey, hvalue⟩
  | spread => exact .none

section Keys

variable (hK : Key.Lookalike K)
include hK

lemma Property.Like.answers {p p' : Property} (h : p.Like K R p') {name : String}
    (hname : name ∈ fieldNames) : p.answers name = p'.answers name := by
  rw [Bool.eq_iff_iff, Property.answers_iff, Property.answers_iff]
  exact hK.spelled h.key name hname

namespace Entry

variable {entries entries' : List Entry}

lemma find?_like (h : List.Forall₂ (Like K R) entries entries') {name : String}
    (hname : name ∈ fieldNames) :
    Option.Rel (Property.Like K R) (find? name entries) (find? name entries') := by
  unfold find?
  induction h with
  | nil => exact .none
  | cons he _ ih =>
    rw [List.findSome?_cons, List.findSome?_cons]
    rcases optionRel_cases he.property? with ⟨hnone, hnone'⟩ | ⟨p, p', hp, hp', hlike⟩
    · rw [hnone, hnone']
      exact ih
    · rw [hp, hp', Option.filter_some, Option.filter_some, ← hlike.answers hK hname]
      cases p.answers name with
      | false => exact ih
      | true => exact .some hlike

lemma propsHolder?_like (h : List.Forall₂ (Like K R) entries entries') :
    Option.Rel (Property.Like K R) (propsHolder? entries) (propsHolder? entries') := by
  unfold propsHolder?
  rcases optionRel_cases (find?_like hK h (by decide : "props" ∈ fieldNames)) with
    ⟨hnone, hnone'⟩ | ⟨p, p', hp, hp', hlike⟩
  · rw [hnone, hnone']
    exact find?_like hK h (by decide : "propDefinitions" ∈ fieldNames)
  · rw [hp, hp']
    exact .some hlike

end Entry

lemma ObjectLiteral.Like.contains {o o' : ObjectLiteral} (h : o.Like K R o') {name : String}
    (hname : name ∈ fieldNames) : o.contains name = o'.contains name := by
  unfold ObjectLiteral.contains ObjectLiteral.find?
  rcases optionRel_cases (Entry.find?_like hK h hname) with ⟨hnone, hnone'⟩ | ⟨p, p', hp, hp', -⟩
  · rw [hnone, hnone']
  · rw [hp, hp']
    rfl

lemma Rule.isOptional_like (hR : ∀ e e', R e e' → e.truthy? = e'.truthy?) {p p' : PropEntry}
    (h : p.Like K R p') : isOptional p = isOptional p' := by
  unfold isOptional ObjectLiteral.find?
  have hmem : "optional" ∈ fieldNames := by decide
  rcases optionRel_cases (Entry.find?_like hK h.definition hmem) with
    ⟨hnone, hnone'⟩ | ⟨q, q', hq, hq', hlike⟩
  · rw [hnone, hnone']
  · rw [hq, hq', Option.bind_some, Option.bind_some, hR _ _ hlike.value]

section Values

variable (hR : Expr.Lookalike K R)
include hR

lemma PropEntry.ofProperty?_like {p p' : Property} (h : p.Like K R p') :
    Option.Rel (PropEntry.Like K R) (ofProperty? p) (ofProperty? p') := by
  unfold ofProperty?
  rcases optionRel_cases (hR.object h.value) with ⟨hnone, hnone'⟩ | ⟨o, o', ho, ho', hlike⟩
  · rw [hnone, hnone']
    exact .none
  · simp only [ho, ho', Option.bind_eq_bind, Option.bind_some,
      hlike.contains hK (by decide : "propDefinition" ∈ fieldNames)]
    cases o'.contains "propDefinition" with
    | false => exact .some ⟨h, hlike⟩
    | true => exact .none

namespace Component

variable {c c' : Component} (h : c.object.Like K R c'.object)
include h

lemma props_like : List.Forall₂ (PropEntry.Like K R) c.props c'.props := by
  have hholder : Option.Rel (ObjectLiteral.Like K R)
      (Entry.propsHolder? c.object.entries >>= (·.value.object?))
      (Entry.propsHolder? c'.object.entries >>= (·.value.object?)) := by
    rcases optionRel_cases (Entry.propsHolder?_like hK h) with
      ⟨hnone, hnone'⟩ | ⟨p, p', hp, hp', hlike⟩
    · rw [hnone, hnone']
      exact .none
    · rw [hp, hp']
      exact hR.object hlike.value
  unfold props
  rcases optionRel_cases hholder with ⟨hnone, hnone'⟩ | ⟨o, o', ho, ho', hlike⟩
  · rw [hnone, hnone']
    exact .nil
  · rw [ho, ho']
    have hproperties : List.Forall₂ (Property.Like K R) (o.entries.filterMap Entry.property?)
        (o'.entries.filterMap Entry.property?) :=
      List.rel_filterMap (R := Entry.Like K R) (fun _ _ he => he.property?) hlike
    exact List.rel_filterMap (R := Property.Like K R)
      (fun _ _ => PropEntry.ofProperty?_like hK hR) hproperties

lemma sourceProperty?_like {name : String} (hname : name ∈ fieldNames) :
    Option.Rel (Property.Like K R) (c.sourceProperty? name) (c'.sourceProperty? name) := by
  unfold sourceProperty? Component.find? ObjectLiteral.find?
  rcases optionRel_cases (Entry.find?_like hK h (by decide : "type" ∈ fieldNames)) with
    ⟨hnone, hnone'⟩ | ⟨p, p', hp, hp', hlike⟩
  · rw [hnone, hnone']
    exact .none
  · simp only [hp, hp', Option.bind_eq_bind, Option.bind_some, hR.text hlike.value]
    split
    · exact Entry.find?_like hK h hname
    · exact .none

lemma props_complaints_like {r : Rule} {write : String → String} (hr : r.aboutProp? = some write)
    {blamed : PropEntry → Bool} (hblamed : ∀ p p', p.Like K R p' → blamed p = blamed p')
    (source : String) :
    List.Forall₂ (Complaint.Like K r source c c')
      ((c.props.filter blamed).map fun p => ⟨p.property.span, write (p.displayName source)⟩)
      ((c'.props.filter blamed).map fun p => ⟨p.property.span, write (p.displayName source)⟩) := by
  have hprops := forall₂_mem_zip (props_like hK hR h)
  have hfiltered : List.Forall₂ _ (c.props.filter blamed) (c'.props.filter blamed) :=
    List.rel_filter (fun p p' hp => by simp [hblamed p p' hp.1]) hprops
  exact List.rel_map (fun p p' hp => .prop hr hp.2 hp.1.property.span hp.1.property.key) hfiltered

end Component

namespace Rule

lemma examine_like {c c' : Component} (h : c.object.Like K R c'.object) (r : Rule)
    (htruth : r = .defaulted → ∀ e e', R e e' → e.truthy? = e'.truthy?) (source : String)
    (span : Span) :
    List.Forall₂ (Complaint.Like K r source c c') (r.examine source span c)
      (r.examine source span c') := by
  cases r with
  | required field =>
    have hword : field.word ∈ fieldNames := by cases field <;> decide
    have hcontains : c.contains field.word = c'.contains field.word := h.contains hK hword
    simp only [examine, hcontains]
    exact List.forall₂_same.mpr fun _ _ => .same
  | described field =>
    have hword : field.word ∈ fieldNames := by cases field <;> decide
    refine Component.props_complaints_like hK hR h rfl (fun p p' hp => ?_) source
    rw [hp.definition.contains hK hword]
  | defaulted =>
    refine Component.props_complaints_like hK hR h rfl (fun p p' hp => ?_) source
    rw [hp.definition.contains hK (by decide), isOptional_like hK (htruth rfl) hp]
  | opening field =>
    have hword : field.word ∈ fieldNames := by cases field <;> decide
    simp only [examine]
    rcases optionRel_cases (Component.sourceProperty?_like hK hR h hword) with
      ⟨hnone, hnone'⟩ | ⟨p, p', hp, hp', hlike⟩
    · rw [hnone, hnone']
      exact .nil
    · simp only [hp, hp', hR.text hlike.value, hlike.span]
      exact List.forall₂_same.mpr fun _ _ => .same
  | unstamped =>
    simp only [examine, Component.find?, ObjectLiteral.find?]
    rcases optionRel_cases (Entry.find?_like hK h (by decide : "version" ∈ fieldNames)) with
      ⟨hnone, hnone'⟩ | ⟨p, p', hp, hp', hlike⟩
    · rw [hnone, hnone']
      exact .nil
    · simp only [hp, hp', hR.text hlike.value, hlike.span]
      exact List.forall₂_same.mpr fun _ _ => .same

end Rule

end Values

end Keys

structure Key.Same (k k' : Key) : Prop where
  name : k.name? = k'.name?
  span : k.span = k'.span

lemma Key.Same.spelled {k k' : Key} (h : k.Same k') (name : String) :
    k.Spelled name ↔ k'.Spelled name := by
  rw [Key.Spelled, Key.Spelled, h.name]

lemma PropEntry.displayName_of_same {p p' : PropEntry} (h : p.property.key.Same p'.property.key)
    (source : String) : p.displayName source = p'.displayName source := by
  unfold PropEntry.displayName
  rw [h.name, h.span]

lemma Complaint.Like.eq_of_same (hsame : ∀ k k', K k k' → k.Same k') {r : Rule} {source : String}
    {c c' : Component} {x x' : Complaint} (h : Complaint.Like K r source c c' x x') : x = x' := by
  cases h with
  | same => rfl
  | prop _ _ hspan hkey => rw [hspan, PropEntry.displayName_of_same (hsame _ _ hkey)]

end ExportLint
