import ExportLint.Proofs.Guidelines

/-! Rules about props look at the props that a component describes in place, in the order in which
its object literal of props holds them. A rule complains once about each of them that falls short,
and about nothing else. -/

namespace ExportLint

namespace Entry

def Inline : Entry → Prop
  | property _ _ value => ∃ d, value.Denotes d ∧ ¬ d.Has "propDefinition"
  | spread _ _ => False

/-- The props that entries describe in place, in their order. -/
inductive InlineProps : List Entry → List PropEntry → Prop
  | nil : InlineProps [] []
  | inline {span key value d entries ps} : value.Denotes d → ¬ d.Has "propDefinition" →
      InlineProps entries ps →
      InlineProps (property span key value :: entries) (⟨⟨span, key, value⟩, d⟩ :: ps)
  | skip {e entries ps} : ¬ e.Inline → InlineProps entries ps → InlineProps (e :: entries) ps

lemma ofProperty?_eq_none_iff {p : Property} :
    PropEntry.ofProperty? p = none ↔ ¬ Inline (property p.span p.key p.value) := by
  constructor
  · rintro hnone ⟨d, hd, hm⟩
    have hsome := PropEntry.ofProperty?_eq_some_iff (q := ⟨p, d⟩).mpr ⟨rfl, hd, hm⟩
    rw [hnone] at hsome
    cases hsome
  · intro hinline
    cases hp : PropEntry.ofProperty? p with
    | none => rfl
    | some q =>
      obtain ⟨rfl, hd, hm⟩ := PropEntry.ofProperty?_eq_some_iff.mp hp
      exact (hinline ⟨q.definition, hd, hm⟩).elim

lemma inlineProps_iff {entries : List Entry} {ps : List PropEntry} :
    InlineProps entries ps ↔
      (entries.filterMap property?).filterMap PropEntry.ofProperty? = ps := by
  constructor
  · intro h
    induction h with
    | nil => rfl
    | @inline span key value d entries ps hd hm _ ih =>
      have hp : PropEntry.ofProperty? ⟨span, key, value⟩ = some ⟨⟨span, key, value⟩, d⟩ :=
        PropEntry.ofProperty?_eq_some_iff.mpr ⟨rfl, hd, hm⟩
      simp [property?, hp, ih]
    | @skip e entries ps he _ ih =>
      cases e with
      | spread span argument => exact ih
      | property span key value =>
        have hp : PropEntry.ofProperty? ⟨span, key, value⟩ = none := ofProperty?_eq_none_iff.mpr he
        simp [property?, hp, ih]
  · rintro rfl
    induction entries with
    | nil => exact .nil
    | cons e entries ih =>
      cases e with
      | spread span argument => exact .skip id ih
      | property span key value =>
        rw [List.filterMap_cons_some (by rfl)]
        cases hp : PropEntry.ofProperty? ⟨span, key, value⟩ with
        | none =>
          rw [List.filterMap_cons_none hp]
          exact .skip (ofProperty?_eq_none_iff.mp hp) ih
        | some p =>
          obtain ⟨property, d⟩ := p
          obtain ⟨rfl, hd, hm⟩ := PropEntry.ofProperty?_eq_some_iff.mp hp
          rw [List.filterMap_cons_some hp]
          exact .inline hd hm ih

end Entry

/-- The inline props of a component. It has none if nothing holds its props, or no object literal
does. -/
inductive ObjectLiteral.InlineProps (o : ObjectLiteral) : List PropEntry → Prop
  | held {holder props ps} : Entry.Holder o.entries holder → holder.value.Denotes props →
      Entry.InlineProps props.entries ps → InlineProps o ps
  | none : (∀ holder props, Entry.Holder o.entries holder → ¬ holder.value.Denotes props) →
      InlineProps o []

lemma Component.inlineProps_iff {c : Component} {ps : List PropEntry} :
    c.object.InlineProps ps ↔ c.props = ps := by
  rw [props]
  cases hheld : Entry.propsHolder? c.object.entries >>= (·.value.object?) with
  | some props =>
    constructor
    · intro h
      cases h with
      | held hholder hdenotes hps =>
        have hsame := Entry.heldObject?_eq_some_iff.mpr ⟨_, hholder, hdenotes⟩
        obtain rfl := Option.some.inj (hheld.symm.trans hsame)
        exact Entry.inlineProps_iff.mp hps
      | none hnone =>
        obtain ⟨holder, hholder, hdenotes⟩ := Entry.heldObject?_eq_some_iff.mp hheld
        exact (hnone holder props hholder hdenotes).elim
    · intro h
      obtain ⟨holder, hholder, hdenotes⟩ := Entry.heldObject?_eq_some_iff.mp hheld
      exact .held hholder hdenotes (Entry.inlineProps_iff.mpr h)
  | none =>
    have hnone : ∀ holder props, Entry.Holder c.object.entries holder →
        ¬ holder.value.Denotes props := by
      intro holder props hholder hdenotes
      rw [Entry.heldObject?_eq_some_iff.mpr ⟨holder, hholder, hdenotes⟩] at hheld
      cases hheld
    constructor
    · intro h
      cases h with
      | held hholder hdenotes _ => exact (hnone _ _ hholder hdenotes).elim
      | none _ => rfl
    · rintro rfl
      exact .none hnone

lemma ObjectLiteral.existsUnique_inlineProps (o : ObjectLiteral) : ∃! ps, o.InlineProps ps :=
  ⟨Component.props ⟨o⟩, Component.inlineProps_iff.mpr rfl,
    fun _ h => (Component.inlineProps_iff.mp h).symm⟩

instance (o : ObjectLiteral) (name : String) : Decidable (o.Has name) :=
  decidable_of_iff (o.contains name = true) ObjectLiteral.contains_iff

instance (d : ObjectLiteral) : Decidable d.IsOptional :=
  decidable_of_iff (Rule.isOptional ⟨default, d⟩ = true) Rule.isOptional_iff

lemma ObjectLiteral.decide_has (o : ObjectLiteral) (name : String) :
    decide (o.Has name) = o.contains name := by
  rw [Bool.eq_iff_iff, decide_eq_true_iff, contains_iff]

lemma PropEntry.decide_isOptional (p : PropEntry) :
    decide p.definition.IsOptional = Rule.isOptional p := by
  rw [Bool.eq_iff_iff, decide_eq_true_iff, Rule.isOptional_iff]

theorem props_blamed_in_order (source : String) {s : Stmt} {o : ObjectLiteral} (h : s.Exports o) :
    (∃! ps, o.InlineProps ps) ∧
    ∀ ps, o.InlineProps ps →
      (∀ field : PropText, (Rule.described field).check source s =
        (ps.filter fun p => ¬ p.definition.Has field.word).map fun p =>
          ⟨p.property.span, Rule.describedMessage field (p.displayName source)⟩) ∧
      Rule.defaulted.check source s =
        (ps.filter fun p => p.definition.IsOptional ∧ ¬ p.definition.Has "default").map fun p =>
          ⟨p.property.span, Rule.defaultedMessage (p.displayName source)⟩ := by
  have hc : s.component? = some ⟨o⟩ := Stmt.component?_eq_some_iff.mpr h
  refine ⟨o.existsUnique_inlineProps, fun ps hps => ?_⟩
  obtain rfl := (Component.inlineProps_iff (c := ⟨o⟩)).mp hps
  simp only [Rule.check, hc, Rule.examine, decide_not, Bool.decide_and, ObjectLiteral.decide_has,
    PropEntry.decide_isOptional, implies_true, and_self]

/-- An optional prop `a` and a labelled prop `42`, among entries that describe no prop in place. -/
def mixedProps : List Entry :=
  [.spread ⟨26, 35⟩ (.identifier ⟨29, 35⟩ "common"),
    .property ⟨37, 40⟩ (.word ⟨37, 40⟩ "app") (.identifier ⟨37, 40⟩ "app"),
    .property ⟨42, 64⟩ (.word ⟨42, 43⟩ "a") (.object ⟨45, 64⟩
      [.property ⟨47, 62⟩ (.expr (.string ⟨47, 59⟩ "\"optional\"")) (.number ⟨61, 62⟩ (.ofNat 1))]),
    .property ⟨66, 90⟩ (.word ⟨66, 67⟩ "b") (.object ⟨69, 90⟩
      [.property ⟨71, 88⟩ (.word ⟨71, 85⟩ "propDefinition") (.identifier ⟨87, 88⟩ "d")]),
    .property ⟨92, 111⟩ (.expr (.number ⟨92, 94⟩ (.ofNat 42))) (.parenthesized ⟨96, 111⟩
      (.object ⟨97, 110⟩ [.property ⟨99, 108⟩ (.word ⟨99, 104⟩ "label") (.string ⟨106, 108⟩ "")]))]

def mixedExport : Stmt :=
  .exportDefault ⟨0, 115⟩ (.expr (.object ⟨15, 115⟩
    [.property ⟨17, 113⟩ (.word ⟨17, 22⟩ "props") (.object ⟨24, 113⟩ mixedProps)]))

theorem mixedExport_props_blamed :
    (Rule.described .label).check "" mixedExport =
      [⟨⟨42, 64⟩, Rule.describedMessage .label "a"⟩] ∧
    (Rule.described .description).check "" mixedExport =
      [⟨⟨42, 64⟩, Rule.describedMessage .description "a"⟩,
        ⟨⟨92, 111⟩, Rule.describedMessage .description ""⟩] ∧
    Rule.defaulted.check "" mixedExport = [⟨⟨42, 64⟩, Rule.defaultedMessage "a"⟩] := by
  obtain ⟨-, hblamed⟩ := props_blamed_in_order "" (s := mixedExport) (.default .object)
  obtain ⟨hdescribed, hdefaulted⟩ := hblamed _ (Component.inlineProps_iff.mpr rfl)
  rw [hdescribed, hdescribed, hdefaulted]
  exact ⟨rfl, rfl, rfl⟩

end ExportLint
