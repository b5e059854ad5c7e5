import ExportLint.Proofs.KeySpelling

/-! Words in brackets. A key `[word]` answers to its word as if it stood there without the brackets,
although it is a variable, whose value the source does not show. So the name of a variable matters,
as far as rules look for it. -/

namespace ExportLint

namespace Key

/-- A word without the brackets around it. -/
inductive Unbracketed : Key → Key → Prop
  | word {span : Span} {name : String} :
      Unbracketed (.expr (.identifier span name)) (.word span name)

/-- Another word in the brackets, where `R` lets it take the place of the first. -/
inductive Renamed (R : String → String → Prop) : Key → Key → Prop
  | word {span : Span} {x y : String} : R x y →
      Renamed R (.expr (.identifier span x)) (.expr (.identifier span y))

/-- Whether no rule tells a key of one name from a key of the other. -/
def Interchangeable (x y : String) : Prop :=
  ∀ field ∈ fieldNames, spells x field = spells y field

variable {k k' : Key} {R : String → String → Prop}

lemma Unbracketed.same (h : k.Unbracketed k') : k.Same k' := by
  cases h
  exact ⟨rfl, rfl⟩

lemma Unbracketed.exports (h : k.Unbracketed k') :
    (Part.key k).exports = [] ∧ (Part.key k').exports = [] := by
  cases h
  simp [Part.exports_eq, Part.stmt?, Part.children]

lemma Renamed.exports (h : k.Renamed R k') :
    (Part.key k).exports = [] ∧ (Part.key k').exports = [] := by
  cases h
  simp [Part.exports_eq, Part.stmt?, Part.children]

lemma spelled_identifier {span : Span} {name field : String} :
    (Key.expr (.identifier span name)).Spelled field ↔ spells name field = true := by
  simp [Spelled, name?, spells_iff]

lemma Renamed.spelled (hR : ∀ x y, R x y → Interchangeable x y) (h : k.Renamed R k')
    (field : String) (hfield : field ∈ fieldNames) : k.Spelled field ↔ k'.Spelled field := by
  cases h with
  | word hxy => rw [spelled_identifier, spelled_identifier, hR _ _ hxy field hfield]

end Key

lemma Edits.unbracketed_harmless : (ofKeys Key.Unbracketed).Harmless :=
  ofKeys_harmless_of_spelled (fun _ _ h name _ => h.same.spelled name) fun _ _ h => h.exports

theorem unbracketing_changes_nothing (rules : RuleSet) (source : String) {p q : Program}
    (h : p.Rewritten (.ofKeys Key.Unbracketed) q) :
    Run.ofProgram rules source p = Run.ofProgram rules source q :=
  h.ofProgram_eq Edits.unbracketed_harmless (fun _ _ hk => hk.same) (Edits.ofKeys_truthy? _) rules
    source

lemma Edits.renamed_harmless {R : String → String → Prop}
    (hR : ∀ x y, R x y → Key.Interchangeable x y) : (ofKeys (Key.Renamed R)).Harmless :=
  ofKeys_harmless_of_spelled (fun _ _ h => h.spelled hR) fun _ _ h => h.exports

/-! ### What is found, and where -/

def Finding.place (f : Finding) : Rule × Severity × Span := (f.rule, f.severity, f.span)

def Run.places (run : Run) : List (Rule × Severity × Span) := run.findings.map Finding.place

lemma Finding.Like.place_eq {K : Key → Key → Prop} {source : String} {c c' : Component}
    {f f' : Finding} (h : Finding.Like K source c c' f f') : f.place = f'.place := by
  have hspan : f.span = f'.span := by
    cases f
    cases f'
    cases h.complaint with
    | same => rfl
    | prop _ _ hspan _ => exact hspan
  rw [place, place, h.rule, h.severity, hspan]

lemma Program.Rewritten.places_eq {E : Edits} (hE : E.Harmless)
    (htruth : ∀ e w, E.value e w → e.truthy? = w.truthy?) {p q : Program} (h : p.Rewritten E q)
    (rules : RuleSet) (source : String) :
    (Run.ofProgram rules source p).places = (Run.ofProgram rules source q).places := by
  have hplaces : List.Forall₂ (fun f f' : Finding => f.place = f'.place)
      (Run.ofProgram rules source p).findings (Run.ofProgram rules source q).findings := by
    rw [Run.findings_eq_exports, Run.findings_eq_exports]
    refine List.rel_flatMap (h.exports hE) fun x y hxy => ?_
    refine (RuleSet.examine_like hE.keys hE.values ?_ source hxy).imp fun _ _ hf => hf.place_eq
    exact fun _ _ _ _ _ => Expr.Rewritten.truthy? htruth
  rw [Run.places, Run.places, ← List.forall₂_eq_eq_eq, List.forall₂_map_left_iff,
    List.forall₂_map_right_iff]
  exact hplaces

/-! ### Names that rules tell apart -/

namespace Key

/-- The name that rules know a key by, or the empty name, by which they know none. -/
def field (name : String) : String :=
  (fieldNames.find? (spells name ·)).getD ""

lemma spells_iff_eq {name field field' : String} (hfield : field ∈ fieldNames)
    (hfield' : field' ∈ fieldNames) (h : spells name field' = true) :
    spells name field = true ↔ field = field' := by
  have hne : field ≠ inQuotes field' := by
    rintro rfl
    exact not_unquoted_inQuotes _ (unquoted_of_mem_fieldNames hfield)
  have hne' : inQuotes field ≠ field' := by
    rintro rfl
    exact not_unquoted_inQuotes _ (unquoted_of_mem_fieldNames hfield')
  rw [spells_iff] at h ⊢
  rcases h with rfl | rfl
  · simp [hne'.symm, eq_comm]
  · simp [hne.symm, inQuotes_inj, eq_comm]

lemma field_mem (name : String) : field name ∈ "" :: fieldNames := by
  rw [field]
  cases h : fieldNames.find? (spells name ·) with
  | none => exact List.mem_cons_self
  | some field => exact List.mem_cons_of_mem _ (List.mem_of_find?_eq_some h)

lemma interchangeable_field (name : String) : Interchangeable name (field name) := by
  intro asked hasked
  rw [field]
  cases h : fieldNames.find? (spells name ·) with
  | none =>
    have hnone : ∀ asked ∈ fieldNames, spells "" asked = false := by decide
    rw [Option.getD_none, hnone asked hasked]
    simpa using List.find?_eq_none.mp h asked hasked
  | some known =>
    have hknown := List.mem_of_find?_eq_some h
    rw [Option.getD_some, Bool.eq_iff_iff, spells_iff_eq hasked hknown (List.find?_some h),
      spells_iff_eq hasked hknown (spells_iff.mpr (.inl rfl))]

end Key

/-- Two exports. What is found about them tells apart all keys that can be told apart. -/
def revealing (key : Key) : Program :=
  let unlabelled : Expr := .object ⟨0, 0⟩ [.property ⟨0, 0⟩ (.word ⟨0, 0⟩ "a")
    (.object ⟨0, 0⟩ [.spread ⟨0, 0⟩ (.identifier ⟨0, 0⟩ "text")])]
  [.exportDefault ⟨0, 0⟩ (.expr (.object ⟨0, 0⟩ [.property ⟨0, 0⟩ key unlabelled])),
    .exportDefault ⟨0, 0⟩ (.expr (.object ⟨0, 0⟩
      [.property ⟨0, 0⟩ key unlabelled,
        .property ⟨0, 0⟩ (.word ⟨0, 0⟩ "props") (.object ⟨0, 0⟩
          [.property ⟨0, 0⟩ (.word ⟨0, 0⟩ "b") (.object ⟨0, 0⟩
            [.property ⟨0, 0⟩ key (.boolean ⟨0, 0⟩ true)]),
          .property ⟨0, 0⟩ (.word ⟨0, 0⟩ "c") (.object ⟨0, 0⟩
            [.property ⟨0, 0⟩ (.word ⟨0, 0⟩ "optional") (.boolean ⟨0, 0⟩ true),
            .property ⟨0, 0⟩ key (.null ⟨0, 0⟩)])])]))]

lemma revealing_rewritten {K : Key → Key → Prop} {key key' : Key} (h : K key key') :
    (revealing key).Rewritten (.ofKeys K) (revealing key') := by
  have hkey : ∀ value, Part.Rewritten (.ofKeys K) (.entry (.property ⟨0, 0⟩ key value))
      (.entry (.property ⟨0, 0⟩ key' value)) := fun value =>
    .keep rfl (.cons (.key h) (.cons (.refl _) .nil))
  have hvalue : ∀ {name value value'}, Part.Rewritten (.ofKeys K) (.expr value) (.expr value') →
      Part.Rewritten (.ofKeys K) (.entry (.property ⟨0, 0⟩ (.word ⟨0, 0⟩ name) value))
        (.entry (.property ⟨0, 0⟩ (.word ⟨0, 0⟩ name) value')) := fun hv =>
    .keep rfl (.cons (.refl _) (.cons hv .nil))
  refine .cons (.keep rfl (.cons (.keep rfl (.cons (hkey _) .nil)) .nil))
    (.cons (.keep rfl (.cons (.keep rfl (.cons (hkey _) (.cons (hvalue ?_) .nil))) .nil)) .nil)
  refine .keep rfl (.cons (hvalue (.keep rfl (.cons (hkey _) .nil))) (.cons (hvalue ?_) .nil))
  exact .keep rfl (.cons (.refl _) (.cons (hkey _) .nil))

def revealed (name : String) : List (Rule × Severity × Span) :=
  (Run.ofProgram .all "" (revealing (.expr (.identifier ⟨0, 0⟩ name)))).places

lemma eq_of_revealed : ∀ x ∈ "" :: fieldNames, ∀ y ∈ "" :: fieldNames,
    revealed x = revealed y → x = y := by
  decide +kernel

lemma Key.interchangeable_of_revealed {x y : String} (h : revealed x = revealed y) :
    Interchangeable x y := by
  -- of all names, only those that rules know keys by need to be tried
  have hfield : ∀ name, revealed name = revealed (field name) := by
    intro name
    have hrenamed : Renamed (fun x y => y = field x) (.expr (.identifier ⟨0, 0⟩ name))
        (.expr (.identifier ⟨0, 0⟩ (field name))) := .word rfl
    refine (revealing_rewritten hrenamed).places_eq (Edits.renamed_harmless ?_)
      (Edits.ofKeys_truthy? _) .all ""
    rintro x _ rfl
    exact interchangeable_field x
  have heq : field x = field y :=
    eq_of_revealed _ (field_mem x) _ (field_mem y) (by rw [← hfield, h, hfield])
  intro asked hasked
  rw [interchangeable_field x asked hasked, heq, interchangeable_field y asked hasked]

/-- Renaming words in brackets keeps what is found, and where, exactly if no rule tells the new
names from the old. -/
theorem renaming_keeps_places_iff (R : String → String → Prop) :
    (∀ (rules : RuleSet) (source : String) (p q : Program),
      p.Rewritten (.ofKeys (Key.Renamed R)) q →
        (Run.ofProgram rules source p).places = (Run.ofProgram rules source q).places) ↔
    ∀ x y, R x y → Key.Interchangeable x y := by
  constructor
  · intro h x y hxy
    exact Key.interchangeable_of_revealed (h .all "" _ _ (revealing_rewritten (.word hxy)))
  · intro hR rules source p q h
    exact h.places_eq (Edits.renamed_harmless hR) (Edits.ofKeys_truthy? _) rules source

/-- An action that shows nothing of its key but a variable. -/
def bracketedAction (word : String) : Program :=
  [.exportDefault ⟨0, 92⟩ (.expr (.object ⟨15, 92⟩
    [.property ⟨17, 27⟩ (.expr (.identifier ⟨18, 21⟩ word)) (.string ⟨24, 27⟩ "k"),
      .property ⟨29, 38⟩ (.word ⟨29, 33⟩ "name") (.string ⟨35, 38⟩ "n"),
      .property ⟨40, 56⟩ (.word ⟨40, 47⟩ "version") (.string ⟨49, 56⟩ "0.0.1"),
      .property ⟨58, 74⟩ (.word ⟨58, 69⟩ "description") (.string ⟨71, 74⟩ "d"),
      .property ⟨76, 90⟩ (.word ⟨76, 80⟩ "type") (.string ⟨82, 90⟩ "action")]))]

theorem bracketedAction_renamed :
    (bracketedAction "key").Rewritten (.ofKeys (Key.Renamed fun _ _ => True))
      (bracketedAction "uid") ∧
    (Run.ofProgram .all "" (bracketedAction "key")).places = [] ∧
    (Run.ofProgram .all "" (bracketedAction "uid")).places =
      [(.required .key, .error, ⟨0, 92⟩)] := by
  refine ⟨?_, rfl, rfl⟩
  refine .cons (.keep rfl (.cons (.keep rfl (.cons ?_ (.refl fun _ _ => .refl _))) .nil)) .nil
  exact .keep rfl (.cons (.key (.word trivial)) (.cons (.refl _) .nil))

end ExportLint
