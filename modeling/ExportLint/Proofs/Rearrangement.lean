import ExportLint.Proofs.Exports
import ExportLint.Proofs.Guidelines
import ExportLint.Proofs.Lookalikes
import Mathlib.Tactic.FinCases

/-! Rules look at the first entry of a component for each name they know. Entries with other names
may come and go, and entries of different names may change places, without any rule noticing. -/

namespace ExportLint

instance (name : String) (k : Key) : Decidable (k.Spelled name) :=
  inferInstanceAs (Decidable (_ ∨ _))

namespace Entry

instance (name : String) : DecidablePred (Spelled name)
  | property _ key _ => inferInstanceAs (Decidable (key.Spelled name))
  | spread _ _ => inferInstanceAs (Decidable False)

/-- The second entries are the first after entries without a name that rules know were inserted or
deleted, and others were permuted such that those of one name kept their order. -/
inductive Rearranged : List Entry → List Entry → Prop
  | insert {before after : List Entry} {e : Entry} : (∀ name ∈ Component.fields, ¬ e.Spelled name) →
      Rearranged (before ++ after) (before ++ e :: after)
  | delete {before after : List Entry} {e : Entry} : (∀ name ∈ Component.fields, ¬ e.Spelled name) →
      Rearranged (before ++ e :: after) (before ++ after)
  | permute {entries entries' : List Entry} : entries.Perm entries' →
      (∀ name ∈ Component.fields,
        entries.filter (Spelled name ·) = entries'.filter (Spelled name ·)) →
      Rearranged entries entries'
  | trans {entries entries' entries'' : List Entry} : Rearranged entries entries' →
      Rearranged entries' entries'' → Rearranged entries entries''

lemma filter_insert {name : String} {e : Entry} (h : ¬ e.Spelled name) (before after : List Entry) :
    (before ++ e :: after).filter (Spelled name ·) = (before ++ after).filter (Spelled name ·) := by
  rw [List.filter_append, List.filter_append, List.filter_cons_of_neg (by simpa using h)]

lemma Rearranged.filter_eq {entries entries' : List Entry} (h : Rearranged entries entries')
    {name : String} (hname : name ∈ Component.fields) :
    entries.filter (Spelled name ·) = entries'.filter (Spelled name ·) := by
  induction h with
  | insert he => exact (filter_insert (he name hname) _ _).symm
  | delete he => exact filter_insert (he name hname) _ _
  | permute _ hfilter => exact hfilter name hname
  | trans _ _ ih ih' => exact ih.trans ih'

lemma find?_filter (name : String) (entries : List Entry) :
    find? name (entries.filter (Spelled name ·)) = find? name entries := by
  induction entries with
  | nil => rfl
  | cons e entries ih =>
    by_cases he : e.Spelled name
    · rw [List.filter_cons_of_pos (by simpa using he)]
      unfold find? at ih ⊢
      rw [List.findSome?_cons, List.findSome?_cons, ih]
    · rw [List.filter_cons_of_neg (by simpa using he), ih, find?, find?, List.findSome?_cons,
        filter_answers_eq_none_iff.mpr he]

lemma Rearranged.find?_eq {entries entries' : List Entry} (h : Rearranged entries entries')
    {name : String} (hname : name ∈ Component.fields) : find? name entries = find? name entries' := by
  rw [← find?_filter, h.filter_eq hname, find?_filter]

end Entry

section FirstEntries

variable {c c' : Component} (h : ∀ name ∈ Component.fields, c.find? name = c'.find? name)
include h

namespace Component

lemma contains_eq_of_find? {name : String} (hname : name ∈ fields) :
    c.contains name = c'.contains name :=
  congrArg Option.isSome (h name hname)

lemma props_eq_of_find? : c.props = c'.props := by
  have hholder : Entry.propsHolder? c.object.entries = Entry.propsHolder? c'.object.entries :=
    congrArg₂ (fun props definitions => props <|> definitions)
      (h "props" (by decide)) (h "propDefinitions" (by decide))
  rw [props, props, hholder]

lemma sourceProperty?_eq_of_find? {name : String} (hname : name ∈ fields) :
    c.sourceProperty? name = c'.sourceProperty? name := by
  rw [sourceProperty?, sourceProperty?, h "type" (by decide), h name hname]

end Component

lemma Rule.examine_eq_of_find? (r : Rule) (source : String) (span : Span) :
    r.examine source span c = r.examine source span c' := by
  cases r with
  | required field =>
    have hword : field.word ∈ Component.fields := by cases field <;> decide
    rw [examine, examine, Component.contains_eq_of_find? h hword]
  | described field => rw [examine, examine, Component.props_eq_of_find? h]
  | defaulted => rw [examine, examine, Component.props_eq_of_find? h]
  | opening field =>
    have hword : field.word ∈ Component.fields := by cases field <;> decide
    rw [examine, examine, Component.sourceProperty?_eq_of_find? h hword]
  | unstamped => rw [examine, examine, h "version" (by decide)]

end FirstEntries

/-- The expression with another object literal in the place of its own, inside its parentheses. -/
def Expr.withObject (o : ObjectLiteral) : Expr → Expr
  | .parenthesized span inner => .parenthesized span (inner.withObject o)
  | _ => .object o.span o.entries

/-- The statement with another object literal in the place of the one it exports. -/
def Stmt.withObject (o : ObjectLiteral) : Stmt → Stmt
  | .exportDefault span (.expr value) => .exportDefault span (.expr (value.withObject o))
  | .expression span (.assignment span' operator target value) =>
    .expression span (.assignment span' operator target (value.withObject o))
  | s => s

namespace Expr

variable {o : ObjectLiteral}

lemma denotes_object (ho : o.entries ≠ []) : (Expr.object o.span o.entries).Denotes o := by
  obtain ⟨span, entries⟩ := o
  cases entries with
  | nil => exact (ho rfl).elim
  | cons entry entries => exact .object

lemma denotes_withObject (ho : o.entries ≠ []) (e : Expr) : (e.withObject o).Denotes o := by
  induction e using Expr.withObject.induct with
  | case1 span inner ih =>
    rw [withObject]
    exact .parenthesized ih
  | case2 e he =>
    rw [withObject]
    · exact denotes_object ho
    · exact he

end Expr

namespace Stmt

variable {s : Stmt} {o o' : ObjectLiteral}

lemma span_withObject (s : Stmt) : (s.withObject o).span = s.span := by
  unfold withObject
  split <;> rfl

lemma Exports.withObject (h : s.Exports o) (ho : o'.entries ≠ []) :
    (s.withObject o').Exports o' := by
  cases h with
  | default _ => exact .default (Expr.denotes_withObject ho _)
  | assigned _ => exact .assigned (Expr.denotes_withObject ho _)

end Stmt

lemma RuleSet.check_of_exports {s : Stmt} {o : ObjectLiteral} (h : s.Exports o) (rules : RuleSet)
    (source : String) : rules.check source s = rules.examine source (s.span, ⟨o⟩) := by
  have hc : s.component? = some ⟨o⟩ := Stmt.component?_eq_some_iff.mpr h
  rw [check_eq_examine, Stmt.shipped?, hc]
  exact List.append_nil _

theorem rearranging_changes_no_finding {s : Stmt} {o o' : ObjectLiteral} (h : s.Exports o)
    (ho : o'.entries ≠ []) (hentries : Entry.Rearranged o.entries o'.entries) :
    (s.withObject o').Exports o' ∧ (s.withObject o').span = s.span ∧
    ∀ (rules : RuleSet) (source : String),
      rules.check source (s.withObject o') = rules.check source s := by
  have hfirst : ∀ name ∈ Component.fields,
      (Component.mk o').find? name = (Component.mk o).find? name :=
    fun name hname => (hentries.find?_eq hname).symm
  refine ⟨h.withObject ho, s.span_withObject, fun rules source => ?_⟩
  rw [RuleSet.check_of_exports (h.withObject ho), RuleSet.check_of_exports h, s.span_withObject]
  simp only [RuleSet.examine, Rule.examine_eq_of_find? hfirst]

def twoNames : List Entry :=
  [.property ⟨17, 28⟩ (.word ⟨17, 21⟩ "name") (.string ⟨23, 28⟩ "Row"),
    .property ⟨30, 47⟩ (.expr (.string ⟨30, 38⟩ "\"name\"")) (.string ⟨40, 47⟩ "New Row")]

def typeEntry : Entry :=
  .property ⟨61, 75⟩ (.word ⟨61, 65⟩ "type") (.string ⟨67, 75⟩ "source")

def numbered : Entry :=
  .property ⟨30, 35⟩ (.expr (.number ⟨30, 32⟩ (.ofNat 42))) (.null ⟨34, 35⟩)

def namedTwice : ObjectLiteral :=
  ⟨⟨15, 77⟩, twoNames ++ [.spread ⟨49, 59⟩ (.identifier ⟨52, 59⟩ "common"), typeEntry]⟩

def typedFirst : ObjectLiteral :=
  ⟨⟨15, 80⟩, typeEntry :: (twoNames ++ [numbered])⟩

/-- The type comes first and the spread is gone, but the two names keep their order. -/
lemma namedTwice_rearranged : Entry.Rearranged namedTwice.entries typedFirst.entries := by
  have hspread : Entry.Rearranged namedTwice.entries (twoNames ++ [typeEntry]) :=
    .delete fun _ _ => id
  have hnumber : Entry.Rearranged (twoNames ++ [typeEntry]) (twoNames ++ [numbered, typeEntry]) :=
    .insert (by decide)
  refine hspread.trans (hnumber.trans (.permute ?_ ?_))
  · exact List.perm_append_singleton typeEntry (twoNames ++ [numbered])
  · intro name hname
    fin_cases hname <;> rfl

theorem namedTwice_rearranged_findings :
    let s := Stmt.exportDefault ⟨0, 78⟩ (.expr (.parenthesized ⟨14, 78⟩
      (.object namedTwice.span namedTwice.entries)))
    (s.withObject typedFirst).Exports typedFirst ∧ (s.withObject typedFirst).span = ⟨0, 78⟩ ∧
    RuleSet.all.check "" (s.withObject typedFirst) = RuleSet.all.check "" s ∧
    ∃ f ∈ RuleSet.all.check "" (s.withObject typedFirst), f.rule.id = "source-name" := by
  intro s
  have hs : s.Exports namedTwice := .default (.parenthesized .object)
  obtain ⟨hexports, hspan, hcheck⟩ :=
    rearranging_changes_no_finding hs (List.cons_ne_nil _ _) namedTwice_rearranged
  exact ⟨hexports, hspan, hcheck .all "", by decide⟩

end ExportLint
