import ExportLint.Report
import Mathlib.Tactic.Lemma

/-! Reports in the order of the source. Sorting is stable, so it does not matter whether findings
are dropped or changed before or after it, as long as they keep their spans. -/

namespace ExportLint

namespace Span

lemma le_iff (a b : Span) :
    a.le b = true ↔ a.start < b.start ∨ a.start = b.start ∧ a.stop ≤ b.stop := by
  simp [le]

lemma le_trans (a b c : Span) (hab : a.le b = true) (hbc : b.le c = true) : a.le c = true := by
  rw [le_iff] at *
  omega

lemma le_total (a b : Span) : (a.le b || b.le a) = true := by
  rw [Bool.or_eq_true, le_iff, le_iff]
  omega

end Span

section StableSort

variable {α : Type} {le : α → α → Bool}

lemma append_eq_append_of_filter {p : α → Bool} {l₁ l₂ m₁ m₂ : List α} (h : l₁ ++ l₂ = m₁ ++ m₂)
    (hl₁ : ∀ x ∈ l₁, p x = false) (hl₂ : ∀ x ∈ l₂, p x = true)
    (hm₁ : ∀ x ∈ m₁, p x = false) (hm₂ : ∀ x ∈ m₂, p x = true) : l₁ = m₁ ∧ l₂ = m₂ := by
  have hpos : ∀ k₁ k₂ : List α, (∀ x ∈ k₁, p x = false) → (∀ x ∈ k₂, p x = true) →
      (k₁ ++ k₂).filter p = k₂ := by
    intro k₁ k₂ h₁ h₂
    rw [List.filter_append, List.filter_eq_nil_iff.mpr (by simpa using h₁),
      List.filter_eq_self.mpr h₂, List.nil_append]
  have hright : l₂ = m₂ := by rw [← hpos l₁ l₂ hl₁ hl₂, h, hpos m₁ m₂ hm₁ hm₂]
  exact ⟨List.append_cancel_right (hright ▸ h), hright⟩

lemma mergeSort_filterMap (trans : ∀ a b c, le a b = true → le b c = true → le a c = true)
    (total : ∀ a b, (le a b || le b a) = true) {g : α → Option α}
    (hg : ∀ a b a' b', g a = some a' → g b = some b' → le a' b' = le a b) (l : List α) :
    (l.filterMap g).mergeSort le = (l.mergeSort le).filterMap g := by
  induction l with
  | nil => simp
  | cons a l ih =>
    obtain ⟨l₁, l₂, hal, hl, hl₁⟩ := List.mergeSort_cons trans total a l
    have hl₂ : ∀ x ∈ l₂, le a x = true := by
      have hs := List.pairwise_mergeSort trans total (a :: l)
      rw [hal, List.pairwise_append, List.pairwise_cons] at hs
      exact hs.2.1.1
    cases ha : g a with
    | none => rw [List.filterMap_cons_none ha, ih, hal, hl]; simp [ha]
    | some b =>
      obtain ⟨m₁, m₂, hbm, hm, hm₁⟩ := List.mergeSort_cons trans total b (l.filterMap g)
      have hm₂ : ∀ x ∈ m₂, le b x = true := by
        have hs := List.pairwise_mergeSort trans total (b :: l.filterMap g)
        rw [hbm, List.pairwise_append, List.pairwise_cons] at hs
        exact hs.2.1.1
      -- the new element splits the sorted rest at the same place on both sides
      have hsplit : m₁ = l₁.filterMap g ∧ m₂ = l₂.filterMap g := by
        apply append_eq_append_of_filter (p := le b)
        · rw [← hm, ih, hl, List.filterMap_append]
        · simpa using hm₁
        · exact hm₂
        · intro y hy
          obtain ⟨x, hx, hxy⟩ := List.mem_filterMap.mp hy
          rw [hg a x b y ha hxy]
          simpa using hl₁ x hx
        · intro y hy
          obtain ⟨x, hx, hxy⟩ := List.mem_filterMap.mp hy
          rw [hg a x b y ha hxy]
          exact hl₂ x hx
      rw [List.filterMap_cons_some ha, hbm, hal, hsplit.1, hsplit.2]
      simp [ha]

end StableSort

lemma Report.sorted_filterMap {g : Finding → Option Finding}
    (hg : ∀ f f', g f = some f' → f'.span = f.span) (r : Report) :
    Report.sorted ⟨r.findings.filterMap g⟩ = ⟨r.sorted.findings.filterMap g⟩ := by
  have h : (r.findings.filterMap g).mergeSort (fun a b => a.span.le b.span) =
      (r.findings.mergeSort fun a b => a.span.le b.span).filterMap g := by
    apply mergeSort_filterMap
    · exact fun a b c => Span.le_trans a.span b.span c.span
    · exact fun a b => Span.le_total a.span b.span
    · intro a b a' b' ha hb
      rw [hg a a' ha, hg b b' hb]
  rw [sorted, sorted, h]

end ExportLint
