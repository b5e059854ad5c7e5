import ExportLint.Text.Span
import Mathlib.Data.List.Basic

/-! What a span shows of a source, said with the sizes of strings. A span may be reversed, end
beyond the source or cut a character: it shows nothing then. -/

namespace ExportLint

namespace Text

lemma byteLength_cons (c : Char) (cs : List Char) :
    byteLength (c :: cs) = c.utf8Size + byteLength cs :=
  rfl

lemma byteLength_append (cs ds : List Char) :
    byteLength (cs ++ ds) = byteLength cs + byteLength ds := by
  induction cs with
  | nil => exact (Nat.zero_add _).symm
  | cons c cs ih => rw [List.cons_append, byteLength_cons, byteLength_cons, ih, Nat.add_assoc]

lemma byteLength_toList (s : String) : byteLength s.toList = s.utf8ByteSize := by
  have hlist : ∀ cs, byteLength cs = (String.ofList cs).utf8ByteSize := by
    intro cs
    induction cs with
    | nil => rfl
    | cons c cs ih =>
      rw [byteLength_cons, ih, String.ofList_cons, String.utf8ByteSize_append,
        String.utf8ByteSize_singleton]
  rw [hlist, String.ofList_toList]

lemma takeBytes_cons (c : Char) (n : ℕ) (cs : List Char) :
    takeBytes (c.utf8Size + n) (c :: cs) = (takeBytes n cs).map (c :: ·) := by
  have hc := c.utf8Size_pos
  obtain ⟨k, hk⟩ : ∃ k, c.utf8Size + n = k + 1 := ⟨c.utf8Size + n - 1, by omega⟩
  rw [hk, takeBytes, if_pos (by omega), ← hk, Nat.add_sub_cancel_left]

lemma dropBytes_cons (c : Char) (n : ℕ) (cs : List Char) :
    dropBytes (c.utf8Size + n) (c :: cs) = dropBytes n cs := by
  have hc := c.utf8Size_pos
  obtain ⟨k, hk⟩ : ∃ k, c.utf8Size + n = k + 1 := ⟨c.utf8Size + n - 1, by omega⟩
  rw [hk, dropBytes, if_pos (by omega), ← hk, Nat.add_sub_cancel_left]

lemma takeBytes_eq_some_iff {n : ℕ} {cs before : List Char} :
    takeBytes n cs = some before ↔ ∃ rest, cs = before ++ rest ∧ byteLength before = n := by
  constructor
  · intro h
    fun_induction takeBytes n cs generalizing before with
    | case1 cs =>
      cases h
      exact ⟨cs, rfl, rfl⟩
    | case2 n => cases h
    | case3 n c cs hle ih =>
      obtain ⟨before, hb, rfl⟩ := Option.map_eq_some_iff.mp h
      obtain ⟨rest, rfl, hn⟩ := ih hb
      refine ⟨rest, rfl, ?_⟩
      rw [byteLength_cons, hn]
      omega
    | case4 n c cs hle => cases h
  · rintro ⟨rest, rfl, rfl⟩
    induction before with
    | nil => cases rest <;> rfl
    | cons c before ih =>
      rw [byteLength_cons, List.cons_append, takeBytes_cons, ih, Option.map_some]

lemma dropBytes_eq_some_iff {n : ℕ} {cs rest : List Char} :
    dropBytes n cs = some rest ↔ ∃ before, cs = before ++ rest ∧ byteLength before = n := by
  constructor
  · intro h
    fun_induction dropBytes n cs with
    | case1 cs =>
      cases h
      exact ⟨[], rfl, rfl⟩
    | case2 n => cases h
    | case3 n c cs hle ih =>
      obtain ⟨before, rfl, hn⟩ := ih h
      refine ⟨c :: before, rfl, ?_⟩
      rw [byteLength_cons, hn]
      omega
    | case4 n c cs hle => cases h
  · rintro ⟨before, rfl, rfl⟩
    induction before with
    | nil => cases rest <;> rfl
    | cons c before ih => rw [byteLength_cons, List.cons_append, dropBytes_cons, ih]

end Text

namespace Span

/-- The text stands between the ends of the span in the source. -/
def Cuts (s : Span) (source text : String) : Prop :=
  ∃ before after, source = before ++ text ++ after ∧ before.utf8ByteSize = s.start ∧
    (before ++ text).utf8ByteSize = s.stop

def Shows (s : Span) (source text : String) : Prop :=
  s.Cuts source text ∨ text = "" ∧ ∀ other, ¬ s.Cuts source other

variable {s : Span} {source : String}

lemma cuts_iff {text : String} : s.Cuts source text ↔
    ∃ before after, source.toList = before ++ (text.toList ++ after) ∧
      Text.byteLength before = s.start ∧
      Text.byteLength before + Text.byteLength text.toList = s.stop := by
  constructor
  · rintro ⟨before, after, rfl, hstart, hstop⟩
    refine ⟨before.toList, after.toList, by simp, ?_, ?_⟩
    · rw [Text.byteLength_toList, hstart]
    · rw [Text.byteLength_toList, Text.byteLength_toList, ← String.utf8ByteSize_append, hstop]
  · rintro ⟨before, after, hsource, hstart, hstop⟩
    refine ⟨String.ofList before, String.ofList after, ?_, ?_, ?_⟩
    · rw [← String.toList_inj, hsource]
      simp
    · rw [← Text.byteLength_toList, String.toList_ofList, hstart]
    · rw [← Text.byteLength_toList, String.toList_append, String.toList_ofList,
        Text.byteLength_append, hstop]

lemma slice?_eq_some_iff {cs : List Char} :
    s.slice? source = some cs ↔ s.Cuts source (String.ofList cs) := by
  rw [cuts_iff, String.toList_ofList, slice?]
  constructor
  · intro h
    split at h
    · rename_i hle
      obtain ⟨rest, hdrop, htake⟩ := Option.bind_eq_some_iff.mp h
      obtain ⟨before, hsource, hstart⟩ := Text.dropBytes_eq_some_iff.mp hdrop
      obtain ⟨after, rfl, hsize⟩ := Text.takeBytes_eq_some_iff.mp htake
      exact ⟨before, after, hsource, hstart, by omega⟩
    · cases h
  · rintro ⟨before, after, hsource, hstart, hstop⟩
    have hdrop := Text.dropBytes_eq_some_iff.mpr ⟨before, hsource, hstart⟩
    have htake : Text.takeBytes (s.stop - s.start) (cs ++ after) = some cs :=
      Text.takeBytes_eq_some_iff.mpr ⟨after, rfl, by omega⟩
    rw [if_pos (by omega)]
    exact Option.bind_eq_some_iff.mpr ⟨_, hdrop, htake⟩

lemma shows_iff {text : String} : s.Shows source text ↔ s.text source = text := by
  have hcuts : ∀ other, s.Cuts source other ↔ s.slice? source = some other.toList := by
    intro other
    rw [slice?_eq_some_iff, String.ofList_toList]
  rw [Shows, Span.text, hcuts]
  simp only [hcuts]
  cases s.slice? source with
  | none => simp [eq_comm]
  | some cs =>
    rw [Option.getD_some, Option.some.injEq]
    constructor
    · rintro (rfl | ⟨-, hnone⟩)
      · exact String.ofList_toList
      · exact (hnone (String.ofList cs) (by rw [String.toList_ofList])).elim
    · rintro rfl
      exact .inl String.toList_ofList.symm

end Span

end ExportLint
