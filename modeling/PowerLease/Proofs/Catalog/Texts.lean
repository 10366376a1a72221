import Mathlib.Data.Finset.Sort
import Mathlib.Data.String.Basic
import PowerLease.Catalog.View

/-!
# Texts in order

Rows are ordered by one text and then by the next (`textThen`), and groups and ids are kept as lists of texts in
order, each once (`insertText`). Such a list is what one gets by going through a finite set (`sort_toFinset`).
-/

namespace PowerLease.Catalog

section

variable {a b d : String} {r s t : Bool}

theorem textThen_iff : textThen a b r = true ↔ a < b ∨ a = b ∧ r = true := by
  simp [textThen]

theorem le_of_textThen (h : textThen a b r = true) : a ≤ b := by
  rcases textThen_iff.mp h with hlt | ⟨rfl, -⟩
  · exact Std.le_of_lt hlt
  · exact String.le_refl a

theorem textThen_trans (hab : textThen a b r = true) (hbd : textThen b d s = true)
    (hrest : r = true → s = true → t = true) : textThen a d t = true := by
  rw [textThen_iff] at hab hbd ⊢
  rcases hab with hab | ⟨rfl, hr⟩
  · rcases hbd with hbd | ⟨rfl, -⟩
    · exact Or.inl (String.lt_trans hab hbd)
    · exact Or.inl hab
  · rcases hbd with hbd | ⟨rfl, hs⟩
    · exact Or.inl hbd
    · exact Or.inr ⟨rfl, hrest hr hs⟩

theorem textThen_total (hrest : (r || s) = true) : (textThen a b r || textThen b a s) = true := by
  rw [Bool.or_eq_true] at hrest ⊢
  rw [textThen_iff, textThen_iff]
  rcases Std.lt_trichotomy a b with hlt | rfl | hlt
  · exact Or.inl (Or.inl hlt)
  · exact hrest.imp (fun hr => Or.inr ⟨rfl, hr⟩) (fun hs => Or.inr ⟨rfl, hs⟩)
  · exact Or.inr (Or.inl hlt)

end

/-! ## Texts as a set -/

section

variable {t u : String} {l : List String}

theorem mem_insertText : u ∈ insertText t l ↔ u = t ∨ u ∈ l := by
  induction l with
  | nil => simp [insertText]
  | cons first rest ih =>
    unfold insertText
    split
    next => exact List.mem_cons
    next =>
      split
      next heq => simp [heq]
      next => rw [List.mem_cons, ih, List.mem_cons, or_left_comm]

theorem pairwise_insertText (h : l.Pairwise (· < ·)) : (insertText t l).Pairwise (· < ·) := by
  induction l with
  | nil => exact List.pairwise_singleton _ _
  | cons first rest ih =>
    obtain ⟨hfirst, hrest⟩ := List.pairwise_cons.mp h
    unfold insertText
    split
    next hlt =>
      refine List.pairwise_cons.mpr ⟨fun u hu => ?_, h⟩
      rcases List.mem_cons.mp hu with rfl | hu
      · exact hlt
      · exact String.lt_trans hlt (hfirst u hu)
    next hnot =>
      split
      next => exact h
      next hne =>
        refine List.pairwise_cons.mpr ⟨fun u hu => ?_, ih hrest⟩
        rcases mem_insertText.mp hu with rfl | hu
        · -- the text is neither before nor at the first one
          rcases Std.lt_trichotomy first u with hlt | heq | hlt
          · exact hlt
          · exact absurd heq.symm hne
          · exact absurd hlt hnot
        · exact hfirst u hu

/-- The texts of a list, put in order one after another, are its set gone through in order. -/
theorem sort_toFinset (l : List String) : l.toFinset.sort (· ≤ ·) = l.foldr insertText [] := by
  have hmem : ∀ u, u ∈ l.foldr insertText [] ↔ u ∈ l := by
    intro u
    induction l with
    | nil => rfl
    | cons t rest ih => rw [List.foldr_cons, mem_insertText, ih, List.mem_cons]
  have hascending : (l.foldr insertText []).Pairwise (· < ·) :=
    List.foldrRecOn (motive := fun l : List String => l.Pairwise (· < ·)) _ _ List.Pairwise.nil
      fun _ h _ _ => pairwise_insertText h
  have hset : l.toFinset = (l.foldr insertText []).toFinset := by
    ext u
    rw [List.mem_toFinset, List.mem_toFinset, hmem]
  rw [hset, List.toFinset_sort _ (hascending.imp String.ne_of_lt)]
  exact hascending.imp Std.le_of_lt

end

end PowerLease.Catalog
