import ApiReference.Text.Blank
import Mathlib.Data.List.DropRight
import Mathlib.Data.List.Forall2
import Mathlib.Tactic

/-! Trimming twice is trimming once, texts with blanks in the same places are trimmed in the same places,
and the pieces of a split text. -/

namespace ApiReference.Text

lemma trimChars_prefix (cs : List Char) : trimChars cs <+: trimLeft cs := List.rdropWhile_prefix _ _

lemma trimLeft_trimChars (cs : List Char) : trimLeft (trimChars cs) = trimChars cs := by
  obtain ⟨back, hback⟩ := trimChars_prefix cs
  cases ht : trimChars cs with
  | nil => rfl
  | cons c front =>
    have hc := List.head?_dropWhile_not isBlank cs
    rw [ht] at hback
    rw [← trimLeft, ← hback] at hc
    rw [trimLeft, List.dropWhile_cons_of_neg (by simpa using hc)]

lemma trimChars_trimChars (cs : List Char) : trimChars (trimChars cs) = trimChars cs := by
  rw [trimChars, trimLeft_trimChars]
  exact List.rdropWhile_idempotent _ _

section

variable {r : Char → Char → Prop} (hr : ∀ c d, r c d → isBlank c = isBlank d) {as bs : List Char}
include hr

lemma trimLeft_rel (h : List.Forall₂ r as bs) : List.Forall₂ r (trimLeft as) (trimLeft bs) := by
  induction h with
  | nil => exact .nil
  | @cons c d as bs hcd h ih =>
    rw [trimLeft, trimLeft, List.dropWhile_cons, List.dropWhile_cons, hr c d hcd]
    split
    · exact ih
    · exact .cons hcd h

lemma trimChars_rel (h : List.Forall₂ r as bs) : List.Forall₂ r (trimChars as) (trimChars bs) := by
  rw [trimChars, trimChars, trimRight, trimRight, List.forall₂_reverse_iff]
  apply trimLeft_rel hr
  rw [List.forall₂_reverse_iff]
  exact trimLeft_rel hr h

end

section

variable {sep : Char}

lemma splitChars_ne_nil (cs : List Char) : splitChars sep cs ≠ [] := by
  cases cs with
  | nil => exact List.cons_ne_nil _ _
  | cons c cs =>
    rw [splitChars]
    split
    · exact List.cons_ne_nil _ _
    · split <;> exact List.cons_ne_nil _ _

lemma splitChars_append (as bs : List Char) :
    splitChars sep (as ++ sep :: bs) = splitChars sep as ++ splitChars sep bs := by
  induction as with
  | nil => simp [splitChars]
  | cons a as ih =>
    rw [List.cons_append, splitChars, splitChars, ih]
    split
    · rfl
    · cases hp : splitChars sep as with
      | nil => exact absurd hp (splitChars_ne_nil as)
      | cons piece pieces => rfl

lemma splitChars_of_notMem {cs : List Char} (h : sep ∉ cs) : splitChars sep cs = [cs] := by
  induction cs with
  | nil => rfl
  | cons c cs ih =>
    rw [List.mem_cons, not_or] at h
    rw [splitChars, if_neg (Ne.symm h.1), ih h.2]

lemma getLast?_splitChars {last : List Char} (h : sep ∉ last) (front : List Char) :
    (splitChars sep (front ++ sep :: last)).getLast? = some last := by
  rw [splitChars_append, splitChars_of_notMem h, List.getLast?_concat]

lemma exists_last_piece (sep : Char) (cs : List Char) :
    ∃ last, last <:+ cs ∧ sep ∉ last ∧ (sep ∉ cs → last = cs) ∧
      ∀ front, (splitChars sep (front ++ sep :: cs)).getLast? = some last := by
  by_cases h : sep ∈ cs
  · -- the first separator from behind
    obtain ⟨last, before, he, hn⟩ := List.eq_append_cons_of_mem (List.mem_reverse.mpr h)
    rw [List.reverse_eq_append_iff, List.reverse_cons, List.append_assoc] at he
    rw [← List.mem_reverse] at hn
    refine ⟨last.reverse, ?_, hn, fun hc => absurd h hc, ?_⟩
    · rw [he]
      exact List.suffix_append_of_suffix (List.suffix_cons _ _)
    · intro front
      rw [he, ← List.cons_append, ← List.append_assoc]
      exact getLast?_splitChars hn _
  · exact ⟨cs, List.suffix_rfl, h, fun _ => rfl, getLast?_splitChars h⟩

end

end ApiReference.Text
