import Mathlib.Data.List.Basic
import Mathlib.Tactic

/-! Stable sorting by a key: a list that is in order of the key, and has the items of each single key
in their old order, is the sorted one. -/

namespace ApiReference

variable {α κ : Type} [LinearOrder κ]

def keyLe (key : α → κ) (a b : α) : Bool := decide (key a ≤ key b)

lemma keyLe_trans (key : α → κ) (a b c : α) (hab : keyLe key a b = true) (hbc : keyLe key b c = true) :
    keyLe key a c = true := by
  simp only [keyLe, decide_eq_true_eq] at hab hbc ⊢
  exact hab.trans hbc

lemma keyLe_total (key : α → κ) (a b : α) : (keyLe key a b || keyLe key b a) = true := by
  simp only [keyLe, Bool.or_eq_true, decide_eq_true_eq]
  exact le_total _ _

lemma pairwise_mergeSort (key : α → κ) (l : List α) :
    (l.mergeSort (keyLe key)).Pairwise fun a b => key a ≤ key b :=
  (List.pairwise_mergeSort (keyLe_trans key) (keyLe_total key) l).imp fun h => of_decide_eq_true h

lemma filter_mergeSort (key : α → κ) (l : List α) (k : κ) :
    (l.mergeSort (keyLe key)).filter (fun a => decide (key a = k)) = l.filter fun a => decide (key a = k) := by
  have tied : (l.filter fun a => decide (key a = k)).Pairwise fun a b => keyLe key a b = true := by
    apply List.pairwise_of_forall_mem_list
    intro a ha b hb
    simp only [List.mem_filter, decide_eq_true_eq] at ha hb
    simp [keyLe, ha.2, hb.2]
  have kept := List.sublist_mergeSort (keyLe_trans key) (keyLe_total key) tied List.filter_sublist
  have hs := kept.filter fun a => decide (key a = k)
  simp only [List.filter_filter, Bool.and_self] at hs
  exact (hs.eq_of_length ((List.mergeSort_perm l _).filter _).length_eq.symm).symm

lemma pairwise_ties (key : α → κ) {l : List α} {r : α → α → Prop} (h : l.Pairwise r) :
    (l.mergeSort (keyLe key)).Pairwise fun a b => key a = key b → r a b := by
  rw [List.pairwise_iff_forall_sublist]
  intro a b hab hk
  have ht : [a, b].Sublist ((l.mergeSort (keyLe key)).filter fun c => decide (key c = key b)) := by
    simpa [hk] using hab.filter fun c => decide (key c = key b)
  rw [filter_mergeSort] at ht
  exact List.pairwise_iff_forall_sublist.mp h (ht.trans List.filter_sublist)

lemma mem_iff_of_filter (key : α → κ) {l l' : List α}
    (h : ∀ k, l.filter (fun a => decide (key a = k)) = l'.filter fun a => decide (key a = k)) (a : α) :
    a ∈ l ↔ a ∈ l' := by
  have ha : a ∈ l.filter (fun b => decide (key b = key a)) ↔ a ∈ l'.filter fun b => decide (key b = key a) := by
    rw [h]
  simpa using ha

lemma eq_of_sorted (key : α → κ) {l l' : List α} (hl : l.Pairwise fun a b => key a ≤ key b)
    (hl' : l'.Pairwise fun a b => key a ≤ key b)
    (h : ∀ k, l.filter (fun a => decide (key a = k)) = l'.filter fun a => decide (key a = k)) : l = l' := by
  have mem := mem_iff_of_filter key h
  induction l generalizing l' with
  | nil => exact (List.eq_nil_iff_forall_not_mem.mpr fun a ha => by simpa using (mem a).mpr ha).symm
  | cons a l ih =>
    cases l' with
    | nil => exact absurd ((mem a).mp List.mem_cons_self) (by simp)
    | cons b l' =>
      -- both heads have the least key, and of its items they are the first
      have hba : key b ≤ key a := by
        rcases List.mem_cons.mp ((mem a).mp List.mem_cons_self) with rfl | ha
        · exact le_rfl
        · exact (List.pairwise_cons.mp hl').1 a ha
      have hab : key a ≤ key b := by
        rcases List.mem_cons.mp ((mem b).mpr List.mem_cons_self) with rfl | hb
        · exact le_rfl
        · exact (List.pairwise_cons.mp hl).1 b hb
      have hk : key b = key a := le_antisymm hba hab
      have hh := h (key a)
      rw [List.filter_cons_of_pos (by simp), List.filter_cons_of_pos (by simpa using hk)] at hh
      obtain ⟨rfl, -⟩ := List.cons.inj hh
      have ht : ∀ k, l.filter (fun c => decide (key c = k)) = l'.filter fun c => decide (key c = k) := by
        intro k
        have hf := h k
        by_cases hc : key a = k
        · rw [List.filter_cons_of_pos (by simpa using hc), List.filter_cons_of_pos (by simpa using hc)] at hf
          exact (List.cons.inj hf).2
        · rwa [List.filter_cons_of_neg (by simpa using hc), List.filter_cons_of_neg (by simpa using hc)] at hf
      rw [ih hl.of_cons hl'.of_cons ht (mem_iff_of_filter key ht)]

lemma eq_mergeSort (key : α → κ) {l l' : List α} (hl' : l'.Pairwise fun a b => key a ≤ key b)
    (h : ∀ k, l'.filter (fun a => decide (key a = k)) = l.filter fun a => decide (key a = k)) :
    l' = l.mergeSort (keyLe key) :=
  eq_of_sorted key hl' (pairwise_mergeSort key l) fun k => (h k).trans (filter_mergeSort key l k).symm

end ApiReference
