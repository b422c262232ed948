import ApiReference.Settings.Value
import Mathlib.Data.List.Basic
import Mathlib.Tactic

/-! Tables as lists of entries: what a key leads to after a key was set. -/

namespace ApiReference

variable {α β : Type}

@[simp] lemma valueAt?_nil (key : String) : valueAt? key ([] : List (String × α)) = none := rfl

@[simp] lemma valueAt?_cons (key k : String) (v : α) (entries : List (String × α)) :
    valueAt? key ((k, v) :: entries) = if k = key then some v else valueAt? key entries := by
  by_cases hk : k = key
  · simp [valueAt?, hk]
  · simp [valueAt?, hk]

@[simp] lemma valueAt?_append (key : String) (front back : List (String × α)) :
    valueAt? key (front ++ back) = (valueAt? key front).or (valueAt? key back) := by
  rw [valueAt?, valueAt?, valueAt?, List.find?_append]
  cases front.find? (·.1 == key) <;> rfl

lemma valueAt?_eq_none {key : String} {entries : List (String × α)} (h : ∀ e ∈ entries, e.1 ≠ key) :
    valueAt? key entries = none := by
  rw [valueAt?, Option.map_eq_none_iff, List.find?_eq_none]
  intro e he hk
  exact h e he (beq_iff_eq.mp hk)

lemma valueAt?_map (f : α → β) (key : String) (entries : List (String × α)) :
    valueAt? key (entries.map fun e => (e.1, f e.2)) = (valueAt? key entries).map f := by
  induction entries with
  | nil => rfl
  | cons e entries ih =>
    rw [List.map_cons, valueAt?_cons, valueAt?_cons, ih]
    split <;> rfl

@[simp] lemma valueAt?_setEntry (key k : String) (v : α) (entries : List (String × α)) :
    valueAt? key (setEntry k v entries) = if k = key then some v else valueAt? key entries := by
  -- the entries need not be in order: those that are passed have other keys
  induction entries with
  | nil => exact valueAt?_cons key k v []
  | cons e entries ih =>
    obtain ⟨k', v'⟩ := e
    rw [setEntry]
    by_cases hlt : k < k'
    · rw [if_pos hlt, valueAt?_cons]
    · by_cases heq : k = k'
      · rw [if_neg hlt, if_pos heq, valueAt?_cons, valueAt?_cons, ← heq]
        split <;> rfl
      · rw [if_neg hlt, if_neg heq, valueAt?_cons, valueAt?_cons, ih]
        by_cases hk : k = key
        · rw [if_neg fun h => heq (hk.trans h.symm), if_pos hk, if_pos hk]
        · rw [if_neg hk, if_neg hk]

lemma valueAt?_setEntry_self (key : String) (v : α) (entries : List (String × α)) :
    valueAt? key (setEntry key v entries) = some v := by
  rw [valueAt?_setEntry, if_pos rfl]

lemma setEntry_setEntry (key : String) (v w : α) (entries : List (String × α)) :
    setEntry key w (setEntry key v entries) = setEntry key w entries := by
  have hself : ¬ key < key := String.lt_irrefl key
  induction entries with
  | nil =>
    change setEntry key w [(key, v)] = [(key, w)]
    rw [setEntry, if_neg hself, if_pos rfl]
  | cons e entries ih =>
    obtain ⟨k', v'⟩ := e
    rw [setEntry]
    split_ifs with hlt heq
    · rw [setEntry, if_neg hself, if_pos rfl, setEntry, if_pos hlt]
    · rw [setEntry, if_neg hself, if_pos rfl, setEntry, if_neg hlt, if_pos heq]
    · rw [setEntry, if_neg hlt, if_neg heq, ih, setEntry, if_neg hlt, if_neg heq]

lemma mem_setEntry {key : String} {v : α} {entries : List (String × α)} {e : String × α}
    (h : e ∈ setEntry key v entries) : e = (key, v) ∨ e ∈ entries := by
  induction entries with
  | nil => exact Or.inl (List.mem_singleton.mp h)
  | cons e' entries ih =>
    rw [setEntry] at h
    split_ifs at h
    · exact List.mem_cons.mp h
    · rcases List.mem_cons.mp h with h | h
      · exact Or.inl h
      · exact Or.inr (List.mem_cons_of_mem _ h)
    · rcases List.mem_cons.mp h with h | h
      · exact Or.inr (h ▸ List.mem_cons_self)
      · exact (ih h).imp_right (List.mem_cons_of_mem _)

lemma setEntry_append {key : String} {entries : List (String × α)} (h : ∀ e ∈ entries, e.1 < key) (v : α) :
    setEntry key v entries = entries ++ [(key, v)] := by
  induction entries with
  | nil => rfl
  | cons e entries ih =>
    obtain ⟨he, hr⟩ := List.forall_mem_cons.mp h
    rw [setEntry, if_neg (String.lt_asymm he), if_neg (String.ne_of_lt he).symm, ih hr]
    rfl

/-! ### Entries in order -/

def Ordered (entries : List (String × α)) : Prop := entries.Pairwise (·.1 < ·.1)

namespace Ordered

variable {entries : List (String × α)}

lemma nodup (h : Ordered entries) : (entries.map (·.1)).Nodup := by
  apply List.pairwise_map.mpr
  exact h.imp String.ne_of_lt

lemma setEntry (h : Ordered entries) (key : String) (v : α) : Ordered (setEntry key v entries) := by
  induction entries with
  | nil => exact List.pairwise_singleton _ _
  | cons e entries ih =>
    obtain ⟨hlt, hrest⟩ := List.pairwise_cons.mp h
    rw [ApiReference.setEntry]
    split_ifs with hk he
    · apply List.pairwise_cons.mpr
      refine ⟨?_, h⟩
      intro e' he'
      rcases List.mem_cons.mp he' with rfl | he'
      · exact hk
      · exact String.lt_trans hk (hlt e' he')
    · apply List.pairwise_cons.mpr
      exact ⟨fun e' he' => he ▸ hlt e' he', hrest⟩
    · apply List.pairwise_cons.mpr
      refine ⟨?_, ih hrest⟩
      intro e' he'
      rcases mem_setEntry he' with rfl | he'
      · by_contra hn
        exact he (String.le_antisymm (String.not_lt.mp hn) (String.not_lt.mp hk))
      · exact hlt e' he'

lemma valueAt?_tail {key : String} {v : α} (h : Ordered ((key, v) :: entries)) : valueAt? key entries = none := by
  apply valueAt?_eq_none
  intro e he
  exact (String.ne_of_lt ((List.pairwise_cons.mp h).1 e he)).symm

end Ordered

end ApiReference
