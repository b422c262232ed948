import ApiReference.Distinct
import Mathlib.Data.List.Basic
import Mathlib.Tactic

/-! First occurrences: nothing is lost, nothing is repeated, and the order of the list is kept. -/

namespace ApiReference

variable {α β : Type}

lemma distinctOn_subset (key : α → String) (seen : List String) (as : List α) :
    ∀ a ∈ distinctOn key seen as, a ∈ as := by
  induction as generalizing seen with
  | nil => simp [distinctOn]
  | cons b as ih =>
    intro a ha
    rw [distinctOn] at ha
    split at ha
    · exact List.mem_cons_of_mem b (ih seen a ha)
    · rcases List.mem_cons.mp ha with rfl | ha
      · exact List.mem_cons_self
      · exact List.mem_cons_of_mem b (ih _ a ha)

lemma mem_keys_distinctOn (key : α → String) (seen : List String) (as : List α) (x : String) :
    x ∈ (distinctOn key seen as).map key ↔ x ∈ as.map key ∧ x ∉ seen := by
  induction as generalizing seen with
  | nil => simp [distinctOn]
  | cons a as ih =>
    rw [distinctOn]
    split
    · next hs =>
      rw [ih, List.map_cons, List.mem_cons]
      constructor
      · exact fun h => ⟨Or.inr h.1, h.2⟩
      · rintro ⟨rfl | hx, hn⟩
        · exact absurd hs hn
        · exact ⟨hx, hn⟩
    · next hs =>
      rw [List.map_cons, List.map_cons, List.mem_cons, List.mem_cons, ih, List.mem_cons]
      by_cases hx : x = key a
      · simp [hx, hs]
      · simp [hx]

lemma nodup_keys_distinctOn (key : α → String) (seen : List String) (as : List α) :
    ((distinctOn key seen as).map key).Nodup := by
  induction as generalizing seen with
  | nil => simp [distinctOn]
  | cons a as ih =>
    rw [distinctOn]
    split
    · exact ih seen
    · rw [List.map_cons, List.nodup_cons, mem_keys_distinctOn]
      exact ⟨fun h => h.2 List.mem_cons_self, ih _⟩

lemma map_key_distinctOn (key : α → String) (seen : List String) (as : List α) :
    (distinctOn key seen as).map key = distinctOn (fun id => id) seen (as.map key) := by
  induction as generalizing seen with
  | nil => rfl
  | cons a as ih =>
    rw [List.map_cons, distinctOn, distinctOn]
    split
    · exact ih seen
    · rw [List.map_cons, ih]

lemma find?_of_mem_distinctOn (key : α → String) {seen : List String} {as : List α} {a : α}
    (h : a ∈ distinctOn key seen as) : as.find? (fun b => key b == key a) = some a := by
  induction as generalizing seen with
  | nil => cases h
  | cons b as ih =>
    have fresh : ∀ seen', a ∈ distinctOn key seen' as → key b ∈ seen' → key b ≠ key a := by
      intro seen' ha hb he
      have hm := (mem_keys_distinctOn key seen' as (key a)).mp (List.mem_map_of_mem ha)
      exact hm.2 (he ▸ hb)
    rw [distinctOn] at h
    split at h
    · next hs => rw [List.find?_cons_of_neg (by simpa using fresh seen h hs), ih h]
    · rcases List.mem_cons.mp h with rfl | h
      · rw [List.find?_cons_of_pos (by simp)]
      · rw [List.find?_cons_of_neg (by simpa using fresh _ h List.mem_cons_self), ih h]

lemma distinctOn_map (key : α → String) (key' : β → String) (f : α → β) (ρ : String → String)
    (hρ : Function.Injective ρ) (hf : ∀ a, key' (f a) = ρ (key a)) (seen : List String) (as : List α) :
    distinctOn key' (seen.map ρ) (as.map f) = (distinctOn key seen as).map f := by
  induction as generalizing seen with
  | nil => simp [distinctOn]
  | cons a as ih =>
    have hs : key' (f a) ∈ seen.map ρ ↔ key a ∈ seen := by
      rw [hf, List.mem_map_of_injective hρ]
    rw [List.map_cons, distinctOn, distinctOn]
    by_cases h : key a ∈ seen
    · rw [if_pos h, if_pos (hs.mpr h), ih]
    · rw [if_neg h, if_neg (fun h' => h (hs.mp h')), List.map_cons, ← ih, List.map_cons, hf]

lemma distinctOn_congr (key : α → String) (seen seen' : List String) (as : List α)
    (h : ∀ a ∈ as, key a ∈ seen ↔ key a ∈ seen') :
    distinctOn key seen as = distinctOn key seen' as := by
  induction as generalizing seen seen' with
  | nil => rfl
  | cons a as ih =>
    have ha := h a List.mem_cons_self
    have htail := fun b hb => h b (List.mem_cons_of_mem a hb)
    rw [distinctOn, distinctOn]
    by_cases hs : key a ∈ seen
    · rw [if_pos hs, if_pos (ha.mp hs), ih seen seen' htail]
    · rw [if_neg hs, if_neg (fun h' => hs (ha.mpr h')), ih (key a :: seen) (key a :: seen')]
      intro b hb
      rw [List.mem_cons, List.mem_cons, htail b hb]

@[simp] lemma mem_distinct (ids : List String) (x : String) : x ∈ distinct ids ↔ x ∈ ids := by
  have h := mem_keys_distinctOn (fun id => id) [] ids x
  simpa only [List.map_id', List.not_mem_nil, not_false_eq_true, and_true] using! h

lemma nodup_distinct (ids : List String) : (distinct ids).Nodup := by
  simpa only [List.map_id'] using! nodup_keys_distinctOn (fun id => id) [] ids

lemma distinct_map (ρ : String → String) (hρ : Function.Injective ρ) (ids : List String) :
    distinct (ids.map ρ) = (distinct ids).map ρ :=
  distinctOn_map (fun id => id) (fun id => id) ρ ρ hρ (fun _ => rfl) [] ids

lemma distinctOn_filter (p : String → Bool) (seen ids : List String) :
    distinctOn (fun id => id) seen (ids.filter p) = (distinctOn (fun id => id) seen ids).filter p := by
  induction ids generalizing seen with
  | nil => rfl
  | cons x ids ih =>
    by_cases hp : p x = true
    · rw [List.filter_cons_of_pos hp, distinctOn, distinctOn]
      by_cases hs : x ∈ seen
      · rw [if_pos hs, if_pos hs, ih]
      · rw [if_neg hs, if_neg hs, List.filter_cons_of_pos hp, ih]
    · rw [List.filter_cons_of_neg hp, distinctOn]
      by_cases hs : x ∈ seen
      · rw [if_pos hs, ih]
      · rw [if_neg hs, List.filter_cons_of_neg hp, ← ih]
        -- `x` was dropped from the list, so it makes no difference that it counts as seen.
        apply distinctOn_congr
        intro y hy
        have hne : y ≠ x := fun e => hp (e ▸ (List.mem_filter.mp hy).2)
        simp [hne]

lemma distinct_filter (p : String → Bool) (ids : List String) :
    distinct (ids.filter p) = (distinct ids).filter p :=
  distinctOn_filter p [] ids

lemma distinctOn_order (seen ids : List String) :
    (distinctOn (fun id => id) seen ids).Pairwise fun a b => ids.idxOf a < ids.idxOf b := by
  induction ids generalizing seen with
  | nil => simp [distinctOn]
  | cons x ids ih =>
    have shifted : ∀ seen', x ∈ seen' →
        (distinctOn (fun id => id) seen' ids).Pairwise
          fun a b => (x :: ids).idxOf a < (x :: ids).idxOf b := by
      intro seen' hx
      refine (ih seen').imp_of_mem ?_
      intro a b ha hb hab
      have fresh : ∀ c ∈ distinctOn (fun id => id) seen' ids, x ≠ c := by
        rintro c hc rfl
        have hm := (mem_keys_distinctOn (fun id => id) seen' ids x).mp (by simpa using hc)
        exact hm.2 hx
      rw [List.idxOf_cons_ne _ (fresh a ha), List.idxOf_cons_ne _ (fresh b hb)]
      omega
    rw [distinctOn]
    split
    · next hs => exact shifted seen hs
    · refine List.pairwise_cons.mpr ⟨?_, shifted _ List.mem_cons_self⟩
      intro b hb
      have hm := (mem_keys_distinctOn (fun id => id) (x :: seen) ids b).mp (by simpa using hb)
      have hne : x ≠ b := fun e => hm.2 (e ▸ List.mem_cons_self)
      rw [List.idxOf_cons_self, List.idxOf_cons_ne _ hne]
      omega

lemma distinct_order (ids : List String) :
    (distinct ids).Pairwise fun a b => ids.idxOf a < ids.idxOf b :=
  distinctOn_order [] ids

end ApiReference
