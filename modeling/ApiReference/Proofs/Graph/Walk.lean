import ApiReference.Graph.Members
import Mathlib.Data.List.Basic
import Mathlib.Logic.Relation
import Mathlib.Tactic

/-! The walk over the conformances runs to its end and visits exactly the ids in reach, on graphs
with cycles too. -/

namespace ApiReference

inductive Walked (next : String → List String) : List String → List String → List String → Prop
  | done {visited} : Walked next [] visited visited
  | skip {id pending visited result} : id ∈ visited → Walked next pending visited result →
      Walked next (id :: pending) visited result
  | visit {id pending visited result} : id ∉ visited →
      Walked next (next id ++ pending) (visited ++ [id]) result →
      Walked next (id :: pending) visited result

namespace Walked

variable {next : String → List String} {pending visited result : List String}

lemma visited_subset (h : Walked next pending visited result) : ∀ x ∈ visited, x ∈ result := by
  induction h with
  | done => exact fun x hx => hx
  | skip _ _ ih => exact ih
  | visit _ _ ih => exact fun x hx => ih x (List.mem_append_left _ hx)

lemma sound (h : Walked next pending visited result) (x : String) (hx : x ∈ result) :
    x ∈ visited ∨ ∃ r ∈ pending, Relation.ReflTransGen (fun a b => b ∈ next a) r x := by
  induction h with
  | done => exact Or.inl hx
  | @skip id _ _ _ _ _ ih =>
    rcases ih hx with hv | ⟨r, hr, hp⟩
    · exact Or.inl hv
    · exact Or.inr ⟨r, List.mem_cons_of_mem id hr, hp⟩
  | @visit id _ _ _ _ _ ih =>
    rcases ih hx with hv | ⟨r, hr, hp⟩
    · rcases List.mem_append.mp hv with hv | hv
      · exact Or.inl hv
      · rw [List.mem_singleton.mp hv]
        exact Or.inr ⟨id, List.mem_cons_self, .refl⟩
    · rcases List.mem_append.mp hr with hr | hr
      · exact Or.inr ⟨id, List.mem_cons_self, .head hr hp⟩
      · exact Or.inr ⟨r, List.mem_cons_of_mem id hr, hp⟩

def Covered (next : String → List String) (pending visited : List String) : Prop :=
  ∀ a ∈ visited, ∀ b ∈ next a, b ∈ visited ∨ b ∈ pending

lemma Covered.skip {id : String} (hc : Covered next (id :: pending) visited) (hid : id ∈ visited) :
    Covered next pending visited := by
  intro a ha b hb
  rcases hc a ha b hb with h | h
  · exact Or.inl h
  · rcases List.mem_cons.mp h with rfl | h
    · exact Or.inl hid
    · exact Or.inr h

lemma Covered.visit {id : String} (hc : Covered next (id :: pending) visited) :
    Covered next (next id ++ pending) (visited ++ [id]) := by
  intro a ha b hb
  rcases List.mem_append.mp ha with ha | ha
  · rcases hc a ha b hb with h | h
    · exact Or.inl (List.mem_append_left _ h)
    · rcases List.mem_cons.mp h with rfl | h
      · exact Or.inl (List.mem_append_right _ List.mem_cons_self)
      · exact Or.inr (List.mem_append_right _ h)
  · rw [List.mem_singleton.mp ha] at hb
    exact Or.inr (List.mem_append_left _ hb)

lemma covered (h : Walked next pending visited result) (hc : Covered next pending visited) :
    Covered next [] result := by
  induction h with
  | done => exact hc
  | skip hm _ ih => exact ih (hc.skip hm)
  | visit _ _ ih => exact ih hc.visit

lemma pending_subset (h : Walked next pending visited result) : ∀ x ∈ pending, x ∈ result := by
  induction h with
  | done => simp
  | skip hm hw ih =>
    intro x hx
    rcases List.mem_cons.mp hx with rfl | hx
    · exact hw.visited_subset x hm
    · exact ih x hx
  | visit _ hw ih =>
    intro x hx
    rcases List.mem_cons.mp hx with rfl | hx
    · exact hw.visited_subset x (List.mem_append_right _ List.mem_cons_self)
    · exact ih x (List.mem_append_right _ hx)

lemma complete (h : Walked next pending [] result) {r x : String} (hr : r ∈ pending)
    (hp : Relation.ReflTransGen (fun a b => b ∈ next a) r x) : x ∈ result := by
  have hc : Covered next [] result := h.covered (by simp [Covered])
  induction hp with
  | refl => exact h.pending_subset r hr
  | tail _ he ih =>
    rcases hc _ ih _ he with hx | hx
    · exact hx
    · simp at hx

lemma unique (h : Walked next pending visited result) {result' : List String}
    (h' : Walked next pending visited result') : result = result' := by
  induction h with
  | done => cases h'; rfl
  | skip hm _ ih =>
    cases h' with
    | skip _ hw => exact ih hw
    | visit hn _ => exact absurd hm hn
  | visit hn _ ih =>
    cases h' with
    | skip hm _ => exact absurd hm hn
    | visit _ hw => exact ih hw

lemma map {next' : String → List String} {ρ : String → String} (hρ : Function.Injective ρ)
    (hn : ∀ x, next' (ρ x) = (next x).map ρ) (h : Walked next pending visited result) :
    Walked next' (pending.map ρ) (visited.map ρ) (result.map ρ) := by
  induction h with
  | done => exact .done
  | skip hm _ ih => exact .skip (List.mem_map_of_mem hm) ih
  | visit hm _ ih =>
    refine .visit (fun h' => hm ((List.mem_map_of_injective hρ).mp h')) ?_
    simpa only [List.map_append, List.map_cons, List.map_nil, hn] using ih

end Walked

namespace Multimap

def fresh (table : Multimap) (visited : List String) : Multimap :=
  table.filter fun e => !visited.contains e.1

lemma fresh_nil (table : Multimap) : table.fresh [] = table := by
  simp [fresh]

lemma total_fresh_visit (table : Multimap) (visited : List String) (id : String) (h : id ∉ visited) :
    (table.get id).length + (table.fresh (visited ++ [id])).total ≤ (table.fresh visited).total := by
  induction table with
  | nil => simp [get, fresh, total]
  | cons e rest ih =>
    obtain ⟨k, values⟩ := e
    simp only [fresh, get, List.filter_cons] at ih ⊢
    by_cases hk : k = id
    · subst hk
      simp only [↓reduceIte, List.contains_eq_mem, List.mem_append, List.mem_singleton, or_true,
        decide_true, Bool.not_true, Bool.false_eq_true, h, decide_false, Bool.not_false,
        total] at ih ⊢
      omega
    · by_cases hv : k ∈ visited
      · simpa [hk, hv] using ih
      · simp only [hk, ↓reduceIte, List.contains_eq_mem, List.mem_append, List.mem_singleton, hv,
          or_self, decide_false, Bool.not_false, total] at ih ⊢
        omega

end Multimap

lemma walk_walked (table : Multimap) (fuel : ℕ) (pending visited : List String)
    (h : pending.length + (table.fresh visited).total < fuel) :
    Walked table.get pending visited (walk table.get fuel pending visited) := by
  induction fuel generalizing pending visited with
  | zero => omega
  | succ fuel ih =>
    cases pending with
    | nil => exact .done
    | cons id pending =>
      rw [walk]
      rw [List.length_cons] at h
      by_cases hm : id ∈ visited
      · rw [if_pos hm]
        exact .skip hm (ih pending visited (by omega))
      · rw [if_neg hm]
        refine .visit hm (ih _ _ ?_)
        -- What a visit adds to the pending ids it takes from the entries still to be visited.
        have hv := table.total_fresh_visit visited id hm
        rw [List.length_append]
        omega

namespace RelationIndex

def Conforms (index : RelationIndex) (a b : String) : Prop := b ∈ index.conformsTo a

lemma protocolsOf_walked (index : RelationIndex) (id : String) :
    Walked index.conformsTo (index.conformsTo id) [] (index.protocolsOf id) := by
  apply walk_walked index.conformances
  rw [Multimap.fresh_nil]
  omega

lemma mem_protocolsOf (index : RelationIndex) (id p : String) :
    p ∈ index.protocolsOf id ↔ Relation.TransGen index.Conforms id p := by
  have hw := index.protocolsOf_walked id
  rw [Relation.TransGen.head'_iff]
  constructor
  · intro hp
    rcases hw.sound p hp with hv | ⟨r, hr, hpath⟩
    · simp at hv
    · exact ⟨r, hr, hpath⟩
  · rintro ⟨r, hr, hpath⟩
    exact hw.complete hr hpath

end RelationIndex

end ApiReference
