import ApiReference.Graph.RelationIndex
import Mathlib.Data.List.Basic
import Mathlib.Tactic

/-! The index of a list of relationships is that of the edges without a hidden end, so it mentions
no hidden id. -/

namespace ApiReference

namespace Multimap

def Mentions (table : Multimap) (x : String) : Prop := ∃ e ∈ table, x = e.1 ∨ x ∈ e.2

lemma mentions_cons (e : String × List String) (table : Multimap) (x : String) :
    Mentions (e :: table) x ↔ (x = e.1 ∨ x ∈ e.2) ∨ table.Mentions x := by
  simp [Mentions]

lemma mentions_push (key value : String) (table : Multimap) (x : String)
    (h : (table.push key value).Mentions x) : x = key ∨ x = value ∨ table.Mentions x := by
  induction table with
  | nil => simpa [push, Mentions] using h
  | cons e rest ih =>
    obtain ⟨k, values⟩ := e
    rw [push] at h
    split at h
    · next hk =>
      rw [mentions_cons, List.mem_append, List.mem_singleton] at h
      rw [mentions_cons]
      tauto
    · rw [mentions_cons] at h ⊢
      rcases h with h | h
      · exact Or.inr (Or.inr (Or.inl h))
      · rcases ih h with h | h | h
        · exact Or.inl h
        · exact Or.inr (Or.inl h)
        · exact Or.inr (Or.inr (Or.inr h))

lemma mentions_of_mem_get {table : Multimap} {key value : String} (h : value ∈ table.get key) :
    table.Mentions key ∧ table.Mentions value := by
  induction table with
  | nil => simp [get] at h
  | cons e rest ih =>
    obtain ⟨k, values⟩ := e
    rw [get] at h
    split at h
    · next hk => exact ⟨⟨_, List.mem_cons_self, Or.inl hk.symm⟩, ⟨_, List.mem_cons_self, Or.inr h⟩⟩
    · simp only [mentions_cons]
      exact ⟨Or.inr (ih h).1, Or.inr (ih h).2⟩

lemma get_eq_nil {table : Multimap} {key : String} (h : ¬ table.Mentions key) : table.get key = [] := by
  rw [List.eq_nil_iff_forall_not_mem]
  exact fun _ hv => h (mentions_of_mem_get hv).1

end Multimap

namespace RelationIndex

def tables (index : RelationIndex) : List Multimap :=
  [index.members, index.requirements, index.conformances, index.superclasses]

def Mentions (index : RelationIndex) (x : String) : Prop := ∃ table ∈ index.tables, table.Mentions x

lemma mentions_iff (index : RelationIndex) (x : String) :
    index.Mentions x ↔ index.members.Mentions x ∨ index.requirements.Mentions x ∨
      index.conformances.Mentions x ∨ index.superclasses.Mentions x := by
  simp [Mentions, tables]

lemma mentions_add (index : RelationIndex) (r : Relationship) (x : String)
    (h : (index.add r).Mentions x) : index.Mentions x ∨ x = r.source ∨ x = r.target := by
  have pushed := fun (table : Multimap) key value => table.mentions_push key value x
  rw [mentions_iff] at h ⊢
  cases hk : r.kind <;> grind [add]

lemma mentions_foldl (relationships : List Relationship) (index : RelationIndex) (x : String)
    (h : (relationships.foldl add index).Mentions x) :
    index.Mentions x ∨ ∃ r ∈ relationships, x = r.source ∨ x = r.target := by
  induction relationships generalizing index with
  | nil => exact Or.inl h
  | cons r relationships ih =>
    rcases ih (index.add r) h with h | ⟨q, hq, hx⟩
    · rcases mentions_add index r x h with h | h
      · exact Or.inl h
      · exact Or.inr ⟨r, List.mem_cons_self, h⟩
    · exact Or.inr ⟨q, List.mem_cons_of_mem r hq, hx⟩

lemma add_dropped (index : RelationIndex) (n : ℕ) (r : Relationship) :
    ({ index with dropped := n } : RelationIndex).add r = { index.add r with dropped := n } := by
  cases hk : r.kind <;> simp only [add, hk]

def ofEdges (relationships : List Relationship) : RelationIndex := relationships.foldl add empty

lemma foldl_build (relationships : List Relationship) (hidden : List String) (index : RelationIndex) (n : ℕ) :
    relationships.foldl
      (fun index r => if touches hidden r then { index with dropped := index.dropped + 1 } else index.add r)
      { index with dropped := n } =
    { (relationships.filter fun r => !touches hidden r).foldl add index with
      dropped := n + (relationships.filter (touches hidden)).length } := by
  induction relationships generalizing index n with
  | nil => rfl
  | cons r relationships ih =>
    rw [List.foldl_cons, List.filter_cons, List.filter_cons]
    cases ht : touches hidden r with
    | true =>
      simp only [if_true, Bool.not_true, Bool.false_eq_true, if_false, List.length_cons]
      rw [ih, Nat.add_assoc, Nat.add_comm 1]
    | false =>
      simp only [Bool.false_eq_true, if_false, Bool.not_false, if_true, List.foldl_cons]
      rw [add_dropped, ih]

lemma build_eq (relationships : List Relationship) (hidden : List String) :
    build relationships hidden =
      { ofEdges (relationships.filter fun r => !touches hidden r) with
        dropped := (relationships.filter (touches hidden)).length } := by
  have h := foldl_build relationships hidden empty 0
  rwa [Nat.zero_add] at h

lemma build_congr (relationships : List Relationship) (hidden hidden' : List String)
    (h : ∀ x, x ∈ hidden ↔ x ∈ hidden') : build relationships hidden = build relationships hidden' := by
  have ht : touches hidden = touches hidden' := by
    funext r
    simp [touches, h]
  simp only [build, ht]

lemma not_mentions_build (relationships : List Relationship) (hidden : List String) (x : String)
    (hx : x ∈ hidden) : ¬ (build relationships hidden).Mentions x := by
  intro h
  rw [build_eq] at h
  rcases mentions_foldl _ empty x h with h | ⟨r, hr, he⟩
  · simp [Mentions, tables, empty, Multimap.Mentions] at h
  · have ht := (List.mem_filter.mp hr).2
    simp only [touches, List.contains_eq_mem, Bool.not_or, Bool.and_eq_true, Bool.not_eq_true',
      decide_eq_false_iff_not] at ht
    rcases he with rfl | rfl
    · exact ht.1 hx
    · exact ht.2 hx

end RelationIndex

end ApiReference
