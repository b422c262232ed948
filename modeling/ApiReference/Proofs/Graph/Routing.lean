import ApiReference.Proofs.Graph.Index

/-! Every edge without a hidden end stands in one table of the index, under the symbol it describes,
in the order of the relationships. -/

namespace ApiReference

namespace Multimap

lemma get_push (table : Multimap) (key value x : String) :
    (table.push key value).get x = table.get x ++ if key = x then [value] else [] := by
  induction table with
  | nil => rfl
  | cons e rest ih =>
    obtain ⟨k, values⟩ := e
    rw [push]
    by_cases hk : k = key
    · rw [if_pos hk, ← hk, get, get]
      split <;> simp
    · rw [if_neg hk, get, get, ih]
      split
      · next hx =>
        have hn : key ≠ x := fun he => hk (hx.trans he.symm)
        simp [hn]
      · rfl

lemma total_push (table : Multimap) (key value : String) : (table.push key value).total = table.total + 1 := by
  induction table with
  | nil => rfl
  | cons e rest ih =>
    rw [push]
    split
    · simp only [total, List.length_append, List.length_singleton]
      omega
    · simp only [total, ih]
      omega

lemma keys_push (table : Multimap) (key value : String) :
    (table.push key value).map (·.1) =
      if key ∈ table.map (·.1) then table.map (·.1) else table.map (·.1) ++ [key] := by
  induction table with
  | nil => rfl
  | cons e rest ih =>
    rw [push]
    by_cases hk : e.1 = key
    · simp [hk]
    · simp only [if_neg hk, List.map_cons, ih, List.mem_cons, Ne.symm hk, false_or]
      split <;> simp

def ofPairs (pairs : List (String × String)) : Multimap := pairs.foldl (fun table p => table.push p.1 p.2) []

lemma ofPairs_concat (pairs : List (String × String)) (p : String × String) :
    ofPairs (pairs ++ [p]) = (ofPairs pairs).push p.1 p.2 := by
  simp [ofPairs]

lemma get_ofPairs (pairs : List (String × String)) (x : String) :
    (ofPairs pairs).get x = (pairs.filter fun p => p.1 = x).map (·.2) := by
  induction pairs using List.reverseRecOn with
  | nil => rfl
  | append_singleton pairs p ih =>
    rw [ofPairs_concat, get_push, ih, List.filter_append, List.map_append]
    by_cases hx : p.1 = x <;> simp [hx]

lemma total_ofPairs (pairs : List (String × String)) : (ofPairs pairs).total = pairs.length := by
  induction pairs using List.reverseRecOn with
  | nil => rfl
  | append_singleton pairs p ih => rw [ofPairs_concat, total_push, ih, List.length_append, List.length_singleton]

lemma nodup_keys_ofPairs (pairs : List (String × String)) : ((ofPairs pairs).map (·.1)).Nodup := by
  induction pairs using List.reverseRecOn with
  | nil => exact List.nodup_nil
  | append_singleton pairs p ih =>
    rw [ofPairs_concat, keys_push]
    split
    · exact ih
    · next hn =>
      rw [← List.concat_eq_append]
      exact ih.concat hn

end Multimap

def RelationKind.isOther : RelationKind → Bool
  | other _ => true
  | _ => false

def Relationship.entry (r : Relationship) : String × String :=
  match r.kind with
  | .memberOf | .requirementOf => (r.target, r.source)
  | _ => (r.source, r.target)

def Relationship.Visible (optedOut excluded : List String) (r : Relationship) : Prop :=
  (r.source ∉ optedOut ∧ r.source ∉ excluded) ∧ r.target ∉ optedOut ∧ r.target ∉ excluded

instance (optedOut excluded : List String) (r : Relationship) : Decidable (r.Visible optedOut excluded) :=
  inferInstanceAs (Decidable (_ ∧ _))

namespace RelationIndex

def entries (kind : RelationKind) (edges : List Relationship) : List (String × String) :=
  (edges.filter fun r => r.kind = kind).map (·.entry)

lemma entries_concat (kind : RelationKind) (edges : List Relationship) (r : Relationship) :
    entries kind (edges ++ [r]) = if r.kind = kind then entries kind edges ++ [r.entry] else entries kind edges := by
  by_cases hk : r.kind = kind <;> simp [entries, List.filter_append, hk]

lemma ofEdges_eq (edges : List Relationship) :
    ofEdges edges =
      { members := .ofPairs (entries .memberOf edges)
        requirements := .ofPairs (entries .requirementOf edges)
        conformances := .ofPairs (entries .conformsTo edges)
        superclasses := .ofPairs (entries .inheritsFrom edges)
        dropped := 0 } := by
  induction edges using List.reverseRecOn with
  | nil => rfl
  | append_singleton edges r ih =>
    rw [ofEdges, List.foldl_append, ← ofEdges, ih]
    simp only [List.foldl_cons, List.foldl_nil, entries_concat]
    cases hk : r.kind <;> simp [add, hk, Relationship.entry, Multimap.ofPairs_concat]

lemma length_by_kind (edges : List Relationship) :
    edges.length = (entries .memberOf edges).length + (entries .requirementOf edges).length +
      (entries .conformsTo edges).length + (entries .inheritsFrom edges).length +
      edges.countP (·.kind.isOther) := by
  induction edges using List.reverseRecOn with
  | nil => rfl
  | append_singleton edges r ih =>
    simp only [entries_concat, List.length_append, List.length_singleton, List.countP_append, List.countP_singleton]
    generalize edges.countP (·.kind.isOther) = others at ih ⊢
    cases r.kind <;> simp [RelationKind.isOther] <;> omega

lemma get_entries {kind : RelationKind} {key value : Relationship → String}
    (he : ∀ r : Relationship, r.kind = kind → r.entry = (key r, value r)) (edges : List Relationship) (x : String) :
    (Multimap.ofPairs (entries kind edges)).get x =
      (edges.filter fun r => r.kind = kind ∧ key r = x).map value := by
  rw [Multimap.get_ofPairs]
  induction edges using List.reverseRecOn with
  | nil => rfl
  | append_singleton edges r ih =>
    rw [entries_concat, List.filter_append, List.map_append, ← ih]
    by_cases hk : r.kind = kind
    · rw [if_pos hk, List.filter_append, List.map_append, he r hk]
      by_cases hx : key r = x <;> simp [hk, hx]
    · simp [hk]

lemma touches_iff (optedOut excluded : List String) (r : Relationship) :
    touches (optedOut ++ excluded) r = true ↔ ¬ r.Visible optedOut excluded := by
  simp only [touches, List.contains_eq_mem, Bool.or_eq_true, decide_eq_true_eq, List.mem_append,
    Relationship.Visible]
  tauto

lemma build_visible (relationships : List Relationship) (optedOut excluded : List String) :
    build relationships (optedOut ++ excluded) =
      { ofEdges (relationships.filter fun r => r.Visible optedOut excluded) with
        dropped := relationships.countP (fun r => ¬ r.Visible optedOut excluded) } := by
  have ht : touches (optedOut ++ excluded) = fun r => decide (¬ r.Visible optedOut excluded) := by
    funext r
    rw [Bool.eq_iff_iff, touches_iff, decide_eq_true_iff]
  rw [build_eq, ht, List.countP_eq_length_filter]
  simp only [decide_not, Bool.not_not]

/-- The index holds the visible edges, each under the symbol it describes; with the dropped ones and those of
other kinds no relationship is left over. -/
theorem build_exact (relationships : List Relationship) (optedOut excluded : List String) :
    let index := build relationships (optedOut ++ excluded)
    let visible := relationships.filter fun r => r.Visible optedOut excluded
    index.dropped = relationships.countP (fun r => ¬ r.Visible optedOut excluded) ∧
      (∀ x,
        index.membersOf x = (visible.filter fun r => r.kind = .memberOf ∧ r.target = x).map (·.source) ∧
        index.requirementsOf x = (visible.filter fun r => r.kind = .requirementOf ∧ r.target = x).map (·.source) ∧
        index.conformsTo x = (visible.filter fun r => r.kind = .conformsTo ∧ r.source = x).map (·.target) ∧
        index.inheritsFrom x = (visible.filter fun r => r.kind = .inheritsFrom ∧ r.source = x).map (·.target)) ∧
      (∀ table ∈ index.tables, (table.map (·.1)).Nodup) ∧
      relationships.length = index.dropped +
        (index.members.total + index.requirements.total + index.conformances.total + index.superclasses.total) +
        visible.countP (·.kind.isOther) := by
  intro index visible
  have hi : index = { ofEdges visible with
      dropped := relationships.countP (fun r => ¬ r.Visible optedOut excluded) } :=
    build_visible relationships optedOut excluded
  rw [ofEdges_eq] at hi
  rw [hi]
  refine ⟨rfl, ?_, ?_, ?_⟩
  · intro x
    refine ⟨get_entries ?_ visible x, get_entries ?_ visible x, get_entries ?_ visible x, get_entries ?_ visible x⟩
    all_goals
      intro r hk
      simp [Relationship.entry, hk]
  · simp [tables, Multimap.nodup_keys_ofPairs]
  · have hl := length_by_kind visible
    have hp : relationships.length =
        visible.length + relationships.countP (fun r => ¬ r.Visible optedOut excluded) := by
      rw [List.length_eq_countP_add_countP (fun r => decide (r.Visible optedOut excluded)),
        List.countP_eq_length_filter]
      simp only [decide_eq_true_eq]
      rfl
    simp only [Multimap.total_ofPairs]
    omega

end RelationIndex

end ApiReference
