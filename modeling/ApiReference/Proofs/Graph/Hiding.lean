import ApiReference.Graph.Prepared
import ApiReference.Proofs.Graph.Index
import ApiReference.Proofs.Graph.Members

/-! Hidden ids, opted out or excluded, stand in no table of the prepared index, so no member list
shows them and they have no members themselves. -/

namespace ApiReference

namespace Hierarchy

variable (h : Hierarchy)

lemma mentioned_of_owns {p id : String} (ho : h.Owns p id) : h.index.Mentions id := by
  rw [RelationIndex.mentions_iff]
  rcases ho with hr | hm
  · exact Or.inr (Or.inl (Multimap.mentions_of_mem_get hr).2)
  · exact Or.inl (Multimap.mentions_of_mem_get hm).2

lemma mentioned_of_direct {owner : Symbol} {id : String} (hd : h.Direct owner id) :
    h.index.Mentions owner.id ∧ h.index.Mentions id := by
  simp only [RelationIndex.mentions_iff]
  rcases hd.2 with hm | ⟨_, hr⟩
  · exact ⟨Or.inl (Multimap.mentions_of_mem_get hm).1, Or.inl (Multimap.mentions_of_mem_get hm).2⟩
  · exact ⟨Or.inr (Or.inl (Multimap.mentions_of_mem_get hr).1),
      Or.inr (Or.inl (Multimap.mentions_of_mem_get hr).2)⟩

lemma mentioned_of_conforms {a b : String} (hc : h.index.Conforms a b) :
    h.index.Mentions a ∧ h.index.Mentions b := by
  simp only [RelationIndex.mentions_iff]
  have hm := Multimap.mentions_of_mem_get hc
  exact ⟨Or.inr (Or.inr (Or.inl hm.1)), Or.inr (Or.inr (Or.inl hm.2))⟩

lemma mentioned_of_reach {a b : String} (hc : Relation.TransGen h.index.Conforms a b) :
    h.index.Mentions a ∧ h.index.Mentions b := by
  induction hc with
  | single he => exact h.mentioned_of_conforms he
  | tail _ he ih => exact ⟨ih.1, (h.mentioned_of_conforms he).2⟩

lemma mentioned_of_member {t : String} {m : Member} (hm : m ∈ h.membersOf t) :
    h.index.Mentions t ∧ h.index.Mentions m.id ∧
      (m.inherited = true → h.index.Mentions m.declaredIn) := by
  cases ht : h.table.find? t with
  | none =>
    rw [membersOf, ht] at hm
    cases hm
  | some owner =>
    rw [h.membersOf_eq ht] at hm
    have hid := SymbolTable.id_of_find? ht
    rcases List.mem_append.mp hm with hm | hm
    · obtain ⟨hi, _, hd⟩ := (h.mem_directMembers owner m).mp hm
      obtain ⟨ho, hx⟩ := h.mentioned_of_direct hd
      refine ⟨hid ▸ ho, hx, ?_⟩
      rw [hi]
      intro he
      cases he
    · obtain ⟨⟨hp, ho⟩, _⟩ := (h.mem_keptCandidates owner _ _).mp (h.mem_protocolMembers owner m hm).2
      obtain ⟨hs, hd⟩ := h.mentioned_of_reach hp
      exact ⟨hid ▸ hs, h.mentioned_of_owns ho, fun _ => hd⟩

lemma membersOf_unmentioned {x : String} (hx : ¬ h.index.Mentions x) : h.membersOf x = [] := by
  rw [List.eq_nil_iff_forall_not_mem]
  exact fun _ hm => hx (h.mentioned_of_member hm).1

lemma titles_unmentioned {x : String} (hx : ¬ h.index.Mentions x) :
    h.conformanceTitles x = [] ∧ h.superclassTitles x = [] := by
  rw [RelationIndex.mentions_iff, not_or, not_or, not_or] at hx
  have hc : h.index.conformsTo x = [] := Multimap.get_eq_nil hx.2.2.1
  have hs : h.index.inheritsFrom x = [] := Multimap.get_eq_nil hx.2.2.2
  rw [conformanceTitles, superclassTitles, hc, hs]
  exact ⟨rfl, rfl⟩

end Hierarchy

namespace PreparedGraph

lemma not_mentions_hidden (loaded : LoadedGraphs) (headers : List String) (marker x : String)
    (hx : x ∈ (prepare loaded headers marker).optedOut ∨ x ∈ (prepare loaded headers marker).excluded) :
    ¬ (prepare loaded headers marker).index.Mentions x :=
  RelationIndex.not_mentions_build _ _ x (List.mem_append.mpr hx)

theorem hidden_ids_absent (loaded : LoadedGraphs) (headers : List String) (marker x : String)
    (hx : x ∈ (prepare loaded headers marker).optedOut ∨ x ∈ (prepare loaded headers marker).excluded) :
    let p := prepare loaded headers marker
    (∀ table ∈ p.index.tables, ¬ table.Mentions x) ∧
      (∀ t, ∀ m ∈ p.membersOf t, m.id ≠ x ∧ (m.inherited = true → m.declaredIn ≠ x)) ∧
      (p.membersOf x = [] ∧ p.hierarchy.conformanceTitles x = [] ∧ p.hierarchy.superclassTitles x = []) ∧
      (x ∈ p.excluded → p.table.find? x = none) := by
  intro p
  have hn : ¬ p.hierarchy.index.Mentions x := not_mentions_hidden loaded headers marker x hx
  refine ⟨?_, ?_, ⟨p.hierarchy.membersOf_unmentioned hn, p.hierarchy.titles_unmentioned hn⟩, ?_⟩
  · exact fun table ht hm => hn ⟨table, ht, hm⟩
  · intro t m hm
    obtain ⟨_, hid, hdecl⟩ := p.hierarchy.mentioned_of_member hm
    exact ⟨fun he => hn (he ▸ hid), fun hi he => hn (he ▸ hdecl hi)⟩
  · intro he
    rw [SymbolTable.find?_eq_none]
    exact fun hm => ((SymbolTable.mem_ids_without _ _ x).mp hm).2 he

def interrupted : LoadedGraphs where
  symbols :=
    [⟨"C", .classType, "C", ["class C"], none, none⟩, ⟨"P", .protocol, "P", ["protocol P"], none, none⟩,
      ⟨"Q", .protocol, "Q", ["protocol Q"], none, none⟩,
      ⟨"q", .instanceMethod, "q()", ["func q()"], none, none⟩]
  relationships := [⟨"C", "P", .conformsTo⟩, ⟨"P", "Q", .conformsTo⟩, ⟨"q", "Q", .requirementOf⟩]
  secondary := [⟨"P", .protocol, "P", ["protocol P"], some ⟨[":nodoc:"]⟩, none⟩]

theorem hidden_ids_absent_interrupted :
    "P" ∈ (prepare interrupted [] ":nodoc:").optedOut ∧
      ∀ t, ∀ m ∈ (prepare interrupted [] ":nodoc:").membersOf t, m.id ≠ "P" ∧
        (m.inherited = true → m.declaredIn ≠ "P") :=
  have hp : "P" ∈ (prepare interrupted [] ":nodoc:").optedOut := by decide
  ⟨hp, (hidden_ids_absent interrupted [] ":nodoc:" "P" (Or.inl hp)).2.1⟩

end PreparedGraph

end ApiReference
