import ApiReference.Proofs.Distinct
import ApiReference.Proofs.Graph.Walk
import ApiReference.Proofs.Symbol.Table

/-! The member list of a type is exact: its own members first, then what the protocols in reach
offer and no member of its own replaces. -/

namespace ApiReference.Hierarchy

variable (h : Hierarchy)

def Direct (owner : Symbol) (id : String) : Prop :=
  h.table.contains id ∧ (id ∈ h.index.membersOf owner.id ∨
    owner.kind = .protocol ∧ id ∈ h.index.requirementsOf owner.id)

def Owns (p id : String) : Prop := id ∈ h.index.requirementsOf p ∨ id ∈ h.index.membersOf p

structure Lists (owner : Symbol) (members : List Member) : Prop where
  nodup : (members.map (·.id)).Nodup
  known : ∀ m ∈ members, h.table.contains m.id
  direct : ∀ m : Member, m.inherited = false →
    (m ∈ members ↔ m.declaredIn = owner.id ∧ h.Direct owner m.id)
  inherited : ∀ id, (∃ p, ⟨id, p, true⟩ ∈ members) ↔
    owner.kind = .classType ∧ h.table.contains id ∧ ¬ h.Direct owner id ∧
      (∃ p, Relation.TransGen h.index.Conforms owner.id p ∧ h.Owns p id) ∧
      ∀ d, h.Direct owner d → h.declarationOf d ≠ h.declarationOf id
  direct_first : members.Pairwise fun a b => b.inherited = false → a.inherited = false
  direct_order : ((members.filter fun m => !m.inherited).map (·.id)).Pairwise fun a b =>
    (h.index.membersOf owner.id ++ h.index.requirementsOf owner.id).idxOf a <
      (h.index.membersOf owner.id ++ h.index.requirementsOf owner.id).idxOf b

lemma mem_directIds (owner : Symbol) (id : String) : id ∈ h.directIds owner ↔ h.Direct owner id := by
  simp only [directIds, Direct, mem_distinct, List.mem_filter]
  split
  · next hk => simp [hk, and_comm]
  · next hk => simp [hk, and_comm]

lemma directIds_order (owner : Symbol) :
    (h.directIds owner).Pairwise fun a b =>
      (h.index.membersOf owner.id ++ h.index.requirementsOf owner.id).idxOf a <
        (h.index.membersOf owner.id ++ h.index.requirementsOf owner.id).idxOf b := by
  simp only [directIds, distinct_filter]
  apply List.Pairwise.filter
  split
  · exact distinct_order _
  · refine (distinct_order (h.index.membersOf owner.id)).imp_of_mem ?_
    intro a b ha hb hab
    rw [mem_distinct] at ha hb
    simpa only [List.idxOf_append, ha, hb, if_true] using hab

lemma mem_candidates (id m p : String) :
    (m, p) ∈ h.candidates id ↔
      Relation.TransGen h.index.Conforms id p ∧ h.Owns p m ∧ h.table.contains m := by
  simp only [candidates, List.mem_flatMap, RelationIndex.mem_protocolsOf, List.mem_map,
    List.mem_filter, List.mem_append, Prod.mk.injEq, Owns]
  constructor
  · rintro ⟨q, hq, x, ⟨hx, hc⟩, rfl, rfl⟩
    exact ⟨hq, hx, hc⟩
  · rintro ⟨hp, hm, hc⟩
    exact ⟨p, hp, m, ⟨hm, hc⟩, rfl, rfl⟩

lemma overridden_iff (direct : List String) (id : String) (hc : h.table.contains id) :
    h.overridden direct id = true ↔ ∃ d ∈ direct, h.declarationOf d = h.declarationOf id := by
  obtain ⟨s, hs⟩ := Option.isSome_iff_exists.mp hc
  have hd : h.declarationOf id = some s.declaration := by simp [declarationOf, hs]
  simp [overridden, hd]

def keptCandidates (owner : Symbol) : List (String × String) :=
  (h.foreignCandidates (h.directIds owner) owner.id).filter fun c =>
    !h.overridden (h.directIds owner) c.1

lemma inheritedMembers_eq (owner : Symbol) :
    h.inheritedMembers owner =
      (distinctOn (·.1) [] (h.keptCandidates owner)).map fun c => ⟨c.1, c.2, true⟩ := rfl

lemma mem_keptCandidates (owner : Symbol) (m p : String) :
    (m, p) ∈ h.keptCandidates owner ↔
      (Relation.TransGen h.index.Conforms owner.id p ∧ h.Owns p m) ∧
        h.table.contains m ∧ ¬ h.Direct owner m ∧
        ∀ d, h.Direct owner d → h.declarationOf d ≠ h.declarationOf m := by
  simp only [keptCandidates, foreignCandidates, List.mem_filter, mem_candidates,
    List.contains_eq_mem, mem_directIds, Bool.not_eq_true', decide_eq_false_iff_not]
  constructor
  · rintro ⟨⟨⟨hp, ho, hc⟩, hd⟩, hn⟩
    refine ⟨⟨hp, ho⟩, hc, hd, fun d hdirect he => ?_⟩
    have ht := (h.overridden_iff (h.directIds owner) m hc).mpr
      ⟨d, (h.mem_directIds owner d).mpr hdirect, he⟩
    rw [ht] at hn
    cases hn
  · rintro ⟨⟨hp, ho⟩, hc, hd, hn⟩
    refine ⟨⟨⟨hp, ho, hc⟩, hd⟩, ?_⟩
    rw [Bool.eq_false_iff, ne_eq, h.overridden_iff _ m hc]
    rintro ⟨d, hm, he⟩
    exact hn d ((h.mem_directIds owner d).mp hm) he

lemma mem_inheritedMembers (owner : Symbol) (m : Member) (hm : m ∈ h.inheritedMembers owner) :
    m.inherited = true ∧ (m.id, m.declaredIn) ∈ h.keptCandidates owner := by
  rw [inheritedMembers_eq, List.mem_map] at hm
  obtain ⟨c, hc, rfl⟩ := hm
  exact ⟨rfl, distinctOn_subset _ _ _ c hc⟩

lemma ids_inheritedMembers (owner : Symbol) :
    (h.inheritedMembers owner).map (·.id) =
      (distinctOn (·.1) [] (h.keptCandidates owner)).map (·.1) := by
  rw [inheritedMembers_eq, List.map_map]
  rfl

lemma mem_ids_inheritedMembers (owner : Symbol) (id : String) :
    id ∈ (h.inheritedMembers owner).map (·.id) ↔ ∃ p, (id, p) ∈ h.keptCandidates owner := by
  rw [ids_inheritedMembers, mem_keys_distinctOn]
  simp

lemma nodup_inheritedMembers (owner : Symbol) : ((h.inheritedMembers owner).map (·.id)).Nodup := by
  rw [ids_inheritedMembers]
  exact nodup_keys_distinctOn _ _ _

lemma ids_directMembers (owner : Symbol) : (h.directMembers owner).map (·.id) = h.directIds owner := by
  simp [directMembers, Function.comp_def]

lemma mem_directMembers (owner : Symbol) (m : Member) :
    m ∈ h.directMembers owner ↔ m.inherited = false ∧ m.declaredIn = owner.id ∧ h.Direct owner m.id := by
  simp only [directMembers, List.mem_map, mem_directIds]
  constructor
  · rintro ⟨id, hid, rfl⟩
    exact ⟨rfl, rfl, hid⟩
  · rintro ⟨hi, ho, hd⟩
    refine ⟨m.id, hd, ?_⟩
    rw [← hi, ← ho]

def protocolMembers (owner : Symbol) : List Member :=
  if owner.kind.inheritsProtocolMembers then h.inheritedMembers owner else []

lemma membersOf_eq {t : String} {owner : Symbol} (ht : h.table.find? t = some owner) :
    h.membersOf t = h.directMembers owner ++ h.protocolMembers owner := by
  simp only [membersOf, ht, protocolMembers]
  split
  · rfl
  · rw [List.append_nil]

lemma inherits_iff (kind : Kind) : kind.inheritsProtocolMembers = true ↔ kind = .classType := by
  cases kind <;> simp [Kind.inheritsProtocolMembers]

lemma mem_protocolMembers (owner : Symbol) (m : Member) (hm : m ∈ h.protocolMembers owner) :
    m.inherited = true ∧ (m.id, m.declaredIn) ∈ h.keptCandidates owner := by
  rw [protocolMembers] at hm
  split at hm
  · exact h.mem_inheritedMembers owner m hm
  · cases hm

lemma mem_ids_protocolMembers (owner : Symbol) (id : String) :
    (∃ p, ⟨id, p, true⟩ ∈ h.protocolMembers owner) ↔
      owner.kind = .classType ∧ ∃ p, (id, p) ∈ h.keptCandidates owner := by
  rw [← mem_ids_inheritedMembers, ← inherits_iff, protocolMembers]
  constructor
  · rintro ⟨p, hp⟩
    split at hp
    · next hk => exact ⟨hk, List.mem_map.mpr ⟨_, hp, rfl⟩⟩
    · cases hp
  · rintro ⟨hk, hm⟩
    obtain ⟨m, hi, rfl⟩ := List.mem_map.mp hm
    have ht := (h.mem_inheritedMembers owner m hi).1
    rw [if_pos hk]
    exact ⟨m.declaredIn, by rw [← ht]; exact hi⟩

lemma nodup_members (owner : Symbol) :
    ((h.directMembers owner ++ h.protocolMembers owner).map (·.id)).Nodup := by
  rw [List.map_append, ids_directMembers, List.nodup_append]
  refine ⟨nodup_distinct _, ?_, ?_⟩
  · rw [protocolMembers]
    split
    · exact h.nodup_inheritedMembers owner
    · exact List.nodup_nil
  · rintro a ha b hb rfl
    obtain ⟨m, hm, rfl⟩ := List.mem_map.mp hb
    have hk := (h.mem_keptCandidates owner _ _).mp (h.mem_protocolMembers owner m hm).2
    exact hk.2.2.1 ((h.mem_directIds owner _).mp ha)

lemma filter_direct (owner : Symbol) :
    (h.directMembers owner ++ h.protocolMembers owner).filter (fun m => !m.inherited) =
      h.directMembers owner := by
  have hd : ∀ m ∈ h.directMembers owner, (!m.inherited) = true := by
    intro m hm
    simp [((h.mem_directMembers owner m).mp hm).1]
  have hp : ∀ m ∈ h.protocolMembers owner, ¬ (!m.inherited) = true := by
    intro m hm
    simp [(h.mem_protocolMembers owner m hm).1]
  rw [List.filter_append, List.filter_eq_self.mpr hd, List.filter_eq_nil_iff.mpr hp, List.append_nil]

lemma members_known (owner : Symbol) (m : Member)
    (hm : m ∈ h.directMembers owner ++ h.protocolMembers owner) : h.table.contains m.id := by
  rcases List.mem_append.mp hm with hm | hm
  · exact ((h.mem_directMembers owner m).mp hm).2.2.1
  · exact ((h.mem_keptCandidates owner _ _).mp (h.mem_protocolMembers owner m hm).2).2.1

lemma members_direct (owner : Symbol) (m : Member) (hi : m.inherited = false) :
    m ∈ h.directMembers owner ++ h.protocolMembers owner ↔
      m.declaredIn = owner.id ∧ h.Direct owner m.id := by
  rw [List.mem_append, mem_directMembers]
  constructor
  · rintro (hm | hm)
    · exact hm.2
    · rw [(h.mem_protocolMembers owner m hm).1] at hi
      cases hi
  · exact fun hm => Or.inl ⟨hi, hm⟩

lemma members_inherited (owner : Symbol) (id : String) :
    (∃ p, ⟨id, p, true⟩ ∈ h.directMembers owner ++ h.protocolMembers owner) ↔
      owner.kind = .classType ∧ h.table.contains id ∧ ¬ h.Direct owner id ∧
        (∃ p, Relation.TransGen h.index.Conforms owner.id p ∧ h.Owns p id) ∧
        ∀ d, h.Direct owner d → h.declarationOf d ≠ h.declarationOf id := by
  have hn : ∀ p, (⟨id, p, true⟩ : Member) ∉ h.directMembers owner := by simp [mem_directMembers]
  simp only [List.mem_append, hn, false_or]
  rw [mem_ids_protocolMembers]
  simp only [mem_keptCandidates]
  constructor
  · rintro ⟨hk, p, hp, hc, hd, ho⟩
    exact ⟨hk, hc, hd, ⟨p, hp⟩, ho⟩
  · rintro ⟨hk, hc, hd, ⟨p, hp⟩, ho⟩
    exact ⟨hk, p, hp, hc, hd, ho⟩

lemma members_direct_first (owner : Symbol) :
    (h.directMembers owner ++ h.protocolMembers owner).Pairwise fun a b =>
      b.inherited = false → a.inherited = false := by
  have hd : ∀ m ∈ h.directMembers owner, m.inherited = false :=
    fun m hm => ((h.mem_directMembers owner m).mp hm).1
  have hp : ∀ m ∈ h.protocolMembers owner, m.inherited = true :=
    fun m hm => (h.mem_protocolMembers owner m hm).1
  refine List.pairwise_append.mpr ⟨?_, ?_, fun a ha _ _ _ => hd a ha⟩
  · exact List.pairwise_of_forall_mem_list fun a ha _ _ _ => hd a ha
  · apply List.pairwise_of_forall_mem_list
    intro a _ b hb hi
    rw [hp b hb] at hi
    cases hi

/-- The walk over the protocols ends, and the list of members is exact. -/
theorem membersOf_exact (t : String) (owner : Symbol) (ht : h.table.find? t = some owner) :
    owner.id = t ∧ Walked h.index.conformsTo (h.index.conformsTo t) [] (h.index.protocolsOf t) ∧
      h.Lists owner (h.membersOf t) := by
  refine ⟨SymbolTable.id_of_find? ht, h.index.protocolsOf_walked t, ?_⟩
  rw [h.membersOf_eq ht]
  exact {
    nodup := h.nodup_members owner
    known := h.members_known owner
    direct := h.members_direct owner
    inherited := h.members_inherited owner
    direct_first := h.members_direct_first owner
    direct_order := by
      rw [filter_direct, ids_directMembers]
      exact h.directIds_order owner }

def cyclic : Hierarchy where
  table := .ofList
    [⟨"C", .classType, "C", ["class C"], none, none⟩, ⟨"A", .protocol, "A", ["protocol A"], none, none⟩,
      ⟨"B", .protocol, "B", ["protocol B"], none, none⟩,
      ⟨"a", .instanceMethod, "a()", ["func a()"], none, none⟩,
      ⟨"b", .instanceMethod, "b()", ["func b()"], none, none⟩]
  index := .build
    [⟨"a", "A", .requirementOf⟩, ⟨"b", "B", .requirementOf⟩, ⟨"A", "B", .conformsTo⟩,
      ⟨"B", "A", .conformsTo⟩, ⟨"C", "A", .conformsTo⟩, ⟨"b", "C", .memberOf⟩] []

theorem membersOf_exact_cyclic :
    cyclic.membersOf "C" = [⟨"b", "C", false⟩, ⟨"a", "A", true⟩] ∧
      cyclic.Lists ⟨"C", .classType, "C", ["class C"], none, none⟩ (cyclic.membersOf "C") :=
  ⟨by decide, (membersOf_exact cyclic "C" _ (by decide)).2.2⟩

end ApiReference.Hierarchy
