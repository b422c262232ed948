import ApiReference.Document.Reference
import ApiReference.Proofs.Graph.Members

/-! An inherited member is listed with the title of its protocol, as long as the protocols that the
table does not know have nothing to offer. -/

namespace ApiReference

lemma Hierarchy.origin_of_inherited (h : Hierarchy) {t : String} {m : Member} (hm : m ∈ h.membersOf t)
    (hi : m.inherited = true) : Relation.TransGen h.index.Conforms t m.declaredIn ∧
      h.Owns m.declaredIn m.id ∧ h.table.contains m.id := by
  cases ht : h.table.find? t with
  | none =>
    rw [membersOf, ht] at hm
    cases hm
  | some owner =>
    rw [h.membersOf_eq ht, List.mem_append, mem_directMembers, hi] at hm
    obtain ⟨hd, -⟩ | hm := hm
    · cases hd
    · obtain ⟨⟨hp, ho⟩, hc, -⟩ := (h.mem_keptCandidates owner _ _).mp (h.mem_protocolMembers owner m hm).2
      rw [SymbolTable.id_of_find? ht] at hp
      exact ⟨hp, ho, hc⟩

namespace PreparedGraph

variable (p : PreparedGraph)

def Attributed (m : Member) : Prop :=
  ∃ protocol, p.table.find? m.declaredIn = some protocol ∧
    p.source.attribution m = " *(from " ++ protocol.title ++ ")*" ∧
    ∃ row, p.memberRow? m = some row ∧ row.source = some protocol.title

lemma attributed_of_known {m : Member} {protocol : Symbol} (hi : m.inherited = true)
    (hp : p.table.find? m.declaredIn = some protocol) (hc : p.table.contains m.id) : p.Attributed m := by
  obtain ⟨s, hs⟩ := Option.isSome_iff_exists.mp hc
  refine ⟨protocol, hp, ?_, ?_⟩
  · rw [DocumentSource.attribution, if_pos hi, show p.source.table = p.table from rfl, hp]
  · rw [memberRow?, hs]
    refine ⟨_, rfl, ?_⟩
    rw [if_pos hi, hp]
    rfl

/-- Where the protocols that the table does not know own no symbol that it knows, every inherited member
is attributed. -/
theorem inherited_attributed (t : String)
    (unknown : ∀ q, Relation.TransGen p.index.Conforms t q → p.table.find? q = none →
      ∀ id, p.hierarchy.Owns q id → p.table.find? id = none) :
    ∀ m ∈ p.membersOf t, m.inherited = true → p.Attributed m := by
  intro m hm hi
  obtain ⟨hp, ho, hc⟩ := p.hierarchy.origin_of_inherited hm hi
  have hc' : p.table.contains m.id := hc
  cases hq : p.table.find? m.declaredIn with
  | some protocol => exact p.attributed_of_known hi hq hc'
  | none =>
    rw [SymbolTable.contains, unknown _ hp hq m.id ho] at hc'
    cases hc'

def guests : LoadedGraphs where
  symbols :=
    [⟨"C", .classType, "C", ["class C"], none, none⟩, ⟨"P", .protocol, "P", ["protocol P"], none, none⟩,
      ⟨"m", .instanceMethod, "m()", ["func m()"], none, none⟩]
  relationships := [⟨"C", "E", .conformsTo⟩, ⟨"C", "P", .conformsTo⟩, ⟨"m", "P", .requirementOf⟩]
  secondary := []

theorem inherited_attributed_guests :
    (prepare guests [] ":nodoc:").membersOf "C" = [⟨"m", "P", true⟩] ∧
      (prepare guests [] ":nodoc:").Attributed ⟨"m", "P", true⟩ := by
  have hm : (prepare guests [] ":nodoc:").membersOf "C" = [⟨"m", "P", true⟩] := by decide
  refine ⟨hm, inherited_attributed _ "C" ?_ _ (hm ▸ List.mem_singleton_self _) rfl⟩
  intro q hq hn id ho
  rw [← RelationIndex.mem_protocolsOf, show (prepare guests [] ":nodoc:").index.protocolsOf "C" = ["E", "P"] by decide,
    List.mem_cons, List.mem_singleton] at hq
  rcases hq with rfl | rfl
  · have he : (prepare guests [] ":nodoc:").hierarchy.index.requirementsOf "E" = [] ∧
        (prepare guests [] ":nodoc:").hierarchy.index.membersOf "E" = [] := by decide
    rw [Hierarchy.Owns, he.1, he.2] at ho
    simp at ho
  · exact absurd hn (by decide)

def extended : LoadedGraphs where
  symbols :=
    [⟨"C", .classType, "C", ["class C"], none, none⟩, ⟨"m", .instanceMethod, "m()", ["func m()"], none, none⟩]
  relationships := [⟨"C", "E", .conformsTo⟩, ⟨"m", "E", .memberOf⟩]
  secondary := []

theorem inherited_unattributed_extended :
    (prepare extended [] ":nodoc:").membersOf "C" = [⟨"m", "E", true⟩] ∧
      ¬ (prepare extended [] ":nodoc:").table.contains "E" ∧
      (prepare extended [] ":nodoc:").source.attribution ⟨"m", "E", true⟩ = "" ∧
      (prepare extended [] ":nodoc:").memberRows "C" =
        some ("C (Class)", [⟨"m", "m()", "Instance Method", "func m()", true, none⟩]) :=
  ⟨by decide, by decide, by decide, by decide⟩

end PreparedGraph

end ApiReference
