import ApiReference.Proofs.Distinct
import ApiReference.Proofs.Graph.Members

/-! Two hierarchies that differ in the names of ids, and in what a symbol holds beyond kind, title
and declaration, list corresponding members. -/

namespace ApiReference

def Member.rename (ρ : String → String) (m : Member) : Member := ⟨ρ m.id, ρ m.declaredIn, m.inherited⟩

lemma contains_map {ρ : String → String} (hρ : Function.Injective ρ) (ids : List String) (x : String) :
    (ids.map ρ).contains (ρ x) = ids.contains x := by
  simp only [List.contains_eq_mem, List.mem_map_of_injective hρ]

structure Hierarchy.Corresponds (h g : Hierarchy) (φ : Symbol → Symbol) (ρ : String → String) : Prop where
  injective : Function.Injective ρ
  id : ∀ s, (φ s).id = ρ s.id
  kind : ∀ s, (φ s).kind = s.kind
  title : ∀ s, (φ s).title = s.title
  declaration : ∀ s, (φ s).declaration = s.declaration
  find : ∀ x, g.table.find? (ρ x) = (h.table.find? x).map φ
  members : ∀ x, g.index.membersOf (ρ x) = (h.index.membersOf x).map ρ
  requirements : ∀ x, g.index.requirementsOf (ρ x) = (h.index.requirementsOf x).map ρ
  conformances : ∀ x, g.index.conformsTo (ρ x) = (h.index.conformsTo x).map ρ
  superclasses : ∀ x, g.index.inheritsFrom (ρ x) = (h.index.inheritsFrom x).map ρ

namespace Hierarchy.Corresponds

variable {h g : Hierarchy} {φ : Symbol → Symbol} {ρ : String → String} (c : h.Corresponds g φ ρ)
include c

lemma contains (x : String) : g.table.contains (ρ x) = h.table.contains x := by
  rw [SymbolTable.contains, SymbolTable.contains, c.find, Option.isSome_map]

lemma filter_contains (ids : List String) :
    (ids.map ρ).filter g.table.contains = (ids.filter h.table.contains).map ρ := by
  rw [List.filter_map]
  congr 2
  funext x
  exact c.contains x

lemma declarationOf (x : String) : g.declarationOf (ρ x) = h.declarationOf x := by
  simp only [Hierarchy.declarationOf, c.find, Option.map_map, Function.comp_def, c.declaration]

lemma directIds (owner : Symbol) : g.directIds (φ owner) = (h.directIds owner).map ρ := by
  simp only [Hierarchy.directIds, c.id, c.kind, c.members, c.requirements]
  split
  · rw [← List.map_append, c.filter_contains, distinct_map ρ c.injective]
  · rw [c.filter_contains, distinct_map ρ c.injective]

lemma protocolsOf (x : String) : g.index.protocolsOf (ρ x) = (h.index.protocolsOf x).map ρ := by
  have hw := (h.index.protocolsOf_walked x).map c.injective c.conformances
  rw [← c.conformances] at hw
  exact (g.index.protocolsOf_walked (ρ x)).unique hw

lemma candidates (x : String) : g.candidates (ρ x) = (h.candidates x).map (Prod.map ρ ρ) := by
  simp only [Hierarchy.candidates, c.protocolsOf, List.flatMap_map, List.map_flatMap, c.requirements,
    c.members, ← List.map_append, c.filter_contains, List.map_map]
  rfl

lemma overridden (direct : List String) (x : String) :
    g.overridden (direct.map ρ) (ρ x) = h.overridden direct x := by
  simp only [Hierarchy.overridden, c.declarationOf, List.filterMap_map, Function.comp_def]

lemma keptCandidates (owner : Symbol) :
    g.keptCandidates (φ owner) = (h.keptCandidates owner).map (Prod.map ρ ρ) := by
  simp only [Hierarchy.keptCandidates, foreignCandidates, c.id, c.candidates, c.directIds,
    List.filter_map, Function.comp_def, Prod.map_fst, contains_map c.injective, c.overridden]

lemma inheritedMembers (owner : Symbol) :
    g.inheritedMembers (φ owner) = (h.inheritedMembers owner).map (Member.rename ρ) := by
  have hd := distinctOn_map (·.1) (·.1) (Prod.map ρ ρ) ρ c.injective (fun _ => rfl) []
    (h.keptCandidates owner)
  rw [List.map_nil] at hd
  rw [inheritedMembers_eq, inheritedMembers_eq, c.keptCandidates, hd, List.map_map, List.map_map]
  rfl

lemma directMembers (owner : Symbol) :
    g.directMembers (φ owner) = (h.directMembers owner).map (Member.rename ρ) := by
  simp only [Hierarchy.directMembers, c.directIds, c.id, List.map_map]
  rfl

lemma membersOf (x : String) : g.membersOf (ρ x) = (h.membersOf x).map (Member.rename ρ) := by
  cases hx : h.table.find? x with
  | none => simp [Hierarchy.membersOf, c.find, hx]
  | some owner =>
    have hg : g.table.find? (ρ x) = some (φ owner) := by rw [c.find, hx, Option.map_some]
    rw [h.membersOf_eq hx, g.membersOf_eq hg, List.map_append, c.directMembers, protocolMembers,
      protocolMembers, c.kind, c.inheritedMembers]
    split
    · rfl
    · rw [List.map_nil]

lemma titles (ids : List String) : g.titles (ids.map ρ) = h.titles ids := by
  simp only [Hierarchy.titles, distinct_map ρ c.injective, List.filterMap_map, Function.comp_def,
    c.find, Option.map_map, c.title]

lemma conformanceTitles (x : String) : g.conformanceTitles (ρ x) = h.conformanceTitles x := by
  rw [Hierarchy.conformanceTitles, c.conformances, c.titles, Hierarchy.conformanceTitles]

lemma superclassTitles (x : String) : g.superclassTitles (ρ x) = h.superclassTitles x := by
  rw [Hierarchy.superclassTitles, c.superclasses, c.titles, Hierarchy.superclassTitles]

end Hierarchy.Corresponds

end ApiReference
