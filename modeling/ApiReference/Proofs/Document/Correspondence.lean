import ApiReference.Document.Markdown
import ApiReference.Proofs.Graph.Correspondence

/-! Sources with corresponding hierarchies, sections and documentation give the same document. -/

namespace ApiReference

lemma SymbolTable.section_map {table table' : SymbolTable} {φ : Symbol → Symbol}
    (hs : table'.symbols = table.symbols.map φ) (hk : ∀ s, (φ s).kind = s.kind)
    (ht : ∀ s, (φ s).title = s.title) (category : Category) :
    table'.section category = (table.section category).map φ := by
  simp only [SymbolTable.section]
  split
  · rfl
  · simp only [hs, List.filter_map, Function.comp_def, hk]
    rw [← List.map_mergeSort]
    intro a _ b _
    rw [ht, ht]

namespace DocumentSource

structure Corresponds (d e : DocumentSource) (options : DocumentOptions) (φ : Symbol → Symbol)
    (ρ : String → String) : Prop extends d.hierarchy.Corresponds e.hierarchy φ ρ where
  sections : ∀ category, category ≠ .uncategorized →
    e.table.section category = (d.table.section category).map φ
  documentation : ∀ s, e.documentation options (φ s) = d.documentation options s

lemma kindsOf_map (f : Entry → Entry) (hf : ∀ e, (f e).1.kind = e.1.kind) (es : List Entry) :
    kindsOf (es.map f) = kindsOf es := by
  induction es with
  | nil => rfl
  | cons e es ih => rw [List.map_cons, kindsOf, kindsOf, ih, hf]

lemma groups_map (f : Entry → Entry) (hk : ∀ e, (f e).1.kind = e.1.kind)
    (ht : ∀ e, (f e).1.title = e.1.title) (es : List Entry) :
    groups (es.map f) = (groups es).map fun group => (group.1, group.2.map f) := by
  have hgroup : ∀ k, ((es.map f).filter fun e => decide (e.1.kind = k)).mergeSort
        (fun a b => textLe a.1.title b.1.title) =
      ((es.filter fun e => decide (e.1.kind = k)).mergeSort
        fun a b => textLe a.1.title b.1.title).map f := by
    intro k
    simp only [List.filter_map, Function.comp_def, hk]
    rw [← List.map_mergeSort]
    intro a _ b _
    rw [ht, ht]
  rw [groups, groups, List.map_mergeSort (s := fun a b => kindLe a.1 b.1) (by intros; rfl)]
  simp only [kindsOf_map f hk, hgroup, List.map_map, Function.comp_def]

namespace Corresponds

variable {d e : DocumentSource} {options : DocumentOptions} {φ : Symbol → Symbol} {ρ : String → String}
variable (c : d.Corresponds e options φ ρ)
include c

lemma find? (x : String) : e.table.find? (ρ x) = (d.table.find? x).map φ := c.find x

lemma declaration_eq (s : Symbol) :
    DocumentSource.declaration options (φ s) = DocumentSource.declaration options s := by
  rw [DocumentSource.declaration, c.declaration, DocumentSource.declaration]

lemma attribution (m : Member) : e.attribution (m.rename ρ) = d.attribution m := by
  simp only [DocumentSource.attribution, Member.rename, c.find?]
  cases d.table.find? m.declaredIn with
  | none => rfl
  | some p => simp only [Option.map_some, c.title]

lemma entries (members : List Member) :
    e.entries (members.map (Member.rename ρ)) =
      (d.entries members).map (Prod.map φ (Member.rename ρ)) := by
  rw [DocumentSource.entries, DocumentSource.entries, List.filterMap_map, List.map_filterMap]
  congr 1
  funext m
  simp [Member.rename, c.find?, Option.map_map, Function.comp_def]

lemma memberEntry (entry : Entry) :
    e.memberEntry options (Prod.map φ (Member.rename ρ) entry) = d.memberEntry options entry := by
  simp only [DocumentSource.memberEntry, Prod.map_fst, Prod.map_snd, c.title, c.attribution,
    c.declaration_eq, c.documentation]

lemma memberGroup (group : Kind × List Entry) :
    e.memberGroup options (group.1, group.2.map (Prod.map φ (Member.rename ρ))) =
      d.memberGroup options group := by
  simp only [DocumentSource.memberGroup, List.flatMap_map, c.memberEntry]

lemma memberGroups (members : List Member) :
    (groups (e.entries (members.map (Member.rename ρ)))).flatMap (e.memberGroup options) =
      (groups (d.entries members)).flatMap (d.memberGroup options) := by
  rw [c.entries, groups_map _ (fun entry => c.kind entry.1) (fun entry => c.title entry.1),
    List.flatMap_map]
  simp only [c.memberGroup]

lemma typeEntry (s : Symbol) : e.typeEntry options (φ s) = d.typeEntry options s := by
  simp only [DocumentSource.typeEntry, c.title, c.declaration_eq, c.documentation, c.id,
    c.conformanceTitles, c.superclassTitles, c.membersOf, c.memberGroups]

lemma typeSection (category : Category) (hc : category ≠ .uncategorized) :
    e.typeSection options category = d.typeSection options category := by
  rw [DocumentSource.typeSection, c.sections category hc, DocumentSource.typeSection]
  cases d.table.section category with
  | nil => rfl
  | cons s symbols =>
    simp only [List.map_cons, List.flatMap_cons, List.flatMap_map, c.typeEntry]

lemma flatEntry (s : Symbol) : e.flatEntry options (φ s) = d.flatEntry options s := by
  rw [DocumentSource.flatEntry, c.title, c.declaration_eq, c.documentation, DocumentSource.flatEntry]

lemma flatSection (category : Category) (hc : category ≠ .uncategorized) :
    e.flatSection options category = d.flatSection options category := by
  rw [DocumentSource.flatSection, c.sections category hc, DocumentSource.flatSection]
  cases d.table.section category with
  | nil => rfl
  | cons s symbols =>
    simp only [List.map_cons, List.flatMap_cons, List.flatMap_map, c.flatEntry]

lemma contentsEntry (s : Symbol) :
    DocumentSource.contentsEntry (φ s) = DocumentSource.contentsEntry s := by
  rw [DocumentSource.contentsEntry, c.title, DocumentSource.contentsEntry]

lemma contentsSection (category : Category) (hc : category ≠ .uncategorized) :
    e.contentsSection category = d.contentsSection category := by
  rw [DocumentSource.contentsSection, c.sections category hc, DocumentSource.contentsSection]
  cases d.table.section category with
  | nil => rfl
  | cons s symbols =>
    simp only [List.map_cons, List.map_map, Function.comp_def, c.contentsEntry]

lemma contents : e.contents = d.contents := by
  have shown : ∀ category ∈ contentsSections, category ≠ .uncategorized := by decide
  rw [DocumentSource.contents, DocumentSource.contents]
  congr 2
  exact List.flatMap_congr fun category hc => c.contentsSection category (shown category hc)

lemma blocks : e.blocks options = d.blocks options := by
  have typed : ∀ category ∈ typeSections, category ≠ .uncategorized := by decide
  have flat : ∀ category ∈ flatSections, category ≠ .uncategorized := by decide
  rw [DocumentSource.blocks, DocumentSource.blocks, c.contents]
  congr 1
  · congr 1
    exact List.flatMap_congr fun category hc => c.typeSection category (typed category hc)
  · exact List.flatMap_congr fun category hc => c.flatSection category (flat category hc)

lemma markdown : e.markdown options = d.markdown options := by
  rw [DocumentSource.markdown, c.blocks, DocumentSource.markdown]

end Corresponds

end DocumentSource

end ApiReference
