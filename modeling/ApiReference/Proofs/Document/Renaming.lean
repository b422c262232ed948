import ApiReference.Document.Reference
import ApiReference.Proofs.Document.Correspondence
import ApiReference.Proofs.Graph.Prepared

/-! Ids matter up to equality only: graphs with renamed ids are prepared to the renamed table and
index, and give the same document. -/

namespace ApiReference

def Symbol.rename (ρ : String → String) (s : Symbol) : Symbol := { s with id := ρ s.id }

def Relationship.rename (ρ : String → String) (r : Relationship) : Relationship :=
  { r with source := ρ r.source, target := ρ r.target }

def LoadedGraphs.rename (ρ : String → String) (loaded : LoadedGraphs) : LoadedGraphs where
  symbols := loaded.symbols.map (Symbol.rename ρ)
  relationships := loaded.relationships.map (Relationship.rename ρ)
  secondary := loaded.secondary.map (Symbol.rename ρ)

def Multimap.rename (ρ : String → String) (table : Multimap) : Multimap :=
  table.map fun e => (ρ e.1, e.2.map ρ)

def RelationIndex.rename (ρ : String → String) (index : RelationIndex) : RelationIndex where
  members := index.members.rename ρ
  requirements := index.requirements.rename ρ
  conformances := index.conformances.rename ρ
  superclasses := index.superclasses.rename ρ
  dropped := index.dropped

lemma Multimap.rename_cons (ρ : String → String) (k : String) (values : List String) (rest : Multimap) :
    Multimap.rename ρ ((k, values) :: rest) = (ρ k, values.map ρ) :: Multimap.rename ρ rest := rfl

section

variable {ρ : String → String} (hρ : Function.Injective ρ)
include hρ

lemma rename_id_beq (s : Symbol) (x : String) : ((s.rename ρ).id == ρ x) = (s.id == x) := by
  rw [Bool.eq_iff_iff, beq_iff_eq, beq_iff_eq]
  exact hρ.eq_iff

namespace Multimap

lemma push_rename (key value : String) (table : Multimap) :
    (table.rename ρ).push (ρ key) (ρ value) = (table.push key value).rename ρ := by
  induction table with
  | nil => rfl
  | cons e rest ih =>
    obtain ⟨k, values⟩ := e
    rw [rename_cons, push, push]
    by_cases h : k = key
    · rw [if_pos h, if_pos (congrArg ρ h), rename_cons, List.map_append]
      rfl
    · rw [if_neg h, if_neg (fun h' => h (hρ h')), ih, rename_cons]

lemma get_rename (key : String) (table : Multimap) :
    (table.rename ρ).get (ρ key) = (table.get key).map ρ := by
  induction table with
  | nil => rfl
  | cons e rest ih =>
    obtain ⟨k, values⟩ := e
    rw [rename_cons, get, get]
    by_cases h : k = key
    · rw [if_pos h, if_pos (congrArg ρ h)]
    · rw [if_neg h, if_neg (fun h' => h (hρ h')), ih]

end Multimap

namespace RelationIndex

lemma touches_rename (hidden : List String) (r : Relationship) :
    touches (hidden.map ρ) (r.rename ρ) = touches hidden r := by
  simp only [touches, Relationship.rename, contains_map hρ]

lemma add_rename (index : RelationIndex) (r : Relationship) :
    (index.rename ρ).add (r.rename ρ) = (index.add r).rename ρ := by
  have hk : (r.rename ρ).kind = r.kind := rfl
  cases h : r.kind <;> simp only [add, hk, h, rename] <;>
    simp only [Relationship.rename, Multimap.push_rename hρ]

lemma build_rename (relationships : List Relationship) (hidden : List String) :
    build (relationships.map (Relationship.rename ρ)) (hidden.map ρ) =
      (build relationships hidden).rename ρ := by
  rw [build, build, List.foldl_map]
  change List.foldl _ (empty.rename ρ) relationships = _
  apply List.foldl_hom
  intro index r
  rw [touches_rename hρ]
  split
  · rfl
  · exact add_rename hρ index r

end RelationIndex

lemma offeredDoc_rename (secondary : List Symbol) (x : String) :
    offeredDoc (secondary.map (Symbol.rename ρ)) (ρ x) = offeredDoc secondary x := by
  have hm : ∀ s : Symbol, ((s.rename ρ).id == ρ x && (s.rename ρ).hasDocComment) =
      (s.id == x && s.hasDocComment) := by
    intro s
    rw [rename_id_beq hρ]
    rfl
  rw [offeredDoc, offeredDoc, ← List.map_reverse, List.find?_map]
  simp only [Function.comp_def, hm]
  cases secondary.reverse.find? fun s => s.id == x && s.hasDocComment <;> rfl

lemma backfill_rename (secondary : List Symbol) (s : Symbol) :
    (s.rename ρ).backfill (secondary.map (Symbol.rename ρ)) = (s.backfill secondary).rename ρ := by
  have hd : (s.rename ρ).hasDocComment = s.hasDocComment := rfl
  have hid : (s.rename ρ).id = ρ s.id := rfl
  rw [Symbol.backfill, Symbol.backfill, hd, hid, offeredDoc_rename hρ]
  split
  · rfl
  · cases offeredDoc secondary s.id <;> rfl

lemma backfillCount_rename (primary secondary : List Symbol) :
    backfillCount (primary.map (Symbol.rename ρ)) (secondary.map (Symbol.rename ρ)) =
      backfillCount primary secondary := by
  have hl : ∀ s : Symbol, (s.rename ρ).lacksOfferedDoc (secondary.map (Symbol.rename ρ)) =
      s.lacksOfferedDoc secondary := by
    intro s
    have hid : (s.rename ρ).id = ρ s.id := rfl
    rw [Symbol.lacksOfferedDoc, Symbol.lacksOfferedDoc, hid, offeredDoc_rename hρ]
    rfl
  rw [backfillCount, backfillCount, List.filter_map, List.length_map]
  simp only [Function.comp_def, hl]

section

variable {table table' : SymbolTable} (h : table'.symbols = table.symbols.map (Symbol.rename ρ))
include h

lemma find?_rename (x : String) : table'.find? (ρ x) = (table.find? x).map (Symbol.rename ρ) := by
  simp only [SymbolTable.find?, h, List.find?_map, Function.comp_def, rename_id_beq hρ]

lemma without_rename (hidden : List String) :
    (table'.without (hidden.map ρ)).symbols = (table.without hidden).symbols.map (Symbol.rename ρ) := by
  have hc : ∀ s : Symbol, (hidden.map ρ).contains (s.rename ρ).id = hidden.contains s.id :=
    fun s => contains_map hρ hidden s.id
  simp only [SymbolTable.symbols_without, h, List.filter_map, Function.comp_def, hc]

lemma excludedIds_rename (secondary : List Symbol) (headers : List String) :
    excludedIds (secondary.map (Symbol.rename ρ)) headers table' =
      (excludedIds secondary headers table).map ρ := by
  have hc : ∀ s : Symbol, table'.contains (s.rename ρ).id = table.contains s.id := by
    intro s
    have hf : table'.find? (s.rename ρ).id = (table.find? s.id).map (Symbol.rename ρ) :=
      find?_rename hρ h s.id
    rw [SymbolTable.contains, SymbolTable.contains, hf, Option.isSome_map]
  rw [excludedIds, excludedIds, List.filter_map, List.map_map]
  simp only [Function.comp_def, hc]
  rw [← distinct_map ρ hρ, List.map_map]
  rfl

omit hρ in
lemma primaryOptOuts_rename (marker : String) :
    primaryOptOuts table' marker = (primaryOptOuts table marker).map ρ := by
  rw [primaryOptOuts, primaryOptOuts, h, List.filter_map, List.map_map, List.map_map]
  rfl

end

lemma secondaryOptOuts_rename (secondary : List Symbol) (marker : String) :
    secondaryOptOuts (secondary.map (Symbol.rename ρ)) marker =
      (secondaryOptOuts secondary marker).map ρ := by
  rw [secondaryOptOuts, secondaryOptOuts, List.filter_map, List.map_map, ← distinct_map ρ hρ, List.map_map]
  rfl

namespace PreparedGraph

variable (loaded : LoadedGraphs) (headers : List String) (marker : String)

lemma complete_rename :
    (complete (loaded.rename ρ)).symbols = (complete loaded).symbols.map (Symbol.rename ρ) := by
  have hb : backfillAll (loaded.rename ρ).symbols (loaded.rename ρ).secondary =
      (backfillAll loaded.symbols loaded.secondary).map (Symbol.rename ρ) := by
    simp only [backfillAll, LoadedGraphs.rename, List.map_map, Function.comp_def, backfill_rename hρ]
  rw [complete, hb]
  exact SymbolTable.symbols_ofList_map _ ρ hρ (fun _ => rfl) _

lemma excluded_rename :
    (prepare (loaded.rename ρ) headers marker).excluded =
      (prepare loaded headers marker).excluded.map ρ :=
  excludedIds_rename hρ (complete_rename hρ loaded) loaded.secondary headers

lemma table_rename :
    (prepare (loaded.rename ρ) headers marker).table.symbols =
      (prepare loaded headers marker).table.symbols.map (Symbol.rename ρ) := by
  rw [table_prepare, table_prepare, excluded_rename hρ]
  exact without_rename hρ (complete_rename hρ loaded) _

lemma optedOut_rename :
    (prepare (loaded.rename ρ) headers marker).optedOut =
      (prepare loaded headers marker).optedOut.map ρ := by
  rw [optedOut_prepare, optedOut_prepare, primaryOptOuts_rename (table_rename hρ loaded headers marker),
    LoadedGraphs.rename, secondaryOptOuts_rename hρ, ← List.map_append, distinct_map ρ hρ]

lemma index_rename :
    (prepare (loaded.rename ρ) headers marker).index = (prepare loaded headers marker).index.rename ρ := by
  rw [index_prepare, index_prepare, optedOut_rename hρ, excluded_rename hρ, ← List.map_append]
  exact RelationIndex.build_rename hρ loaded.relationships _

lemma documentation_rename (options : DocumentOptions) (s : Symbol) :
    (prepare (loaded.rename ρ) headers marker).source.documentation options (s.rename ρ) =
      (prepare loaded headers marker).source.documentation options s := by
  have ht : (s.rename ρ).docText = s.docText := rfl
  have hc : (prepare (loaded.rename ρ) headers marker).optedOut.contains (s.rename ρ).id =
      (prepare loaded headers marker).optedOut.contains s.id := by
    rw [optedOut_rename hρ]
    exact contains_map hρ _ s.id
  have hu : (prepare (loaded.rename ρ) headers marker).source.undocumented options (s.rename ρ) =
      (prepare loaded headers marker).source.undocumented options s := by
    simp only [DocumentSource.undocumented, source, ht, hc]
  rw [DocumentSource.documentation, DocumentSource.documentation, hu, ht]

lemma corresponds_rename (options : DocumentOptions) :
    (prepare loaded headers marker).source.Corresponds
      (prepare (loaded.rename ρ) headers marker).source options (Symbol.rename ρ) ρ where
  injective := hρ
  id _ := rfl
  kind _ := rfl
  title _ := rfl
  declaration _ := rfl
  find := find?_rename hρ (table_rename hρ loaded headers marker)
  members x := by
    have hi := index_rename hρ loaded headers marker
    exact (congrArg (·.membersOf (ρ x)) hi).trans (Multimap.get_rename hρ x _)
  requirements x := by
    have hi := index_rename hρ loaded headers marker
    exact (congrArg (·.requirementsOf (ρ x)) hi).trans (Multimap.get_rename hρ x _)
  conformances x := by
    have hi := index_rename hρ loaded headers marker
    exact (congrArg (·.conformsTo (ρ x)) hi).trans (Multimap.get_rename hρ x _)
  superclasses x := by
    have hi := index_rename hρ loaded headers marker
    exact (congrArg (·.inheritsFrom (ρ x)) hi).trans (Multimap.get_rename hρ x _)
  sections category _ := SymbolTable.section_map (table_rename hρ loaded headers marker)
    (fun _ => rfl) (fun _ => rfl) category
  documentation := documentation_rename hρ loaded headers marker options

lemma stats_rename :
    (prepare (loaded.rename ρ) headers marker).stats = (prepare loaded headers marker).stats := by
  have ht := table_rename hρ loaded headers marker
  have hs := SymbolTable.section_map ht (fun _ => rfl) (fun _ => rfl)
  have hm : (prepare (loaded.rename ρ) headers marker).merged = (prepare loaded headers marker).merged :=
    backfillCount_rename hρ loaded.symbols loaded.secondary
  simp only [stats, SymbolTable.counts, SymbolTable.size, hs, ht, List.length_map, hm,
    excluded_rename hρ, optedOut_rename hρ, index_rename hρ, RelationIndex.rename]

end PreparedGraph

end

namespace PreparedGraph

/-- A renaming that keeps different ids apart shows in neither document nor numbers, and the members
of a type are those of the old one under their new names. -/
theorem rename_unseen (ρ : String → String) (hρ : Function.Injective ρ) (loaded : LoadedGraphs)
    (headers : List String) (marker : String) (options : DocumentOptions) :
    let p := prepare loaded headers marker
    let q := prepare (loaded.rename ρ) headers marker
    q.markdown options = p.markdown options ∧ q.stats = p.stats ∧
      ∀ t, q.membersOf (ρ t) = (p.membersOf t).map (Member.rename ρ) := by
  intro p q
  have hc : p.source.Corresponds q.source options (Symbol.rename ρ) ρ :=
    corresponds_rename hρ loaded headers marker options
  exact ⟨hc.markdown, stats_rename hρ loaded headers marker, hc.membersOf⟩

def mirrored : LoadedGraphs where
  symbols :=
    [⟨"az", .classType, "C", ["class C"], none, none⟩, ⟨"by", .protocol, "P", ["protocol P"], none, none⟩,
      ⟨"cx", .instanceMethod, "p()", ["func p()"], none, none⟩]
  relationships := [⟨"az", "by", .conformsTo⟩, ⟨"cx", "by", .requirementOf⟩]
  secondary := [⟨"cx", .instanceMethod, "p()", ["func p()"], some ⟨["Runs."]⟩, none⟩]

lemma reversal_injective : Function.Injective fun x : String => String.ofList x.toList.reverse := by
  intro x y hxy
  have hr : x.toList.reverse = y.toList.reverse := by simpa using congrArg String.toList hxy
  exact String.toList_injective (List.reverse_injective hr)

theorem rename_unseen_mirrored :
    (prepare (mirrored.rename fun x => String.ofList x.toList.reverse) [] ":nodoc:").membersOf "za" =
      [⟨"xc", "yb", true⟩] := by
  have hm := (rename_unseen _ reversal_injective mirrored [] ":nodoc:" (.forModule "Demo")).2.2 "az"
  have ho : (prepare mirrored [] ":nodoc:").membersOf "az" = [⟨"cx", "by", true⟩] := by decide
  rw [ho] at hm
  exact hm

end PreparedGraph

end ApiReference
