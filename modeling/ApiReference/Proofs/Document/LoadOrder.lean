import ApiReference.Document.Reference
import ApiReference.Proofs.Document.Correspondence
import ApiReference.Proofs.Graph.Prepared

/-! The order in which symbols are loaded does not matter when their ids differ and the titles of
each section differ: the tables are permutations of each other, and all that the document shows is
looked up by id or sorted by title. -/

namespace ApiReference

variable {α : Type}

lemma find?_eq_of_perm {p : α → Bool} {as bs : List α} (h : as.Perm bs)
    (hu : ∀ x ∈ as, ∀ y ∈ as, p x → p y → x = y) : as.find? p = bs.find? p := by
  cases ha : as.find? p with
  | none =>
    rw [List.find?_eq_none] at ha
    rw [eq_comm, List.find?_eq_none]
    exact fun x hx => ha x (h.mem_iff.mpr hx)
  | some x =>
    have hx := List.mem_of_find?_eq_some ha
    have hpx := List.find?_some ha
    obtain ⟨y, hy⟩ : ∃ y, bs.find? p = some y :=
      Option.isSome_iff_exists.mp (List.find?_isSome.mpr ⟨x, h.mem_iff.mp hx, hpx⟩)
    have hym := h.mem_iff.mpr (List.mem_of_find?_eq_some hy)
    rw [hy, hu x hx y hym hpx (List.find?_some hy)]

lemma length_eq_of_mem_iff {as bs : List α} (ha : as.Nodup) (hb : bs.Nodup)
    (h : ∀ x, x ∈ as ↔ x ∈ bs) : as.length = bs.length :=
  ((List.perm_ext_iff_of_nodup ha hb).mpr h).length_eq

lemma mergeSort_eq_of_perm {key : α → String} {as bs : List α} (h : as.Perm bs)
    (hk : ∀ x ∈ as, ∀ y ∈ as, key x = key y → x = y) :
    as.mergeSort (fun x y => textLe (key x) (key y)) = bs.mergeSort fun x y => textLe (key x) (key y) := by
  have sorted : ∀ l : List α, (l.mergeSort fun x y => textLe (key x) (key y)).Pairwise
      fun x y => textLe (key x) (key y) = true := by
    apply List.pairwise_mergeSort
    · intro x y z hxy hyz
      simp only [textLe, decide_eq_true_eq] at hxy hyz ⊢
      exact String.le_trans hxy hyz
    · intro x y
      simp only [textLe, Bool.or_eq_true, decide_eq_true_eq]
      exact String.le_total _ _
  refine List.Perm.eq_of_pairwise ?_ (sorted as) (sorted bs) ?_
  · intro x y hx hy hxy hyx
    rw [List.mem_mergeSort] at hx hy
    simp only [textLe, decide_eq_true_eq] at hxy hyx
    exact hk x hx y (h.mem_iff.mpr hy) (String.le_antisymm hxy hyx)
  · exact (List.mergeSort_perm as _).trans (h.trans (List.mergeSort_perm bs _).symm)

lemma putSymbol_of_notMem {s : Symbol} {ts : List Symbol} (h : s.id ∉ ts.map (·.id)) :
    putSymbol s ts = ts ++ [s] := by
  induction ts with
  | nil => rfl
  | cons t ts ih =>
    rw [List.map_cons, List.mem_cons, not_or] at h
    rw [putSymbol, if_neg (fun he => h.1 he.symm), ih h.2, List.cons_append]

namespace SymbolTable

lemma foldl_putSymbol_of_nodup (l ts : List Symbol) (h : ((ts ++ l).map (·.id)).Nodup) :
    l.foldl (fun ts s => putSymbol s ts) ts = ts ++ l := by
  induction l generalizing ts with
  | nil => rw [List.foldl_nil, List.append_nil]
  | cons s l ih =>
    have hn : s.id ∉ ts.map (·.id) := by
      rw [List.map_append, List.map_cons] at h
      exact fun hm => (List.nodup_append.mp h).2.2 _ hm _ List.mem_cons_self rfl
    rw [List.foldl_cons, putSymbol_of_notMem hn, ih, List.append_assoc, List.singleton_append]
    rwa [List.append_assoc, List.singleton_append]

lemma symbols_ofList_of_nodup {l : List Symbol} (h : (l.map (·.id)).Nodup) : (ofList l).symbols = l := by
  rw [symbols_ofList]
  exact foldl_putSymbol_of_nodup l [] h

section

variable {table table' : SymbolTable} (h : table.symbols.Perm table'.symbols)
include h

lemma find?_perm (x : String) : table.find? x = table'.find? x := by
  apply find?_eq_of_perm h
  intro s hs t ht hsx htx
  simp only [beq_iff_eq] at hsx htx
  exact List.inj_on_of_nodup_map table.nodup hs ht (hsx.trans htx.symm)

lemma section_perm (category : Category) : (table.section category).Perm (table'.section category) := by
  rw [SymbolTable.section, SymbolTable.section]
  split
  · rfl
  · exact (List.mergeSort_perm _ _).trans ((h.filter _).trans (List.mergeSort_perm _ _).symm)

lemma counts_perm : table.counts = table'.counts := by
  simp only [counts, (section_perm h _).length_eq]

end

end SymbolTable

def Symbol.Clashes (s t : Symbol) : Prop :=
  s.kind.category ∈ DocumentSource.typeSections ++ DocumentSource.flatSections ∧
    s.kind.category = t.kind.category ∧ s.title = t.title

instance (s t : Symbol) : Decidable (s.Clashes t) := inferInstanceAs (Decidable (_ ∧ _ ∧ _))

def TitlesApart (symbols : List Symbol) : Prop := symbols.Pairwise fun s t => ¬ s.Clashes t

instance (symbols : List Symbol) : Decidable (TitlesApart symbols) :=
  inferInstanceAs (Decidable (symbols.Pairwise _))

lemma TitlesApart.eq_of_clashes {symbols : List Symbol} (h : TitlesApart symbols) {s t : Symbol}
    (hs : s ∈ symbols) (ht : t ∈ symbols) (hc : s.Clashes t) : s = t := by
  have symmetric : Std.Symm fun s t : Symbol => ¬ s.Clashes t := by
    refine ⟨fun u v huv hvu => huv ?_⟩
    obtain ⟨hr, hc, ht⟩ := hvu
    exact ⟨hc ▸ hr, hc.symm, ht.symm⟩
  by_contra hne
  exact h.forall hs ht hne hc

lemma TitlesApart.section_eq {table table' : SymbolTable} (h : TitlesApart table.symbols)
    (hp : table.symbols.Perm table'.symbols) (category : Category) (hc : category ≠ .uncategorized) :
    table.section category = table'.section category := by
  rw [SymbolTable.section, SymbolTable.section]
  split
  · rfl
  · next hm =>
    have hr : category ∈ DocumentSource.typeSections ++ DocumentSource.flatSections := by
      cases category <;> simp_all [DocumentSource.typeSections, DocumentSource.flatSections]
    apply mergeSort_eq_of_perm (hp.filter _)
    intro s hs t ht he
    simp only [List.mem_filter, decide_eq_true_eq] at hs ht
    exact h.eq_of_clashes hs.1 ht.1 ⟨hs.2 ▸ hr, hs.2.trans ht.2.symm, he⟩

lemma offeredDoc_perm {secondary secondary' : List Symbol} (h : secondary.Perm secondary')
    (hn : (secondary.map (·.id)).Nodup) (x : String) :
    offeredDoc secondary x = offeredDoc secondary' x := by
  have hp : secondary.reverse.Perm secondary'.reverse :=
    (List.reverse_perm _).trans (h.trans (List.reverse_perm _).symm)
  rw [offeredDoc, offeredDoc, find?_eq_of_perm hp]
  intro s hs t ht hsx htx
  simp only [Bool.and_eq_true, beq_iff_eq] at hsx htx
  rw [List.mem_reverse] at hs ht
  exact List.inj_on_of_nodup_map hn hs ht (hsx.1.trans htx.1.symm)

lemma backfill_perm {secondary secondary' : List Symbol} (h : secondary.Perm secondary')
    (hn : (secondary.map (·.id)).Nodup) :
    Symbol.backfill secondary = Symbol.backfill secondary' ∧
      Symbol.lacksOfferedDoc secondary = Symbol.lacksOfferedDoc secondary' := by
  constructor
  · funext s
    rw [Symbol.backfill, Symbol.backfill, offeredDoc_perm h hn]
  · funext s
    rw [Symbol.lacksOfferedDoc, Symbol.lacksOfferedDoc, offeredDoc_perm h hn]

lemma mem_secondaryOptOuts_perm {secondary secondary' : List Symbol} (h : secondary.Perm secondary')
    (marker x : String) :
    x ∈ secondaryOptOuts secondary marker ↔ x ∈ secondaryOptOuts secondary' marker := by
  simp only [secondaryOptOuts, mem_distinct]
  exact ((h.filter _).map _).mem_iff

/-- The same graphs with the symbols in another order. The ids of the primary and of the secondary
symbols differ among themselves, and so do the titles of each section. -/
structure LoadedGraphs.Reordered (a b : LoadedGraphs) : Prop where
  symbols : a.symbols.Perm b.symbols
  secondary : a.secondary.Perm b.secondary
  relationships : a.relationships = b.relationships
  ids : (a.symbols.map (·.id)).Nodup
  secondaryIds : (a.secondary.map (·.id)).Nodup
  titles : TitlesApart a.symbols

namespace PreparedGraph

lemma symbols_complete {loaded : LoadedGraphs} (h : (loaded.symbols.map (·.id)).Nodup) :
    (complete loaded).symbols = backfillAll loaded.symbols loaded.secondary := by
  apply SymbolTable.symbols_ofList_of_nodup
  simpa only [backfillAll, List.map_map, Function.comp_def, backfill_id] using h

section

variable {a b : LoadedGraphs} (h : a.Reordered b) (headers : List String) (marker : String)
include h

lemma complete_perm : (complete a).symbols.Perm (complete b).symbols := by
  have hb : (b.symbols.map (·.id)).Nodup := (h.symbols.map _).nodup_iff.mp h.ids
  rw [symbols_complete h.ids, symbols_complete hb, backfillAll, backfillAll,
    (backfill_perm h.secondary h.secondaryIds).1]
  exact h.symbols.map _

lemma mem_excluded_perm (x : String) :
    x ∈ (prepare a headers marker).excluded ↔ x ∈ (prepare b headers marker).excluded := by
  rw [excluded_prepare, excluded_prepare, mem_excludedIds, mem_excludedIds]
  have ht : x ∈ (complete a).ids ↔ x ∈ (complete b).ids := ((complete_perm h).map _).mem_iff
  simp only [h.secondary.mem_iff, ht]

lemma table_perm :
    (prepare a headers marker).table.symbols.Perm (prepare b headers marker).table.symbols := by
  have hx : ∀ s : Symbol, (prepare a headers marker).excluded.contains s.id =
      (prepare b headers marker).excluded.contains s.id := by
    intro s
    rw [Bool.eq_iff_iff, List.contains_iff_mem, List.contains_iff_mem]
    exact mem_excluded_perm h headers marker s.id
  simp only [table_prepare, SymbolTable.symbols_without, hx]
  exact (complete_perm h).filter _

lemma titlesApart_table : TitlesApart (prepare a headers marker).table.symbols := by
  have hb : TitlesApart (backfillAll a.symbols a.secondary) := by
    refine List.Pairwise.map _ ?_ h.titles
    intro s t hst
    rw [backfill_eq _ s, backfill_eq _ t]
    exact hst
  rw [table_prepare, SymbolTable.symbols_without, symbols_complete h.ids]
  exact hb.filter _

lemma mem_optedOut_perm (x : String) :
    x ∈ (prepare a headers marker).optedOut ↔ x ∈ (prepare b headers marker).optedOut := by
  rw [mem_optedOut, mem_optedOut, mem_primaryOptOuts, mem_primaryOptOuts,
    mem_secondaryOptOuts_perm h.secondary]
  simp only [(table_perm h headers marker).mem_iff]

lemma index_perm : (prepare a headers marker).index = (prepare b headers marker).index := by
  rw [index_prepare, index_prepare, h.relationships]
  apply RelationIndex.build_congr
  intro x
  rw [List.mem_append, List.mem_append, mem_optedOut_perm h, mem_excluded_perm h]

lemma documentation_perm (options : DocumentOptions) (s : Symbol) :
    (prepare a headers marker).source.documentation options s =
      (prepare b headers marker).source.documentation options s := by
  have hc : (prepare a headers marker).optedOut.contains s.id =
      (prepare b headers marker).optedOut.contains s.id := by
    rw [Bool.eq_iff_iff, List.contains_iff_mem, List.contains_iff_mem]
    exact mem_optedOut_perm h headers marker s.id
  have hu : (prepare a headers marker).source.undocumented options s =
      (prepare b headers marker).source.undocumented options s := by
    simp only [DocumentSource.undocumented, source, hc]
  rw [DocumentSource.documentation, DocumentSource.documentation, hu]

lemma corresponds_perm (options : DocumentOptions) :
    (prepare a headers marker).source.Corresponds (prepare b headers marker).source options id id where
  injective := Function.injective_id
  id _ := rfl
  kind _ := rfl
  title _ := rfl
  declaration _ := rfl
  find x := by
    rw [Option.map_id]
    exact (SymbolTable.find?_perm (table_perm h headers marker) x).symm
  members x := by
    rw [List.map_id]
    exact (congrArg (·.membersOf x) (index_perm h headers marker)).symm
  requirements x := by
    rw [List.map_id]
    exact (congrArg (·.requirementsOf x) (index_perm h headers marker)).symm
  conformances x := by
    rw [List.map_id]
    exact (congrArg (·.conformsTo x) (index_perm h headers marker)).symm
  superclasses x := by
    rw [List.map_id]
    exact (congrArg (·.inheritsFrom x) (index_perm h headers marker)).symm
  sections category hc := by
    rw [List.map_id]
    exact ((titlesApart_table h headers marker).section_eq (table_perm h headers marker) category hc).symm
  documentation s := (documentation_perm h headers marker options s).symm

lemma stats_perm : (prepare a headers marker).stats = (prepare b headers marker).stats := by
  have ht := table_perm h headers marker
  have hx : (prepare a headers marker).excluded.length = (prepare b headers marker).excluded.length :=
    length_eq_of_mem_iff (nodup_distinct _) (nodup_distinct _) (mem_excluded_perm h headers marker)
  have ho : (prepare a headers marker).optedOut.length = (prepare b headers marker).optedOut.length :=
    length_eq_of_mem_iff (nodup_distinct _) (nodup_distinct _) (mem_optedOut_perm h headers marker)
  have hm : backfillCount a.symbols a.secondary = backfillCount b.symbols b.secondary := by
    rw [backfillCount, backfillCount, (backfill_perm h.secondary h.secondaryIds).2]
    exact (h.symbols.filter _).length_eq
  have hs : (prepare a headers marker).merged = (prepare b headers marker).merged := hm
  simp only [stats, SymbolTable.counts_perm ht, SymbolTable.size, ht.length_eq, hs, hx, ho,
    index_perm h headers marker]

end

theorem loadOrder_unseen (a b : LoadedGraphs) (h : a.Reordered b) (headers : List String) (marker : String)
    (options : DocumentOptions) :
    (prepare a headers marker).markdown options = (prepare b headers marker).markdown options ∧
      (prepare a headers marker).stats = (prepare b headers marker).stats :=
  ⟨(corresponds_perm h headers marker options).markdown.symm, stats_perm h headers marker⟩

def unsorted : LoadedGraphs where
  symbols :=
    [⟨"z", .classType, "Z", ["class Z"], none, none⟩, ⟨"a", .classType, "A", ["class A"], none, none⟩,
      ⟨"m", .typeMethod, "Z", ["static func Z()"], none, none⟩]
  relationships := [⟨"m", "a", .memberOf⟩]
  secondary :=
    [⟨"m", .typeMethod, "Z", ["static func Z()"], some ⟨["Makes one."]⟩, none⟩,
      ⟨"z", .classType, "Z", ["class Z"], some ⟨[":nodoc:"]⟩, none⟩]

theorem loadOrder_unseen_unsorted :
    let reversed : LoadedGraphs :=
      ⟨unsorted.symbols.reverse, unsorted.relationships, unsorted.secondary.reverse⟩
    unsorted.Reordered reversed ∧
      (prepare unsorted [] ":nodoc:").markdown (.forModule "Demo") =
        (prepare reversed [] ":nodoc:").markdown (.forModule "Demo") := by
  intro reversed
  have h : unsorted.Reordered reversed := {
    symbols := (List.reverse_perm _).symm
    secondary := (List.reverse_perm _).symm
    relationships := rfl
    ids := by decide
    secondaryIds := by decide
    titles := by decide }
  exact ⟨h, (loadOrder_unseen unsorted reversed h [] ":nodoc:" (.forModule "Demo")).1⟩

end PreparedGraph

end ApiReference
