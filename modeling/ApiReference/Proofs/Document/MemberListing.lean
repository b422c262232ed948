import ApiReference.Document.Reference
import ApiReference.Proofs.Distinct
import ApiReference.Proofs.Document.Catalog
import ApiReference.Proofs.Graph.Table
import ApiReference.Proofs.Sorting
import ApiReference.Proofs.Symbol.Document
import Mathlib.Data.List.SplitBy
import Mathlib.Data.Prod.Lex
import Mathlib.Data.String.Basic

/-! The member listing of a type and the section of the type show the same members. The listing in
order of kind and title, cut where the kind changes, is what stands in the section. -/

namespace ApiReference

/-! ### Kinds that are told apart by their names -/

namespace Kind

def Named (k : Kind) : Prop := ofDisplayName k.displayName = k

lemma displayName_ofDisplayName (name : String) : (ofDisplayName name).displayName = name := by
  unfold ofDisplayName
  split <;> rfl

lemma named_ofDisplayName (name : String) : (ofDisplayName name).Named := by
  rw [Named, displayName_ofDisplayName]

lemma Named.eq_of_displayName {k k' : Kind} (h : k.Named) (h' : k'.Named)
    (he : k.displayName = k'.displayName) : k = k' := by
  rw [← h, he, h']

end Kind

lemma exists_of_mem_mapM {α β : Type} {f : α → Option β} {as : List α} {bs : List β}
    (h : as.mapM f = some bs) : ∀ b ∈ bs, ∃ a, f a = some b := by
  induction as generalizing bs with
  | nil =>
    cases h
    simp
  | cons a as ih =>
    simp only [List.mapM_cons, Option.bind_eq_bind, Option.bind_eq_some_iff, Option.pure_def,
      Option.some.injEq] at h
    obtain ⟨b, hb, bs, hbs, rfl⟩ := h
    intro c hc
    rcases List.mem_cons.mp hc with rfl | hc
    · exact ⟨a, hb⟩
    · exact ih hbs c hc

lemma SymbolGraph.named_kinds {path text : String} {g : SymbolGraph} (h : ofText path text = .ok g) :
    ∀ s ∈ g.symbols, s.kind.Named := by
  rw [ofText_iff] at h
  obtain ⟨v, hv⟩ := reads_symbolGraph.document_sound h
  have hg := (reads_symbolGraph.document_exact hv g).mp h
  simp only [Json.Tree.symbolGraph?, Json.Tree.required, Option.bind_eq_bind, Option.bind_eq_some_iff] at hg
  obtain ⟨field, -, symbols, ⟨list, -, hlist⟩, relationships, -, hg⟩ := hg
  cases hg
  intro s hs
  cases list with
  | list items =>
    obtain ⟨item, hitem⟩ := exists_of_mem_mapM hlist s hs
    simp only [Json.Tree.symbol?, Option.bind_eq_bind, Option.bind_eq_some_iff] at hitem
    obtain ⟨field, -, id, -, kind, -, title, -, fragments, -, doc, -, uri, -, hitem⟩ := hitem
    cases hitem
    exact Kind.named_ofDisplayName kind
  | _ => cases hlist

namespace DocumentSource

/-! ### Groups -/

def kindKey (k : Kind) : ℕ ×ₗ String := toLex (k.memberPriority, k.displayName)

def entryKey (e : Entry) : (ℕ ×ₗ String) ×ₗ String := toLex (kindKey e.1.kind, e.1.title)

lemma kindLe_eq : kindLe = keyLe kindKey := by
  funext a b
  rw [Bool.eq_iff_iff]
  simp [kindLe, keyLe, kindKey, textLe, Prod.Lex.toLex_le_toLex]

lemma kindKey_inj {k k' : Kind} (h : k.Named) (h' : k'.Named) (he : kindKey k = kindKey k') : k = k' := by
  apply h.eq_of_displayName h'
  exact congrArg (fun key => (ofLex key).2) he

lemma mem_kindsOf (es : List Entry) (k : Kind) : k ∈ kindsOf es ↔ ∃ e ∈ es, e.1.kind = k := by
  induction es with
  | nil => simp [kindsOf]
  | cons e es ih =>
    rw [kindsOf, List.mem_cons, List.mem_filter, ih]
    by_cases hk : k = e.1.kind
    · simp [hk]
    · simp [hk, Ne.symm hk]

lemma nodup_kindsOf (es : List Entry) : (kindsOf es).Nodup := by
  induction es with
  | nil => simp [kindsOf]
  | cons e es ih =>
    rw [kindsOf, List.nodup_cons]
    exact ⟨by simp, ih.filter _⟩

def group (es : List Entry) (k : Kind) : List Entry :=
  (es.filter fun e => decide (e.1.kind = k)).mergeSort (keyLe fun e => e.1.title)

def sortedKinds (es : List Entry) : List Kind := (kindsOf es).mergeSort (keyLe kindKey)

lemma groups_eq (es : List Entry) : groups es = (sortedKinds es).map fun k => (k, group es k) := by
  rw [groups, sortedKinds, kindLe_eq, List.map_mergeSort (s := fun a b => keyLe kindKey a.1 b.1) (by intros; rfl)]
  rfl

lemma mem_group (es : List Entry) (k : Kind) (e : Entry) : e ∈ group es k ↔ e ∈ es ∧ e.1.kind = k := by
  rw [group, List.mem_mergeSort, List.mem_filter, decide_eq_true_eq]

lemma mem_sortedKinds (es : List Entry) (k : Kind) : k ∈ sortedKinds es ↔ ∃ e ∈ es, e.1.kind = k := by
  rw [sortedKinds, List.mem_mergeSort, mem_kindsOf]

lemma nodup_sortedKinds (es : List Entry) : (sortedKinds es).Nodup :=
  (List.mergeSort_perm _ _).nodup_iff.mpr (nodup_kindsOf es)

lemma group_ne_nil {es : List Entry} {k : Kind} (hk : k ∈ sortedKinds es) : group es k ≠ [] := by
  obtain ⟨e, he, rfl⟩ := (mem_sortedKinds es k).mp hk
  exact List.ne_nil_of_mem ((mem_group es _ e).mpr ⟨he, rfl⟩)

lemma flatMap_eq_of_nodup {α β : Type} {l : List α} {f : α → List β} {a : α} (hn : l.Nodup) (ha : a ∈ l)
    (hf : ∀ b ∈ l, b ≠ a → f b = []) : l.flatMap f = f a := by
  obtain ⟨before, after, rfl⟩ := List.append_of_mem ha
  have hb : before.flatMap f = [] := by
    rw [List.flatMap_eq_nil_iff]
    intro b hb
    exact hf b (List.mem_append_left _ hb) fun e =>
      (List.nodup_append.mp hn).2.2 b hb a List.mem_cons_self e
  have hc : after.flatMap f = [] := by
    rw [List.flatMap_eq_nil_iff]
    intro b hb
    have hna := (List.nodup_cons.mp (List.nodup_append.mp hn).2.1).1
    exact hf b (List.mem_append_right _ (List.mem_cons_of_mem a hb)) fun e => hna (e ▸ hb)
  rw [List.flatMap_append, List.flatMap_cons, hb, hc, List.nil_append, List.append_nil]

section

variable {es : List Entry} (named : ∀ e ∈ es, e.1.kind.Named)
include named

lemma named_of_sorted {k : Kind} (hk : k ∈ sortedKinds es) : k.Named := by
  obtain ⟨e, he, rfl⟩ := (mem_sortedKinds es k).mp hk
  exact named e he

lemma sortedKinds_strict : (sortedKinds es).Pairwise fun k k' => kindKey k < kindKey k' := by
  have hs := (pairwise_mergeSort kindKey (kindsOf es)).and (nodup_sortedKinds es)
  refine hs.imp_of_mem ?_
  intro k k' hk hk' h
  exact lt_of_le_of_ne h.1 fun e => h.2 (kindKey_inj (named_of_sorted named hk) (named_of_sorted named hk') e)

lemma pairwise_groups :
    ((sortedKinds es).flatMap (group es)).Pairwise fun e e' => entryKey e ≤ entryKey e' := by
  rw [List.pairwise_flatMap]
  constructor
  · intro k _
    refine (pairwise_mergeSort (fun e : Entry => e.1.title) _).imp_of_mem ?_
    intro e e' he he' ht
    rw [entryKey, entryKey, ((mem_group es k e).mp he).2, ((mem_group es k e').mp he').2,
      Prod.Lex.toLex_le_toLex]
    exact Or.inr ⟨rfl, ht⟩
  · refine (sortedKinds_strict named).imp ?_
    intro k k' hk e he e' he'
    rw [entryKey, entryKey, ((mem_group es k e).mp he).2, ((mem_group es k' e').mp he').2,
      Prod.Lex.toLex_le_toLex]
    exact Or.inl hk

lemma entryKey_inj {e e' : Entry} (he : e ∈ es) (he' : e' ∈ es) :
    entryKey e = entryKey e' ↔ e.1.kind = e'.1.kind ∧ e.1.title = e'.1.title := by
  rw [entryKey, entryKey, EmbeddingLike.apply_eq_iff_eq, Prod.mk.injEq]
  exact and_congr_left' ⟨kindKey_inj (named e he) (named e' he'), congrArg kindKey⟩

lemma filter_groups (key : (ℕ ×ₗ String) ×ₗ String) :
    ((sortedKinds es).flatMap (group es)).filter (fun e => decide (entryKey e = key)) =
      es.filter fun e => decide (entryKey e = key) := by
  rw [List.filter_flatMap]
  by_cases hkey : ∃ e ∈ es, entryKey e = key
  · obtain ⟨e, he, rfl⟩ := hkey
    -- only the group of the kind of `e` has entries with this key, and there the title decides
    have hk : e.1.kind ∈ sortedKinds es := (mem_sortedKinds es _).mpr ⟨e, he, rfl⟩
    rw [flatMap_eq_of_nodup (nodup_sortedKinds es) hk]
    · have hg : (group es e.1.kind).filter (fun e' => decide (entryKey e' = entryKey e)) =
          (group es e.1.kind).filter fun e' => decide (e'.1.title = e.1.title) := by
        apply List.filter_congr
        intro e' he'
        obtain ⟨hm, hk'⟩ := (mem_group es _ e').mp he'
        simp only [entryKey_inj named hm he, hk', true_and]
      rw [hg, group, filter_mergeSort, List.filter_filter]
      apply List.filter_congr
      intro e' he'
      simp only [entryKey_inj named he' he, Bool.decide_and, Bool.and_comm]
    · intro k _ hne
      rw [List.filter_eq_nil_iff]
      intro e' he'
      obtain ⟨hm, rfl⟩ := (mem_group es _ e').mp he'
      simp only [decide_eq_true_eq, entryKey_inj named hm he]
      exact fun h => hne h.1
  · have hnone : ∀ e ∈ es, ¬ decide (entryKey e = key) = true := by
      intro e he
      simpa using fun h => hkey ⟨e, he, h⟩
    rw [List.filter_eq_nil_iff.mpr hnone, List.flatMap_eq_nil_iff]
    intro k _
    rw [List.filter_eq_nil_iff]
    exact fun e he => hnone e ((mem_group es k e).mp he).1

lemma flatMap_groups : (sortedKinds es).flatMap (group es) = es.mergeSort (keyLe entryKey) :=
  eq_mergeSort entryKey (pairwise_groups named) (filter_groups named)

end

end DocumentSource

/-! ### Rows -/

namespace MemberRow

def key (row : MemberRow) : (ℕ ×ₗ String) ×ₗ String :=
  toLex (toLex ((Kind.ofDisplayName row.kind).memberPriority, row.kind), row.title)

def attribution (row : MemberRow) : String :=
  match row.source with
  | some source => " *(from " ++ source ++ ")*"
  | none => ""

def sameKind (a b : MemberRow) : Bool := a.kind == b.kind

end MemberRow

namespace PreparedGraph

variable (p : PreparedGraph) (options : DocumentOptions)

def documentationOf (id : String) : String :=
  ((p.table.find? id).map (p.source.documentation options)).getD ""

def rowEntry (row : MemberRow) : List String :=
  ["#### `" ++ row.title ++ "`" ++ row.attribution ++ "\n",
    "```" ++ options.fence ++ "\n" ++ row.declaration ++ "\n```\n", p.documentationOf options row.id]

def rowGroup (run : List MemberRow) : List String :=
  (run.head?.map fun row => "### " ++ (Kind.ofDisplayName row.kind).plural ++ "\n").toList ++
    run.flatMap (p.rowEntry options) ++ [""]

def typeFront (s : Symbol) : List String :=
  ["## " ++ s.title ++ "\n", DocumentSource.declaration options s, p.source.documentation options s] ++
    DocumentSource.titleLine "Conforms to" (p.hierarchy.conformanceTitles s.id) ++
    DocumentSource.titleLine "Inherits from" (p.hierarchy.superclassTitles s.id)

def rowOf (e : DocumentSource.Entry) : MemberRow where
  id := e.2.id
  title := e.1.title
  kind := e.1.kind.displayName
  declaration := e.1.declaration
  inherited := e.2.inherited
  source := if e.2.inherited then (p.table.find? e.2.declaredIn).map (·.title) else none

lemma rows_eq (members : List Member) :
    members.filterMap p.memberRow? = (p.source.entries members).map p.rowOf := by
  rw [DocumentSource.entries, List.map_filterMap]
  congr 1
  funext m
  rw [memberRow?, Option.map_map]
  rfl

lemma attribution_rowOf (e : DocumentSource.Entry) :
    (p.rowOf e).attribution = p.source.attribution e.2 := by
  rw [MemberRow.attribution, DocumentSource.attribution, rowOf]
  cases e.2.inherited with
  | false => rfl
  | true =>
    have hs : p.source.table = p.table := rfl
    rw [hs]
    cases p.table.find? e.2.declaredIn <;> rfl

lemma find?_of_mem_entries {members : List Member} {e : DocumentSource.Entry}
    (he : e ∈ p.source.entries members) : p.table.find? e.2.id = some e.1 := by
  obtain ⟨m, -, hm⟩ := List.mem_filterMap.mp he
  obtain ⟨s, hs, rfl⟩ := Option.map_eq_some_iff.mp hm
  exact hs

lemma rowEntry_rowOf {members : List Member} {e : DocumentSource.Entry}
    (he : e ∈ p.source.entries members) :
    p.rowEntry options (p.rowOf e) = p.source.memberEntry options e := by
  have hd : p.documentationOf options (p.rowOf e).id = p.source.documentation options e.1 := by
    rw [documentationOf, rowOf, p.find?_of_mem_entries he]
    rfl
  rw [rowEntry, attribution_rowOf, hd]
  rfl

lemma kind_of_mem_group {es : List DocumentSource.Entry} {k : Kind} {row : MemberRow}
    (h : row ∈ (DocumentSource.group es k).map p.rowOf) : row.kind = k.displayName := by
  obtain ⟨e, he, rfl⟩ := List.mem_map.mp h
  rw [← ((DocumentSource.mem_group es k e).mp he).2]
  rfl

section

variable {es : List DocumentSource.Entry} (named : ∀ e ∈ es, e.1.kind.Named)
include named

lemma key_rowOf {e : DocumentSource.Entry} (he : e ∈ es) :
    (p.rowOf e).key = DocumentSource.entryKey e := by
  have hk : Kind.ofDisplayName (p.rowOf e).kind = e.1.kind := named e he
  rw [MemberRow.key, hk]
  rfl

lemma sorted_rows :
    (es.map p.rowOf).mergeSort (keyLe MemberRow.key) =
      ((DocumentSource.sortedKinds es).map fun k => (DocumentSource.group es k).map p.rowOf).flatten := by
  have hs : (es.map p.rowOf).mergeSort (keyLe MemberRow.key) =
      (es.mergeSort (keyLe DocumentSource.entryKey)).map p.rowOf := by
    refine (List.map_mergeSort ?_).symm
    intro a ha b hb
    rw [keyLe, keyLe, p.key_rowOf named ha, p.key_rowOf named hb]
  rw [hs, ← DocumentSource.flatMap_groups named, List.map_flatMap, List.flatMap_def]

lemma runs_eq :
    ((es.map p.rowOf).mergeSort (keyLe MemberRow.key)).splitBy MemberRow.sameKind =
      (DocumentSource.sortedKinds es).map fun k => (DocumentSource.group es k).map p.rowOf := by
  rw [p.sorted_rows named]
  apply List.splitBy_flatten
  · intro h
    obtain ⟨k, hk, he⟩ := List.mem_map.mp h
    exact DocumentSource.group_ne_nil hk (List.map_eq_nil_iff.mp he)
  · intro run hrun
    obtain ⟨k, -, rfl⟩ := List.mem_map.mp hrun
    apply List.Pairwise.isChain
    apply List.pairwise_of_forall_mem_list
    intro a ha b hb
    rw [MemberRow.sameKind, p.kind_of_mem_group ha, p.kind_of_mem_group hb, beq_self_eq_true]
  · rw [List.isChain_map]
    apply List.Pairwise.isChain
    refine (DocumentSource.nodup_sortedKinds es).imp_of_mem ?_
    intro k k' hk hk' hne
    have hl := DocumentSource.group_ne_nil hk
    have hr := DocumentSource.group_ne_nil hk'
    refine ⟨by simpa using hl, by simpa using hr, ?_⟩
    rw [MemberRow.sameKind, p.kind_of_mem_group (List.getLast_mem _), p.kind_of_mem_group (List.head_mem _),
      beq_eq_false_iff_ne]
    exact fun he => hne ((DocumentSource.named_of_sorted named hk).eq_of_displayName
      (DocumentSource.named_of_sorted named hk') he)

end

lemma rowGroup_eq {members : List Member} (named : ∀ e ∈ p.source.entries members, e.1.kind.Named)
    {k : Kind} (hk : k ∈ DocumentSource.sortedKinds (p.source.entries members)) :
    p.rowGroup options ((DocumentSource.group (p.source.entries members) k).map p.rowOf) =
      p.source.memberGroup options (k, DocumentSource.group (p.source.entries members) k) := by
  have hentries : ((DocumentSource.group (p.source.entries members) k).map p.rowOf).flatMap
        (p.rowEntry options) =
      (DocumentSource.group (p.source.entries members) k).flatMap (p.source.memberEntry options) := by
    rw [List.flatMap_map]
    apply List.flatMap_congr
    intro e he
    exact p.rowEntry_rowOf options ((DocumentSource.mem_group _ k e).mp he).1
  rw [rowGroup, hentries, DocumentSource.memberGroup]
  cases hg : DocumentSource.group (p.source.entries members) k with
  | nil => exact absurd hg (DocumentSource.group_ne_nil hk)
  | cons e group =>
    have he : e ∈ DocumentSource.group (p.source.entries members) k := by rw [hg]; exact List.mem_cons_self
    have hkind : Kind.ofDisplayName (p.rowOf e).kind = k := by
      rw [p.kind_of_mem_group (List.mem_map_of_mem he)]
      exact DocumentSource.named_of_sorted named hk
    rw [List.map_cons, List.head?_cons, Option.map_some, hkind]
    rfl

lemma memberGroups_eq {members : List Member} (named : ∀ e ∈ p.source.entries members, e.1.kind.Named) :
    (DocumentSource.groups (p.source.entries members)).flatMap (p.source.memberGroup options) =
      (((members.filterMap p.memberRow?).mergeSort (keyLe MemberRow.key)).splitBy
        MemberRow.sameKind).flatMap (p.rowGroup options) := by
  rw [p.rows_eq, p.runs_eq named, DocumentSource.groups_eq, List.flatMap_map, List.flatMap_map]
  apply List.flatMap_congr
  intro k hk
  exact (p.rowGroup_eq options named hk).symm

end PreparedGraph

/-! ### The section of a type -/

lemma DocumentSource.typeEntry_infix (d : DocumentSource) (options : DocumentOptions) {s : Symbol}
    (hs : s ∈ d.table.symbols) (hc : s.kind.category ∈ typeSections) :
    d.typeEntry options s <:+: d.typeSection options s.kind.category ∧
      d.typeSection options s.kind.category <:+: d.blocks options := by
  have hm : s.kind.category ≠ .member := by
    intro h
    rw [h] at hc
    revert hc
    decide
  constructor
  · have hmem := (d.table.mem_section hm s).mpr ⟨hs, rfl⟩
    rw [typeSection]
    cases hsec : d.table.section s.kind.category with
    | nil =>
      rw [hsec] at hmem
      cases hmem
    | cons t symbols =>
      rw [hsec] at hmem
      exact (List.infix_of_mem_flatten (List.mem_map_of_mem hmem)).trans (List.suffix_append _ _).isInfix
  · have hi := List.infix_of_mem_flatten (List.mem_map_of_mem (f := d.typeSection options) hc)
    rw [← List.flatMap_def] at hi
    rw [blocks]
    exact hi.trans ((List.suffix_append _ _).isInfix.trans (List.prefix_append _ _).isInfix)

namespace PreparedGraph

lemma named_kinds_table {primary : List SymbolGraph} (secondary : SymbolGraph) (headers : List String)
    (marker : String) (parsed : ∀ g ∈ primary, ∃ path text, SymbolGraph.ofText path text = .ok g) {s : Symbol}
    (hs : s ∈ (prepare (.ofGraphs primary secondary) headers marker).table.symbols) : s.kind.Named := by
  have hf := (SymbolTable.find?_eq_some _ s.id s).mpr ⟨hs, rfl⟩
  rw [table_prepare, SymbolTable.find?_without, find?_complete] at hf
  obtain ⟨-, -, t, ⟨before, after, he, -⟩, rfl⟩ := hf
  have ht : t ∈ (LoadedGraphs.ofGraphs primary secondary).symbols := by
    rw [he]
    exact List.mem_append_right before List.mem_cons_self
  obtain ⟨g, hg, ht⟩ := List.mem_flatMap.mp ht
  obtain ⟨path, text, hp⟩ := parsed g hg
  rw [backfill_eq]
  exact SymbolGraph.named_kinds hp t ht

/-- The rows of the listing in order of kind and title, one heading before each run of one kind, are the
members that the section of the type shows. -/
theorem memberRows_match_section (primary : List SymbolGraph) (secondary : SymbolGraph)
    (headers : List String) (marker : String) (options : DocumentOptions)
    (parsed : ∀ g ∈ primary, ∃ path text, SymbolGraph.ofText path text = .ok g) (s : Symbol) :
    let p := prepare (.ofGraphs primary secondary) headers marker
    s ∈ p.table.symbols → s.kind.category ∈ DocumentSource.typeSections →
      ∃ rows, p.memberRows s.id = some (s.title ++ " (" ++ s.kind.displayName ++ ")", rows) ∧
        p.source.typeEntry options s = p.typeFront options s ++
          ((rows.mergeSort (keyLe MemberRow.key)).splitBy MemberRow.sameKind).flatMap (p.rowGroup options) ++
          ["---\n"] ∧
        p.source.typeEntry options s <:+: p.source.typeSection options s.kind.category ∧
        p.source.typeSection options s.kind.category <:+: p.source.blocks options := by
  intro p hs hc
  have hf : p.table.find? s.id = some s := (p.table.find?_eq_some s.id s).mpr ⟨hs, rfl⟩
  have named : ∀ e ∈ p.source.entries (p.hierarchy.membersOf s.id), e.1.kind.Named := by
    intro e he
    have ht := (p.table.find?_eq_some _ _).mp (p.find?_of_mem_entries he)
    exact named_kinds_table secondary headers marker parsed ht.1
  refine ⟨(p.membersOf s.id).filterMap p.memberRow?, ?_, ?_, p.source.typeEntry_infix options hs hc⟩
  · rw [memberRows, PreparedGraph.find?, hf]
    rfl
  · rw [DocumentSource.typeEntry, membersOf, ← p.memberGroups_eq options named]
    rfl

def widgets : SymbolGraph where
  symbols :=
    [⟨"c", .classType, "C", [], none, none⟩, ⟨"p", .protocol, "P", [], none, none⟩,
      ⟨"w", .other "Widget", "w", ["v"], none, none⟩, ⟨"i", .initializer, "z", [], none, none⟩]
  relationships := [⟨"w", "c", .memberOf⟩, ⟨"c", "p", .conformsTo⟩, ⟨"i", "p", .requirementOf⟩]

def widgetChars : List Char :=
  ['[', '[', '[', '[', '"', 'c', '"', ']', ',', '[', '"', 'C', 'l', 'a', 's', 's', '"', ']', ',', '[',
    '"', 'C', '"', ']', ']', ',', '[', '[', '"', 'p', '"', ']', ',', '[', '"', 'P', 'r', 'o', 't', 'o',
    'c', 'o', 'l', '"', ']', ',', '[', '"', 'P', '"', ']', ']', ',', '[', '[', '"', 'w', '"', ']', ',',
    '[', '"', 'W', 'i', 'd', 'g', 'e', 't', '"', ']', ',', '[', '"', 'w', '"', ']', ',', '[', '[', '"',
    'v', '"', ']', ']', ']', ',', '[', '[', '"', 'i', '"', ']', ',', '[', '"', 'I', 'n', 'i', 't', 'i',
    'a', 'l', 'i', 'z', 'e', 'r', '"', ']', ',', '[', '"', 'z', '"', ']', ']', ']', ',', '[', '[', '"',
    'w', '"', ',', '"', 'c', '"', ',', '"', 'm', 'e', 'm', 'b', 'e', 'r', 'O', 'f', '"', ']', ',', '[',
    '"', 'c', '"', ',', '"', 'p', '"', ',', '"', 'c', 'o', 'n', 'f', 'o', 'r', 'm', 's', 'T', 'o', '"',
    ']', ',', '[', '"', 'i', '"', ',', '"', 'p', '"', ',', '"', 'r', 'e', 'q', 'u', 'i', 'r', 'e', 'm',
    'e', 'n', 't', 'O', 'f', '"', ']', ']', ']']

lemma widgets_parsed : SymbolGraph.ofText "a.json" (String.ofList widgetChars) = .ok widgets := by
  rw [SymbolGraph.ofText_iff, readDocument_iff]
  refine ⟨[], ?_, Json.blank_nil⟩
  rw [← toOption_eq_some, String.toList_ofList]
  decide +kernel

theorem memberRows_match_section_widgets :
    let p := prepare (.ofGraphs [widgets] ⟨[], []⟩) [] ":nodoc:"
    let c : Symbol := ⟨"c", .classType, "C", [], none, none⟩
    let rows : List MemberRow :=
      [⟨"w", "w", "Widget", "v", false, none⟩, ⟨"i", "z", "Initializer", "", true, some "P"⟩]
    p.memberRows "c" = some ("C (Class)", rows) ∧
      p.source.typeEntry (.forModule "Demo") c = p.typeFront (.forModule "Demo") c ++
        ((rows.mergeSort (keyLe MemberRow.key)).splitBy MemberRow.sameKind).flatMap
          (p.rowGroup (.forModule "Demo")) ++ ["---\n"] := by
  intro p c rows
  have parsed : ∀ g ∈ [widgets], ∃ path text, SymbolGraph.ofText path text = .ok g := by
    intro g hg
    rw [List.mem_singleton.mp hg]
    exact ⟨"a.json", String.ofList widgetChars, widgets_parsed⟩
  have hrows : p.memberRows "c" = some ("C (Class)", rows) := by decide
  obtain ⟨rows', hr, he, -⟩ := memberRows_match_section [widgets] ⟨[], []⟩ [] ":nodoc:" (.forModule "Demo")
    parsed c (by decide) (by decide)
  have hh := hrows.symm.trans hr
  simp only [Option.some.injEq, Prod.mk.injEq] at hh
  rw [← hh.2] at he
  exact ⟨hrows, he⟩

end PreparedGraph

end ApiReference
