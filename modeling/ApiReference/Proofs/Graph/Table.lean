import ApiReference.Document.Reference
import ApiReference.Proofs.Graph.Prepared
import Mathlib.Data.Finset.Dedup

/-! The prepared table: every id that the primary graphs have and that is not excluded, in the order
of first occurrence, with the last symbol of that id. The numbers of a run account for every id. -/

namespace ApiReference

lemma find?_putSymbol (s : Symbol) (ts : List Symbol) (x : String) :
    (putSymbol s ts).find? (·.id == x) = if s.id = x then some s else ts.find? (·.id == x) := by
  induction ts with
  | nil =>
    by_cases hx : s.id = x <;> simp [putSymbol, hx]
  | cons t ts ih =>
    rw [putSymbol]
    by_cases ht : t.id = s.id
    · rw [if_pos ht]
      by_cases hx : s.id = x <;> simp [ht, hx]
    · rw [if_neg ht]
      by_cases hx : t.id = x
      · have hs : ¬ s.id = x := fun e => ht (hx.trans e.symm)
        simp [hx, hs]
      · rw [List.find?_cons_of_neg (by simpa using hx), ih, List.find?_cons_of_neg (by simpa using hx)]

lemma ids_foldl_putSymbol (l ts : List Symbol) :
    (l.foldl (fun ts s => putSymbol s ts) ts).map (·.id) =
      ts.map (·.id) ++ distinctOn (fun id => id) (ts.map (·.id)) (l.map (·.id)) := by
  induction l generalizing ts with
  | nil => simp [distinctOn]
  | cons s l ih =>
    rw [List.foldl_cons, ih, ids_putSymbol, List.map_cons, distinctOn]
    by_cases hs : s.id ∈ ts.map (·.id)
    · rw [if_pos hs, if_pos hs]
    · have hseen : distinctOn (fun id => id) (ts.map (·.id) ++ [s.id]) (l.map (·.id)) =
          distinctOn (fun id => id) (s.id :: ts.map (·.id)) (l.map (·.id)) := by
        apply distinctOn_congr
        intro x _
        rw [List.mem_append, List.mem_singleton, List.mem_cons, or_comm]
      rw [if_neg hs, if_neg hs, hseen, List.append_assoc, List.singleton_append]

def Symbol.IsLastIn (s : Symbol) (symbols : List Symbol) : Prop :=
  ∃ before after, symbols = before ++ s :: after ∧ s.id ∉ after.map (·.id)

lemma Symbol.isLastIn_concat (s t : Symbol) (l : List Symbol) :
    s.IsLastIn (l ++ [t]) ↔ s = t ∨ s.id ≠ t.id ∧ s.IsLastIn l := by
  constructor
  · rintro ⟨before, after, he, hn⟩
    rcases List.eq_nil_or_concat after with rfl | ⟨after, u, rfl⟩
    · have ht := List.append_inj_right' he rfl
      simp only [List.cons.injEq, and_true] at ht
      exact Or.inl ht.symm
    · rw [List.concat_eq_append] at he hn
      rw [← List.cons_append, ← List.append_assoc] at he
      obtain ⟨rfl, hu⟩ := List.append_inj' he rfl
      simp only [List.cons.injEq, and_true] at hu
      subst hu
      rw [List.map_append, List.mem_append, not_or] at hn
      exact Or.inr ⟨by simpa using hn.2, before, after, rfl, hn.1⟩
  · rintro (rfl | ⟨hne, before, after, rfl, hn⟩)
    · exact ⟨l, [], rfl, by simp⟩
    · refine ⟨before, after ++ [t], by simp, ?_⟩
      rw [List.map_append, List.mem_append, not_or]
      exact ⟨hn, by simpa using hne⟩

lemma Symbol.isLastIn_map {φ : Symbol → Symbol} (hφ : ∀ s, (φ s).id = s.id) (s : Symbol)
    (l : List Symbol) : s.IsLastIn (l.map φ) ↔ ∃ t, t.IsLastIn l ∧ s = φ t := by
  have hids : ∀ l : List Symbol, (l.map φ).map (·.id) = l.map (·.id) := by
    intro l
    simp only [List.map_map, Function.comp_def, hφ]
  constructor
  · rintro ⟨before, after, he, hn⟩
    obtain ⟨before, rest, rfl, rfl, hr⟩ := List.map_eq_append_iff.mp he
    obtain ⟨t, after, rfl, rfl, rfl⟩ := List.map_eq_cons_iff.mp hr
    rw [hids, hφ] at hn
    exact ⟨t, ⟨before, after, rfl, hn⟩, rfl⟩
  · rintro ⟨t, ⟨before, after, rfl, hn⟩, rfl⟩
    refine ⟨before.map φ, after.map φ, by simp, ?_⟩
    rwa [hids, hφ]

namespace SymbolTable

lemma ids_ofList (l : List Symbol) : (ofList l).ids = distinct (l.map (·.id)) := by
  rw [ids, symbols_ofList, ids_foldl_putSymbol]
  rfl

lemma find?_insert (table : SymbolTable) (s : Symbol) (x : String) :
    (table.insert s).find? x = if s.id = x then some s else table.find? x :=
  find?_putSymbol s table.symbols x

lemma ofList_concat (l : List Symbol) (s : Symbol) : ofList (l ++ [s]) = (ofList l).insert s := by
  rw [ofList, List.foldl_append]
  rfl

lemma find?_ofList (l : List Symbol) (x : String) (s : Symbol) :
    (ofList l).find? x = some s ↔ s.id = x ∧ s.IsLastIn l := by
  induction l using List.reverseRecOn with
  | nil =>
    constructor
    · intro h
      cases h
    · rintro ⟨-, before, after, he, -⟩
      simp at he
  | append_singleton l t ih =>
    rw [ofList_concat, find?_insert, Symbol.isLastIn_concat]
    by_cases ht : t.id = x
    · rw [if_pos ht]
      constructor
      · rintro ⟨⟩
        exact ⟨ht, Or.inl rfl⟩
      · rintro ⟨hs, rfl | ⟨hne, -⟩⟩
        · rfl
        · exact absurd (hs.trans ht.symm) hne
    · rw [if_neg ht, ih]
      constructor
      · rintro ⟨hs, hl⟩
        exact ⟨hs, Or.inr ⟨fun e => ht (e ▸ hs), hl⟩⟩
      · rintro ⟨hs, rfl | ⟨-, hl⟩⟩
        · exact absurd hs ht
        · exact ⟨hs, hl⟩

lemma find?_eq_some (table : SymbolTable) (x : String) (s : Symbol) :
    table.find? x = some s ↔ s ∈ table.symbols ∧ s.id = x := by
  constructor
  · intro h
    exact ⟨List.mem_of_find?_eq_some h, id_of_find? h⟩
  · rintro ⟨hs, rfl⟩
    have hc : table.contains s.id = true := (contains_iff table s.id).mpr (List.mem_map_of_mem hs)
    obtain ⟨t, ht⟩ := Option.isSome_iff_exists.mp hc
    have he : t = s :=
      List.inj_on_of_nodup_map table.nodup (List.mem_of_find?_eq_some ht) hs (id_of_find? ht)
    rw [ht, he]

lemma find?_without (table : SymbolTable) (hidden : List String) (x : String) (s : Symbol) :
    (table.without hidden).find? x = some s ↔ x ∉ hidden ∧ table.find? x = some s := by
  rw [find?_eq_some, find?_eq_some, symbols_without, List.mem_filter]
  constructor
  · rintro ⟨⟨hs, hn⟩, rfl⟩
    exact ⟨by simpa using hn, hs, rfl⟩
  · rintro ⟨hn, hs, rfl⟩
    exact ⟨⟨hs, by simpa using hn⟩, rfl⟩

lemma ids_without (table : SymbolTable) (hidden : List String) :
    (table.without hidden).ids = table.ids.filter fun x => !hidden.contains x := by
  rw [ids, ids, symbols_without, List.filter_map]
  rfl

def erase (table : SymbolTable) (id : String) : SymbolTable :=
  ⟨table.symbols.eraseP (·.id == id), table.nodup.sublist (List.eraseP_sublist.map _)⟩

lemma symbols_erase (table : SymbolTable) (id : String) :
    (table.erase id).symbols = table.symbols.eraseP (·.id == id) := rfl

lemma eraseP_eq_filter {l : List Symbol} (h : (l.map (·.id)).Nodup) (x : String) :
    l.eraseP (·.id == x) = l.filter fun s => !(s.id == x) := by
  induction l with
  | nil => rfl
  | cons s l ih =>
    rw [List.map_cons, List.nodup_cons] at h
    by_cases hs : s.id = x
    · have hl : ∀ t ∈ l, (!(t.id == x)) = true := by
        intro t ht
        have hne : t.id ≠ x := fun e => h.1 (hs ▸ e ▸ List.mem_map_of_mem ht)
        simpa using hne
      rw [List.eraseP_cons_of_pos (by simpa using hs), List.filter_cons_of_neg (by simpa using hs),
        List.filter_eq_self.mpr hl]
    · rw [List.eraseP_cons_of_neg (by simpa using hs), List.filter_cons_of_pos (by simpa using hs), ih h.2]

lemma erase_eq_without (table : SymbolTable) (id : String) : table.erase id = table.without [id] := by
  apply eq_of_symbols
  rw [symbols_erase, eraseP_eq_filter table.nodup, symbols_without]
  simp only [List.contains_cons, List.contains_nil, Bool.or_false]

lemma foldl_erase (table : SymbolTable) (ids : List String) :
    ids.foldl erase table = table.without ids := by
  induction ids generalizing table with
  | nil => rw [List.foldl_nil, without_nil]
  | cons x ids ih =>
    rw [List.foldl_cons, ih, erase_eq_without]
    apply eq_of_symbols
    simp only [symbols_without, List.filter_filter, List.contains_cons, List.contains_nil, Bool.or_false,
      Bool.not_or, Bool.and_comm]

lemma without_congr (table : SymbolTable) {hidden hidden' : List String}
    (h : ∀ x, x ∈ hidden ↔ x ∈ hidden') : table.without hidden = table.without hidden' := by
  apply eq_of_symbols
  simp only [symbols_without, List.contains_eq_mem, h]

end SymbolTable

namespace PreparedGraph

section

variable (loaded : LoadedGraphs) (headers : List String) (marker : String)

lemma ids_complete : (complete loaded).ids = distinct (loaded.symbols.map (·.id)) := by
  rw [complete, SymbolTable.ids_ofList, backfillAll, List.map_map]
  simp only [Function.comp_def, backfill_id]

lemma find?_complete (x : String) (s : Symbol) :
    (complete loaded).find? x = some s ↔
      s.id = x ∧ ∃ t : Symbol, t.IsLastIn loaded.symbols ∧ s = t.backfill loaded.secondary := by
  rw [complete, SymbolTable.find?_ofList, backfillAll, Symbol.isLastIn_map (backfill_id loaded.secondary)]

lemma size_add_excluded :
    (prepare loaded headers marker).table.size + (prepare loaded headers marker).excluded.length =
      (complete loaded).ids.length := by
  have hn : (prepare loaded headers marker).excluded.Nodup := nodup_distinct _
  have hx : ((complete loaded).ids.filter fun x =>
      (prepare loaded headers marker).excluded.contains x).Perm (prepare loaded headers marker).excluded := by
    refine (List.perm_ext_iff_of_nodup ((complete loaded).nodup.filter _) hn).mpr fun x => ?_
    rw [List.mem_filter, List.contains_iff_mem, excluded_prepare, mem_excludedIds]
    exact ⟨fun h => h.2, fun h => ⟨h.2, h⟩⟩
  have hs : (prepare loaded headers marker).table.size = ((complete loaded).ids.filter fun x =>
      !(prepare loaded headers marker).excluded.contains x).length := by
    rw [← SymbolTable.ids_without, ← table_prepare, SymbolTable.ids, List.length_map, SymbolTable.size]
  rw [hs, ← hx.length_eq, Nat.add_comm]
  exact (List.length_eq_length_filter_add _).symm

end

/-- The table holds the ids that are not excluded, by first occurrence, each with its last symbol. The
excluded ones can be taken out in any order. -/
theorem table_exact (loaded : LoadedGraphs) (headers : List String) (marker : String) :
    let p := prepare loaded headers marker
    p.table.ids = (distinct (loaded.symbols.map (·.id))).filter (fun x => !p.excluded.contains x) ∧
      (∀ k s, p.table.find? k = some s ↔ k ∉ p.excluded ∧ s.id = k ∧
        ∃ t : Symbol, t.IsLastIn loaded.symbols ∧ s = t.backfill loaded.secondary) ∧
      (∀ order : List String, (∀ x, x ∈ order ↔ x ∈ p.excluded) →
        order.foldl SymbolTable.erase (.ofList (backfillAll loaded.symbols loaded.secondary)) = p.table) ∧
      p.stats.totalSymbols + p.stats.excludedSymbols = (loaded.symbols.map (·.id)).toFinset.card := by
  intro p
  refine ⟨?_, ?_, ?_, ?_⟩
  · rw [table_prepare, SymbolTable.ids_without, ids_complete]
  · intro k s
    rw [table_prepare, SymbolTable.find?_without, find?_complete]
  · intro order ho
    rw [SymbolTable.foldl_erase, SymbolTable.without_congr _ ho]
    rfl
  · have hd : (loaded.symbols.map (·.id)).toFinset = (distinct (loaded.symbols.map (·.id))).toFinset := by
      ext x
      simp
    rw [hd, List.toFinset_card_of_nodup (nodup_distinct _), ← ids_complete]
    exact size_add_excluded loaded headers marker

end PreparedGraph

end ApiReference
