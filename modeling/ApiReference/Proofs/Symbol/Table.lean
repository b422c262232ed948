import ApiReference.Symbol.Table
import Mathlib.Data.List.Basic
import Mathlib.Tactic

/-! Lookup in a symbol table, and how filling a table commutes with leaving out ids and with
changing the symbols one by one. -/

namespace ApiReference

lemma filter_putSymbol (keep : String → Bool) (s : Symbol) (ts : List Symbol) :
    (putSymbol s ts).filter (fun t => keep t.id) =
      if keep s.id then putSymbol s (ts.filter fun t => keep t.id)
      else ts.filter fun t => keep t.id := by
  induction ts with
  | nil => cases hk : keep s.id <;> simp [putSymbol, hk]
  | cons t ts ih =>
    rw [putSymbol]
    by_cases h : t.id = s.id
    · rw [if_pos h, List.filter_cons, List.filter_cons, h]
      cases hk : keep s.id <;> simp [putSymbol, h]
    · rw [if_neg h, List.filter_cons, List.filter_cons, ih]
      cases hk : keep s.id <;> cases ht : keep t.id <;> simp [putSymbol, h]

lemma map_putSymbol (φ : Symbol → Symbol) (ρ : String → String) (hρ : Function.Injective ρ)
    (hφ : ∀ s, (φ s).id = ρ s.id) (s : Symbol) (ts : List Symbol) :
    (putSymbol s ts).map φ = putSymbol (φ s) (ts.map φ) := by
  induction ts with
  | nil => rfl
  | cons t ts ih =>
    have ht : (φ t).id = (φ s).id ↔ t.id = s.id := by rw [hφ, hφ, hρ.eq_iff]
    rw [putSymbol, List.map_cons, putSymbol]
    by_cases h : t.id = s.id
    · rw [if_pos h, if_pos (ht.mpr h), List.map_cons]
    · rw [if_neg h, if_neg (fun h' => h (ht.mp h')), List.map_cons, ih]

namespace SymbolTable

lemma eq_of_symbols {t u : SymbolTable} (h : t.symbols = u.symbols) : t = u := by
  cases t
  cases u
  cases h
  rfl

lemma foldl_insert (l : List Symbol) (t : SymbolTable) :
    (l.foldl insert t).symbols = l.foldl (fun ts s => putSymbol s ts) t.symbols := by
  induction l generalizing t with
  | nil => rfl
  | cons s l ih => exact ih (t.insert s)

lemma symbols_ofList (l : List Symbol) :
    (ofList l).symbols = l.foldl (fun ts s => putSymbol s ts) [] :=
  foldl_insert l empty

lemma foldl_putSymbol_filter (keep : String → Bool) (l ts : List Symbol) :
    (l.filter fun s => keep s.id).foldl (fun ts s => putSymbol s ts) (ts.filter fun s => keep s.id) =
      (l.foldl (fun ts s => putSymbol s ts) ts).filter fun s => keep s.id := by
  induction l generalizing ts with
  | nil => rfl
  | cons s l ih =>
    rw [List.foldl_cons, ← ih, filter_putSymbol]
    cases hk : keep s.id <;> simp [hk]

lemma symbols_without (table : SymbolTable) (hidden : List String) :
    (table.without hidden).symbols = table.symbols.filter fun s => !hidden.contains s.id := rfl

lemma without_nil (table : SymbolTable) : table.without [] = table := by
  apply eq_of_symbols
  simp [symbols_without]

lemma ofList_filter (l : List Symbol) (hidden : List String) :
    ofList (l.filter fun s => !hidden.contains s.id) = (ofList l).without hidden := by
  apply eq_of_symbols
  rw [symbols_without, symbols_ofList, symbols_ofList]
  exact foldl_putSymbol_filter (fun x => !hidden.contains x) l []

lemma foldl_putSymbol_map (φ : Symbol → Symbol) (ρ : String → String) (hρ : Function.Injective ρ)
    (hφ : ∀ s, (φ s).id = ρ s.id) (l ts : List Symbol) :
    (l.map φ).foldl (fun ts s => putSymbol s ts) (ts.map φ) =
      (l.foldl (fun ts s => putSymbol s ts) ts).map φ := by
  induction l generalizing ts with
  | nil => rfl
  | cons s l ih => rw [List.map_cons, List.foldl_cons, List.foldl_cons, ← ih, map_putSymbol φ ρ hρ hφ]

lemma symbols_ofList_map (φ : Symbol → Symbol) (ρ : String → String) (hρ : Function.Injective ρ)
    (hφ : ∀ s, (φ s).id = ρ s.id) (l : List Symbol) :
    (ofList (l.map φ)).symbols = (ofList l).symbols.map φ := by
  rw [symbols_ofList, symbols_ofList]
  exact foldl_putSymbol_map φ ρ hρ hφ l []

lemma id_of_find? {table : SymbolTable} {x : String} {s : Symbol} (h : table.find? x = some s) :
    s.id = x := by
  simpa using List.find?_some h

lemma contains_iff (table : SymbolTable) (x : String) :
    table.contains x = true ↔ x ∈ table.ids := by
  simp [contains, find?, ids, List.find?_isSome]

lemma find?_eq_none (table : SymbolTable) (x : String) : table.find? x = none ↔ x ∉ table.ids := by
  rw [← contains_iff, contains, Option.isSome_iff_ne_none, not_not]

lemma mem_ids_without (table : SymbolTable) (hidden : List String) (x : String) :
    x ∈ (table.without hidden).ids ↔ x ∈ table.ids ∧ x ∉ hidden := by
  simp only [ids, without, List.mem_map, List.mem_filter]
  constructor
  · rintro ⟨s, ⟨hs, hn⟩, rfl⟩
    exact ⟨⟨s, hs, rfl⟩, by simpa using hn⟩
  · rintro ⟨⟨s, hs, rfl⟩, hn⟩
    exact ⟨s, ⟨hs, by simpa using hn⟩, rfl⟩

end SymbolTable

end ApiReference
