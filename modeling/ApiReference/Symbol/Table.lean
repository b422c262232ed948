import ApiReference.Symbol.Basic

/-! The symbol table: at most one symbol per id. A symbol with a known id takes the place of the old
one, any other goes to the end. -/

namespace ApiReference

def putSymbol (s : Symbol) : List Symbol → List Symbol
  | [] => [s]
  | t :: ts => if t.id = s.id then s :: ts else t :: putSymbol s ts

theorem ids_putSymbol (s : Symbol) (ts : List Symbol) :
    (putSymbol s ts).map (·.id) =
      if s.id ∈ ts.map (·.id) then ts.map (·.id) else ts.map (·.id) ++ [s.id] := by
  induction ts with
  | nil => simp [putSymbol]
  | cons t ts ih =>
    by_cases h : t.id = s.id
    · simp [putSymbol, h]
    · have h' : ¬ s.id = t.id := fun e => h e.symm
      by_cases hm : s.id ∈ ts.map (·.id)
      · simp only [putSymbol, h, if_false, List.map_cons, ih, if_pos hm,
          if_pos (List.mem_cons_of_mem t.id hm)]
      · have hc : s.id ∉ t.id :: ts.map (·.id) := by simp [h'] at hm ⊢; exact hm
        simp only [putSymbol, h, if_false, List.map_cons, ih, if_neg hm, if_neg hc,
          List.cons_append]

theorem nodup_ids_putSymbol (s : Symbol) {ts : List Symbol} (h : (ts.map (·.id)).Nodup) :
    ((putSymbol s ts).map (·.id)).Nodup := by
  rw [ids_putSymbol]
  split
  · exact h
  · next hm =>
    rw [List.nodup_append]
    refine ⟨h, by simp, fun a ha b hb hab => hm ?_⟩
    rw [List.mem_singleton] at hb
    exact hb ▸ hab ▸ ha

structure SymbolTable where
  symbols : List Symbol
  nodup : (symbols.map (·.id)).Nodup

namespace SymbolTable

def empty : SymbolTable := ⟨[], by simp⟩

def insert (table : SymbolTable) (s : Symbol) : SymbolTable :=
  ⟨putSymbol s table.symbols, nodup_ids_putSymbol s table.nodup⟩

def ofList (symbols : List Symbol) : SymbolTable := symbols.foldl insert empty

def ids (table : SymbolTable) : List String := table.symbols.map (·.id)

def find? (table : SymbolTable) (id : String) : Option Symbol :=
  table.symbols.find? (·.id == id)

def contains (table : SymbolTable) (id : String) : Bool := (table.find? id).isSome

def size (table : SymbolTable) : Nat := table.symbols.length

def without (table : SymbolTable) (hidden : List String) : SymbolTable :=
  ⟨table.symbols.filter fun s => !hidden.contains s.id,
    table.nodup.sublist ((List.filter_sublist).map _)⟩

end SymbolTable

end ApiReference
