import ApiReference.Proofs.Graph.Prepared

/-! Backfilling position by position: which comment a symbol ends up with, how many symbols receive one,
and that symbols of one id can be collapsed before or after. -/

namespace ApiReference

namespace Symbol

def Documents (t : Symbol) (id : String) : Prop := t.id = id ∧ t.hasDocComment

def Offers (t : Symbol) (secondary : List Symbol) (id : String) : Prop :=
  t.Documents id ∧ ∃ before after, secondary = before ++ t :: after ∧ ∀ u ∈ after, ¬ u.Documents id

inductive Backfilled (secondary : List Symbol) (s : Symbol) : Symbol → Prop
  | documented (h : s.hasDocComment) : Backfilled secondary s s
  | offered (t : Symbol) (h : ¬ s.hasDocComment) (ht : t.Offers secondary s.id) :
    Backfilled secondary s { s with doc := t.doc }
  | unoffered (h : ¬ s.hasDocComment) (hn : ∀ t ∈ secondary, ¬ t.Documents s.id) : Backfilled secondary s s

lemma documents_iff (t : Symbol) (id : String) : (t.id == id && t.hasDocComment) = true ↔ t.Documents id := by
  rw [Bool.and_eq_true, beq_iff_eq, Documents]

lemma hasDocComment_iff (s : Symbol) : s.hasDocComment ↔ ∃ doc, s.doc = some doc ∧ doc.lines ≠ [] := by
  cases hd : s.doc <;> simp [hasDocComment, hd]

lemma hasDocComment_with_doc (s t : Symbol) : { s with doc := t.doc }.hasDocComment = t.hasDocComment := rfl

end Symbol

section

variable {secondary : List Symbol} {id : String}

lemma find?_reverse_eq_some {t : Symbol} :
    secondary.reverse.find? (fun u => u.id == id && u.hasDocComment) = some t ↔ t.Offers secondary id := by
  rw [List.find?_eq_some_iff_append, Symbol.documents_iff]
  simp only [Bool.not_eq_true', ← Bool.not_eq_true, Symbol.documents_iff]
  apply and_congr_right
  intro _
  constructor
  · rintro ⟨after, before, hs, hn⟩
    rw [List.reverse_eq_append_iff, List.reverse_cons, List.append_assoc] at hs
    exact ⟨before.reverse, after.reverse, hs, fun u hu => hn u (List.mem_reverse.mp hu)⟩
  · rintro ⟨before, after, rfl, hn⟩
    exact ⟨after.reverse, before.reverse, by simp, fun u hu => hn u (List.mem_reverse.mp hu)⟩

lemma find?_reverse_eq_none :
    secondary.reverse.find? (fun u => u.id == id && u.hasDocComment) = none ↔
      ∀ t ∈ secondary, ¬ t.Documents id := by
  simp only [List.find?_eq_none, List.mem_reverse, Symbol.documents_iff]

lemma Symbol.Offers.offeredDoc_eq {t : Symbol} (h : t.Offers secondary id) :
    offeredDoc secondary id = t.doc := by
  rw [offeredDoc, find?_reverse_eq_some.mpr h]
  rfl

lemma offeredDoc_eq_none (h : ∀ t ∈ secondary, ¬ t.Documents id) : offeredDoc secondary id = none := by
  rw [offeredDoc, find?_reverse_eq_none.mpr h]
  rfl

lemma offers_or_unoffered (secondary : List Symbol) (id : String) :
    (∃ t : Symbol, t.Offers secondary id) ∨ ∀ t ∈ secondary, ¬ t.Documents id := by
  cases hf : secondary.reverse.find? (fun u => u.id == id && u.hasDocComment) with
  | some t => exact Or.inl ⟨t, find?_reverse_eq_some.mp hf⟩
  | none => exact Or.inr (find?_reverse_eq_none.mp hf)

end

namespace Symbol

variable {secondary : List Symbol} {s : Symbol}

lemma backfill_of_hasDocComment (h : s.hasDocComment) : s.backfill secondary = s := by
  rw [backfill, if_pos h]

lemma backfill_of_offers {t : Symbol} (h : ¬ s.hasDocComment) (ht : t.Offers secondary s.id) :
    s.backfill secondary = { s with doc := t.doc } := by
  obtain ⟨doc, hd, -⟩ := t.hasDocComment_iff.mp ht.1.2
  rw [backfill, if_neg h, ht.offeredDoc_eq, hd]

lemma backfill_of_unoffered (hn : ∀ t ∈ secondary, ¬ t.Documents s.id) : s.backfill secondary = s := by
  rw [backfill, offeredDoc_eq_none hn]
  split <;> rfl

variable (secondary s)

lemma backfilled_backfill : Backfilled secondary s (s.backfill secondary) := by
  by_cases h : s.hasDocComment
  · rw [backfill_of_hasDocComment h]
    exact .documented h
  · obtain ⟨t, ht⟩ | hn := offers_or_unoffered secondary s.id
    · rw [backfill_of_offers h ht]
      exact .offered t h ht
    · rw [backfill_of_unoffered hn]
      exact .unoffered h hn

lemma lacksOfferedDoc_eq :
    s.lacksOfferedDoc secondary = (!s.hasDocComment && (s.backfill secondary).hasDocComment) := by
  rw [lacksOfferedDoc]
  by_cases h : s.hasDocComment
  · simp only [h, Bool.not_true, Bool.false_and]
  · congr 1
    obtain ⟨t, ht⟩ | hn := offers_or_unoffered secondary s.id
    · obtain ⟨doc, hd, -⟩ := t.hasDocComment_iff.mp ht.1.2
      rw [backfill_of_offers h ht, hasDocComment_with_doc, ht.1.2, ht.offeredDoc_eq, hd, Option.isSome_some]
    · rw [backfill_of_unoffered hn, offeredDoc_eq_none hn, Option.isSome_none]
      exact (Bool.eq_false_iff.mpr h).symm

lemma backfill_backfill : (s.backfill secondary).backfill secondary = s.backfill secondary := by
  obtain ⟨t, ht⟩ | hn := offers_or_unoffered secondary s.id
  · by_cases h : s.hasDocComment
    · rw [backfill_of_hasDocComment h, backfill_of_hasDocComment h]
    · apply backfill_of_hasDocComment
      rw [backfill_of_offers h ht, hasDocComment_with_doc]
      exact ht.1.2
  · rw [backfill_of_unoffered hn, backfill_of_unoffered hn]

end Symbol

section

variable (primary secondary : List Symbol)

lemma backfillAll_backfillAll :
    backfillAll (backfillAll primary secondary) secondary = backfillAll primary secondary := by
  simp only [backfillAll, List.map_map, Function.comp_def, Symbol.backfill_backfill]

lemma backfillCount_eq_countP :
    backfillCount primary secondary =
      (primary.zip (backfillAll primary secondary)).countP fun (s, m) => !s.hasDocComment && m.hasDocComment := by
  have hz : primary.zip (backfillAll primary secondary) = primary.map fun s => (s, s.backfill secondary) := by
    rw [backfillAll, ← List.zip_map', List.map_id']
  rw [backfillCount, ← List.countP_eq_length_filter, hz, List.countP_map]
  apply List.countP_congr
  intro s _
  rw [Symbol.lacksOfferedDoc_eq]
  rfl

lemma backfillCount_backfillAll : backfillCount (backfillAll primary secondary) secondary = 0 := by
  rw [backfillCount, List.length_eq_zero_iff, List.filter_eq_nil_iff]
  intro m hm
  obtain ⟨s, -, rfl⟩ := List.mem_map.mp hm
  rw [Symbol.lacksOfferedDoc_eq, Symbol.backfill_backfill, Bool.not_and_self]
  exact Bool.false_ne_true

lemma symbols_ofList_backfillAll :
    (SymbolTable.ofList (backfillAll primary secondary)).symbols =
      backfillAll (SymbolTable.ofList primary).symbols secondary :=
  SymbolTable.symbols_ofList_map _ _ Function.injective_id (backfill_id secondary) primary

end

theorem backfillAll_exact (primary secondary : List Symbol) :
    let merged := backfillAll primary secondary
    merged.map (fun m => { m with doc := none }) = primary.map (fun s => { s with doc := none }) ∧
      List.Forall₂ (Symbol.Backfilled secondary) primary merged ∧
      backfillCount primary secondary =
        (primary.zip merged).countP (fun (s, m) => !s.hasDocComment && m.hasDocComment) ∧
      backfillCount merged secondary = 0 ∧ backfillAll merged secondary = merged ∧
      (SymbolTable.ofList merged).symbols = backfillAll (SymbolTable.ofList primary).symbols secondary := by
  intro merged
  refine ⟨?_, ?_, backfillCount_eq_countP primary secondary, backfillCount_backfillAll primary secondary,
    backfillAll_backfillAll primary secondary, symbols_ofList_backfillAll primary secondary⟩
  · apply (List.map_map).trans
    apply List.map_congr_left
    intro s _
    rw [Function.comp_apply, backfill_eq]
  · apply List.forall₂_map_right_iff.mpr
    apply List.forall₂_same.mpr
    intro s _
    exact s.backfilled_backfill secondary

end ApiReference
