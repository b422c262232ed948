import ApiReference.Proofs.Settings.Leaves
import ApiReference.Proofs.Text.Blank
import ApiReference.Settings.Load

/-! Layers over each other: under every path of a leaf stands what the later layer has there, or else what the
earlier one has. -/

namespace ApiReference

namespace Layered

/-! ### One layer over another -/

def overlay (earlier : Option Layered) (later : Layered) : Layered := earlier.elim later (merge · later)

lemma mergeEntries_cons (before : Table) (key : String) (v : Layered) (rest : Table) :
    mergeEntries before ((key, v) :: rest) =
      mergeEntries (setEntry key (overlay (valueAt? key before) v) before) rest := by
  rw [mergeEntries]
  cases valueAt? key before <;> rfl

lemma valueAt?_mergeEntries (before : Table) {later : Table} (h : Ordered later) (key : String) :
    valueAt? key (mergeEntries before later) =
      ((valueAt? key later).map (overlay (valueAt? key before))).or (valueAt? key before) := by
  induction later generalizing before with
  | nil => rw [mergeEntries, valueAt?_nil, Option.map_none, Option.none_or]
  | cons e later ih =>
    obtain ⟨k, v⟩ := e
    rw [mergeEntries_cons, ih _ (List.pairwise_cons.mp h).2, valueAt?_setEntry, valueAt?_cons]
    by_cases hk : k = key
    · subst hk
      rw [h.valueAt?_tail, if_pos rfl, if_pos rfl]
      rfl
    · rw [if_neg hk, if_neg hk]

lemma ordered_mergeEntries {before : Table} (h : Ordered before) (later : Table) :
    Ordered (mergeEntries before later) := by
  induction later generalizing before with
  | nil => rwa [mergeEntries]
  | cons e later ih =>
    rw [mergeEntries_cons]
    exact ih (h.setEntry _ _)

lemma mergeEntries_append {before later : Table} (h : Ordered (before ++ later)) :
    mergeEntries before later = before ++ later := by
  induction later generalizing before with
  | nil => rw [mergeEntries, List.append_nil]
  | cons e later ih =>
    obtain ⟨key, v⟩ := e
    have hlt : ∀ e ∈ before, e.1 < key := fun e he => (List.pairwise_append.mp h).2.2 e he _ List.mem_cons_self
    have hnone : valueAt? key before = none := valueAt?_eq_none fun e he => String.ne_of_lt (hlt e he)
    rw [List.append_cons] at h
    rw [mergeEntries_cons, hnone, overlay, Option.elim_none, setEntry_append hlt, ih h, ← List.append_cons]

lemma mergeEntries_nil {entries : Table} (h : Ordered entries) : mergeEntries [] entries = entries :=
  mergeEntries_append h

lemma overlay_of_not_table {v : Layered} (h : ∀ layer inner, v ≠ .table layer inner) (earlier : Option Layered) :
    overlay earlier v = v := by
  cases earlier with
  | none => rfl
  | some e =>
    cases v with
    | table layer inner => exact absurd rfl (h layer inner)
    | _ => rfl

lemma tableAt_mergeEntries (before : Table) {later : Table} (h : Ordered later) {key : String}
    (ht : ∀ v, valueAt? key later = some v → ∃ layer inner, v = .table layer inner)
    (hi : Ordered (tableAt key later)) :
    tableAt key (mergeEntries before later) = mergeEntries (tableAt key before) (tableAt key later) := by
  have hv := valueAt?_mergeEntries before h key
  cases hl : valueAt? key later with
  | none =>
    rw [hl, Option.map_none, Option.none_or] at hv
    rw [tableAt_of_none hl, mergeEntries, tableAt, tableAt, hv]
  | some v =>
    obtain ⟨layer, inner, rfl⟩ := ht v hl
    rw [tableAt_of_table hl] at hi ⊢
    rw [hl, Option.map_some, Option.some_or] at hv
    cases hb : valueAt? key before with
    | none =>
      rw [hb] at hv
      rw [tableAt_of_table hv, tableAt_of_none hb, mergeEntries_nil hi]
    | some e =>
      rw [hb] at hv
      cases e with
      | table layer' inner' => rw [tableAt_of_table hv, tableAt_of_table hb]
      | scalar layer' value =>
        rw [tableAt_of_table hv, tableAt, hb]
        exact (mergeEntries_nil hi).symm
      | list layer' items =>
        rw [tableAt_of_table hv, tableAt, hb]
        exact (mergeEntries_nil hi).symm

def Tidy : List String → Table → Prop
  | [], _ => True
  | key :: path, entries => Ordered entries ∧ Tidy path (tableAt key entries)

section

variable {path : List String} {before later : Table}

theorem at?_mergeEntries (hs : Tidy path later) (ho : Open path later)
    (hv : ∀ v, at? path later = some v → ∀ layer inner, v ≠ .table layer inner) :
    at? path (mergeEntries before later) = (at? path later).or (at? path before) := by
  induction path generalizing before later with
  | nil => rfl
  | cons key path ih =>
    cases path with
    | nil =>
      change valueAt? key (Layered.mergeEntries before later) = (valueAt? key later).or (valueAt? key before)
      rw [valueAt?_mergeEntries before hs.1]
      cases hl : valueAt? key later with
      | none => rfl
      | some v =>
        rw [Option.map_some, overlay_of_not_table (hv v hl), Option.some_or]
    | cons key' path =>
      change at? (key' :: path) (tableAt key (Layered.mergeEntries before later)) = _
      rw [tableAt_mergeEntries before hs.1 ho.1 hs.2.1]
      exact ih hs.2 ho.2 hv

lemma Open.mergeEntries (hb : Open path before) (hs : Tidy path later) (ho : Open path later) :
    Open path (mergeEntries before later) := by
  induction path generalizing before later with
  | nil => trivial
  | cons key path ih =>
    cases path with
    | nil => trivial
    | cons key' path =>
      refine ⟨?_, ?_⟩
      · intro v hv
        rw [valueAt?_mergeEntries before hs.1] at hv
        cases hl : valueAt? key later with
        | none =>
          rw [hl] at hv
          exact hb.1 v hv
        | some w =>
          obtain ⟨layer, inner, rfl⟩ := ho.1 w hl
          rw [hl] at hv
          cases he : valueAt? key before with
          | none =>
            rw [he] at hv
            exact ⟨layer, inner, (Option.some.inj hv).symm⟩
          | some e =>
            obtain ⟨layer', inner', rfl⟩ := hb.1 e he
            rw [he] at hv
            exact ⟨layer, _, (Option.some.inj hv).symm⟩
      · rw [tableAt_mergeEntries before hs.1 ho.1 hs.2.1]
        exact ih hb.2 hs.2 ho.2

lemma Tidy.mergeEntries (hb : Tidy path before) (hs : Tidy path later) (ho : Open path later) :
    Tidy path (mergeEntries before later) := by
  induction path generalizing before later with
  | nil => trivial
  | cons key path ih =>
    refine ⟨ordered_mergeEntries hb.1 later, ?_⟩
    cases path with
    | nil => trivial
    | cons key' path =>
      rw [tableAt_mergeEntries before hs.1 ho.1 hs.2.1]
      exact ih hb.2 hs.2 ho.2

end

lemma forall_mergeEntries {p : Layered → Prop} (hp : ∀ v, p v → ∀ layer inner, v ≠ .table layer inner)
    {before later : Table} (hb : ∀ e ∈ before, p e.2) (hl : ∀ e ∈ later, p e.2) :
    ∀ e ∈ mergeEntries before later, p e.2 := by
  induction later generalizing before with
  | nil => rwa [mergeEntries]
  | cons e later ih =>
    obtain ⟨key, v⟩ := e
    obtain ⟨hv, hrest⟩ := List.forall_mem_cons.mp hl
    rw [mergeEntries_cons, overlay_of_not_table (hp v hv)]
    refine ih ?_ hrest
    intro e he
    rcases mem_setEntry he with rfl | he
    · exact hv
    · exact hb e he

/-! ### One value -/

def single (layer : Layer) (value : Layered) : List String → Table
  | [] => []
  | key :: path => [(key, nest layer value path)]

lemma at?_nil (path : List String) : at? path [] = none := by
  induction path with
  | nil => rfl
  | cons key path ih =>
    cases path with
    | nil => rfl
    | cons key' path => exact ih

lemma open_nil (path : List String) : Open path [] := by
  induction path with
  | nil => trivial
  | cons key path ih =>
    cases path with
    | nil => trivial
    | cons key' path =>
      refine ⟨?_, ih⟩
      intro v hv
      cases hv

lemma tidy_nil (path : List String) : Tidy path [] := by
  induction path with
  | nil => trivial
  | cons key path ih => exact ⟨List.Pairwise.nil, ih⟩

section

variable {value : Layered} (hv : ∀ layer inner, value ≠ .table layer inner) (layer : Layer) (p : List String)
include hv

lemma tableAt_single (k key : String) :
    tableAt k (single layer value (key :: p)) = if key = k then single layer value p else [] := by
  rw [tableAt, single, valueAt?_cons]
  by_cases hk : key = k
  · rw [if_pos hk, if_pos hk]
    cases p with
    | nil =>
      cases value with
      | table layer inner => exact absurd rfl (hv layer inner)
      | _ => rfl
    | cons key' p => rfl
  · rw [if_neg hk, if_neg hk]
    rfl

lemma at?_single {q : List String} (hq : q ≠ []) (hp : q <+: p → q = p) :
    at? q (single layer value p) = if p = q then some value else none := by
  induction q generalizing p with
  | nil => exact absurd rfl hq
  | cons k q ih =>
    cases p with
    | nil => exact at?_nil _
    | cons key p =>
      by_cases hk : key = k
      · subst hk
        have hp' : q <+: p → q = p := fun h => (List.cons.inj (hp ((List.prefix_cons_inj key).mpr h))).2
        cases q with
        | nil =>
          obtain rfl := hp' (List.nil_prefix)
          simp [at?, single, nest]
        | cons k' q =>
          change at? (k' :: q) (tableAt key (single layer value (key :: p))) = _
          rw [tableAt_single hv, if_pos rfl, ih p (List.cons_ne_nil _ _) hp']
          simp
      · have hne : ¬ key :: p = k :: q := fun he => hk (List.cons.inj he).1
        rw [if_neg hne]
        cases q with
        | nil => simp [at?, single, hk]
        | cons k' q =>
          change at? (k' :: q) (tableAt k (single layer value (key :: p))) = _
          rw [tableAt_single hv, if_neg hk, at?_nil]

lemma open_single {q : List String} (hp : p <+: q → p = q) : Open q (single layer value p) := by
  induction q generalizing p with
  | nil => trivial
  | cons k q ih =>
    cases q with
    | nil => trivial
    | cons k' q =>
      cases p with
      | nil => exact open_nil _
      | cons key p =>
        by_cases hk : key = k
        · subst hk
          have hp' : p <+: k' :: q → p = k' :: q := fun h => (List.cons.inj (hp ((List.prefix_cons_inj key).mpr h))).2
          refine ⟨?_, ?_⟩
          · intro v hv
            cases p with
            | nil => cases hp' List.nil_prefix
            | cons key' p =>
              rw [single, valueAt?_cons, if_pos rfl] at hv
              exact ⟨layer, _, (Option.some.inj hv).symm⟩
          · rw [tableAt_single hv, if_pos rfl]
            exact ih p hp'
        · refine ⟨?_, ?_⟩
          · intro v hv
            rw [single, valueAt?_cons, if_neg hk] at hv
            cases hv
          · rw [tableAt_single hv, if_neg hk]
            exact open_nil _

lemma tidy_single (q : List String) : Tidy q (single layer value p) := by
  induction q generalizing p with
  | nil => trivial
  | cons k q ih =>
    cases p with
    | nil => exact tidy_nil _
    | cons key p =>
      refine ⟨List.pairwise_singleton _ _, ?_⟩
      rw [tableAt_single hv]
      split
      · exact ih p
      · exact tidy_nil q

end

end Layered

namespace Settings

open Layered

lemma not_table_of_text {v : Layered} (h : v.text?.isSome) : ∀ layer inner, v ≠ .table layer inner := by
  rintro layer inner rfl
  cases h

lemma not_table_of_read {leaf : Leaf} {v : Layered} (h : (leaf.read v).isSome) :
    ∀ layer inner, v ≠ .table layer inner := by
  rintro layer inner rfl
  cases leaf with
  | _ => cases h

theorem Legible.mergeEntries {before later : Table} (hb : Legible before) (hl : Legible later)
    (hs : ∀ leaf : Leaf, Tidy leaf.path later) : Legible (mergeEntries before later) where
  ways leaf := (hb.ways leaf).mergeEntries (hs leaf) (hl.ways leaf)
  leaves leaf v hv := by
    rw [at?_mergeEntries (hs leaf) (hl.ways leaf) fun v hv => not_table_of_read (hl.leaves leaf v hv)] at hv
    cases hlater : at? leaf.path later with
    | none =>
      rw [hlater] at hv
      exact hb.leaves leaf v hv
    | some w =>
      rw [hlater] at hv
      obtain rfl := Option.some.inj hv
      exact hl.leaves leaf w hlater
  levels := by
    obtain ⟨ho, hs, hs', -⟩ := hs (.level "")
    obtain ⟨ht, ht', -⟩ := hl.ways (.level "")
    rw [tableAt_mergeEntries before ho ht hs, tableAt_mergeEntries _ hs ht' hs']
    exact forall_mergeEntries (fun v hv => not_table_of_text hv) hb.levels hl.levels

/-! ### The environment -/

def variableValue (v : String × String) : Layered := ofValue .environment (Environment.valueOf v.2)

def addVariable (entries : Table) (v : String × String) : Table :=
  mergeEntries entries (((Environment.pathOf v.1).map (single .environment (variableValue v))).getD [])

lemma pathOf_ne_nil (name : String) : Environment.pathOf name ≠ some [] := by
  intro h
  rw [Environment.pathOf, Option.bind_eq_bind, Option.bind_eq_some_iff] at h
  obtain ⟨rest, -, h⟩ := h
  rw [Option.ite_none_left_eq_some] at h
  have hsplit := Option.some.inj h.2
  exact Text.splitChars_ne_nil _ (List.map_eq_nil_iff.mp hsplit)

lemma environmentEntries_eq (environment : List (String × String)) :
    environmentEntries environment = environment.foldl addVariable [] := by
  rw [environmentEntries]
  apply List.foldl_ext
  rintro entries ⟨name, text⟩ -
  rw [addVariable]
  dsimp only
  cases hp : Environment.pathOf name with
  | none => rfl
  | some path =>
    cases path with
    | nil => exact absurd hp (pathOf_ne_nil name)
    | cons key path => rfl

lemma environmentEntries_eq_nil {environment : List (String × String)}
    (h : ∀ v ∈ environment, Environment.pathOf v.1 = none) : environmentEntries environment = [] := by
  rw [environmentEntries_eq]
  induction environment with
  | nil => rfl
  | cons v environment ih =>
    obtain ⟨hv, hrest⟩ := List.forall_mem_cons.mp h
    rw [List.foldl_cons, addVariable, hv]
    exact ih hrest

end Settings

end ApiReference
