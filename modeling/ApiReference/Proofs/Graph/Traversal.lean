import ApiReference.Proofs.Graph.Members

/-! The order in which the protocols of a class are met is a depth-first preorder, and the inherited
members follow it: each belongs to the first protocol that owns it. -/

namespace ApiReference

namespace Walked

variable {next : String → List String} {pending visited result : List String}

def Clear (next : String → List String) (old : List String) : String → String → Prop :=
  Relation.ReflTransGen fun a b => b ∈ next a ∧ b ∉ old

lemma Clear.mono {old old' : List String} (h : ∀ x ∈ old, x ∈ old') {a b : String}
    (hp : Clear next old' a b) : Clear next old a b :=
  Relation.ReflTransGen.mono (fun _ _ hs => ⟨hs.1, fun hm => hs.2 (h _ hm)⟩) a b hp

lemma nodup_visit {id : String} (hv : visited.Nodup) (hn : id ∉ visited) : (visited ++ [id]).Nodup := by
  rw [← List.concat_eq_append]
  exact hv.concat hn

lemma nodup (h : Walked next pending visited result) (hv : visited.Nodup) : result.Nodup := by
  induction h with
  | done => exact hv
  | skip _ _ ih => exact ih hv
  | visit hn _ ih => exact ih (nodup_visit hv hn)

lemma exists_new (h : Walked next pending visited result) : ∃ new, result = visited ++ new := by
  induction h with
  | done => exact ⟨[], (List.append_nil _).symm⟩
  | skip _ _ ih => exact ih
  | @visit id _ _ _ _ _ ih =>
    obtain ⟨new, rfl⟩ := ih
    exact ⟨id :: new, List.append_assoc _ _ _⟩

lemma closed (h : Walked next pending visited result) {a b : String} (ha : a ∈ result)
    (hn : a ∉ visited) (hb : b ∈ next a) : b ∈ result := by
  induction h with
  | done => exact absurd ha hn
  | skip _ _ ih => exact ih ha hn
  | @visit id _ visited _ _ hw ih =>
    by_cases he : a = id
    · exact hw.pending_subset b (List.mem_append_left _ (he ▸ hb))
    · exact ih ha (by simp [hn, he])

lemma clear_of_mem (h : Walked next pending visited result) {x : String} (hx : x ∈ result)
    (hn : x ∉ visited) : ∃ r ∈ pending, r ∉ visited ∧ Clear next visited r x := by
  induction h with
  | done => exact absurd hx hn
  | @skip id _ _ _ _ _ ih =>
    obtain ⟨r, hr, hv, hp⟩ := ih hx hn
    exact ⟨r, List.mem_cons_of_mem id hr, hv, hp⟩
  | @visit id pending visited _ hid _ ih =>
    by_cases he : x = id
    · exact ⟨id, List.mem_cons_self, hid, he ▸ .refl⟩
    · obtain ⟨r, hr, hv, hp⟩ := ih hx (by simp [hn, he])
      have hp' : Clear next visited r x := hp.mono fun _ => List.mem_append_left _
      have hv' : r ∉ visited := fun hm => hv (List.mem_append_left _ hm)
      rcases List.mem_append.mp hr with hr | hr
      · exact ⟨id, List.mem_cons_self, hid, .head ⟨hr, hv'⟩ hp'⟩
      · exact ⟨r, List.mem_cons_of_mem id hr, hv', hp'⟩

lemma split {front : List String} (h : Walked next (front ++ pending) visited result) :
    ∃ middle, Walked next front visited middle ∧ Walked next pending middle result := by
  generalize hp : front ++ pending = ids at h
  induction h generalizing front with
  | done =>
    obtain ⟨rfl, rfl⟩ := List.append_eq_nil_iff.mp hp
    exact ⟨_, .done, .done⟩
  | skip hm hw ih =>
    cases front with
    | nil =>
      rw [List.nil_append] at hp
      exact ⟨_, .done, hp ▸ .skip hm hw⟩
    | cons a front =>
      simp only [List.cons_append, List.cons.injEq] at hp
      obtain ⟨rfl, hp⟩ := hp
      obtain ⟨middle, hf, hr⟩ := ih hp
      exact ⟨middle, .skip hm hf, hr⟩
  | @visit _ others _ _ hm hw ih =>
    cases front with
    | nil =>
      rw [List.nil_append] at hp
      exact ⟨_, .done, hp ▸ .visit hm hw⟩
    | cons a front =>
      simp only [List.cons_append, List.cons.injEq] at hp
      obtain ⟨rfl, hp⟩ := hp
      have hp' : (next a ++ front) ++ pending = next a ++ others := by rw [List.append_assoc, hp]
      obtain ⟨middle, hf, hr⟩ := ih hp'
      exact ⟨middle, .visit hm hf, hr⟩

lemma mem_visit {id : String} {block : List String}
    (h : Walked next (next id) (visited ++ [id]) (visited ++ id :: block)) (hv : (visited ++ [id]).Nodup)
    (x : String) : x ∈ id :: block ↔ Clear next visited id x := by
  have hnew : ∀ y ∈ id :: block, y ∉ visited := fun y hy hm =>
    List.disjoint_of_nodup_append (h.nodup hv) hm hy
  constructor
  · intro hx
    by_cases hi : x = id
    · exact hi ▸ .refl
    · have hn : x ∉ visited ++ [id] := by simp [hnew x hx, hi]
      obtain ⟨r, hr, hv', hp⟩ := h.clear_of_mem (List.mem_append_right _ hx) hn
      exact .head ⟨hr, fun hm => hv' (List.mem_append_left _ hm)⟩ (hp.mono fun _ => List.mem_append_left _)
  · intro hp
    induction hp with
    | refl => exact List.mem_cons_self
    | @tail a b _ hs ih =>
      have hb : b ∈ visited ++ id :: block := by
        by_cases ha : a = id
        · exact h.pending_subset b (ha ▸ hs.1)
        · exact h.closed (List.mem_append_right _ ih) (by simp [hnew a ih, ha]) hs.1
      exact (List.mem_append.mp hb).resolve_left hs.2

lemma exists_block (h : Walked next pending visited result) (hv : visited.Nodup) {before after : List String}
    {id : String} (he : result = visited ++ (before ++ id :: after)) :
    ∃ block rest, id :: after = block ++ rest ∧ ∀ x, x ∈ block ↔ Clear next (visited ++ before) id x := by
  induction h generalizing before with
  | done =>
    have hl := congrArg List.length he
    simp only [List.length_append, List.length_cons] at hl
    omega
  | skip _ _ ih => exact ih hv he
  | @visit first pending visited result hn hw ih =>
    have hv' := nodup_visit hv hn
    cases before with
    | nil =>
      -- the walk from here on splits where the ids that were pending already come up
      obtain ⟨middle, hf, hr⟩ := hw.split
      obtain ⟨own, rfl⟩ := hf.exists_new
      obtain ⟨rest, rfl⟩ := hr.exists_new
      simp only [List.append_assoc, List.cons_append, List.nil_append, List.append_cancel_left_eq,
        List.cons.injEq] at he hf
      obtain ⟨rfl, rfl⟩ := he
      refine ⟨first :: own, rest, rfl, ?_⟩
      rw [List.append_nil]
      exact hf.mem_visit hv'
    | cons a before =>
      obtain ⟨new, rfl⟩ := hw.exists_new
      simp only [List.append_assoc, List.cons_append, List.nil_append, List.append_cancel_left_eq,
        List.cons.injEq] at he
      obtain ⟨rfl, rfl⟩ := he
      obtain ⟨block, rest, hb, hx⟩ := ih hv' rfl
      rw [List.append_assoc] at hx
      exact ⟨block, rest, hb, hx⟩

end Walked

inductive InTurn {σ : Type} (visit : String → σ → σ → Prop) : List String → σ → σ → Prop
  | done {s} : InTurn visit [] s s
  | next {p ps s middle t} : visit p s middle → InTurn visit ps middle t → InTurn visit (p :: ps) s t

lemma InTurn.split {σ : Type} {visit : String → σ → σ → Prop} {ps qs : List String} {s t : σ}
    (h : InTurn visit (ps ++ qs) s t) : ∃ middle, InTurn visit ps s middle ∧ InTurn visit qs middle t := by
  induction ps generalizing s with
  | nil => exact ⟨s, .done, h⟩
  | cons p ps ih =>
    cases h with
    | next hp hr =>
      obtain ⟨middle, hf, hl⟩ := ih hr
      exact ⟨middle, .next hp hf, hl⟩

namespace Hierarchy

variable (h : Hierarchy)

def offers (p : String) : List (String × String) :=
  ((h.index.requirementsOf p ++ h.index.membersOf p).filter h.table.contains).map (·, p)

/-- The recursion over the protocols. Its state holds the ids visited so far and the members collected
so far; a protocol collects what it offers itself before it turns to its own conformances. -/
inductive Collects : String → List String × List (String × String) → List String × List (String × String) → Prop
  | again {p visited members} : p ∈ visited → Collects p (visited, members) (visited, members)
  | enter {p visited members state} : p ∉ visited →
      InTurn Collects (h.index.conformsTo p) (visited ++ [p], members ++ h.offers p) state →
      Collects p (visited, members) state

lemma collects_of_walked {pending visited result : List String}
    (hw : Walked h.index.conformsTo pending visited result) (members : List (String × String)) :
    ∃ new, result = visited ++ new ∧
      InTurn h.Collects pending (visited, members) (result, members ++ new.flatMap h.offers) := by
  induction hw generalizing members with
  | done =>
    refine ⟨[], (List.append_nil _).symm, ?_⟩
    rw [List.flatMap_nil, List.append_nil]
    exact .done
  | skip hm _ ih =>
    obtain ⟨new, he, hc⟩ := ih members
    exact ⟨new, he, .next (.again hm) hc⟩
  | @visit id _ _ _ hm _ ih =>
    obtain ⟨new, rfl, hc⟩ := ih (members ++ h.offers id)
    obtain ⟨inner, hi, hr⟩ := hc.split
    refine ⟨id :: new, List.append_assoc _ _ _, ?_⟩
    rw [List.flatMap_cons, ← List.append_assoc members]
    exact .next (.enter hm hi) hr

lemma candidates_eq (t : String) : h.candidates t = (h.index.protocolsOf t).flatMap h.offers := rfl

lemma candidates_collected (t : String) :
    InTurn h.Collects (h.index.conformsTo t) ([], []) (h.index.protocolsOf t, h.candidates t) := by
  obtain ⟨new, he, hc⟩ := h.collects_of_walked (h.index.protocolsOf_walked t) []
  rw [List.nil_append] at he
  rw [candidates_eq, he]
  rwa [he] at hc

/-! ### Attribution -/

instance (p id : String) : Decidable (h.Owns p id) := inferInstanceAs (Decidable (_ ∨ _))

lemma find?_eq_self (ids : List String) (id : String) :
    ids.find? (fun x => x == id) = if id ∈ ids then some id else none := by
  induction ids with
  | nil => rfl
  | cons x ids ih =>
    by_cases hx : x = id
    · simp [hx]
    · simp [hx, Ne.symm hx, ih]

lemma find?_offers {id : String} (hc : h.table.contains id) (p : String) :
    (h.offers p).find? (fun c => c.1 == id) = if h.Owns p id then some (id, p) else none := by
  have ho : h.Owns p id ↔ id ∈ (h.index.requirementsOf p ++ h.index.membersOf p).filter h.table.contains := by
    simp [Owns, hc]
  rw [offers, List.find?_map]
  simp only [Function.comp_def, find?_eq_self, ho]
  split <;> rfl

lemma find?_candidates {id : String} (hc : h.table.contains id) (t : String) :
    (h.candidates t).find? (fun c => c.1 == id) =
      ((h.index.protocolsOf t).find? fun p => h.Owns p id).map (id, ·) := by
  rw [candidates_eq, List.find?_flatMap, List.find?_eq_findSome?_guard, List.map_findSome?]
  congr 1
  funext p
  rw [h.find?_offers hc]
  by_cases ho : h.Owns p id <;> simp [Option.guard, ho]

lemma find?_keptCandidates {owner : Symbol} {c : String × String} (hc : c ∈ h.keptCandidates owner) :
    (h.keptCandidates owner).find? (fun b => b.1 == c.1) =
      (h.candidates owner.id).find? (fun b => b.1 == c.1) := by
  simp only [keptCandidates, foreignCandidates, List.mem_filter] at hc
  rw [keptCandidates, foreignCandidates, List.find?_filter, List.find?_filter]
  -- whether a candidate is kept depends on its id alone
  congr 1
  funext b
  by_cases hb : b.1 = c.1
  · rw [hb, hc.1.2, hc.2]
    simp
  · simp [hb]

lemma declaredIn_eq {owner : Symbol} {m : Member} (hm : m ∈ h.inheritedMembers owner) :
    ((h.index.protocolsOf owner.id).find? fun p => h.Owns p m.id) = some m.declaredIn := by
  have hk := (h.mem_inheritedMembers owner m hm).2
  have hc := ((h.mem_keptCandidates owner _ _).mp hk).2.1
  rw [inheritedMembers_eq, List.mem_map] at hm
  obtain ⟨c, hd, rfl⟩ := hm
  have hf := find?_of_mem_distinctOn _ hd
  rw [h.find?_keptCandidates hk, h.find?_candidates hc] at hf
  obtain ⟨p, hp, he⟩ := Option.map_eq_some_iff.mp hf
  rw [hp, ← he]

lemma inheritedMembers_order (owner : Symbol) :
    ((h.inheritedMembers owner).map (·.id)).Pairwise fun a b =>
      ((h.candidates owner.id).map (·.1)).idxOf a < ((h.candidates owner.id).map (·.1)).idxOf b := by
  have hk : (h.keptCandidates owner).map (·.1) = ((h.candidates owner.id).map (·.1)).filter fun id =>
      !h.overridden (h.directIds owner) id && !(h.directIds owner).contains id := by
    rw [keptCandidates, foreignCandidates, List.filter_filter, List.filter_map]
    rfl
  rw [ids_inheritedMembers, map_key_distinctOn, hk]
  change (distinct _).Pairwise _
  rw [distinct_filter]
  exact (distinct_order _).filter _

lemma filter_inherited {t : String} {owner : Symbol} (ht : h.table.find? t = some owner)
    (hk : owner.kind = .classType) : (h.membersOf t).filter (·.inherited) = h.inheritedMembers owner := by
  have hd : (h.directMembers owner).filter (·.inherited) = [] := by
    rw [List.filter_eq_nil_iff]
    intro m hm
    rw [((h.mem_directMembers owner m).mp hm).1]
    exact Bool.false_ne_true
  have hp : h.protocolMembers owner = h.inheritedMembers owner := by
    rw [protocolMembers, if_pos ((inherits_iff _).mpr hk)]
  rw [h.membersOf_eq ht, List.filter_append, hd, List.nil_append, hp, List.filter_eq_self]
  exact fun m hm => (h.mem_inheritedMembers owner m hm).1

/-- The protocols of a class are collected depth first, each once: whatever can be reached from one
past the protocols before it follows it without a gap. The inherited members stand in the order in
which they are offered first, each under the first protocol that owns it. -/
theorem inherited_depth_first (t : String) (owner : Symbol) (ht : h.table.find? t = some owner)
    (hk : owner.kind = .classType) :
    let order := h.index.protocolsOf t
    let inherited := (h.membersOf t).filter (·.inherited)
    InTurn h.Collects (h.index.conformsTo t) ([], []) (order, h.candidates t) ∧
      order.Nodup ∧ (∀ p, p ∈ order ↔ Relation.TransGen h.index.Conforms t p) ∧
      (∀ before p after, order = before ++ p :: after → ∃ block rest, p :: after = block ++ rest ∧
        ∀ q, q ∈ block ↔ Walked.Clear h.index.conformsTo before p q) ∧
      h.candidates t = order.flatMap h.offers ∧
      ((inherited.map (·.id)).Pairwise fun a b =>
        ((h.candidates t).map (·.1)).idxOf a < ((h.candidates t).map (·.1)).idxOf b) ∧
      ∀ m ∈ inherited, order.find? (fun p => h.Owns p m.id) = some m.declaredIn := by
  intro order inherited
  have hw := h.index.protocolsOf_walked t
  have hi : inherited = h.inheritedMembers owner := h.filter_inherited ht hk
  have hid := SymbolTable.id_of_find? ht
  refine ⟨h.candidates_collected t, hw.nodup List.nodup_nil, h.index.mem_protocolsOf t, ?_,
    h.candidates_eq t, ?_, ?_⟩
  · intro before p after he
    exact hw.exists_block List.nodup_nil he
  · rw [hi, ← hid]
    exact h.inheritedMembers_order owner
  · intro m hm
    rw [hi] at hm
    have hd := h.declaredIn_eq hm
    rwa [hid] at hd

def diamond : Hierarchy where
  table := .ofList
    [⟨"C", .classType, "C", ["class C"], none, none⟩, ⟨"A", .protocol, "A", ["protocol A"], none, none⟩,
      ⟨"B", .protocol, "B", ["protocol B"], none, none⟩, ⟨"D", .protocol, "D", ["protocol D"], none, none⟩,
      ⟨"x", .instanceMethod, "x()", ["func x()"], none, none⟩,
      ⟨"y", .instanceMethod, "y()", ["func y()"], none, none⟩]
  index := .build
    [⟨"C", "A", .conformsTo⟩, ⟨"C", "B", .conformsTo⟩, ⟨"A", "D", .conformsTo⟩, ⟨"B", "D", .conformsTo⟩,
      ⟨"D", "A", .conformsTo⟩, ⟨"x", "B", .requirementOf⟩, ⟨"x", "D", .memberOf⟩, ⟨"y", "B", .memberOf⟩] []

theorem inherited_depth_first_diamond :
    diamond.index.protocolsOf "C" = ["A", "D", "B"] ∧
      diamond.membersOf "C" = [⟨"x", "D", true⟩, ⟨"y", "B", true⟩] ∧
      ∃ block rest, ["D", "B"] = block ++ rest ∧
        ∀ q, q ∈ block ↔ Walked.Clear diamond.index.conformsTo ["A"] "D" q :=
  ⟨by decide, by decide, (inherited_depth_first diamond "C" ⟨"C", .classType, "C", ["class C"], none, none⟩
    (by decide) rfl).2.2.2.1 ["A"] "D" ["B"] (by decide)⟩

end Hierarchy

end ApiReference
