import ApiReference.Proofs.Json.Fields
import ApiReference.Proofs.Json.Pretty

/-! Decoding undoes writing: for data of any form, for single values, and for records whose members
were written field by field. -/

namespace ApiReference

open Lexeme Json

lemma mapM_map_eq_some {α β : Type} {write : α → β} {decode : β → Option α} {as : List α}
    (h : ∀ a ∈ as, decode (write a) = some a) : (as.map write).mapM decode = some as := by
  induction as with
  | nil => rfl
  | cons a as ih =>
    obtain ⟨ha, hr⟩ := List.forall_mem_cons.mp h
    rw [List.map_cons, List.mapM_cons, ha, ih hr]
    rfl

lemma find?_of_nodup_map {α κ : Type} [DecidableEq κ] {key : α → κ} {as : List α} (h : (as.map key).Nodup) {a : α}
    (ha : a ∈ as) : as.find? (fun b => key b == key a) = some a := by
  cases hf : as.find? (fun b => key b == key a) with
  | none => exact absurd (beq_self_eq_true (key a)) (List.find?_eq_none.mp hf a ha)
  | some b =>
    have hb : key b = key a := by simpa using List.find?_some hf
    rw [List.inj_on_of_nodup_map h (List.mem_of_find?_eq_some hf) ha hb]

namespace Json

/-! ### Data of any form -/

/-- At most this many lists and objects around each other, and only integers of 64 bits among the numbers.
The members of an object are in key order, with each key once, as they are kept. -/
def Regular : ℕ → Json → Prop
  | _, .null => True
  | _, .bool _ => True
  | _, .number (.integer n) => Number.FitsWord n
  | _, .number (.real _) => False
  | _, .text _ => True
  | 0, .list _ => False
  | levels + 1, .list items => ∀ j ∈ items, Regular levels j
  | 0, .object _ => False
  | levels + 1, .object members =>
    members.Pairwise (fun m m' => m.1 < m'.1) ∧ ∀ m ∈ members, Regular levels m.2

instance Regular.decidable : (levels : ℕ) → (j : Json) → Decidable (j.Regular levels)
  | _, .null => decidable_of_iff True (by rw [Regular])
  | _, .bool _ => decidable_of_iff True (by rw [Regular])
  | _, .number (.integer n) => decidable_of_iff (Number.FitsWord n) (by rw [Regular])
  | _, .number (.real _) => decidable_of_iff False (by rw [Regular])
  | _, .text _ => decidable_of_iff True (by rw [Regular])
  | 0, .list _ => .isFalse id
  | levels + 1, .list items =>
    have : DecidablePred (Regular levels) := decidable levels
    inferInstanceAs (Decidable (∀ j ∈ items, j.Regular levels))
  | 0, .object _ => .isFalse id
  | levels + 1, .object members =>
    have : DecidablePred fun m : String × Json => m.2.Regular levels := fun m => decidable levels m.2
    inferInstanceAs (Decidable (_ ∧ ∀ m ∈ members, m.2.Regular levels))

theorem Regular.written {levels : ℕ} {j : Json} (h : j.Regular levels) : j.Written := by
  fun_induction Regular levels j with
  | case1 => exact written_null
  | case2 levels value => exact written_bool value
  | case3 levels n => exact written_integer n
  | case5 levels s => exact written_text s
  | case7 levels items ih => exact written_list fun j hj => ih j (h j hj)
  | case9 levels members ih => exact written_object fun m hm => ih m (h.2 m hm)
  | case4 | case6 | case8 => exact h.elim

lemma setMember_append {key : String} {members : List (String × Json)} (h : ∀ m ∈ members, m.1 < key)
    (value : Json) : setMember key value members = members ++ [(key, value)] := by
  induction members with
  | nil => rfl
  | cons m members ih =>
    obtain ⟨hm, hr⟩ := List.forall_mem_cons.mp h
    have hne : key ≠ m.1 := by
      rintro rfl
      exact String.lt_irrefl _ hm
    rw [setMember, if_neg (String.lt_asymm hm), if_neg hne, ih hr]
    rfl

lemma foldlM_setMember {decode : Tree → Option Json} {sofar members : List (String × Json)}
    (hs : (sofar ++ members).Pairwise (fun m m' => m.1 < m'.1)) (hd : ∀ m ∈ members, decode m.2.tree = some m.2) :
    (members.map fun m => (some m.1, m.2.tree)).foldlM (addMember (fun _ _ => .ok ()) fun sofar key v =>
      (decode v).map fun value => setMember key value sofar) sofar = some (sofar ++ members) := by
  induction members generalizing sofar with
  | nil => simp
  | cons m members ih =>
    obtain ⟨hm, hr⟩ := List.forall_mem_cons.mp hd
    -- every key is greater than those before it, so its member goes to the end
    have hlt : ∀ m' ∈ sofar, m'.1 < m.1 := fun m' hm' =>
      (List.pairwise_append.mp hs).2.2 m' hm' m List.mem_cons_self
    have hput := setMember_append hlt m.2
    rw [List.map_cons, List.foldlM_cons, addMember_some, hm]
    change List.foldlM _ (setMember m.1 m.2 sofar) _ = _
    rw [hput, ih (by simpa using hs) hr]
    simp

theorem Regular.ofTree?_tree {levels : ℕ} {j : Json} (h : j.Regular levels) : ofTree? levels j.tree = some j := by
  fun_induction Regular levels j with
  | case1 => rw [tree, ofTree?]
  | case2 levels value => rw [tree, ofTree?]
  | case3 levels n =>
    rw [tree, ofTree?, Number.value_numeral h]
    rfl
  | case5 levels s =>
    rw [tree, ofTree?]
    rfl
  | case7 levels items ih =>
    rw [tree, ofTree?, mapM_map_eq_some fun j hj => ih j (h j hj)]
    rfl
  | case9 levels members ih =>
    rw [tree, ofTree?, @foldlM_setMember _ [] _ h.1 fun m hm => ih m (h.2 m hm)]
    rfl
  | case4 | case6 | case8 => exact h.elim

/-! ### Single values -/

lemma tree_ne_null {j : Json} (h : j ≠ .null) : j.tree ≠ .null := by
  cases j with
  | null => exact absurd rfl h
  | _ => simp [tree]

end Json

structure Shape.Restores {α : Type} (shape : Shape α) (j : Json) (a : α) : Prop where
  written : j.Written
  decoded : shape.decode j.tree = some a

theorem Shape.Restores.ofText {α : Type} {shape : Shape α} {j : Json} {a : α} (h : shape.Restores j a) :
    shape.ofText j.pretty = .ok a :=
  (shape.reads.document_exact h.written.document a).mpr h.decoded

namespace Shape

lemma restores_text (s : String) : Shape.text.Restores (.text s) s where
  written := written_text s
  decoded := by
    rw [Json.tree, decode]
    rfl

lemma restores_natural {n limit : ℕ} (name : String) (hn : n < limit) (hl : limit ≤ Nat.pow 2 64) :
    (Shape.natural limit name).Restores (.natural n) n where
  written := written_integer n
  decoded := by
    have hf : Number.FitsWord n := by
      change limit ≤ 2 ^ 64 at hl
      constructor <;> omega
    rw [Json.natural, Json.tree, decode, Tree.natural?, Number.value_numeral hf]
    change (if n < limit then some n else none) = some n
    rw [if_pos hn]

lemma restores_choice {α : Type} {name : α → String} {values : List α} (hn : (values.map name).Nodup) {a : α}
    (ha : a ∈ values) : (Shape.choice (values.map fun a => (name a, a))).Restores (.text (name a)) a where
  written := written_text (name a)
  decoded := by
    have hf : (values.map fun a => (name a, a)).find? (·.1 == name a) = some (name a, a) := by
      rw [List.find?_map, Function.comp_def, find?_of_nodup_map hn ha]
      rfl
    rw [Json.tree, decode, Tree.choice?, Option.bind_some, findChoice, hf]
    rfl

lemma restores_anything {levels : ℕ} {j : Json} (h : j.Regular levels) : (Shape.anything levels).Restores j j where
  written := h.written
  decoded := by
    rw [decode]
    exact h.ofTree?_tree

lemma restores_list {α : Type} {item : Shape α} {write : α → Json} {as : List α}
    (h : ∀ a ∈ as, item.Restores (write a) a) : (Shape.list item).Restores (.list (as.map write)) as where
  written := written_list (List.forall_mem_map.mpr fun a ha => (h a ha).written)
  decoded := by
    rw [Json.tree, decode, Tree.list?, List.map_map]
    exact mapM_map_eq_some fun a ha => (h a ha).decoded

lemma Restores.nullable {α : Type} {inner : Shape α} {j : Json} {a : α} (h : inner.Restores j a) (hj : j ≠ .null) :
    (Shape.nullable inner).Restores j (some a) where
  written := h.written
  decoded := by
    rw [decode, Tree.nullable?_of_ne (tree_ne_null hj), h.decoded]
    rfl

lemma restores_null {α : Type} (inner : Shape α) : (Shape.nullable inner).Restores .null none where
  written := written_null
  decoded := by
    rw [Json.tree, decode]
    rfl

end Shape

/-! ### Records -/

namespace Json

def present (row : List (String × Option Json)) : List (String × Json) :=
  row.flatMap fun m => m.2.toList.map (m.1, ·)

lemma mem_present {row : List (String × Option Json)} {key : String} {j : Json} :
    (key, j) ∈ present row ↔ (key, some j) ∈ row := by
  simp [present]

lemma sublist_keys_present (row : List (String × Option Json)) :
    List.Sublist ((present row).map (·.1)) (row.map (·.1)) := by
  induction row with
  | nil => exact .slnil
  | cons m row ih =>
    obtain ⟨key, value⟩ := m
    cases value with
    | none => exact ih.cons key
    | some value => exact ih.cons_cons key

namespace Tree

lemma member_present {row : List (String × Option Json)} (h : (row.map (·.1)).Nodup) {m : String × Option Json}
    (hm : m ∈ row) : member ((present row).map fun m => (some m.1, m.2.tree)) m.1 = m.2.map tree := by
  obtain ⟨key, value⟩ := m
  have hn := h.sublist (sublist_keys_present row)
  rw [member, List.find?_map]
  cases value with
  | some j =>
    have hf := find?_of_nodup_map hn (mem_present.mpr hm)
    simp [Function.comp_def, hf]
  | none =>
    -- a member with this key would belong to another place of the row
    have hf : (present row).find? (fun m => m.1 == key) = none := by
      rw [List.find?_eq_none]
      rintro ⟨k, j⟩ hj hk
      have he := List.inj_on_of_nodup_map h (mem_present.mp hj) hm (beq_iff_eq.mp hk)
      cases (Prod.ext_iff.mp he).2
    simp [Function.comp_def, hf]

lemma keysOnce_tree {members : List (String × Json)} (h : (members.map (·.1)).Nodup) (keys : List String) :
    KeysOnce keys (members.map fun m => (some m.1, m.2.tree)) := by
  refine ⟨List.forall_mem_map.mpr fun m _ => Option.some_ne_none m.1, fun key _ => ?_⟩
  have hc : (members.map (·.1)).count key ≤ 1 := List.nodup_iff_count_le_one.mp h key
  rw [List.count_eq_countP, List.countP_map] at hc
  simpa [List.countP_map, Function.comp_def] using hc

end Tree

end Json

namespace Fields

inductive Restores : {δ α : Type} → Fields δ α → List (String × Option Json) → α → Prop
  | done : Restores .done [] ()
  | absent {α β δ : Type} {key : String} {presence : Presence α} {shape : Shape α} {rest : Fields δ β}
      {row : List (String × Option Json)} {value : α} {others : β} :
      presence.default? = some value → Restores rest row others →
      Restores (.field key presence shape rest) ((key, none) :: row) (value, others)
  | found {α β δ : Type} {key : String} {presence : Presence α} {shape : Shape α} {rest : Fields δ β} {j : Json}
      {row : List (String × Option Json)} {value : α} {others : β} :
      shape.Restores j value → Restores rest row others →
      Restores (.field key presence shape rest) ((key, some j) :: row) (value, others)

lemma Restores.optional {α β δ : Type} {key : String} {shape : Shape α} {write : α → Json} {value : Option α}
    {rest : Fields δ β} {row : List (String × Option Json)} {others : β}
    (h : ∀ a ∈ value, write a ≠ .null ∧ shape.Restores (write a) a) (hr : rest.Restores row others) :
    (Fields.field key (.optionalByName none) (.nullable shape) rest).Restores ((key, value.map write) :: row)
      (value, others) := by
  cases value with
  | none => exact .absent rfl hr
  | some a =>
    obtain ⟨hn, ha⟩ := h a rfl
    exact .found (ha.nullable hn) hr

variable {α δ : Type} {fields : Fields δ α} {row : List (String × Option Json)} {values : α}

lemma Restores.keys_eq (h : fields.Restores row values) : row.map (·.1) = fields.keys := by
  induction h with
  | done => rfl
  | absent _ _ ih => rw [List.map_cons, ih, keys]
  | found _ _ ih => rw [List.map_cons, ih, keys]

lemma Restores.written (h : fields.Restores row values) : ∀ m ∈ present row, m.2.Written := by
  induction h with
  | done => exact List.forall_mem_nil _
  | absent _ _ ih => exact ih
  | found hv _ ih => exact List.forall_mem_cons.mpr ⟨hv.written, ih⟩

lemma Restores.assign_eq (h : fields.Restores row values) {found : String → Option Tree}
    (hf : ∀ m ∈ row, found m.1 = m.2.map tree) : fields.assign found = some values := by
  induction h with
  | done => rfl
  | absent hv _ ih =>
    obtain ⟨hm, hr⟩ := List.forall_mem_cons.mp hf
    rw [assign, hm, Option.map_none, Presence.fill, hv, ih hr]
    rfl
  | found hv _ ih =>
    obtain ⟨hm, hr⟩ := List.forall_mem_cons.mp hf
    rw [assign, hm, Option.map_some, Presence.fill, hv.decoded, ih hr]
    rfl

end Fields

theorem Shape.restores_record {α β δ : Type} (name : String) {fields : Fields δ α} (make : α → β)
    {row : List (String × Option Json)} (values : α) (hk : fields.keys.Nodup) (h : fields.Restores row values) :
    (Shape.record name fields make).Restores (.object (present row)) (make values) where
  written := written_object h.written
  decoded := by
    have hn : (row.map (·.1)).Nodup := by rwa [h.keys_eq]
    have ho := Tree.keysOnce_tree (hn.sublist (sublist_keys_present row)) fields.keys
    have ha := h.assign_eq fun m hm => Tree.member_present hn hm
    rw [Json.tree, decode_object name make hk, Tree.fields?, if_pos ho, Option.bind_some, ha]
    rfl

end ApiReference
