import ApiReference.Proofs.Json.Record

/-! The fields of a record by their names, whichever way it was written, and what decoding makes of
them: an object must not repeat the key of a field, a list may end before the fields that can be left
out, and each field is decoded on its own. -/

namespace ApiReference

open Json

namespace Json.Tree

def member (members : List (Option String × Tree)) (key : String) : Option Tree :=
  (members.find? (·.1 == some key)).map (·.2)

def KeysOnce (keys : List String) (members : List (Option String × Tree)) : Prop :=
  (∀ m ∈ members, m.1 ≠ none) ∧ ∀ key ∈ keys, members.countP (·.1 == some key) ≤ 1

instance (keys : List String) (members : List (Option String × Tree)) : Decidable (KeysOnce keys members) :=
  inferInstanceAs (Decidable (_ ∧ _))

def fields? (keys : List String) : Tree → Option (String → Option Tree)
  | .object members => if KeysOnce keys members then some (member members) else none
  | .list items => if items.length ≤ keys.length then some fun key => items[keys.idxOf key]? else none
  | _ => none

end Json.Tree

open Tree

def Presence.fill {α : Type} (presence : Presence α) (decode : Tree → Option α) : Option Tree → Option α
  | none => presence.default?
  | some v => decode v

namespace Fields

def keys : {δ α : Type} → Fields δ α → List String
  | _, _, done => []
  | _, _, field key _ _ rest => key :: rest.keys

def assign : {δ α : Type} → Fields δ α → (String → Option Tree) → Option α
  | _, _, done, _ => some ()
  | _, _, field key presence shape rest, found =>
    (presence.fill shape.decode (found key)).bind fun value => (rest.assign found).map fun others => (value, others)

def Plain : {δ α : Type} → Fields δ α → Prop
  | _, _, done => True
  | _, _, field _ presence _ rest => presence.defaultAtEnd? = presence.default? ∧ rest.Plain

lemma assign_congr : {δ α : Type} → (fields : Fields δ α) → ∀ {found found' : String → Option Tree},
    (∀ key ∈ fields.keys, found key = found' key) → fields.assign found = fields.assign found'
  | _, _, done, _, _, _ => rfl
  | _, _, field key presence shape rest, found, found', h => by
    have hr := assign_congr rest fun k hk => h k (List.mem_cons_of_mem key hk)
    rw [assign, assign, h key List.mem_cons_self, hr]

/-! ### Lists -/

lemma fields?_list_nil (keys : List String) : (Tree.list []).fields? keys = some fun _ => none := by
  simp [Tree.fields?]

theorem decodeInOrder_eq : {δ α : Type} → (fields : Fields δ α) → fields.keys.Nodup → fields.Plain →
    ∀ items, fields.decodeInOrder items = ((Tree.list items).fields? fields.keys).bind fields.assign
  | _, _, done, _, _, [] => rfl
  | _, _, done, _, _, v :: vs => rfl
  | _, _, field key presence shape rest, hk, hp, [] => by
    have ih := decodeInOrder_eq rest (List.nodup_cons.mp hk).2 hp.2 []
    rw [decodeInOrder, ih, fields?_list_nil, fields?_list_nil, hp.1]
    rfl
  | _, _, field key presence shape rest, hk, hp, v :: vs => by
    obtain ⟨hkey, hrest⟩ := List.nodup_cons.mp hk
    have ih := decodeInOrder_eq rest hrest hp.2 vs
    rw [decodeInOrder, ih]
    simp only [Tree.fields?, keys, List.length_cons, Nat.add_le_add_iff_right]
    split
    · have hc : rest.assign (fun k => (v :: vs)[(key :: rest.keys).idxOf k]?) =
          rest.assign (fun k => vs[rest.keys.idxOf k]?) := by
        apply assign_congr rest
        intro k hk
        rw [List.idxOf_cons_ne _ (by rintro rfl; exact hkey hk)]
        rfl
      simp [assign, hc, Presence.fill]
    · simp

/-! ### Objects -/

lemma isRead_unknown : {δ α : Type} → (fields : Fields δ α) → ∀ {key}, key ∉ fields.keys → ∀ sofar,
    fields.isRead sofar key = false
  | _, _, done, _, _, _ => rfl
  | _, _, field k _ _ rest, key, h, (value, others) => by
    obtain ⟨hk, hr⟩ := not_or.mp (mt List.mem_cons.mpr h)
    rw [isRead, if_neg (Ne.symm hk)]
    exact isRead_unknown rest hr others

lemma put_unknown : {δ α : Type} → (fields : Fields δ α) → ∀ {key}, key ∉ fields.keys → ∀ sofar v,
    fields.put sofar key v = some sofar
  | _, _, done, _, _, _, _ => rfl
  | _, _, field k _ _ rest, key, h, (value, others), v => by
    obtain ⟨hk, hr⟩ := not_or.mp (mt List.mem_cons.mpr h)
    rw [put, if_neg (Ne.symm hk), put_unknown rest hr others v]
    rfl

lemma addMember_unknown {δ α : Type} (fields : Fields δ α) {key : String} (h : key ∉ fields.keys) (sofar : δ)
    (v : Tree) : addMember fields.accept fields.put sofar (some key, v) = some sofar := by
  rw [addMember_some, accept, isRead_unknown fields h]
  exact put_unknown fields h sofar v

def slotStep {α : Type} (key : String) (decode : Tree → Option α) (value : Option α) (m : Option String × Tree) :
    Option (Option α) :=
  m.1.bind fun k => if key = k then (if value.isSome then none else (decode m.2).map some) else some value

section

variable {α : Type} {key : String} {decode : Tree → Option α}

lemma slotStep_same (value : Option α) (v : Tree) :
    slotStep key decode value (some key, v) = if value.isSome then none else (decode v).map some := by
  simp [slotStep]

lemma slotStep_other {k : String} (h : key ≠ k) (value : Option α) (v : Tree) :
    slotStep key decode value (some k, v) = some value := by
  simp [slotStep, h]

end

lemma addMember_field {α β δ : Type} {key : String} {presence : Presence α} {shape : Shape α} {rest : Fields δ β}
    (h : key ∉ rest.keys) (sofar : Option α × δ) (m : Option String × Tree) :
    addMember (field key presence shape rest).accept (field key presence shape rest).put sofar m =
      (slotStep key shape.decode sofar.1 m).bind fun value =>
        (addMember rest.accept rest.put sofar.2 m).map fun others => (value, others) := by
  obtain ⟨value, others⟩ := sofar
  obtain ⟨k, v⟩ := m
  cases k with
  | none => rfl
  | some k =>
    by_cases hk : key = k
    · subst hk
      rw [addMember_unknown rest h, slotStep_same, addMember_some, accept, isRead, put, if_pos rfl, if_pos rfl]
      cases value with
      | some a => rfl
      | none => cases shape.decode v <;> rfl
    · rw [slotStep_other hk, addMember_some, addMember_some, accept, isRead, put, if_neg hk, if_neg hk, accept]
      cases rest.isRead others k <;> rfl

lemma foldlM_pair {σ τ μ : Type} (f : σ → μ → Option σ) (g : τ → μ → Option τ) (ms : List μ) (a : σ) (b : τ) :
    ms.foldlM (fun s m => (f s.1 m).bind fun a => (g s.2 m).map fun b => (a, b)) (a, b) =
      (ms.foldlM f a).bind fun a => (ms.foldlM g b).map fun b => (a, b) := by
  induction ms generalizing a b with
  | nil => rfl
  | cons m ms ih =>
    simp only [List.foldlM_cons]
    cases f a m with
    | none => rfl
    | some a' =>
      cases g b m with
      | none => simp
      | some b' => exact ih a' b'

section

variable {α : Type} {key : String} {decode : Tree → Option α}

lemma foldlM_slot_met (a : α) (members : List (Option String × Tree)) :
    members.foldlM (slotStep key decode) (some a) =
      if (∀ m ∈ members, m.1 ≠ none) ∧ members.countP (·.1 == some key) = 0 then some (some a) else none := by
  induction members with
  | nil => rfl
  | cons m members ih =>
    obtain ⟨k, v⟩ := m
    rw [List.foldlM_cons]
    cases k with
    | none => simp [slotStep]
    | some k =>
      by_cases hk : key = k
      · subst hk
        simp [slotStep_same]
      · rw [slotStep_other hk]
        refine ih.trans (if_congr ?_ rfl rfl)
        simp [Ne.symm hk]

lemma foldlM_slot (members : List (Option String × Tree)) :
    members.foldlM (slotStep key decode) none =
      if KeysOnce [key] members then
        (member members key).elim (some none) fun v => (decode v).map some
      else none := by
  induction members with
  | nil => rfl
  | cons m members ih =>
    obtain ⟨k, v⟩ := m
    rw [List.foldlM_cons]
    cases k with
    | none => simp [slotStep, KeysOnce]
    | some k =>
      by_cases hk : key = k
      · subst hk
        have hm : member ((some key, v) :: members) key = some v := by simp [member]
        rw [slotStep_same, hm, Option.elim_some]
        cases decode v with
        | none => simp
        | some a =>
          refine (foldlM_slot_met a members).trans (if_congr ?_ rfl rfl)
          simp [KeysOnce, List.countP_cons]
      · have hm : member ((some k, v) :: members) key = member members key := by simp [member, Ne.symm hk]
        rw [slotStep_other hk, hm]
        refine ih.trans (if_congr ?_ rfl rfl)
        simp [KeysOnce, List.countP_cons, Ne.symm hk]

end

lemma foldlM_done (members : List (Option String × Tree)) :
    members.foldlM (addMember done.accept done.put) () = if KeysOnce [] members then some () else none := by
  induction members with
  | nil => rfl
  | cons m members ih =>
    obtain ⟨k, v⟩ := m
    rw [List.foldlM_cons]
    cases k with
    | none => simp [addMember, KeysOnce]
    | some k =>
      refine ih.trans (if_congr ?_ rfl rfl)
      simp [KeysOnce]

lemma keysOnce_cons (key : String) (keys : List String) (members : List (Option String × Tree)) :
    KeysOnce (key :: keys) members ↔ KeysOnce [key] members ∧ KeysOnce keys members := by
  simp only [KeysOnce, List.forall_mem_cons, List.not_mem_nil]
  tauto

lemma toOption_orDefault {α : Type} (key : String) (presence : Presence α) (value : Option α) :
    (orDefault key presence value).toOption = value.elim presence.default? some := by
  cases value <;> cases presence <;> rfl

lemma complete_field {α β δ : Type} {key : String} {presence : Presence α} {shape : Shape α} {rest : Fields δ β}
    (value : Option α) (others : Option δ) :
    ((others.map fun others => (value, others)).bind fun sofar =>
        ((field key presence shape rest).complete sofar).toOption) =
      (value.elim presence.default? some).bind fun a =>
        (others.bind fun others => (rest.complete others).toOption).map fun bs => (a, bs) := by
  cases others with
  | none => simp
  | some others =>
    change (orDefault key presence value >>= fun a => rest.complete others >>= fun bs => pure (a, bs)).toOption = _
    rw [toOption_bind, toOption_orDefault]
    cases value.elim presence.default? some with
    | none => rfl
    | some a =>
      change (rest.complete others >>= fun bs => pure (a, bs)).toOption = (rest.complete others).toOption.map _
      cases rest.complete others <;> rfl

theorem complete_eq : {δ α : Type} → (fields : Fields δ α) → fields.keys.Nodup →
    ∀ members, ((members.foldlM (addMember fields.accept fields.put) fields.unread).bind
      fun sofar => (fields.complete sofar).toOption) = ((Tree.object members).fields? fields.keys).bind fields.assign
  | _, _, done, _, members => by
    change ((members.foldlM (addMember done.accept done.put) ()).bind fun _ => some ()) = _
    rw [foldlM_done, keys, Tree.fields?]
    split <;> rfl
  | _, _, field key presence shape rest, hk, members => by
    obtain ⟨hkey, hrest⟩ := List.nodup_cons.mp hk
    have ih := complete_eq rest hrest members
    -- one pass over the members is a pass for this field and a pass for the others, side by side
    have hstep : addMember (field key presence shape rest).accept (field key presence shape rest).put =
        fun sofar m => (slotStep key shape.decode sofar.1 m).bind fun value =>
          (addMember rest.accept rest.put sofar.2 m).map fun others => (value, others) := by
      funext sofar m
      exact addMember_field hkey sofar m
    rw [hstep, unread, foldlM_pair, Option.bind_assoc]
    simp only [complete_field, ih]
    have hkeys := keysOnce_cons key rest.keys members
    rw [foldlM_slot]
    simp only [Tree.fields?, keys, hkeys]
    by_cases hone : KeysOnce [key] members
    · by_cases hothers : KeysOnce rest.keys members
      · simp only [hone, hothers, and_self, if_true, Option.bind_some, assign]
        cases member members key with
        | none => rfl
        | some v =>
          simp only [Option.elim_some, Presence.fill]
          cases shape.decode v <;> rfl
      · simp [hothers]
    · simp [hone]

end Fields

lemma Fields.map_assign_done {β : Type} (found : String → Option Tree) (make : Unit → β) :
    (done.assign found).map make = some (make ()) := rfl

lemma Fields.map_assign_field {α β γ δ : Type} {key : String} {presence : Presence α} {shape : Shape α}
    {rest : Fields δ β} (found : String → Option Tree) (make : α × β → γ) :
    ((field key presence shape rest).assign found).map make =
      (presence.fill shape.decode (found key)).bind fun value =>
        (rest.assign found).map fun others => make (value, others) := by
  rw [assign, Option.map_bind]
  congr 1
  funext value
  exact Option.map_map make (fun others => (value, others)) (rest.assign found)

section

variable {α β δ : Type} (name : String) {fields : Fields δ α} (make : α → β)

lemma Shape.decode_object (hk : fields.keys.Nodup) (members : List (Option String × Tree)) :
    (Shape.record name fields make).decode (.object members) =
      ((Tree.object members).fields? fields.keys).bind fun found => (fields.assign found).map make := by
  rw [Shape.decode, fields.complete_eq hk, Option.map_bind]
  rfl

theorem Shape.decode_record (hk : fields.keys.Nodup) (hp : fields.Plain) (v : Tree) :
    (Shape.record name fields make).decode v =
      (v.fields? fields.keys).bind fun found => (fields.assign found).map make := by
  cases v with
  | list items => rw [Shape.decode, fields.decodeInOrder_eq hk hp, Option.map_bind]; rfl
  | object members => exact Shape.decode_object name make hk members
  | _ => rfl

end

end ApiReference
