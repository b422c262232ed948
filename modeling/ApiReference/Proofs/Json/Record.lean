import ApiReference.Proofs.Json.Shape

/-! Records, written as lists of their fields or as objects, and with them all shapes: reading by a
shape is decoding by it. -/

namespace ApiReference

open Lexeme Json

/-! ### Rows of fields -/

def Row : ℕ → List Tree → List Char → Prop
  | 0 => Listed Spelled
  | _ + 1 => Trailing Spelled

lemma Row.blank {index : ℕ} {w : List Char} (h : Row index [] w) : Blank w := by
  cases index with
  | zero =>
    cases h with
    | empty hg => exact hg
  | succ index =>
    cases h with
    | nil hg => exact hg

lemma Row.nextItem {index : ℕ} {v : Tree} {vs : List Tree} {w : List Char} (h : Row index (v :: vs) w)
    (rest : List Char) : ∃ u ws, Spelled v u ∧ Trailing Spelled vs ws ∧
      nextItem (index == 0) (w ++ ']' :: rest) = .ok (some (u ++ (ws ++ ']' :: rest))) := by
  cases index with
  | zero =>
    cases h with
    | @items before _ u _ ws hb hv ht =>
      refine ⟨u, ws, hv, ht, ?_⟩
      simp only [List.append_assoc]
      exact nextItem_first hb hv _
  | succ index =>
    cases h with
    | @cons before behind _ u _ ws hb hb' hv ht =>
      refine ⟨u, ws, hv, ht, ?_⟩
      simp only [List.append_assoc, List.cons_append]
      exact nextItem_comma hb hb' hv _

lemma row_next {index : ℕ} {cs cs' ws rest : List Char} {v : Tree} {vs : List Tree}
    (hn : ApiReference.nextItem (index == 0) cs = .ok (some cs')) (hv : Front Spelled v cs' (ws ++ rest))
    (ht : Trailing Spelled vs ws) : ∃ w, Row index (v :: vs) w ∧ cs = w ++ rest := by
  obtain ⟨gap, u, hg, hu, rfl⟩ := hv
  cases index with
  | zero =>
    obtain ⟨before, hb, rfl⟩ := nextItem_some_first hn
    exact ⟨_, .items (hb.append hg) hu ht, by simp⟩
  | succ index =>
    obtain ⟨before, behind, hb, hb', rfl⟩ := nextItem_some hn
    exact ⟨_, .cons hb (hb'.append hg) hu ht, by simp⟩

lemma row_end (index : ℕ) {gap : List Char} (hg : Blank gap) : Row index [] gap := by
  cases index with
  | zero => exact .empty hg
  | succ index => exact .nil hg

lemma closeList_end {gap : List Char} (hg : Blank gap) (rest : List Char) :
    closeList (gap ++ ']' :: rest) = .ok rest := by
  unfold closeList
  rw [dropBlank_gap hg (by decide)]
  rfl

lemma eq_of_closeList {cs rest : List Char} (h : closeList cs = .ok rest) :
    ∃ gap, Blank gap ∧ cs = gap ++ ']' :: rest := by
  obtain ⟨gap, hg, he⟩ := exists_blank cs
  unfold closeList at h
  split at h
  · cases h
  · next hd =>
    cases h
    exact ⟨gap, hg, by rw [← hd]; exact he⟩
  · split at h <;> cases h
  · cases h

lemma Row.not_closed {index : ℕ} {v : Tree} {vs : List Tree} {w : List Char} (h : Row index (v :: vs) w)
    (rest : List Char) : (closeList (w ++ ']' :: rest)).toOption = none := by
  cases hc : closeList (w ++ ']' :: rest) with
  | error e => rfl
  | ok rest' =>
    obtain ⟨gap, hg, he⟩ := eq_of_closeList hc
    obtain ⟨u, ws, _, _, hn⟩ := h.nextItem rest
    rw [he, nextItem_end hg] at hn
    cases hn

section

variable {α β δ : Type}

def Fields.readRow (fields : Fields δ α) (record : String) (index : ℕ) (cs : List Char) :
    Except ReadError (α × List Char) :=
  fields.readInOrder record index cs >>= fun x => closeList x.2 >>= fun rest => pure (x.1, rest)

lemma Fields.readRow_ok {fields : Fields δ α} {record : String} {index : ℕ} {cs cs' rest : List Char} {values : α}
    (h : fields.readInOrder record index cs = .ok (values, cs')) (hc : closeList cs' = .ok rest) :
    fields.readRow record index cs = .ok (values, rest) := by
  rw [readRow, h]
  change closeList cs' >>= _ = _
  rw [hc]
  rfl

structure Fields.ReadsRow (fields : Fields δ α) : Prop where
  exact : ∀ (record : String) {index : ℕ} {items : List Tree} {w : List Char}, Row index items w →
    ∀ rest, (fields.readRow record index (w ++ ']' :: rest)).toOption =
      (fields.decodeInOrder items).map (·, rest)
  sound : ∀ {record : String} {index : ℕ} {cs rest : List Char} {a : α},
    fields.readRow record index cs = .ok (a, rest) → ∃ items w, Row index items w ∧ cs = w ++ ']' :: rest

theorem Fields.readsRow_done : Fields.ReadsRow .done where
  exact := by
    intro record index items w hw rest
    have hr : Fields.done.readRow record index (w ++ ']' :: rest) =
        closeList (w ++ ']' :: rest) >>= fun rest => pure ((), rest) := rfl
    rw [hr, toOption_bind]
    cases items with
    | nil =>
      rw [closeList_end hw.blank]
      rfl
    | cons v vs =>
      rw [hw.not_closed rest]
      rfl
  sound := by
    intro record index cs rest a h
    obtain ⟨⟨_, cs'⟩, hd, h⟩ := bind_eq_ok h
    cases hd
    obtain ⟨rest', hc, h⟩ := bind_eq_ok h
    cases h
    obtain ⟨gap, hg, he⟩ := eq_of_closeList hc
    exact ⟨[], gap, row_end index hg, he⟩

variable {key : String} {presence : Presence α} {shape : Shape α} {rest : Fields δ β} {record : String} {index : ℕ}

lemma Fields.readRow_end {cs : List Char} (h : nextItem (index == 0) cs = .ok none) :
    (Fields.field key presence shape rest).readRow record index cs =
      orDefaultAt index record presence >>= fun value =>
        rest.readRow record (index + 1) cs >>= fun y => pure ((value, y.1), y.2) := by
  rw [readRow, readInOrder, h]
  change (orDefaultAt index record presence >>= fun value => rest.readInOrder record (index + 1) cs >>= fun y =>
    pure ((value, y.1), y.2)) >>= _ = _
  simp only [readRow, bind_assoc, pure_bind]

lemma Fields.readRow_next {cs cs' : List Char} (h : nextItem (index == 0) cs = .ok (some cs')) :
    (Fields.field key presence shape rest).readRow record index cs =
      shape.read cs' >>= fun x => rest.readRow record (index + 1) x.2 >>= fun y => pure ((x.1, y.1), y.2) := by
  rw [readRow, readInOrder, h]
  change (shape.read cs' >>= fun x => rest.readInOrder record (index + 1) x.2 >>= fun y =>
    pure ((x.1, y.1), y.2)) >>= _ = _
  simp only [readRow, bind_assoc, pure_bind]

lemma toOption_orDefaultAt (index : ℕ) (record : String) (presence : Presence α) :
    (orDefaultAt index record presence).toOption = presence.defaultAtEnd? := by
  cases presence <;> rfl

theorem Fields.readsRow_field (hs : Reads shape.read shape.decode) (hr : rest.ReadsRow) :
    (Fields.field key presence shape rest).ReadsRow where
  exact := by
    intro record index items w hw tail
    cases items with
    | nil =>
      have hb := hw.blank
      have hx := hr.exact record (row_end (index + 1) hb) tail
      rw [readRow_end (nextItem_end hb _ tail), toOption_bind, toOption_orDefaultAt, decodeInOrder]
      cases presence.defaultAtEnd? with
      | none => rfl
      | some value => exact toOption_made hx fun others => (value, others)
    | cons v vs =>
      obtain ⟨u, ws, hu, ht, hn⟩ := hw.nextItem tail
      have hx := hr.exact record (show Row (index + 1) vs ws from ht) tail
      rw [readRow_next hn, toOption_bind, hs.exact_spelled hu (ht.stops (Or.inl rfl) tail), decodeInOrder]
      cases shape.decode v with
      | none => rfl
      | some value => exact toOption_made hx fun others => (value, others)
  sound := by
    intro record index cs tail a h
    cases hn : nextItem (index == 0) cs with
    | error e =>
      rw [readRow, readInOrder, hn] at h
      cases h
    | ok next =>
      cases next with
      | none =>
        rw [readRow_end hn] at h
        obtain ⟨value, _, h⟩ := bind_eq_ok h
        obtain ⟨⟨others, tail'⟩, ho, h⟩ := bind_eq_ok h
        cases h
        obtain ⟨items, w, hw, rfl⟩ := hr.sound ho
        cases items with
        | nil => exact ⟨[], w, row_end index hw.blank, rfl⟩
        | cons v vs =>
          -- no field behind this one can have found an item after the end
          obtain ⟨gap, hg, he⟩ := nextItem_none hn
          obtain ⟨u, ws, _, _, hn'⟩ := hw.nextItem _
          rw [he, nextItem_end hg] at hn'
          cases hn'
      | some cs' =>
        rw [readRow_next hn] at h
        obtain ⟨⟨value, cs₁⟩, hv, h⟩ := bind_eq_ok h
        obtain ⟨⟨others, tail'⟩, ho, h⟩ := bind_eq_ok h
        cases h
        obtain ⟨v, hv⟩ := hs.sound hv
        obtain ⟨vs, ws, ht, rfl⟩ := hr.sound ho
        obtain ⟨w, hw, he⟩ := row_next hn hv ht
        exact ⟨v :: vs, w, hw, he⟩

end

/-! ### Members -/

section

variable {α β δ : Type} {key : String} {presence : Presence α} {shape : Shape α} {rest : Fields δ β}

theorem Fields.reads_done (sofar : Unit) (k : String) :
    Reads (Fields.done.readMember sofar k) (Fields.done.put sofar k) where
  exact := by
    intro v cs tail hv hr
    rw [readMember, skipValue_exact hv hr]
    rfl
  sound := by
    intro cs tail a h
    obtain ⟨tail', hs, h⟩ := bind_eq_ok h
    cases h
    exact skipValue_sound hs

theorem Fields.reads_field (hs : Reads shape.read shape.decode)
    (hr : ∀ others k, Reads (rest.readMember others k) (rest.put others k)) (sofar : Option α × δ) (k : String) :
    Reads ((Fields.field key presence shape rest).readMember sofar k)
      ((Fields.field key presence shape rest).put sofar k) := by
  obtain ⟨value, others⟩ := sofar
  by_cases hk : key = k
  · have hread : (Fields.field key presence shape rest).readMember (value, others) k =
        fun cs => shape.read cs >>= fun x => pure ((some x.1, others), x.2) := by
      funext cs
      rw [readMember, if_pos hk]
    have hput : (Fields.field key presence shape rest).put (value, others) k =
        fun v => (shape.decode v).map fun value => (some value, others) := by
      funext v
      rw [put, if_pos hk]
    rw [hread, hput]
    exact hs.map fun value => (some value, others)
  · have hread : (Fields.field key presence shape rest).readMember (value, others) k =
        fun cs => rest.readMember others k cs >>= fun x => pure ((value, x.1), x.2) := by
      funext cs
      rw [readMember, if_neg hk]
    have hput : (Fields.field key presence shape rest).put (value, others) k =
        fun v => (rest.put others k v).map fun others => (value, others) := by
      funext v
      rw [put, if_neg hk]
    rw [hread, hput]
    exact (hr others k).map fun others => (value, others)

end

section

variable {α β δ : Type} (name : String) (fields : Fields δ α) (make : α → β)

lemma Shape.record_bracket (cs : List Char) : (Shape.record name fields make).read ('[' :: cs) =
    fields.readRow (Shape.recordSize name fields.count) 0 cs >>= fun x => pure (make x.1, x.2) := by
  rw [Shape.read, dropBlank_cons (by decide)]
  change (fields.readInOrder _ 0 cs >>= fun x => closeList x.2 >>= fun rest => pure (make x.1, rest)) = _
  simp only [Fields.readRow, bind_assoc, pure_bind]

lemma Shape.record_brace (cs : List Char) : (Shape.record name fields make).read ('\x7b' :: cs) =
    readObject fields.accept fields.readMember fields.unread cs >>= fun x =>
      fields.complete x.1 >>= fun values => pure (make values, x.2) := by
  rw [Shape.read, dropBlank_cons (by decide)]
  rfl

lemma Shape.record_other {c : Char} (hb : isBlank c = false) (hl : c ≠ '[') (ho : c ≠ '\x7b') (cs : List Char) :
    ((Shape.record name fields make).read (c :: cs)).toOption = none := by
  rw [Shape.read, dropBlank_cons hb]
  split
  · next he => exact absurd (List.cons.inj he).1 hl
  · next he => exact absurd (List.cons.inj he).1 ho
  · rfl

lemma toOption_finished {x : Except ReadError (δ × List Char)} {sofar : Option δ} {rest : List Char}
    (h : x.toOption = sofar.map (·, rest)) (finish : δ → Except ReadError α) :
    (x >>= fun y => finish y.1 >>= fun values => pure (make values, y.2)).toOption =
      ((sofar.bind fun d => (finish d).toOption).map make).map (·, rest) := by
  rw [toOption_bind, h]
  cases sofar with
  | none => rfl
  | some d =>
    change (finish d >>= fun values => pure (make values, rest)).toOption = _
    rw [toOption_bind]
    change _ = ((finish d).toOption.map make).map (·, rest)
    cases (finish d).toOption <;> rfl

variable {fields}

theorem Shape.reads_record (hr : fields.ReadsRow)
    (hm : ∀ sofar key, Reads (fields.readMember sofar key) (fields.put sofar key)) :
    Reads (Shape.record name fields make).read (Shape.record name fields make).decode := by
  refine .of_unblanked (fun cs => by simp only [Shape.read, dropBlank_dropBlank]) ?_ ?_
  · intro v w rest hw _
    cases hw with
    | list hl =>
      simp only [List.cons_append, List.append_assoc, List.nil_append]
      rw [Shape.record_bracket, Shape.decode]
      exact toOption_made (hr.exact _ (show Row 0 _ _ from hl) rest) make
    | object hl =>
      simp only [List.cons_append, List.append_assoc, List.nil_append]
      rw [Shape.record_brace, Shape.decode]
      exact toOption_finished make (readObject_exact hm hl _ rest) fields.complete
    | number hn =>
      obtain ⟨c, cs, rfl, hc⟩ := (Spelled.number hn).head
      exact Shape.record_other name fields make hc.not_blank (numeric_ne hc (by decide) (by decide))
        (numeric_ne hc (by decide) (by decide)) _
    | _ => exact Shape.record_other name fields make (by decide) (by decide) (by decide) _
  · intro cs rest a hd h
    rw [Shape.read, hd] at h
    split at h
    · obtain ⟨⟨values, cs'⟩, hv, h⟩ := bind_eq_ok h
      obtain ⟨rest', hc, h⟩ := bind_eq_ok h
      cases h
      obtain ⟨items, w, hw, rfl⟩ := hr.sound (Fields.readRow_ok hv hc)
      exact ⟨_, _, .list hw, by simp⟩
    · obtain ⟨⟨sofar, rest'⟩, ho, h⟩ := bind_eq_ok h
      obtain ⟨values, _, h⟩ := bind_eq_ok h
      cases h
      obtain ⟨members, w, hw, rfl⟩ := readObject_sound hm ho
      exact ⟨_, _, .object hw, by simp⟩
    · cases h

end

mutual

theorem Shape.reads : {α : Type} → (shape : Shape α) → Reads shape.read shape.decode
  | _, .text => reads_text "a string"
  | _, .natural limit name => reads_natural limit name
  | _, .choice names => reads_choice names
  | _, .anything levels => Json.reads_value levels
  | _, .list item => Shape.reads_list item.reads
  | _, .nullable inner => Shape.reads_nullable inner.reads
  | _, .record name fields make => Shape.reads_record name make fields.readsRow fields.reads

theorem Fields.readsRow : {δ α : Type} → (fields : Fields δ α) → fields.ReadsRow
  | _, _, .done => Fields.readsRow_done
  | _, _, .field _ _ shape rest => Fields.readsRow_field shape.reads rest.readsRow

theorem Fields.reads : {δ α : Type} → (fields : Fields δ α) → ∀ sofar key,
    Reads (fields.readMember sofar key) (fields.put sofar key)
  | _, _, .done => Fields.reads_done
  | _, _, .field _ _ shape rest => Fields.reads_field shape.reads rest.reads

end

end ApiReference
