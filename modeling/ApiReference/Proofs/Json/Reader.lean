import ApiReference.Json.Reader
import ApiReference.Proofs.Json.Skip
import Mathlib.Data.List.DropRight

/-! What the readers of lists, objects and data trees make of a text depends on the tree alone that
the text spells, and they take nothing but spellings of trees. -/

namespace ApiReference

open Lexeme Json

structure Reads {α : Type} (reader : List Char → Except ReadError (α × List Char)) (decode : Tree → Option α) :
    Prop where
  exact : ∀ {v : Tree} {cs rest : List Char}, Front Spelled v cs rest → Ends v rest →
    (reader cs).toOption = (decode v).map (·, rest)
  sound : ∀ {cs rest : List Char} {a : α}, reader cs = .ok (a, rest) → ∃ v, Front Spelled v cs rest

lemma Reads.exact_spelled {α : Type} {reader : List Char → Except ReadError (α × List Char)}
    {decode : Tree → Option α} (h : Reads reader decode) {v : Tree} {w rest : List Char} (hw : Spelled v w)
    (hr : Stops rest) : (reader (w ++ rest)).toOption = (decode v).map (·, rest) :=
  h.exact ⟨[], w, blank_nil, hw, rfl⟩ hr.ends

lemma toOption_made {α β : Type} {x : Except ReadError (α × List Char)} {a : Option α} {rest : List Char}
    (h : x.toOption = a.map (·, rest)) (make : α → β) :
    (x >>= fun y => pure (make y.1, y.2)).toOption = (a.map make).map (·, rest) := by
  rw [toOption_bind, h]
  cases a <;> rfl

lemma Reads.map {α β : Type} {reader : List Char → Except ReadError (α × List Char)} {decode : Tree → Option α}
    (h : Reads reader decode) (make : α → β) :
    Reads (fun cs => reader cs >>= fun x => pure (make x.1, x.2)) (fun v => (decode v).map make) where
  exact hv hr := toOption_made (h.exact hv hr) make
  sound := by
    intro cs rest b hb
    obtain ⟨⟨a, rest'⟩, ha, hb⟩ := bind_eq_ok hb
    cases hb
    exact h.sound ha

lemma dropBlank_dropBlank (cs : List Char) : dropBlank (dropBlank cs) = dropBlank cs :=
  List.dropWhile_idempotent isBlank cs

lemma Json.Front.dropBlank {v : Tree} {cs rest : List Char} (h : Front Spelled v cs rest) :
    ∃ w, Spelled v w ∧ dropBlank cs = w ++ rest := by
  obtain ⟨before, w, hb, hw, rfl⟩ := h
  obtain ⟨c, cs, rfl, hc⟩ := hw.head
  exact ⟨c :: cs, hw, dropBlank_gap hb hc.not_blank (cs ++ rest)⟩

lemma Reads.of_unblanked {α : Type} {reader : List Char → Except ReadError (α × List Char)}
    {decode : Tree → Option α} (blank : ∀ cs, reader (dropBlank cs) = reader cs)
    (exact : ∀ {v : Tree} {w rest : List Char}, Spelled v w → Ends v rest →
      (reader (w ++ rest)).toOption = (decode v).map (·, rest))
    (sound : ∀ {cs rest : List Char} {a : α}, dropBlank cs = cs → reader cs = .ok (a, rest) →
      ∃ v w, Spelled v w ∧ cs = w ++ rest) : Reads reader decode where
  exact := by
    intro v cs rest hv hr
    obtain ⟨w, hw, hd⟩ := hv.dropBlank
    rw [← blank, hd]
    exact exact hw hr
  sound := by
    intro cs rest a h
    rw [← blank] at h
    obtain ⟨v, w, hw, he⟩ := sound (dropBlank_dropBlank cs) h
    obtain ⟨gap, hg, hcs⟩ := exists_blank cs
    exact ⟨v, gap, w, hg, hw, by rw [← he]; exact hcs⟩

/-! ### Lists -/

lemma behindEnd_append {gap : List Char} (hg : Blank gap) {c : Char} (hc : isBlank c = false) (rest : List Char) :
    behindEnd (gap ++ c :: rest) = rest := by
  rw [behindEnd, dropBlank_gap hg hc]
  rfl

lemma nextItem_end {gap : List Char} (hg : Blank gap) (first : Bool) (rest : List Char) :
    nextItem first (gap ++ ']' :: rest) = .ok none := by
  unfold nextItem
  rw [dropBlank_gap hg (by decide)]
  cases first <;> rfl

lemma nextItem_first {before : List Char} (hb : Blank before) {v : Tree} {w : List Char} (hw : Spelled v w)
    (rest : List Char) : nextItem true (before ++ (w ++ rest)) = .ok (some (w ++ rest)) := by
  obtain ⟨c, cs, rfl, hc⟩ := hw.head
  have hne : c ≠ ']' := hc.ne (by decide)
  unfold nextItem
  rw [List.cons_append, dropBlank_gap hb hc.not_blank]
  split <;> simp_all

lemma nextItem_comma {before behind : List Char} (hb : Blank before) (hb' : Blank behind) {v : Tree}
    {w : List Char} (hw : Spelled v w) (rest : List Char) :
    nextItem false (before ++ ',' :: (behind ++ (w ++ rest))) = .ok (some (w ++ rest)) := by
  obtain ⟨c, cs, rfl, hc⟩ := hw.head
  have hne : c ≠ ']' := hc.ne (by decide)
  unfold nextItem
  rw [dropBlank_gap hb (by decide)]
  simp only
  rw [List.cons_append, dropBlank_gap hb' hc.not_blank]
  split <;> simp_all

lemma nextItem_none {first : Bool} {cs : List Char} (h : nextItem first cs = .ok none) :
    ∃ gap, Blank gap ∧ cs = gap ++ ']' :: behindEnd cs := by
  obtain ⟨gap, hg, he⟩ := exists_blank cs
  unfold nextItem at h
  split at h
  · cases h
  · next rest hd =>
    rw [hd] at he
    exact ⟨gap, hg, by rw [behindEnd, hd]; exact he⟩
  · cases h
  · split at h <;> cases h
  · cases h

lemma nextItem_some_first {cs cs' : List Char} (h : nextItem true cs = .ok (some cs')) :
    ∃ before, Blank before ∧ cs = before ++ cs' := by
  obtain ⟨gap, hg, he⟩ := exists_blank cs
  unfold nextItem at h
  split at h
  · cases h
  · cases h
  · next hd _ =>
    cases h
    exact ⟨gap, hg, by rw [← hd]; exact he⟩
  · simp at *
  · simp at *

lemma nextItem_some {cs cs' : List Char} (h : nextItem false cs = .ok (some cs')) :
    ∃ before behind, Blank before ∧ Blank behind ∧ cs = before ++ ',' :: (behind ++ cs') := by
  obtain ⟨gap, hg, he⟩ := exists_blank cs
  unfold nextItem at h
  split at h
  · cases h
  · cases h
  · simp at *
  · next rest hd _ =>
    obtain ⟨behind, hb, he'⟩ := exists_blank rest
    split at h
    · cases h
    · cases h
    · cases h
      exact ⟨gap, behind, hg, hb, by rw [← he', ← hd]; exact he⟩
  · cases h

section

variable {α : Type} {item : List Char → Except ReadError (α × List Char)} {decode : Tree → Option α}

lemma readItems_end {first : Bool} {cs : List Char} (h : nextItem first cs = .ok none) (rounds : ℕ) :
    readItems item (rounds + 1) first cs = .ok ([], behindEnd cs) := by
  rw [readItems, h]
  rfl

lemma readItems_next {first : Bool} {cs cs' : List Char} (h : nextItem first cs = .ok (some cs')) (rounds : ℕ) :
    readItems item (rounds + 1) first cs =
      item cs' >>= fun x => readItems item rounds false x.2 >>= fun y => pure (x.1 :: y.1, y.2) := by
  rw [readItems, h]
  rfl

lemma readItems_item (hi : Reads item decode) {first : Bool} {cs w tail rest : List Char} {v : Tree}
    {vs : List Tree} {rounds : ℕ} (hn : nextItem first cs = .ok (some (w ++ tail))) (hv : Spelled v w)
    (hs : Stops tail) (ih : (readItems item rounds false tail).toOption = (vs.mapM decode).map (·, rest)) :
    (readItems item (rounds + 1) first cs).toOption = ((v :: vs).mapM decode).map (·, rest) := by
  rw [readItems_next hn, toOption_bind, hi.exact_spelled hv hs, List.mapM_cons]
  cases decode v with
  | none => rfl
  | some a =>
    change (readItems item rounds false tail >>= fun y => pure (a :: y.1, y.2)).toOption = _
    rw [toOption_bind, ih]
    cases vs.mapM decode <;> rfl

lemma readItems_trailing (hi : Reads item decode) {items : List Tree} {w : List Char}
    (h : Trailing Spelled items w) {rounds : ℕ} (hn : w.length < rounds) (rest : List Char) :
    (readItems item rounds false (w ++ ']' :: rest)).toOption = (items.mapM decode).map (·, rest) := by
  -- each comma leaves a shorter text, so the rounds cannot run out before the list does
  obtain ⟨rounds, rfl⟩ := Nat.exists_eq_add_one_of_ne_zero (Nat.ne_zero_of_lt hn)
  induction h generalizing rounds with
  | nil hg =>
    rw [readItems_end (nextItem_end hg false rest), behindEnd_append hg (by decide)]
    rfl
  | @cons before behind v w vs ws hb hb' hv ht ih =>
    simp only [List.length_append, List.length_cons] at hn
    obtain ⟨rounds, rfl⟩ := Nat.exists_eq_add_one_of_ne_zero (by omega : rounds ≠ 0)
    simp only [List.append_assoc, List.cons_append]
    exact readItems_item hi (nextItem_comma hb hb' hv _) hv (ht.stops (Or.inl rfl) rest) (ih rounds (by omega))

theorem readList_exact (hi : Reads item decode) {items : List Tree} {w : List Char}
    (h : Listed Spelled items w) (rest : List Char) :
    (readList item (w ++ ']' :: rest)).toOption = (items.mapM decode).map (·, rest) := by
  rw [readList]
  cases h with
  | empty hg =>
    rw [readItems_end (nextItem_end hg true rest), behindEnd_append hg (by decide)]
    rfl
  | @items before v w vs ws hb hv ht =>
    simp only [List.append_assoc]
    refine readItems_item hi (nextItem_first hb hv _) hv (ht.stops (Or.inl rfl) rest) ?_
    exact readItems_trailing hi ht (by simp only [List.length_append, List.length_cons]; omega) rest

lemma readItems_ok {first : Bool} {rounds : ℕ} {cs rest : List Char} {as : List α}
    (h : readItems item (rounds + 1) first cs = .ok (as, rest)) :
    nextItem first cs = .ok none ∧ rest = behindEnd cs ∨
      ∃ cs' a tail bs, nextItem first cs = .ok (some cs') ∧ item cs' = .ok (a, tail) ∧
        readItems item rounds false tail = .ok (bs, rest) := by
  cases hn : nextItem first cs with
  | error e =>
    rw [readItems, hn] at h
    cases h
  | ok next =>
    cases next with
    | none =>
      rw [readItems_end hn] at h
      cases h
      exact Or.inl ⟨rfl, rfl⟩
    | some cs' =>
      rw [readItems_next hn] at h
      obtain ⟨⟨a, tail⟩, ha, h⟩ := bind_eq_ok h
      obtain ⟨⟨bs, rest'⟩, hb, h⟩ := bind_eq_ok h
      cases h
      exact Or.inr ⟨cs', a, tail, bs, rfl, ha, hb⟩

lemma readItems_sound (hi : Reads item decode) {rounds : ℕ} {cs rest : List Char} {as : List α}
    (h : readItems item rounds false cs = .ok (as, rest)) :
    ∃ vs w, Trailing Spelled vs w ∧ cs = w ++ ']' :: rest := by
  induction rounds generalizing cs as with
  | zero => cases h
  | succ rounds ih =>
    obtain ⟨hn, rfl⟩ | ⟨cs', a, tail, bs, hn, ha, hb⟩ := readItems_ok h
    · obtain ⟨gap, hg, he⟩ := nextItem_none hn
      exact ⟨[], gap, .nil hg, he⟩
    · obtain ⟨before, behind, hbefore, hbehind, rfl⟩ := nextItem_some hn
      obtain ⟨v, gap, w, hg, hw, rfl⟩ := hi.sound ha
      obtain ⟨vs, ws, ht, rfl⟩ := ih hb
      exact ⟨v :: vs, _, .cons hbefore (hbehind.append hg) hw ht, by simp⟩

theorem readList_sound (hi : Reads item decode) {cs rest : List Char} {as : List α}
    (h : readList item cs = .ok (as, rest)) : ∃ vs w, Listed Spelled vs w ∧ cs = w ++ ']' :: rest := by
  obtain ⟨hn, rfl⟩ | ⟨cs', a, tail, bs, hn, ha, hb⟩ := readItems_ok h
  · obtain ⟨gap, hg, he⟩ := nextItem_none hn
    exact ⟨[], gap, .empty hg, he⟩
  · obtain ⟨before, hbefore, rfl⟩ := nextItem_some_first hn
    obtain ⟨v, gap, w, hg, hw, rfl⟩ := hi.sound ha
    obtain ⟨vs, ws, ht, rfl⟩ := readItems_sound hi hb
    exact ⟨v :: vs, _, .items (hbefore.append hg) hw ht, by simp⟩

end

/-! ### Objects -/

lemma nextKey_end {gap : List Char} (hg : Blank gap) (first : Bool) (rest : List Char) :
    nextKey first (gap ++ '\x7d' :: rest) = .ok none := by
  unfold nextKey
  rw [dropBlank_gap hg (by decide)]
  cases first <;> rfl

lemma nextKey_first {before : List Char} (hb : Blank before) (rest : List Char) :
    nextKey true (before ++ '"' :: rest) = .ok (some rest) := by
  unfold nextKey
  rw [dropBlank_gap hb (by decide)]
  rfl

lemma nextKey_comma {before behind : List Char} (hb : Blank before) (hb' : Blank behind) (rest : List Char) :
    nextKey false (before ++ ',' :: (behind ++ '"' :: rest)) = .ok (some rest) := by
  unfold nextKey
  rw [dropBlank_gap hb (by decide)]
  simp only
  rw [dropBlank_gap hb' (by decide)]
  rfl

lemma nextKey_none {first : Bool} {cs : List Char} (h : nextKey first cs = .ok none) :
    ∃ gap, Blank gap ∧ cs = gap ++ '\x7d' :: behindEnd cs := by
  obtain ⟨gap, hg, he⟩ := exists_blank cs
  unfold nextKey at h
  split at h
  · cases h
  · next rest hd =>
    rw [hd] at he
    exact ⟨gap, hg, by rw [behindEnd, hd]; exact he⟩
  · cases h
  · cases h
  · split at h <;> cases h
  · cases h

lemma nextKey_some_first {cs cs' : List Char} (h : nextKey true cs = .ok (some cs')) :
    ∃ before, Blank before ∧ cs = before ++ '"' :: cs' := by
  obtain ⟨gap, hg, he⟩ := exists_blank cs
  unfold nextKey at h
  split at h
  · cases h
  · cases h
  · next hd _ =>
    cases h
    exact ⟨gap, hg, by rw [← hd]; exact he⟩
  · cases h
  · simp at *
  · simp at *

lemma nextKey_some {cs cs' : List Char} (h : nextKey false cs = .ok (some cs')) :
    ∃ before behind, Blank before ∧ Blank behind ∧ cs = before ++ ',' :: (behind ++ '"' :: cs') := by
  obtain ⟨gap, hg, he⟩ := exists_blank cs
  unfold nextKey at h
  split at h
  · cases h
  · cases h
  · simp at *
  · simp at *
  · next rest hd _ =>
    obtain ⟨behind, hb, he'⟩ := exists_blank rest
    split at h
    · cases h
    · next hq =>
      cases h
      exact ⟨gap, behind, hg, hb, by rw [← hq, ← he', ← hd]; exact he⟩
    · cases h
    · cases h
  · cases h

def addMember {δ : Type} (accept : δ → String → Except ReadError Unit) (put : δ → String → Tree → Option δ)
    (sofar : δ) (member : Option String × Tree) : Option δ :=
  member.1.bind fun key => (accept sofar key).toOption.bind fun _ => put sofar key member.2

section

variable {δ : Type} {accept : δ → String → Except ReadError Unit}
  {member : δ → String → List Char → Except ReadError (δ × List Char)} {put : δ → String → Tree → Option δ}

lemma addMember_some (sofar : δ) (key : String) (v : Tree) :
    addMember accept put sofar (some key, v) = (accept sofar key).toOption.bind fun _ => put sofar key v := rfl

lemma readMembers_end {first : Bool} {cs : List Char} (h : nextKey first cs = .ok none) (rounds : ℕ) (sofar : δ) :
    readMembers accept member (rounds + 1) first sofar cs = .ok (sofar, behindEnd cs) := by
  rw [readMembers, h]
  rfl

lemma readMembers_next {first : Bool} {cs cs' : List Char} (h : nextKey first cs = .ok (some cs')) (rounds : ℕ)
    (sofar : δ) : readMembers accept member (rounds + 1) first sofar cs =
      Lexeme.text cs' >>= fun x => accept sofar x.1 >>= fun _ => Lexeme.colon x.2 >>= fun cs =>
        member sofar x.1 cs >>= fun y => readMembers accept member rounds false y.1 y.2 := by
  rw [readMembers, h]
  rfl

lemma readMembers_member (hm : ∀ sofar key, Reads (member sofar key) (put sofar key)) {first : Bool}
    {key : Option String} {cs k before behind w tail rest : List Char} {v : Tree}
    {ms : List (Option String × Tree)} {rounds : ℕ} {sofar : δ}
    (hn : nextKey first cs = .ok (some (k ++ '"' :: (before ++ ':' :: (behind ++ (w ++ tail))))))
    (hk : SpelledText key k) (hb : Blank before) (hb' : Blank behind) (hv : Spelled v w) (hs : Stops tail)
    (ih : ∀ sofar, (readMembers accept member rounds false sofar tail).toOption =
      (ms.foldlM (addMember accept put) sofar).map (·, rest)) :
    (readMembers accept member (rounds + 1) first sofar cs).toOption =
      (((key, v) :: ms).foldlM (addMember accept put) sofar).map (·, rest) := by
  rw [readMembers_next hn, toOption_bind, text_exact hk, List.foldlM_cons]
  cases key with
  | none => rfl
  | some key =>
    change (accept sofar key >>= fun _ => _).toOption = _
    rw [toOption_bind, addMember_some]
    cases accept sofar key with
    | error e => rfl
    | ok _ =>
      change (Lexeme.colon (before ++ ':' :: (behind ++ (w ++ tail))) >>= fun cs =>
        member sofar key cs >>= fun y => readMembers accept member rounds false y.1 y.2).toOption = _
      rw [colon_append hb]
      change (member sofar key (behind ++ (w ++ tail)) >>= fun y =>
        readMembers accept member rounds false y.1 y.2).toOption = _
      rw [toOption_bind, (hm sofar key).exact ⟨behind, w, hb', hv, rfl⟩ hs.ends]
      change _ = (put sofar key v >>= fun sofar => ms.foldlM (addMember accept put) sofar).map (·, rest)
      cases put sofar key v with
      | none => rfl
      | some next => exact ih next

lemma readMembers_trailing (hm : ∀ sofar key, Reads (member sofar key) (put sofar key))
    {members : List (Option String × Tree)} {w : List Char} (h : Trailing (SpelledMember Spelled) members w)
    {rounds : ℕ} (hn : w.length < rounds) (sofar : δ) (rest : List Char) :
    (readMembers accept member rounds false sofar (w ++ '\x7d' :: rest)).toOption =
      (members.foldlM (addMember accept put) sofar).map (·, rest) := by
  obtain ⟨rounds, rfl⟩ := Nat.exists_eq_add_one_of_ne_zero (Nat.ne_zero_of_lt hn)
  induction h generalizing rounds sofar with
  | nil hg =>
    rw [readMembers_end (nextKey_end hg false rest), behindEnd_append hg (by decide)]
    rfl
  | @cons before behind m w ms ws hb hb' hw ht ih =>
    cases hw with
    | @pair key k gap gap' v w hk hg hg' hv =>
      simp only [List.length_append, List.length_cons] at hn
      obtain ⟨rounds, rfl⟩ := Nat.exists_eq_add_one_of_ne_zero (by omega : rounds ≠ 0)
      simp only [List.append_assoc, List.cons_append]
      exact readMembers_member hm (nextKey_comma hb hb' _) hk hg hg' hv (ht.stops (Or.inr rfl) rest)
        fun sofar => ih sofar rounds (by omega)

theorem readObject_exact (hm : ∀ sofar key, Reads (member sofar key) (put sofar key))
    {members : List (Option String × Tree)} {w : List Char} (h : Listed (SpelledMember Spelled) members w)
    (start : δ) (rest : List Char) : (readObject accept member start (w ++ '\x7d' :: rest)).toOption =
      (members.foldlM (addMember accept put) start).map (·, rest) := by
  rw [readObject]
  cases h with
  | empty hg =>
    rw [readMembers_end (nextKey_end hg true rest), behindEnd_append hg (by decide)]
    rfl
  | @items before m w ms ws hb hw ht =>
    cases hw with
    | @pair key k gap gap' v w hk hg hg' hv =>
      simp only [List.append_assoc, List.cons_append]
      refine readMembers_member hm (nextKey_first hb _) hk hg hg' hv (ht.stops (Or.inr rfl) rest) fun sofar => ?_
      exact readMembers_trailing hm ht (by simp only [List.length_append, List.length_cons]; omega) sofar rest

lemma readMembers_ok (hm : ∀ sofar key, Reads (member sofar key) (put sofar key)) {first : Bool} {rounds : ℕ}
    {sofar result : δ} {cs rest : List Char}
    (h : readMembers accept member (rounds + 1) first sofar cs = .ok (result, rest)) :
    nextKey first cs = .ok none ∧ rest = behindEnd cs ∨
      ∃ m next w tail, nextKey first cs = .ok (some (w ++ tail)) ∧ SpelledMember Spelled m ('"' :: w) ∧
        readMembers accept member rounds false next tail = .ok (result, rest) := by
  cases hn : nextKey first cs with
  | error e =>
    rw [readMembers, hn] at h
    cases h
  | ok next =>
    cases next with
    | none =>
      rw [readMembers_end hn] at h
      cases h
      exact Or.inl ⟨rfl, rfl⟩
    | some cs' =>
      rw [readMembers_next hn] at h
      obtain ⟨⟨key, cs₁⟩, ht, h⟩ := bind_eq_ok h
      obtain ⟨_, _, h⟩ := bind_eq_ok h
      obtain ⟨cs₂, hc, h⟩ := bind_eq_ok h
      obtain ⟨⟨next, tail⟩, hv, hr⟩ := bind_eq_ok h
      obtain ⟨k, hk, rfl⟩ := text_sound ht
      obtain ⟨before, hb, rfl⟩ := eq_of_colon hc
      obtain ⟨v, behind, w, hb', hw, rfl⟩ := (hm sofar key).sound hv
      exact Or.inr ⟨(some key, v), next, _, tail, by simp, .pair hk hb hb' hw, hr⟩

lemma readMembers_sound (hm : ∀ sofar key, Reads (member sofar key) (put sofar key)) {rounds : ℕ}
    {sofar result : δ} {cs rest : List Char}
    (h : readMembers accept member rounds false sofar cs = .ok (result, rest)) :
    ∃ ms w, Trailing (SpelledMember Spelled) ms w ∧ cs = w ++ '\x7d' :: rest := by
  induction rounds generalizing cs sofar with
  | zero => cases h
  | succ rounds ih =>
    obtain ⟨hn, rfl⟩ | ⟨m, next, w, tail, hn, hw, hr⟩ := readMembers_ok hm h
    · obtain ⟨gap, hg, he⟩ := nextKey_none hn
      exact ⟨[], gap, .nil hg, he⟩
    · obtain ⟨before, behind, hbefore, hbehind, rfl⟩ := nextKey_some hn
      obtain ⟨ms, ws, ht, rfl⟩ := ih hr
      exact ⟨m :: ms, _, .cons hbefore hbehind hw ht, by simp⟩

theorem readObject_sound (hm : ∀ sofar key, Reads (member sofar key) (put sofar key)) {start result : δ}
    {cs rest : List Char} (h : readObject accept member start cs = .ok (result, rest)) :
    ∃ ms w, Listed (SpelledMember Spelled) ms w ∧ cs = w ++ '\x7d' :: rest := by
  obtain ⟨hn, rfl⟩ | ⟨m, next, w, tail, hn, hw, hr⟩ := readMembers_ok hm h
  · obtain ⟨gap, hg, he⟩ := nextKey_none hn
    exact ⟨[], gap, .empty hg, he⟩
  · obtain ⟨before, hbefore, rfl⟩ := nextKey_some_first hn
    obtain ⟨ms, ws, ht, rfl⟩ := readMembers_sound hm hr
    exact ⟨m :: ms, _, .items hbefore hw ht, by simp⟩

end

/-! ### Data trees -/

namespace Json

def ofTree? : ℕ → Tree → Option Json
  | _, .null => some .null
  | _, .bool value => some (.bool value)
  | _, .number n => n.value.toOption.map .number
  | _, .text s => s.map .text
  | 0, .list _ => none
  | levels + 1, .list items => (items.mapM (ofTree? levels)).map .list
  | 0, .object _ => none
  | levels + 1, .object members =>
    (members.foldlM (addMember (fun _ _ => .ok ()) fun sofar key v =>
      (ofTree? levels v).map fun value => setMember key value sofar) []).map .object

lemma readValue_text (levels : ℕ) (cs : List Char) : readValue levels ('"' :: cs) =
    Lexeme.text cs >>= fun x => pure (.text x.1, x.2) := by
  unfold readValue
  rw [dropBlank_cons (by decide)]
  rfl

lemma readValue_list (levels : ℕ) (cs : List Char) : readValue (levels + 1) ('[' :: cs) =
    readList (readValue levels) cs >>= fun x => pure (.list x.1, x.2) := by
  unfold readValue
  rw [dropBlank_cons (by decide)]
  rfl

lemma readValue_object (levels : ℕ) (cs : List Char) : readValue (levels + 1) ('\x7b' :: cs) =
    readObject (fun _ _ => .ok ()) (fun sofar key cs => readValue levels cs >>= fun x =>
      pure (setMember key x.1 sofar, x.2)) [] cs >>= fun x => pure (.object x.1, x.2) := by
  rw [readValue]
  rw [dropBlank_cons (by decide)]
  rfl

lemma readValue_number (levels : ℕ) {n : Numeral} {c : Char} (hc : (Tree.number n).Starts c) (cs : List Char) :
    readValue levels (c :: cs) = Lexeme.number (c :: cs) >>= fun x => pure (.number x.1, x.2) := by
  unfold readValue
  rw [dropBlank_cons hc.not_blank]
  split
  · next he => cases he
  · next he => exact absurd (List.cons.inj he).1 (numeric_ne hc (by decide) (by decide))
  · next he => exact absurd (List.cons.inj he).1 (numeric_ne hc (by decide) (by decide))
  · next he => exact absurd (List.cons.inj he).1 (numeric_ne hc (by decide) (by decide))
  · next he => exact absurd (List.cons.inj he).1 (numeric_ne hc (by decide) (by decide))
  · next he => exact absurd (List.cons.inj he).1 (numeric_ne hc (by decide) (by decide))
  · next he => exact absurd (List.cons.inj he).1 (numeric_ne hc (by decide) (by decide))
  · next he =>
    cases he
    rw [if_pos (by simpa [Tree.Starts] using hc)]

theorem reads_value (levels : ℕ) : Reads (readValue levels) (ofTree? levels) := by
  -- on the levels, as every list or object inside is read with one less
  induction levels using Nat.strong_induction_on with
  | _ levels ih =>
  refine .of_unblanked (fun cs => by unfold readValue; rw [dropBlank_dropBlank]) ?_ ?_
  · intro v w rest hw hr
    cases hw with
    | null =>
      rw [readValue, ofTree?]
      rfl
    | isTrue =>
      rw [readValue, ofTree?]
      rfl
    | isFalse =>
      rw [readValue, ofTree?]
      rfl
    | number hn =>
      have hx := number_append hn hr
      obtain ⟨c, cs, rfl, hc⟩ := (Spelled.number hn).head
      rw [List.cons_append] at hx ⊢
      rw [readValue_number levels hc, ofTree?]
      exact toOption_made hx _
    | text ht =>
      simp only [List.cons_append, List.append_assoc, List.nil_append]
      rw [readValue_text, ofTree?]
      exact toOption_made (text_exact ht rest) _
    | list hl =>
      cases levels with
      | zero => rfl
      | succ levels =>
        simp only [List.cons_append, List.append_assoc, List.nil_append]
        rw [readValue_list, ofTree?]
        exact toOption_made (readList_exact (ih levels (by omega)) hl rest) _
    | object hl =>
      cases levels with
      | zero => rfl
      | succ levels =>
        simp only [List.cons_append, List.append_assoc, List.nil_append]
        rw [readValue_object, ofTree?]
        have hm := fun sofar key => (ih levels (by omega)).map fun value => setMember key value sofar
        exact toOption_made (readObject_exact hm hl [] rest) _
  · intro cs rest a hd h
    unfold readValue at h
    rw [hd] at h
    split at h
    · cases h
    · obtain ⟨rest', hw, h⟩ := bind_eq_ok h
      cases h
      rw [eq_of_word hw]
      exact ⟨_, _, .null, rfl⟩
    · obtain ⟨rest', hw, h⟩ := bind_eq_ok h
      cases h
      rw [eq_of_word hw]
      exact ⟨_, _, .isTrue, rfl⟩
    · obtain ⟨rest', hw, h⟩ := bind_eq_ok h
      cases h
      rw [eq_of_word hw]
      exact ⟨_, _, .isFalse, rfl⟩
    · obtain ⟨⟨s, rest'⟩, ht, h⟩ := bind_eq_ok h
      cases h
      obtain ⟨w, hw, rfl⟩ := text_sound ht
      exact ⟨_, _, .text hw, by simp⟩
    · cases levels with
      | zero => cases h
      | succ levels =>
        obtain ⟨⟨items, rest'⟩, hl, h⟩ := bind_eq_ok h
        cases h
        obtain ⟨vs, w, hw, rfl⟩ := readList_sound (ih levels (by omega)) hl
        exact ⟨_, _, .list hw, by simp⟩
    · cases levels with
      | zero => cases h
      | succ levels =>
        obtain ⟨⟨members, rest'⟩, ho, h⟩ := bind_eq_ok h
        cases h
        have hm := fun sofar key => (ih levels (by omega)).map fun value => setMember key value sofar
        obtain ⟨ms, w, hw, rfl⟩ := readObject_sound hm ho
        exact ⟨_, _, .object hw, by simp⟩
    · split at h
      · obtain ⟨⟨n, rest'⟩, hn, h⟩ := bind_eq_ok h
        cases h
        obtain ⟨n, w, hw, he⟩ := number_sound hn
        exact ⟨_, w, .number hw, he⟩
      · cases h

end Json

/-! ### Documents -/

section

variable {α : Type} {reader : List Char → Except ReadError (α × List Char)} {decode : Tree → Option α}

lemma readDocument_iff {s : String} {a : α} :
    readDocument reader s = .ok a ↔ ∃ behind, reader s.toList = .ok (a, behind) ∧ Blank behind := by
  constructor
  · intro h
    obtain ⟨⟨b, behind⟩, hr, h⟩ := bind_eq_ok h
    dsimp only at h
    split at h
    · next hb =>
      cases h
      exact ⟨behind, hr, (dropBlank_eq_nil behind).mp hb⟩
    · cases h
  · rintro ⟨behind, hr, hb⟩
    rw [readDocument, hr]
    dsimp only [bind, Except.bind]
    rw [(dropBlank_eq_nil behind).mpr hb]
    rfl

theorem Reads.document_exact (h : Reads reader decode) {v : Tree} {s : String} (hd : Document v s) (a : α) :
    readDocument reader s = .ok a ↔ decode v = some a := by
  obtain ⟨before, w, behind, hb, hw, hb', hs⟩ := hd
  have hr := h.exact ⟨before, w, hb, hw, hs⟩ hb'.stops.ends
  rw [readDocument_iff]
  constructor
  · rintro ⟨rest, ha, _⟩
    rw [toOption_eq_some.mpr ha] at hr
    obtain ⟨b, hb, he⟩ := Option.map_eq_some_iff.mp hr.symm
    cases he
    exact hb
  · intro ha
    rw [ha] at hr
    exact ⟨behind, toOption_eq_some.mp hr, hb'⟩

theorem Reads.document_sound (h : Reads reader decode) {s : String} {a : α} (ha : readDocument reader s = .ok a) :
    ∃ v, Document v s := by
  obtain ⟨behind, hr, hb⟩ := readDocument_iff.mp ha
  obtain ⟨v, before, w, hbefore, hw, he⟩ := h.sound hr
  exact ⟨v, before, w, behind, hbefore, hw, hb, he⟩

end

end ApiReference
