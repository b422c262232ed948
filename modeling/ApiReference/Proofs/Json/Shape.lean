import ApiReference.Json.ShapeReader
import ApiReference.Proofs.Json.Reader

/-! Reading a document by its shape, and decoding its tree by the same shape, come to the same. -/

namespace ApiReference

open Lexeme Json

namespace Json.Tree

def text? : Tree → Option String
  | .text s => s
  | _ => none

def natural? (limit : ℕ) : Tree → Option ℕ
  | .number n => n.value.toOption.bind fun
    | .integer (.ofNat m) => if m < limit then some m else none
    | _ => none
  | _ => none

def choice? {α : Type} (names : List (String × α)) : Tree → Option α
  | .text s => s.bind fun name => (findChoice names name).toOption
  | .object [(key, .null)] => key.bind fun name => (findChoice names name).toOption
  | _ => none

def list? {α : Type} (decode : Tree → Option α) : Tree → Option (List α)
  | .list items => items.mapM decode
  | _ => none

def nullable? {α : Type} (decode : Tree → Option α) : Tree → Option (Option α)
  | .null => some none
  | v => (decode v).map some

end Json.Tree

def Presence.default? {α : Type} : Presence α → Option α
  | .required => none
  | .optional default => some default
  | .optionalByName default => some default

def Presence.defaultAtEnd? {α : Type} : Presence α → Option α
  | .optional default => some default
  | _ => none

mutual

def Shape.decode : {α : Type} → Shape α → Tree → Option α
  | _, .text, v => v.text?
  | _, .natural limit _, v => v.natural? limit
  | _, .choice names, v => v.choice? names
  | _, .anything levels, v => Json.ofTree? levels v
  | _, .list item, v => v.list? fun v => item.decode v
  | _, .nullable inner, v => v.nullable? fun v => inner.decode v
  | _, .record _ fields make, v =>
    match v with
    | .list items => (fields.decodeInOrder items).map make
    | .object members =>
      ((members.foldlM (addMember fields.accept fun sofar key v => fields.put sofar key v) fields.unread).bind
        fun sofar => (fields.complete sofar).toOption).map make
    | _ => none

def Fields.put : {δ α : Type} → Fields δ α → δ → String → Tree → Option δ
  | _, _, .done, _, _, _ => some ()
  | _, _, .field key _ shape rest, (value, others), k, v =>
    if key = k then (shape.decode v).map fun value => (some value, others)
    else (rest.put others k v).map fun others => (value, others)

def Fields.decodeInOrder : {δ α : Type} → Fields δ α → List Tree → Option α
  | _, _, .done, [] => some ()
  | _, _, .done, _ :: _ => none
  | _, _, .field _ presence _ rest, [] =>
    presence.defaultAtEnd?.bind fun value => (rest.decodeInOrder []).map fun others => (value, others)
  | _, _, .field _ _ shape rest, v :: vs =>
    (shape.decode v).bind fun value => (rest.decodeInOrder vs).map fun others => (value, others)

end

/-! ### Single values -/

lemma readText_blank (expected : String) (cs : List Char) :
    readText expected (dropBlank cs) = readText expected cs := by
  unfold readText
  rw [dropBlank_dropBlank]

lemma readText_quote (expected : String) (cs : List Char) : readText expected ('"' :: cs) = Lexeme.text cs := by
  unfold readText
  rw [dropBlank_cons (by decide)]
  rfl

lemma readText_other (expected : String) {c : Char} (hb : isBlank c = false) (hc : c ≠ '"') (cs : List Char) :
    (readText expected (c :: cs)).toOption = none := by
  unfold readText
  rw [dropBlank_cons hb]
  split
  · next he => exact absurd (List.cons.inj he).1 hc
  · rfl

lemma eq_of_readText {expected s : String} {cs rest : List Char} (h : readText expected cs = .ok (s, rest)) :
    ∃ gap w, Blank gap ∧ SpelledText (some s) w ∧ cs = gap ++ '"' :: (w ++ '"' :: rest) := by
  obtain ⟨gap, hg, he⟩ := exists_blank cs
  unfold readText at h
  split at h
  · next hd =>
    obtain ⟨w, hw, rfl⟩ := text_sound h
    exact ⟨gap, w, hg, hw, by rw [← hd]; exact he⟩
  · cases h

theorem reads_text (expected : String) : Reads (readText expected) Tree.text? := by
  refine .of_unblanked (readText_blank expected) ?_ ?_
  · intro v w rest hw _
    cases hw with
    | text ht =>
      simp only [List.cons_append, List.append_assoc, List.nil_append]
      rw [readText_quote]
      exact text_exact ht rest
    | @number n w hn =>
      obtain ⟨c, cs, rfl, hc⟩ := (Spelled.number hn).head
      exact readText_other expected hc.not_blank (numeric_ne hc (by decide) (by decide)) _
    | _ => rfl
  · intro cs rest s hd h
    obtain ⟨gap, w, hg, hw, rfl⟩ := eq_of_readText h
    rw [dropBlank_gap hg (by decide)] at hd
    exact ⟨_, _, .text hw, by rw [← hd]; simp⟩

lemma readNatural_number (limit : ℕ) (name : String) {n : Numeral} {c : Char} (hc : (Tree.number n).Starts c)
    {cs rest : List Char} (h : (Lexeme.number (c :: cs)).toOption = n.value.toOption.map (·, rest)) :
    (readNatural limit name (c :: cs)).toOption = ((Tree.number n).natural? limit).map (·, rest) := by
  unfold readNatural
  rw [dropBlank_cons hc.not_blank]
  dsimp only
  rw [if_pos (by simpa [Tree.Starts] using hc), toOption_bind, h, Tree.natural?]
  cases n.value.toOption with
  | none => rfl
  | some x =>
    cases x with
    | real x => rfl
    | integer m =>
      cases m with
      | negSucc m => rfl
      | ofNat m => by_cases hm : m < limit <;> simp [hm] <;> rfl

theorem reads_natural (limit : ℕ) (name : String) : Reads (readNatural limit name) (Tree.natural? limit) := by
  refine .of_unblanked (fun cs => by unfold readNatural; rw [dropBlank_dropBlank]) ?_ ?_
  · intro v w rest hw hr
    cases hw with
    | number hn =>
      have hx := number_append hn hr
      obtain ⟨c, cs, rfl, hc⟩ := (Spelled.number hn).head
      exact readNatural_number limit name hc hx
    | _ => rfl
  · intro cs rest n hd h
    unfold readNatural at h
    rw [hd] at h
    split at h
    · cases h
    · split at h
      · obtain ⟨⟨x, rest'⟩, hn, h⟩ := bind_eq_ok h
        obtain ⟨m, w, hw, he⟩ := number_sound hn
        refine ⟨_, w, .number hw, ?_⟩
        split at h
        · next hx =>
          cases hx
          split at h
          · cases h
            exact he
          · cases h
        · cases h
        · cases h
      · cases h

/-! ### Names -/

section

variable {α : Type} (names : List (String × α))

lemma readChoice_quote (cs : List Char) : readChoice names ('"' :: cs) =
    Lexeme.text cs >>= fun x => findChoice names x.1 >>= fun value => pure (value, x.2) := by
  unfold readChoice
  rw [dropBlank_cons (by decide)]
  rfl

def readUnit (value : α) (cs : List Char) : Except ReadError (α × List Char) := do
  let cs ← colon cs
  match dropBlank cs with
  | 'n' :: cs =>
    let cs ← word ['u', 'l', 'l'] cs
    match dropBlank cs with
    | [] => throw .endOfObject
    | '\x7d' :: rest => pure (value, rest)
    | _ :: _ => throw .expectedValue
  | rest => throw (readMismatch "unit" rest)

lemma readChoice_brace (cs : List Char) : readChoice names ('\x7b' :: cs) =
    readText "variant identifier" cs >>= fun x => findChoice names x.1 >>= fun value => readUnit value x.2 := by
  unfold readChoice
  rw [dropBlank_cons (by decide)]
  rfl

variable {names}

lemma readUnit_null (value : α) {before behind : List Char} (hb : Blank before) (hb' : Blank behind)
    {ms : List (Option String × Tree)} {ws : List Char} (ht : Trailing (SpelledMember Spelled) ms ws)
    (rest : List Char) :
    (readUnit value (before ++ ':' :: (behind ++ (['n', 'u', 'l', 'l'] ++ (ws ++ '\x7d' :: rest))))).toOption =
      if ms = [] then some (value, rest) else none := by
  rw [readUnit, colon_append hb]
  dsimp only [bind, Except.bind]
  rw [List.cons_append, dropBlank_gap hb' (by decide)]
  simp only [word_append]
  cases ht with
  | nil hg =>
    rw [dropBlank_gap hg (by decide)]
    rfl
  | cons hg _ _ _ =>
    rw [List.append_assoc, List.cons_append, dropBlank_gap hg (by decide)]
    rfl

lemma readUnit_other (value : α) {before behind : List Char} (hb : Blank before) (hb' : Blank behind) {c : Char}
    (hc : isBlank c = false) (hn : c ≠ 'n') (cs : List Char) :
    (readUnit value (before ++ ':' :: (behind ++ c :: cs))).toOption = none := by
  rw [readUnit, colon_append hb]
  dsimp only [bind, Except.bind]
  rw [dropBlank_gap hb' hc]
  split
  · next he => exact absurd (List.cons.inj he).1 hn
  · rfl

lemma eq_of_readUnit {value a : α} {cs rest : List Char} (h : readUnit value cs = .ok (a, rest)) :
    ∃ before behind gap, Blank before ∧ Blank behind ∧ Blank gap ∧
      cs = before ++ ':' :: (behind ++ (['n', 'u', 'l', 'l'] ++ (gap ++ '\x7d' :: rest))) := by
  obtain ⟨cs₁, hc, hread⟩ := bind_eq_ok h
  obtain ⟨before, hb, rfl⟩ := eq_of_colon hc
  obtain ⟨behind, hb', he⟩ := exists_blank cs₁
  split at hread
  · next cs₂ hd =>
    obtain ⟨cs₃, hw, hread⟩ := bind_eq_ok hread
    obtain ⟨gap, hg, he'⟩ := exists_blank cs₃
    split at hread
    · cases hread
    · next hd' =>
      cases hread
      rw [hd'] at he'
      rw [hd, eq_of_word hw, he'] at he
      exact ⟨before, behind, gap, hb, hb', hg, by rw [he]; rfl⟩
    · cases hread
  · cases hread

lemma readText_gap (expected : String) {gap : List Char} (hg : Blank gap) {c : Char} (hc : isBlank c = false)
    (cs : List Char) : readText expected (gap ++ c :: cs) = readText expected (c :: cs) := by
  rw [← readText_blank, dropBlank_gap hg hc]

lemma readChoice_object {members : List (Option String × Tree)} {w : List Char}
    (h : Listed (SpelledMember Spelled) members w) (rest : List Char) :
    (readChoice names ('\x7b' :: (w ++ '\x7d' :: rest))).toOption =
      ((Tree.object members).choice? names).map (·, rest) := by
  rw [readChoice_brace, toOption_bind]
  cases h with
  | empty hg =>
    rw [readText_gap _ hg (by decide)]
    rfl
  | @items before m w ms ws hb hm ht =>
    cases hm with
    | @pair key k gap gap' v w hk hg hg' hv =>
      simp only [List.append_assoc, List.cons_append]
      rw [readText_gap _ hb (by decide), readText_quote, text_exact hk]
      cases key with
      | none => cases v <;> cases ms <;> rfl
      | some name =>
        change (findChoice names name >>= fun value => readUnit value _).toOption = _
        rw [toOption_bind]
        cases hf : (findChoice names name).toOption with
        | none => cases v <;> cases ms <;> simp [Tree.choice?, hf]
        | some value =>
          change (readUnit value _).toOption = _
          cases hv with
          | null =>
            rw [readUnit_null value hg hg' ht]
            cases ms <;> simp [Tree.choice?, hf]
          | number hn =>
            obtain ⟨c, cs, rfl, hc⟩ := (Spelled.number hn).head
            exact readUnit_other value hg hg' hc.not_blank (numeric_ne hc (by decide) (by decide)) _
          | _ => exact readUnit_other value hg hg' (by decide) (by decide) _

lemma readChoice_other {c : Char} (hb : isBlank c = false) (hq : c ≠ '"') (ho : c ≠ '\x7b') (cs : List Char) :
    (readChoice names (c :: cs)).toOption = none := by
  unfold readChoice
  rw [dropBlank_cons hb]
  split
  · rfl
  · next he => exact absurd (List.cons.inj he).1 hq
  · next he => exact absurd (List.cons.inj he).1 ho
  · rfl

theorem reads_choice (names : List (String × α)) : Reads (readChoice names) (Tree.choice? names) := by
  refine .of_unblanked (fun cs => by unfold readChoice; rw [dropBlank_dropBlank]) ?_ ?_
  · intro v w rest hw _
    cases hw with
    | @text s w ht =>
      simp only [List.append_assoc, List.cons_append, List.nil_append]
      rw [readChoice_quote, toOption_bind, text_exact ht, Tree.choice?]
      cases s with
      | none => rfl
      | some name =>
        change (findChoice names name >>= fun value => pure (value, rest)).toOption = _
        rw [toOption_bind]
        change _ = (findChoice names name).toOption.map (·, rest)
        cases (findChoice names name).toOption <;> rfl
    | number hn =>
      obtain ⟨c, cs, rfl, hc⟩ := (Spelled.number hn).head
      exact readChoice_other hc.not_blank (numeric_ne hc (by decide) (by decide))
        (numeric_ne hc (by decide) (by decide)) _
    | object hl =>
      simp only [List.append_assoc, List.cons_append, List.nil_append]
      exact readChoice_object hl rest
    | _ => rfl
  · intro cs rest a hd h
    unfold readChoice at h
    rw [hd] at h
    split at h
    · cases h
    · obtain ⟨⟨name, rest'⟩, ht, h⟩ := bind_eq_ok h
      obtain ⟨value, _, h⟩ := bind_eq_ok h
      cases h
      obtain ⟨w, hw, rfl⟩ := text_sound ht
      exact ⟨_, _, .text hw, by simp⟩
    · obtain ⟨⟨name, cs₁⟩, ht, h⟩ := bind_eq_ok h
      obtain ⟨value, _, h⟩ := bind_eq_ok h
      have hu : readUnit value cs₁ = .ok (a, rest) := h
      obtain ⟨before, behind, gap, hb, hb', hg, rfl⟩ := eq_of_readUnit hu
      obtain ⟨gap', k, hg', hk, rfl⟩ := eq_of_readText ht
      exact ⟨_, _, .object (.items hg' (.pair hk hb hb' .null) (.nil hg)), by simp⟩
    · cases h

end

/-! ### Lists and nulls -/

section

variable {α : Type}

lemma Shape.list_bracket (item : Shape α) (cs : List Char) :
    (Shape.list item).read ('[' :: cs) = readList item.read cs := by
  rw [Shape.read, dropBlank_cons (by decide)]
  rfl

lemma Shape.list_other (item : Shape α) {c : Char} (hb : isBlank c = false) (hc : c ≠ '[') (cs : List Char) :
    ((Shape.list item).read (c :: cs)).toOption = none := by
  rw [Shape.read, dropBlank_cons hb]
  split
  · next he => exact absurd (List.cons.inj he).1 hc
  · rfl

theorem Shape.reads_list {item : Shape α} (h : Reads item.read item.decode) :
    Reads (Shape.list item).read (Shape.list item).decode := by
  refine .of_unblanked (fun cs => by simp only [Shape.read, dropBlank_dropBlank]) ?_ ?_
  · intro v w rest hw _
    cases hw with
    | list hl =>
      simp only [List.cons_append, List.append_assoc, List.nil_append]
      rw [Shape.list_bracket]
      exact readList_exact h hl rest
    | number hn =>
      obtain ⟨c, cs, rfl, hc⟩ := (Spelled.number hn).head
      exact Shape.list_other item hc.not_blank (numeric_ne hc (by decide) (by decide)) _
    | _ => exact Shape.list_other item (by decide) (by decide) _
  · intro cs rest as hd hr
    rw [Shape.read, hd] at hr
    split at hr
    · obtain ⟨vs, w, hw, rfl⟩ := readList_sound h hr
      exact ⟨_, _, .list hw, by simp⟩
    · cases hr

lemma Json.Tree.nullable?_of_ne {v : Tree} (h : v ≠ .null) (decode : Tree → Option α) :
    v.nullable? decode = (decode v).map some := by
  cases v with
  | null => exact absurd rfl h
  | _ => rfl

lemma Shape.nullable_other (inner : Shape α) {c : Char} (hb : isBlank c = false) (hc : c ≠ 'n') (cs : List Char) :
    (Shape.nullable inner).read (c :: cs) = inner.read (c :: cs) >>= fun x => pure (some x.1, x.2) := by
  rw [Shape.read, dropBlank_cons hb]
  split
  · next he => exact absurd (List.cons.inj he).1 hc
  · rfl

theorem Shape.reads_nullable {inner : Shape α} (h : Reads inner.read inner.decode) :
    Reads (Shape.nullable inner).read (Shape.nullable inner).decode := by
  refine .of_unblanked (fun cs => by simp only [Shape.read, dropBlank_dropBlank]) ?_ ?_
  · intro v w rest hw hr
    have hx := h.exact ⟨[], w, blank_nil, hw, rfl⟩ hr
    obtain ⟨c, cs, rfl, hc⟩ := hw.head
    by_cases hn : c = 'n'
    · rw [hc.null_iff] at hn
      subst hn
      cases hw
      rw [Shape.read]
      rfl
    · have hv := mt hc.null_iff.mpr hn
      rw [Shape.decode, Json.Tree.nullable?_of_ne hv, List.cons_append, Shape.nullable_other inner hc.not_blank hn]
      exact toOption_made hx some
  · intro cs rest a hd hr
    rw [Shape.read, hd] at hr
    split at hr
    · obtain ⟨rest', hw, hr⟩ := bind_eq_ok hr
      cases hr
      rw [eq_of_word hw]
      exact ⟨_, _, .null, rfl⟩
    · obtain ⟨⟨value, rest'⟩, hi, hr⟩ := bind_eq_ok hr
      cases hr
      obtain ⟨v, hv⟩ := h.sound hi
      obtain ⟨w, hw, he⟩ := hv.dropBlank
      exact ⟨v, w, hw, by rw [← he, hd]⟩

end

end ApiReference
