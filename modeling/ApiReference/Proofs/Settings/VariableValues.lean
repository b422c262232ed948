import ApiReference.Proofs.Settings.VariableNames
import ApiReference.Proofs.Toml.Value

/-! The values of environment variables: numerals, texts between double quotes, lists of these, and bare words. -/

namespace ApiReference.Environment

open Lexeme (isDigit digitValue)

lemma dropBlank_cons {c : Char} (h : isBlank c = false) (cs : List Char) : dropBlank (c :: cs) = c :: cs := by
  rw [dropBlank, List.dropWhile_cons_of_neg (by simp [h])]

/-! ### Texts between double quotes -/

def writeQuoted (s : String) : List Char := '"' :: (s.toList.flatMap Toml.escapeBasic ++ ['"'])

section

variable {rest body left : List Char} (h : quotedBody rest = some (body, left))
include h

lemma quotedBody_other {c : Char} (hq : c ≠ '"') (hb : c ≠ '\\') : quotedBody (c :: rest) = some (c :: body, left) := by
  rw [quotedBody, h]
  · rfl
  · exact hq
  · simp [hb]

lemma quotedBody_escape (c : Char) : quotedBody ('\\' :: c :: rest) = some ('\\' :: c :: body, left) := by
  rw [quotedBody, h]
  rfl

lemma quotedBody_escapeBasic (c : Char) :
    quotedBody (Toml.escapeBasic c ++ rest) = some (Toml.escapeBasic c ++ body, left) := by
  have hex {n : ℕ} (hn : n < 16) : Toml.upperHex n ≠ '"' ∧ Toml.upperHex n ≠ '\\' := by
    interval_cases n <;> decide
  unfold Toml.escapeBasic
  split
  iterate 7 exact quotedBody_escape h _
  · next hq hb _ _ _ _ _ =>
    split
    · next he =>
      have hsmall : c.toNat < 256 := by
        simp only [Toml.needsEscape, Bool.or_eq_true, Bool.and_eq_true, decide_eq_true_eq, beq_iff_eq] at he
        omega
      have hhigh := hex (n := c.toNat / 16) (by omega)
      have hlow := hex (n := c.toNat % 16) (by omega)
      have hdigits := quotedBody_other (quotedBody_other h hlow.1 hlow.2) hhigh.1 hhigh.2
      exact quotedBody_escape (quotedBody_other (quotedBody_other hdigits (by decide) (by decide)) (by decide)
        (by decide)) 'u'
    · exact quotedBody_other h hq hb

end

lemma quotedBody_written (cs rest : List Char) :
    quotedBody (cs.flatMap Toml.escapeBasic ++ '"' :: rest) = some (cs.flatMap Toml.escapeBasic, rest) := by
  induction cs with
  | nil => rw [List.flatMap_nil, List.nil_append, quotedBody]
  | cons c cs ih =>
    rw [List.flatMap_cons, List.append_assoc]
    exact quotedBody_escapeBasic ih c

lemma quotedText_written (s : String) (rest : List Char) :
    quotedText (s.toList.flatMap Toml.escapeBasic ++ '"' :: rest) = some (s, rest) := by
  rw [quotedText, quotedBody_written, Option.bind_eq_bind, Option.bind_some]
  dsimp only
  rw [Toml.basicBody_written, Option.bind_some]
  simp

lemma readValue_quoted (levels : ℕ) (s : String) (rest : List Char) :
    readValue (levels + 1) (writeQuoted s ++ rest) = some (.text s, dropBlank rest) := by
  have hcs : writeQuoted s ++ rest = '"' :: (s.toList.flatMap Toml.escapeBasic ++ '"' :: rest) := by
    simp [writeQuoted]
  rw [hcs, readValue, dropBlank_cons rfl]
  change (quotedText (s.toList.flatMap Toml.escapeBasic ++ '"' :: rest) >>= _) = _
  rw [quotedText_written]
  rfl

/-! ### Lists -/

def writeItems (items : List String) : List Char := [','].intercalate (items.map writeQuoted)

lemma readItems_quoted (levels : ℕ) (items : List String) (rest : List Char) {rounds : ℕ}
    (h : items.length < rounds) :
    readItems (readValue (levels + 1)) ']' rounds (writeItems items ++ ']' :: rest) =
      some (items.map .text, rest) := by
  induction items generalizing rounds with
  | nil =>
    obtain ⟨rounds, rfl⟩ := Nat.exists_eq_succ_of_ne_zero (Nat.ne_of_gt h)
    rfl
  | cons s items ih =>
    obtain ⟨rounds, rfl⟩ := Nat.exists_eq_succ_of_ne_zero (Nat.ne_of_gt (Nat.zero_lt_of_lt h))
    have hopen (more : List Char) : ¬ (writeQuoted s ++ more).head? = some ']' := by simp [writeQuoted]
    cases items with
    | nil =>
      rw [writeItems, List.map_cons, List.map_nil, List.intercalate_singleton, readItems, if_neg (hopen _),
        readValue_quoted]
      rfl
    | cons t items =>
      have hrest := ih (Nat.lt_of_succ_lt_succ h : (t :: items).length < rounds)
      have hcs : writeItems (s :: t :: items) ++ ']' :: rest =
          writeQuoted s ++ ',' :: (writeItems (t :: items) ++ ']' :: rest) := by
        simp [writeItems, List.intercalate_cons_cons]
      rw [hcs, readItems, if_neg (hopen _), readValue_quoted, dropBlank_cons rfl, Option.bind_eq_bind,
        Option.bind_some]
      change (readItems (readValue (levels + 1)) ']' rounds (writeItems (t :: items) ++ ']' :: rest) >>= _) = _
      rw [hrest]
      rfl

lemma length_le_writeItems (items : List String) : items.length ≤ (writeItems items).length := by
  induction items with
  | nil => exact Nat.zero_le _
  | cons s items ih =>
    cases items with
    | nil => simp [writeItems, writeQuoted]
    | cons t items =>
      have hlength : (writeItems (s :: t :: items)).length =
          (writeQuoted s).length + 1 + (writeItems (t :: items)).length := by
        simp [writeItems, List.intercalate_cons_cons]
        omega
      rw [hlength, List.length_cons]
      omega

lemma readValue_items (levels : ℕ) (items : List String) :
    readValue (levels + 2) ('[' :: (writeItems items ++ [']'])) = some (.list (items.map .text), []) := by
  have hrounds : items.length < (writeItems items ++ [']']).length + 1 := by
    have hlength := length_le_writeItems items
    rw [List.length_append]
    omega
  rw [readValue, dropBlank_cons rfl]
  change (readItems (readValue (levels + 1)) ']' _ (writeItems items ++ [']']) >>= _) = _
  rw [readItems_quoted levels items [] hrounds]
  rfl

/-! ### Bare words -/

structure IsBare (cs : List Char) : Prop where
  blanks : cs.all (!Text.isBlank ·) = true
  separators : cs.all (!isSeparator ·) = true
  quotes : cs.head? ≠ some '"' ∧ cs.head? ≠ some '\x27'
  truth : ¬ ['t', 'r', 'u', 'e'] <+: cs
  falsehood : ¬ ['f', 'a', 'l', 's', 'e'] <+: cs

lemma isBlank_of_text {c : Char} (h : Text.isBlank c = false) : isBlank c = false := by
  by_contra hb
  simp only [isBlank, Bool.not_eq_false, Bool.or_eq_true, beq_iff_eq] at hb
  rcases hb with (((rfl | rfl) | rfl) | rfl) | rfl <;> exact absurd h (by decide)

lemma IsBare.readValue {cs : List Char} (h : IsBare cs) (levels : ℕ) :
    readValue (levels + 1) cs = some (.scalar (bareValue cs), []) := by
  have hblanks : ∀ c ∈ cs, Text.isBlank c = false := by simpa using h.blanks
  have hsep : ∀ c ∈ cs, (!isSeparator c) = true := List.all_eq_true.mp h.separators
  have hd : dropBlank cs = cs := by
    rw [dropBlank, List.dropWhile_eq_self_iff]
    intro hl hb
    rw [isBlank_of_text (hblanks _ (List.getElem_mem hl))] at hb
    cases hb
  have hw : cs.takeWhile (fun c => !isSeparator c) = cs := List.takeWhile_eq_self_iff.mpr hsep
  have hr : cs.dropWhile (fun c => !isSeparator c) = [] := List.dropWhile_eq_nil_iff.mpr hsep
  rw [Environment.readValue, hd]
  split
  · next rest => exact absurd (List.prefix_append ['t', 'r', 'u', 'e'] rest) h.truth
  · next rest => exact absurd (List.prefix_append ['f', 'a', 'l', 's', 'e'] rest) h.falsehood
  · next rest => exact absurd (hsep _ List.mem_cons_self) (by decide)
  · next rest => exact absurd (hsep _ List.mem_cons_self) (by decide)
  · next rest => exact absurd rfl h.quotes.1
  · next rest => exact absurd rfl h.quotes.2
  · rw [hw, hr]
    dsimp only
    rw [Text.trimChars_of_no_blank hblanks]
    rfl

/-! ### Numbers -/

lemma plain_of_digit {c : Char} (h : isDigit c = true) : Text.isBlank c = false ∧ isSeparator c = false := by
  have hsmall : c.toNat < 128 := by
    simp only [isDigit, Bool.and_eq_true, decide_eq_true_eq] at h
    exact lt_of_le_of_lt h.2 (by decide)
  have hall : ∀ n < 128, isDigit (Char.ofNat n) = true →
      Text.isBlank (Char.ofNat n) = false ∧ isSeparator (Char.ofNat n) = false := by
    decide +kernel
  have hc := hall c.toNat hsmall
  rw [Char.ofNat_toNat] at hc
  exact hc h

lemma isBare_digits {ds : List Char} (h : ∀ c ∈ ds, isDigit c = true) : IsBare ds where
  blanks := List.all_eq_true.mpr fun c hc => by rw [(plain_of_digit (h c hc)).1, Bool.not_false]
  separators := List.all_eq_true.mpr fun c hc => by rw [(plain_of_digit (h c hc)).2, Bool.not_false]
  quotes := ⟨fun hq => absurd (h _ (List.mem_of_mem_head? hq)) (by decide),
    fun hq => absurd (h _ (List.mem_of_mem_head? hq)) (by decide)⟩
  truth hp := absurd (h 't' (hp.subset List.mem_cons_self)) (by decide)
  falsehood hp := absurd (h 'f' (hp.subset List.mem_cons_self)) (by decide)

lemma wholeNumber_toDigits (n : ℕ) : wholeNumber (Nat.toDigits 10 n) = some (n : ℤ) := by
  obtain ⟨hne, hd⟩ := digits_toDigits n
  obtain ⟨d, ds, hds⟩ := List.exists_cons_of_ne_nil hne
  have hall : (Nat.toDigits 10 n).all isDigit = true := List.all_eq_true.mpr hd
  have hsign : Toml.dropSign (Nat.toDigits 10 n) = (false, Nat.toDigits 10 n) := by
    rw [hds] at hd ⊢
    exact Toml.dropSign_digit (hd d List.mem_cons_self) ds
  rw [wholeNumber, hsign]
  dsimp only
  rw [if_neg (by simp [hne, hall]), Toml.decimalNumber_toDigits]
  rfl

lemma bareValue_toDigits {n : ℕ} (h : n < 2 ^ 64) : bareValue (Nat.toDigits 10 n) = .unsigned n := by
  obtain ⟨hne, hd⟩ := digits_toDigits n
  have hpoint : (Nat.toDigits 10 n).contains '.' = false := by
    rw [List.contains_eq_mem, decide_eq_false_iff_not]
    exact fun hc => absurd (hd _ hc) (by decide)
  have hminus : (Nat.toDigits 10 n).head? ≠ some '-' := by
    intro hc
    exact absurd (hd _ (List.mem_of_mem_head? hc)) (by decide)
  rw [bareValue, wholeNumber_toDigits, hpoint]
  change (if (Nat.toDigits 10 n).head? = some '-' then _ else if n < Nat.pow 2 64 then _ else _) = _
  rw [if_neg hminus]
  exact if_pos h

def isNumeric (c : Char) : Bool := isDigit c || ['+', '-', '.', 'e', 'E'].contains c

lemma mem_dropSign {cs : List Char} {c : Char} (h : c ∈ cs) : isNumeric c = true ∨ c ∈ (Toml.dropSign cs).2 := by
  unfold Toml.dropSign
  split
  · next rest =>
    rcases List.mem_cons.mp h with rfl | h
    · exact Or.inl (by decide)
    · exact Or.inr h
  · next rest =>
    rcases List.mem_cons.mp h with rfl | h
    · exact Or.inl (by decide)
    · exact Or.inr h
  · exact Or.inr h

lemma isNumeric_of_digit {c : Char} (h : isDigit c = true) : isNumeric c = true := by
  rw [isNumeric, h, Bool.true_or]

lemma isNumeric_of_wholeNumber {cs : List Char} {n : ℤ} (h : wholeNumber cs = some n) :
    ∀ c ∈ cs, isNumeric c = true := by
  intro c hc
  rw [wholeNumber] at h
  rcases mem_dropSign hc with hn | hc
  · exact hn
  · dsimp only at h
    split at h
    · cases h
    · next hd =>
      simp only [Bool.or_eq_true, Bool.not_eq_true', not_or, Bool.not_eq_false] at hd
      exact isNumeric_of_digit (List.all_eq_true.mp hd.2 c hc)

lemma mem_pointParts {cs : List Char} {c : Char} (h : c ∈ cs) : isNumeric c = true ∨ c ∈ (pointParts cs).2.2 := by
  rw [← List.takeWhile_append_dropWhile (p := isDigit) (l := cs), List.mem_append] at h
  rcases h with h | h
  · exact Or.inl (isNumeric_of_digit (List.mem_takeWhile_imp h))
  · rw [pointParts]
    split
    · next more he =>
      rw [he, List.mem_cons, ← List.takeWhile_append_dropWhile (p := isDigit) (l := more), List.mem_append] at h
      rcases h with rfl | h | h
      · exact Or.inl (by decide)
      · exact Or.inl (isNumeric_of_digit (List.mem_takeWhile_imp h))
      · exact Or.inr h
    · exact Or.inr h

lemma isNumeric_of_powerOfTen {cs : List Char} {n : ℤ} (h : powerOfTen cs = some n) :
    ∀ c ∈ cs, isNumeric c = true := by
  cases cs with
  | nil => exact List.forall_mem_nil _
  | cons mark more =>
    rw [powerOfTen] at h
    split at h
    · next hm =>
      refine List.forall_mem_cons.mpr ⟨?_, isNumeric_of_wholeNumber h⟩
      simp only [Bool.or_eq_true, decide_eq_true_eq] at hm
      rcases hm with rfl | rfl <;> decide
    · cases h

lemma isNumeric_of_pointNumber {cs : List Char} {x : Binary64} (h : pointNumber cs = some x) :
    ∀ c ∈ cs, isNumeric c = true := by
  intro c hc
  rw [pointNumber] at h
  dsimp only at h
  split at h
  · cases h
  · obtain ⟨exponent, he, -⟩ := Option.bind_eq_some_iff.mp h
    rcases mem_dropSign hc with hn | hc
    · exact hn
    · rcases mem_pointParts hc with hn | hc
      · exact hn
      · exact isNumeric_of_powerOfTen he c hc

lemma bareValue_word {cs : List Char} (h : cs.all isNumeric = false) : bareValue cs = .text (String.ofList cs) := by
  have hnumeric : ¬ ∀ c ∈ cs, isNumeric c = true := by
    rw [← List.all_eq_true, h]
    exact Bool.false_ne_true
  have hwhole : wholeNumber cs = none := by
    rw [Option.eq_none_iff_forall_ne_some]
    exact fun n hn => hnumeric (isNumeric_of_wholeNumber hn)
  have hpoint : pointNumber cs = none := by
    rw [Option.eq_none_iff_forall_ne_some]
    exact fun x hx => hnumeric (isNumeric_of_pointNumber hx)
  rw [bareValue, hwhole, hpoint, ite_self]

/-! ### Values -/

lemma valueOf_eq {s : String} {v : ConfigValue} (h : readValue (s.toList.length + 1) s.toList = some (v, [])) :
    valueOf s = v := by
  rw [valueOf, h]

lemma valueOf_natural {n : ℕ} (h : n < 2 ^ 64) : valueOf (String.ofList (Nat.toDigits 10 n)) = .scalar (.unsigned n) := by
  apply valueOf_eq
  rw [String.toList_ofList, (isBare_digits (digits_toDigits n).2).readValue, bareValue_toDigits h]

lemma valueOf_quoted (s : String) : valueOf (String.ofList (writeQuoted s)) = .text s := by
  have hread := readValue_quoted (writeQuoted s).length s []
  rw [List.append_nil] at hread
  apply valueOf_eq
  rw [String.toList_ofList, hread]
  rfl

lemma valueOf_items (items : List String) :
    valueOf (String.ofList ('[' :: (writeItems items ++ [']']))) = .list (items.map .text) := by
  apply valueOf_eq
  rw [String.toList_ofList, List.length_cons]
  exact readValue_items _ items

lemma valueOf_word {s : String} (h : IsBare s.toList) (hn : s.toList.all isNumeric = false) : valueOf s = .text s := by
  apply valueOf_eq
  rw [h.readValue, bareValue_word hn, String.ofList_toList]
  rfl

inductive Spells : String → Toml.Entry → Prop
  | natural {n : ℕ} : n < 2 ^ 64 → Spells (String.ofList (Nat.toDigits 10 n)) (.natural n)
  | quoted (s : String) : Spells (String.ofList (writeQuoted s)) (.text s)
  | word {s : String} : IsBare s.toList → s.toList.all isNumeric = false → Spells s (.text s)
  | items (items : List String) : Spells (String.ofList ('[' :: (writeItems items ++ [']']))) (.texts items)

lemma Spells.valueOf_natural {s : String} {n : ℕ} (h : Spells s (.natural n)) : valueOf s = .scalar (.unsigned n) := by
  cases h with
  | natural hn => exact Environment.valueOf_natural hn

lemma Spells.valueOf_text {s t : String} (h : Spells s (.text t)) : valueOf s = .text t := by
  cases h with
  | quoted => exact valueOf_quoted t
  | word hb hn => exact valueOf_word hb hn

lemma Spells.valueOf_texts {s : String} {items : List String} (h : Spells s (.texts items)) :
    valueOf s = .list (items.map .text) := by
  cases h with
  | items => exact valueOf_items items

end ApiReference.Environment
