import ApiReference.Proofs.Except
import ApiReference.Proofs.Json.Grammar

/-! The readers of blanks, words, texts and numbers take exactly what the grammar allows. -/

namespace ApiReference

namespace Json

open Lexeme

/-! ### Blanks -/

lemma blank_nil : Blank [] := by simp [Blank]

lemma Blank.append {v w : List Char} (hv : Blank v) (hw : Blank w) : Blank (v ++ w) := by
  intro c hc
  rcases List.mem_append.mp hc with hc | hc
  · exact hv c hc
  · exact hw c hc

lemma dropBlank_append {gap : List Char} (h : Blank gap) (cs : List Char) :
    dropBlank (gap ++ cs) = dropBlank cs :=
  List.dropWhile_append_of_pos h

lemma dropBlank_cons {c : Char} (h : isBlank c = false) (cs : List Char) : dropBlank (c :: cs) = c :: cs :=
  List.dropWhile_cons_of_neg (by simp [h])

lemma dropBlank_gap {gap : List Char} (h : Blank gap) {c : Char} (hc : isBlank c = false) (cs : List Char) :
    dropBlank (gap ++ c :: cs) = c :: cs := by
  rw [dropBlank_append h, dropBlank_cons hc]

lemma exists_blank (cs : List Char) : ∃ gap, Blank gap ∧ cs = gap ++ dropBlank cs := by
  refine ⟨cs.takeWhile isBlank, ?_, List.takeWhile_append_dropWhile.symm⟩
  exact List.all_eq_true.mp List.all_takeWhile

lemma dropBlank_eq_nil (cs : List Char) : dropBlank cs = [] ↔ Blank cs := by
  constructor
  · intro h
    obtain ⟨gap, hg, he⟩ := exists_blank cs
    rw [h, List.append_nil] at he
    exact he ▸ hg
  · intro h
    rw [← List.append_nil cs, dropBlank_append h]
    rfl

/-! ### Words -/

lemma word_append (ws cs : List Char) : word ws (ws ++ cs) = .ok cs := by
  induction ws with
  | nil => rfl
  | cons w ws ih => simp [word, ih]

lemma eq_of_word {ws cs rest : List Char} (h : word ws cs = .ok rest) : cs = ws ++ rest := by
  induction ws generalizing cs with
  | nil => simpa [word] using h
  | cons w ws ih =>
    cases cs with
    | nil => simp [word] at h
    | cons c cs =>
      rw [word] at h
      split at h
      · next hc => rw [ih h, hc, List.cons_append]
      · cases h

lemma colon_append {gap : List Char} (h : Blank gap) (cs : List Char) : colon (gap ++ ':' :: cs) = .ok cs := by
  rw [colon, dropBlank_gap h (by decide)]
  rfl

lemma eq_of_colon {cs rest : List Char} (h : colon cs = .ok rest) :
    ∃ gap, Blank gap ∧ cs = gap ++ ':' :: rest := by
  obtain ⟨gap, hg, he⟩ := exists_blank cs
  rw [colon] at h
  split at h
  · cases h
  · next cs' hd =>
    cases h
    exact ⟨gap, hg, by rw [he, hd]⟩
  · cases h

/-! ### Texts -/

lemma hexDigit_of_ascii : ∀ m < 128, ∀ n ∈ hexValue (Char.ofNat m), HexDigit (Char.ofNat m) n := by decide

lemma hexValue_iff (c : Char) (n : ℕ) : hexValue c = some n ↔ HexDigit c n := by
  constructor
  · intro h
    have hc : c.toNat < 128 := by
      have bounds : ∀ d : Char, c ≤ d → c.toNat ≤ d.toNat := fun d hd => hd
      simp only [hexValue] at h
      split at h
      · next hd => exact (bounds '9' (by simp_all)).trans_lt (by decide)
      · split at h
        · next hd => exact (bounds 'f' (by simp_all)).trans_lt (by decide)
        · split at h
          · next hd => exact (bounds 'F' (by simp_all)).trans_lt (by decide)
          · cases h
    have hd := hexDigit_of_ascii c.toNat hc n
    rw [Char.ofNat_toNat] at hd
    exact hd h
  · rintro ⟨hn, hc⟩
    interval_cases n <;> rcases hc with rfl | rfl <;> decide

lemma hexUnit_iff (a b c d : Char) (n : ℕ) : hexUnit a b c d = some n ↔ Hex n [a, b, c, d] := by
  constructor
  · intro h
    simp only [hexUnit, Option.bind_eq_bind, Option.bind_eq_some_iff, Option.pure_def, Option.some.injEq] at h
    obtain ⟨i, hi, j, hj, k, hk, l, hl, rfl⟩ := h
    simp only [hexValue_iff] at hi hj hk hl
    exact .digits hi hj hk hl
  · intro h
    cases h with
    | digits hi hj hk hl =>
      simp only [← hexValue_iff] at hi hj hk hl
      simp [hexUnit, hi, hj, hk, hl]

lemma Hex.lt {n : ℕ} {w : List Char} (h : Hex n w) : n < 0x10000 := by
  cases h with
  | digits hi hj hk hl =>
    have := hi.1
    have := hj.1
    have := hk.1
    have := hl.1
    omega

lemma escaped_iff (e c : Char) : escaped e = some c ↔ (e, c) ∈ shortEscapes := by
  constructor
  · intro h
    unfold escaped at h
    split at h <;> cases h <;> decide
  · intro h
    simp only [shortEscapes, List.mem_cons, Prod.mk.injEq, List.not_mem_nil, or_false] at h
    rcases h with ⟨rfl, rfl⟩ | ⟨rfl, rfl⟩ | ⟨rfl, rfl⟩ | ⟨rfl, rfl⟩ | ⟨rfl, rfl⟩ | ⟨rfl, rfl⟩ |
      ⟨rfl, rfl⟩ | ⟨rfl, rfl⟩ <;> rfl

lemma ne_of_short {e c : Char} (h : (e, c) ∈ shortEscapes) : e ≠ 'u' := by
  rintro rfl
  have := (escaped_iff 'u' c).mpr h
  cases this

lemma isLowUnit_iff (n : ℕ) : isLowUnit n = true ↔ 0xDC00 ≤ n ∧ n ≤ 0xDFFF := by simp [isLowUnit]

lemma isHighUnit_iff (n : ℕ) : isHighUnit n = true ↔ 0xD800 ≤ n ∧ n ≤ 0xDBFF := by simp [isHighUnit]

lemma toNat_ofNat_of_valid {n : ℕ} (h : n < 0xD800 ∨ 0xDFFF < n ∧ n < 0x110000) : (Char.ofNat n).toNat = n := by
  rw [Char.ofNat, dif_pos h]
  rfl

lemma spelledChar_unit {n : ℕ} {w : List Char} (h : Hex n w) (hl : ¬ isLowUnit n = true)
    (hh : ¬ isHighUnit n = true) : SpelledChar (Char.ofNat n) ('\\' :: 'u' :: w) := by
  rw [isLowUnit_iff] at hl
  rw [isHighUnit_iff] at hh
  have hb := h.lt
  have hn : (Char.ofNat n).toNat = n := toNat_ofNat_of_valid (by omega)
  exact .unit (by omega) (hn.symm ▸ h)

lemma spelledChar_pair {m n : ℕ} {v w : List Char} (hm : Hex m v) (hn : Hex n w)
    (hh : isHighUnit m = true) (hl : isLowUnit n = true) :
    SpelledChar (joinUnits m n) ('\\' :: 'u' :: (v ++ '\\' :: 'u' :: w)) := by
  rw [isHighUnit_iff] at hh
  rw [isLowUnit_iff] at hl
  have hj : (joinUnits m n).toNat = 0x10000 + (m - 0xD800) * 0x400 + (n - 0xDC00) :=
    toNat_ofNat_of_valid (by omega)
  have h₁ : 0xD800 + ((joinUnits m n).toNat - 0x10000) / 0x400 = m := by omega
  have h₂ : 0xDC00 + ((joinUnits m n).toNat - 0x10000) % 0x400 = n := by omega
  exact .pair (by omega) (h₁.symm ▸ hm) (h₂.symm ▸ hn)

lemma not_surrogate (c : Char) : ¬ isLowUnit c.toNat = true ∧ ¬ isHighUnit c.toNat = true := by
  have hc : c.toNat < 0xD800 ∨ 0xDFFF < c.toNat ∧ c.toNat < 0x110000 := c.valid
  rw [isLowUnit_iff, isHighUnit_iff]
  omega

lemma textBody_char {c : Char} {w : List Char} (h : SpelledChar c w) (cs : List Char) :
    textBody (w ++ cs) = pushChar c (textBody cs) := by
  cases h with
  | raw hc hq hb =>
    have hn : isControl c = false := by simpa [isControl] using hc
    simp [textBody, hb, hn]
  | short he =>
    have hu := ne_of_short he
    rw [← escaped_iff] at he
    simp [textBody, hu, he]
  | unit hc hx =>
    obtain ⟨hl, hh⟩ := not_surrogate c
    generalize hn : c.toNat = n at hx hl hh
    cases hx with
    | digits hi hj hk hl' =>
      have hu := (hexUnit_iff _ _ _ _ _).mpr (.digits hi hj hk hl')
      rw [← hn] at hu hl hh
      simp [textBody, hu, hl, hh, Char.ofNat_toNat]
  | pair hc hh hl =>
    have hv : c.toNat < 0x110000 := by
      rcases c.valid with hv | hv
      · exact hv.trans (by decide)
      · exact hv.2
    generalize hm : 0xD800 + (c.toNat - 0x10000) / 0x400 = m at hh
    generalize hn : 0xDC00 + (c.toNat - 0x10000) % 0x400 = n at hl
    have hhigh : isHighUnit m = true := by rw [isHighUnit_iff]; omega
    have hnot : isLowUnit m = false := by rw [Bool.eq_false_iff, ne_eq, isLowUnit_iff]; omega
    have hlow : isLowUnit n = true := by rw [isLowUnit_iff]; omega
    have hj : joinUnits m n = c := by
      have he : 0x10000 + (m - 0xD800) * 0x400 + (n - 0xDC00) = c.toNat := by omega
      rw [joinUnits, he, Char.ofNat_toNat]
    cases hh with
    | digits hi hj' hk hl' =>
      cases hl with
      | digits hi' hj'' hk' hl'' =>
        have hu := (hexUnit_iff _ _ _ _ _).mpr (.digits hi hj' hk hl')
        have hu' := (hexUnit_iff _ _ _ _ _).mpr (.digits hi' hj'' hk' hl'')
        simp [textBody, hu, hu', hhigh, hnot, hlow, hj]

lemma textBody_chars {s w : List Char} (h : SpelledChars s w) (rest : List Char) :
    textBody (w ++ '"' :: rest) = .ok (s, rest) := by
  induction h with
  | nil => rfl
  | cons hc _ ih => rw [List.append_assoc, textBody_char hc, ih, pushChar]

def Closes (cs : List Char) : Prop :=
  ∀ s rest, textBody cs = .ok (s, rest) → ∃ w, SpelledChars s w ∧ cs = w ++ '"' :: rest

lemma closes_pushChar {c : Char} {w cs s rest : List Char} (hc : SpelledChar c w) (ih : Closes cs)
    (h : pushChar c (textBody cs) = .ok (s, rest)) : ∃ ws, SpelledChars s ws ∧ w ++ cs = ws ++ '"' :: rest := by
  cases hb : textBody cs with
  | error e =>
    rw [hb] at h
    cases h
  | ok result =>
    obtain ⟨s', rest'⟩ := result
    rw [hb] at h
    cases h
    obtain ⟨ws, hs, he⟩ := ih s' rest hb
    exact ⟨w ++ ws, .cons hc hs, by rw [he, List.append_assoc]⟩

lemma textBody_sound (cs : List Char) : Closes cs := by
  intro s rest h
  fun_induction textBody cs generalizing s rest with
  | case2 =>
    cases h
    exact ⟨[], .nil, rfl⟩
  | case9 a b c d high hx _ hh a' b' c' d' cs low hx' hl ih =>
    rw [hexUnit_iff] at hx hx'
    exact closes_pushChar (spelledChar_pair hx hx' hh hl) ih h
  | case13 a b c d cs n hx hl hh ih =>
    rw [hexUnit_iff] at hx
    exact closes_pushChar (spelledChar_unit hx hl hh) ih h
  | case15 e cs _ _ c he ih => exact closes_pushChar (.short ((escaped_iff _ _).mp he)) ih h
  | case18 c cs hq h₁ _ _ h₂ hn ih =>
    have hb : c ≠ '\\' := by
      intro hb
      cases cs with
      | nil => exact h₁ hb rfl
      | cons d ds => exact h₂ d ds hb rfl
    have hc : 32 ≤ c.toNat := by simpa [isControl] using hn
    exact closes_pushChar (.raw hc hq hb) ih h
  | _ => cases h

lemma SpelledChar.quotable {c : Char} {w ws : List Char} (h : SpelledChar c w) (hs : Quotable ws) :
    Quotable (w ++ ws) := by
  cases h with
  | raw hc hq hb => exact .raw hc hq hb hs
  | short he => exact .short he hs
  | unit _ hx => exact .unit hx hs
  | pair _ hh hl => simpa using Quotable.unit hh (Quotable.unit hl hs)

lemma SpelledChars.quotable {s w : List Char} (h : SpelledChars s w) : Quotable w := by
  induction h with
  | nil => exact .nil
  | cons hc _ ih => exact hc.quotable ih

lemma Quotable.unique {v w r r' : List Char} (hv : Quotable v) (hw : Quotable w)
    (h : v ++ '"' :: r = w ++ '"' :: r') : v = w := by
  induction hv generalizing w with
  | nil =>
    cases hw with
    | nil => rfl
    | raw _ hq _ _ => exact absurd (List.cons.inj h).1.symm hq
    | short _ _ => exact absurd (List.cons.inj h).1 (by decide)
    | unit _ _ => exact absurd (List.cons.inj h).1 (by decide)
  | raw hc hq hb _ ih =>
    cases hw with
    | nil => exact absurd (List.cons.inj h).1 hq
    | raw _ _ _ hw =>
      obtain ⟨hc', ht⟩ := List.cons.inj h
      rw [hc', ih hw ht]
    | short _ _ => exact absurd (List.cons.inj h).1 hb
    | unit _ _ => exact absurd (List.cons.inj h).1 hb
  | short he _ ih =>
    cases hw with
    | nil => exact absurd (List.cons.inj h).1 (by decide)
    | raw _ _ hb _ => exact absurd (List.cons.inj h).1.symm hb
    | short _ hw =>
      obtain ⟨he', ht⟩ := List.cons.inj (List.cons.inj h).2
      rw [he', ih hw ht]
    | unit _ _ => exact absurd (List.cons.inj (List.cons.inj h).2).1 (ne_of_short he)
  | unit hx _ ih =>
    cases hw with
    | nil => exact absurd (List.cons.inj h).1 (by decide)
    | raw _ _ hb _ => exact absurd (List.cons.inj h).1.symm hb
    | short he _ => exact absurd (List.cons.inj (List.cons.inj h).2).1.symm (ne_of_short he)
    | unit hx' hw =>
      cases hx
      cases hx'
      simp only [List.cons_append, List.nil_append, List.cons.injEq, true_and] at h
      obtain ⟨rfl, rfl, rfl, rfl, h⟩ := h
      rw [ih hw h]

lemma SpelledText.quotable {key : Option String} {w : List Char} (h : SpelledText key w) : Quotable w := by
  cases h with
  | whole hs => exact hs.quotable
  | broken hq _ => exact hq

lemma Quotable.spelled {w : List Char} (h : Quotable w) : ∃ key, SpelledText key w := by
  by_cases hs : ∃ s, SpelledChars s w
  · obtain ⟨s, hs⟩ := hs
    exact ⟨_, .whole hs⟩
  · exact ⟨none, .broken h (not_exists.mp hs)⟩

lemma text_exact {key : Option String} {w : List Char} (h : SpelledText key w) (rest : List Char) :
    (Lexeme.text (w ++ '"' :: rest)).toOption = key.map (·, rest) := by
  cases h with
  | whole hs =>
    rw [Lexeme.text, textBody_chars hs]
    rfl
  | broken hq hn =>
    rw [Lexeme.text]
    cases hb : textBody (w ++ '"' :: rest) with
    | error e => rfl
    | ok result =>
      obtain ⟨s, rest'⟩ := result
      obtain ⟨w', hs, he⟩ := textBody_sound _ s rest' hb
      rw [← hq.unique hs.quotable he] at hs
      exact absurd hs (hn s)

lemma text_sound {cs rest : List Char} {s : String} (h : Lexeme.text cs = .ok (s, rest)) :
    ∃ w, SpelledText (some s) w ∧ cs = w ++ '"' :: rest := by
  rw [Lexeme.text] at h
  cases hb : textBody cs with
  | error e =>
    rw [hb] at h
    cases h
  | ok result =>
    obtain ⟨s', rest'⟩ := result
    rw [hb] at h
    cases h
    obtain ⟨w, hs, he⟩ := textBody_sound cs s' rest hb
    exact ⟨w, .whole hs, he⟩

/-! ### Numbers -/

lemma digit_ne {c d : Char} (h : isDigit c = true) (hd : isDigit d = false) : c ≠ d := by
  rintro rfl
  rw [h] at hd
  cases hd

lemma numeric_ne {c d : Char} (h : c = '-' ∨ isDigit c = true) (hm : d ≠ '-') (hd : isDigit d = false) : c ≠ d := by
  rcases h with rfl | h
  · exact hm.symm
  · exact digit_ne h hd

lemma digits_append {ds rest : List Char} (h : Digits ds) (hr : ∀ c ∈ rest.head?, isDigit c = false) :
    Lexeme.digits (ds ++ rest) = .ok (ds, rest) := by
  have hd : rest.takeWhile isDigit = [] ∧ rest.dropWhile isDigit = rest := by
    cases rest with
    | nil => exact ⟨rfl, rfl⟩
    | cons c rest =>
      have hc := hr c rfl
      simp [hc]
  obtain ⟨hne, hall⟩ := h
  cases ds with
  | nil => exact absurd rfl hne
  | cons d ds =>
    have hf := hall d List.mem_cons_self
    rw [List.cons_append, Lexeme.digits, if_pos hf, ← List.cons_append, List.takeWhile_append_of_pos hall,
      List.dropWhile_append_of_pos hall, hd.1, hd.2, List.append_nil]

lemma digits_sound {cs ds rest : List Char} (h : Lexeme.digits cs = .ok (ds, rest)) :
    Digits ds ∧ cs = ds ++ rest := by
  cases cs with
  | nil => cases h
  | cons c cs =>
    rw [Lexeme.digits] at h
    split at h
    · next hc =>
      cases h
      refine ⟨⟨by simp [hc], ?_⟩, List.takeWhile_append_dropWhile.symm⟩
      exact List.all_eq_true.mp List.all_takeWhile
    · cases h

lemma wholeDigits_append {ds rest : List Char} (h : Digits ds) (hz : ds.head? = some '0' → ds = ['0'])
    (hr : ∀ c ∈ rest.head?, isDigit c = false) : wholeDigits (ds ++ rest) = .ok (ds, rest) := by
  rw [wholeDigits, digits_append h hr]
  cases ds with
  | nil => rfl
  | cons d ds =>
    by_cases hd : d = '0'
    · have he := hz (by rw [hd]; rfl)
      rw [he]
      rfl
    · simp [bind, Except.bind, pure, Except.pure, hd]

lemma wholeDigits_sound {cs ds rest : List Char} (h : wholeDigits cs = .ok (ds, rest)) :
    Digits ds ∧ (ds.head? = some '0' → ds = ['0']) ∧ cs = ds ++ rest := by
  rw [wholeDigits] at h
  obtain ⟨⟨es, rest'⟩, hd, h⟩ := bind_eq_ok h
  obtain ⟨hes, he⟩ := digits_sound hd
  dsimp only at h
  split at h
  · cases h
  · next hz =>
    cases h
    refine ⟨hes, fun hh => ?_, he⟩
    cases ds with
    | nil => cases hh
    | cons d ds =>
      cases ds with
      | nil => simpa using hh
      | cons d' ds => exact (hz d' ds (by simpa using hh)).elim

lemma fractionDigits_append {fraction : Option (List Char)} {f rest : List Char}
    (h : SpelledFraction fraction f) (hr : ∀ c ∈ rest.head?, isDigit c = false ∧ c ≠ '.') :
    fractionDigits (f ++ rest) = .ok (fraction, rest) := by
  cases h with
  | absent =>
    cases rest with
    | nil => rfl
    | cons c rest =>
      have hc := (hr c rfl).2
      simp [fractionDigits, hc]
  | digits hd =>
    rw [List.cons_append, fractionDigits, digits_append hd fun c hc => (hr c hc).1]
    rfl

lemma fractionDigits_sound {cs rest : List Char} {fraction : Option (List Char)}
    (h : fractionDigits cs = .ok (fraction, rest)) : ∃ f, SpelledFraction fraction f ∧ cs = f ++ rest := by
  rw [fractionDigits.eq_def] at h
  split at h
  · obtain ⟨⟨ds, rest'⟩, hd, h⟩ := bind_eq_ok h
    cases h
    obtain ⟨hds, he⟩ := digits_sound hd
    exact ⟨'.' :: ds, .digits hds, by rw [he, List.cons_append]⟩
  · cases h
    exact ⟨[], .absent, rfl⟩

lemma powerDigits_append {power : Option (Bool × List Char)} {p rest : List Char}
    (h : SpelledPower power p) (hr : ∀ c ∈ rest.head?, isDigit c = false ∧ c ≠ 'e' ∧ c ≠ 'E') :
    powerDigits (p ++ rest) = .ok (power, rest) := by
  cases h with
  | absent =>
    cases rest with
    | nil => rfl
    | cons c rest =>
      obtain ⟨_, he, hE⟩ := hr c rfl
      simp [powerDigits, he, hE]
  | @digits _ _ _ ds hm hs hd =>
    have hds := digits_append hd fun c hc => (hr c hc).1
    cases hs with
    | minus => simp [powerDigits, hm, hds, bind, Except.bind, pure, Except.pure]
    | plus => simp [powerDigits, hm, hds, bind, Except.bind, pure, Except.pure]
    | absent =>
      obtain ⟨hne, hall⟩ := hd
      cases ds with
      | nil => exact absurd rfl hne
      | cons d ds =>
        have hf := hall d List.mem_cons_self
        have hminus : d ≠ '-' := by rintro rfl; exact absurd hf (by decide)
        have hplus : d ≠ '+' := by rintro rfl; exact absurd hf (by decide)
        simp only [List.nil_append, List.cons_append] at hds ⊢
        simp [powerDigits, hm, hminus, hplus, hds, bind, Except.bind, pure, Except.pure]

lemma powerDigits_mark {c : Char} (hc : c = 'e' ∨ c = 'E') (cs : List Char) :
    ∃ down sign cs', SpelledSign down sign ∧ cs = sign ++ cs' ∧
      powerDigits (c :: cs) = (Lexeme.digits cs').map fun r => (some (down, r.1), r.2) := by
  have hm : (decide (c = 'e') || decide (c = 'E')) = true := by simpa using hc
  unfold powerDigits
  dsimp only
  rw [if_pos hm]
  split
  · next more => exact ⟨true, ['-'], more, .minus, rfl, rfl⟩
  · next more => exact ⟨false, ['+'], more, .plus, rfl, rfl⟩
  · exact ⟨false, [], cs, .absent, rfl, rfl⟩

lemma powerDigits_sound {cs rest : List Char} {power : Option (Bool × List Char)}
    (h : powerDigits cs = .ok (power, rest)) : ∃ p, SpelledPower power p ∧ cs = p ++ rest := by
  cases cs with
  | nil =>
    cases h
    exact ⟨[], .absent, rfl⟩
  | cons c cs =>
    by_cases hc : c = 'e' ∨ c = 'E'
    · obtain ⟨down, sign, cs', hs, rfl, he⟩ := powerDigits_mark hc cs
      rw [he] at h
      cases hd : Lexeme.digits cs' with
      | error e =>
        rw [hd] at h
        cases h
      | ok result =>
        obtain ⟨hds, rfl⟩ := digits_sound hd
        rw [hd] at h
        cases h
        exact ⟨c :: (sign ++ result.1), .digits hc hs hds, by simp⟩
    · have hm : (decide (c = 'e') || decide (c = 'E')) = false := by simpa using hc
      unfold powerDigits at h
      dsimp only at h
      rw [hm, if_neg (by decide)] at h
      cases h
      exact ⟨[], .absent, rfl⟩

lemma power_head {power : Option (Bool × List Char)} {p rest : List Char} (h : SpelledPower power p)
    (hr : Stops rest) : ∀ c ∈ (p ++ rest).head?, isDigit c = false ∧ c ≠ '.' := by
  intro c hc
  cases h with
  | absent => exact ⟨(hr c hc).1, (hr c hc).2.1⟩
  | digits hm _ _ =>
    cases hc
    rcases hm with rfl | rfl <;> decide

lemma fraction_head {fraction : Option (List Char)} {f rest : List Char} (h : SpelledFraction fraction f)
    (hr : ∀ c ∈ rest.head?, isDigit c = false ∧ c ≠ '.') : ∀ c ∈ (f ++ rest).head?, isDigit c = false := by
  intro c hc
  cases h with
  | absent => exact (hr c hc).1
  | digits _ =>
    cases hc
    decide

def unsigned (negative : Bool) (cs : List Char) : Except ReadError (Numeral × List Char) := do
  let (whole, cs) ← wholeDigits cs
  let (fraction, cs) ← fractionDigits cs
  let (power, cs) ← powerDigits cs
  pure ({ negative, whole, fraction, power }, cs)

lemma numeral_minus (cs : List Char) : numeral ('-' :: cs) = unsigned true cs := rfl

lemma numeral_plain {cs : List Char} (h : ∀ cs', cs ≠ '-' :: cs') : numeral cs = unsigned false cs := by
  unfold numeral
  split
  next hs =>
  split at hs
  · exact absurd rfl (h _)
  · cases hs
    rfl

lemma unsigned_append (negative : Bool) {whole f p rest : List Char} {fraction : Option (List Char)}
    {power : Option (Bool × List Char)} (hw : Digits whole) (hz : whole.head? = some '0' → whole = ['0'])
    (hf : SpelledFraction fraction f) (hp : SpelledPower power p) (hr : Stops rest) :
    unsigned negative (whole ++ (f ++ (p ++ rest))) = .ok (⟨negative, whole, fraction, power⟩, rest) := by
  have head := power_head hp hr
  rw [unsigned, wholeDigits_append hw hz (fraction_head hf head)]
  simp only [bind, Except.bind]
  rw [fractionDigits_append hf head]
  simp only
  rw [powerDigits_append hp fun c hc => ⟨(hr c hc).1, (hr c hc).2.2⟩]
  rfl

lemma unsigned_sound {negative : Bool} {cs rest : List Char} {n : Numeral}
    (h : unsigned negative cs = .ok (n, rest)) :
    ∃ w, SpelledNumber n ((if negative then ['-'] else []) ++ w) ∧ cs = w ++ rest := by
  rw [unsigned] at h
  obtain ⟨⟨whole, cs₁⟩, hw, h⟩ := bind_eq_ok h
  obtain ⟨⟨fraction, cs₂⟩, hf, h⟩ := bind_eq_ok h
  obtain ⟨⟨power, cs₃⟩, hp, h⟩ := bind_eq_ok h
  cases h
  obtain ⟨hwhole, hzero, rfl⟩ := wholeDigits_sound hw
  obtain ⟨f, hfraction, rfl⟩ := fractionDigits_sound hf
  obtain ⟨p, hpower, rfl⟩ := powerDigits_sound hp
  exact ⟨whole ++ (f ++ p), .parts hwhole hzero hfraction hpower, by simp⟩

lemma numeral_append {n : Numeral} {w rest : List Char} (h : SpelledNumber n w) (hr : Stops rest) :
    numeral (w ++ rest) = .ok (n, rest) := by
  cases h with
  | @parts negative whole fraction power f p hw hz hf hp =>
    have hu := unsigned_append negative hw hz hf hp hr
    cases negative with
    | true => simpa [numeral_minus] using hu
    | false =>
      have hn : ∀ cs', whole ++ (f ++ (p ++ rest)) ≠ '-' :: cs' := by
        obtain ⟨hne, hall⟩ := hw
        cases whole with
        | nil => exact absurd rfl hne
        | cons d ds =>
          intro cs' he
          exact digit_ne (hall d List.mem_cons_self) (by decide) (List.cons.inj he).1
      rw [← numeral_plain hn] at hu
      simpa using hu

lemma numeral_sound {cs rest : List Char} {n : Numeral} (h : numeral cs = .ok (n, rest)) :
    ∃ w, SpelledNumber n w ∧ cs = w ++ rest := by
  by_cases hm : ∃ cs', cs = '-' :: cs'
  · obtain ⟨cs', rfl⟩ := hm
    rw [numeral_minus] at h
    obtain ⟨w, hs, rfl⟩ := unsigned_sound h
    exact ⟨_, hs, rfl⟩
  · rw [numeral_plain fun cs' he => hm ⟨cs', he⟩] at h
    obtain ⟨w, hs, rfl⟩ := unsigned_sound h
    exact ⟨_, hs, rfl⟩

lemma number_append {n : Numeral} {w rest : List Char} (h : SpelledNumber n w) (hr : Stops rest) :
    (Lexeme.number (w ++ rest)).toOption = n.value.toOption.map (·, rest) := by
  rw [Lexeme.number, numeral_append h hr]
  change (n.value >>= fun x => pure (x, rest)).toOption = _
  cases n.value <;> rfl

lemma number_sound {cs rest : List Char} {x : Number} (h : Lexeme.number cs = .ok (x, rest)) :
    ∃ n w, SpelledNumber n w ∧ cs = w ++ rest := by
  rw [Lexeme.number] at h
  obtain ⟨⟨n, rest'⟩, hn, h⟩ := bind_eq_ok h
  obtain ⟨x', _, h⟩ := bind_eq_ok h
  cases h
  obtain ⟨w, hs, he⟩ := numeral_sound hn
  exact ⟨n, w, hs, he⟩

end Json

end ApiReference
