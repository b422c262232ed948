import ApiReference.Proofs.Json.Pretty
import ApiReference.Proofs.Toml.Text
import ApiReference.Toml.Reader

/-! Written values are read as they were: numbers, texts and lists of texts. -/

namespace ApiReference.Toml

open Lexeme (isDigit digitValue)
open Json (Digits)

/-! ### Numbers -/

lemma decimalNumber_toDigits (n : ℕ) : decimalNumber (Nat.toDigits 10 n) = n := by
  induction n using Nat.strong_induction_on with
  | _ n ih =>
    rcases Nat.lt_or_ge n 10 with hn | hn
    · rw [Nat.toDigits_of_lt_base hn]
      simp [decimalNumber, digitValue_digitChar hn]
    · have hq := ih (n / 10) (by omega)
      rw [decimalNumber] at hq
      rw [Nat.toDigits_of_base_le (by decide) hn, decimalNumber, List.foldl_append, hq]
      simp only [List.foldl_cons, List.foldl_nil, digitValue_digitChar (Nat.mod_lt n (by decide : 10 > 0))]
      omega

section

variable {ds : List Char} (hd : ∀ c ∈ ds, isDigit c = true) (rest : List Char)
include hd

lemma moreDigits_digits : moreDigits isDigit (ds ++ '\n' :: rest) = some (ds, '\n' :: rest) := by
  induction ds with
  | nil =>
    rw [List.nil_append, moreDigits]
    · rfl
    · simp
  | cons d ds ih =>
    obtain ⟨hdigit, hds⟩ := List.forall_mem_cons.mp hd
    have hne : d ≠ '_' := by
      rintro rfl
      exact absurd hdigit (by decide)
    rw [List.cons_append, moreDigits, if_neg hne, if_pos hdigit, ih hds]
    · rfl
    · simp [hne]

lemma expect_digits (mark : Char) (hm : isDigit mark = false) (hl : mark ≠ '\n') {count low high n : ℕ}
    {left : List Char} (h : fixedDigits count low high (ds ++ '\n' :: rest) = some (n, left)) :
    expect mark left = none := by
  simp only [fixedDigits, Bool.and_eq_true, decide_eq_true_eq, List.all_eq_true] at h
  split at h
  · next hc =>
    obtain ⟨⟨⟨hlen, hall⟩, -⟩, -⟩ := hc
    obtain ⟨-, rfl⟩ := Prod.mk.inj (Option.some.inj h)
    have hcount : count ≤ ds.length := by
      by_contra hlt
      have hmem : '\n' ∈ (ds ++ '\n' :: rest).take count := by
        rw [List.take_append, List.mem_append]
        right
        obtain ⟨k, hk⟩ := Nat.exists_eq_succ_of_ne_zero (n := count - ds.length) (by omega)
        rw [hk, List.take_succ_cons]
        exact List.mem_cons_self
      exact absurd (hall '\n' hmem) (by decide)
    rw [List.drop_append_of_le_length hcount]
    cases hrest : ds.drop count with
    | nil => simp [expect, Ne.symm hl]
    | cons d more =>
      have hdigit : isDigit d = true := hd d (List.mem_of_mem_drop (hrest ▸ List.mem_cons_self))
      have hne : d ≠ mark := by
        rintro rfl
        rw [hm] at hdigit
        cases hdigit
      simp [expect, hne]
  · cases h

lemma moment_digits : moment (ds ++ '\n' :: rest) = none := by
  have hdate : date (ds ++ '\n' :: rest) = none := by
    rw [date]
    cases h : fixedDigits 4 0 9999 (ds ++ '\n' :: rest) with
    | none => rfl
    | some found =>
      have he := expect_digits hd rest '-' (by decide) (by decide) h
      simp [he]
  have htime : time (ds ++ '\n' :: rest) = none := by
    rw [time]
    cases h : fixedDigits 2 0 23 (ds ++ '\n' :: rest) with
    | none => rfl
    | some found =>
      have he := expect_digits hd rest ':' (by decide) (by decide) h
      simp [he]
  rw [moment, hdate]
  exact htime

end

lemma dropSign_digit {d : Char} (hd : isDigit d = true) (cs : List Char) : dropSign (d :: cs) = (false, d :: cs) := by
  unfold dropSign
  split
  · next he =>
    obtain ⟨rfl, -⟩ := List.cons.inj he
    cases hd
  · next he =>
    obtain ⟨rfl, -⟩ := List.cons.inj he
    cases hd
  · rfl

lemma wordValue_natural {n : ℕ} (h : n < 2 ^ 63) : wordValue n = some (.scalar (.signed n)) := by
  have hw : isWord n = true := by
    simp only [isWord, Nat.pow_eq, Bool.and_eq_true, decide_eq_true_eq]
    omega
  rw [wordValue, if_pos hw]

section

variable {d : Char} {ds : List Char} (hd : ∀ c ∈ d :: ds, isDigit c = true) (hz : d = '0' → ds = []) (rest : List Char)
include hd hz

lemma decimalDigits_digits : decimalDigits (d :: ds ++ '\n' :: rest) = some (d :: ds, '\n' :: rest) := by
  obtain ⟨hdigit, hds⟩ := List.forall_mem_cons.mp hd
  by_cases h0 : d = '0'
  · rw [h0, hz h0]
    rfl
  · rw [List.cons_append, decimalDigits]
    · rw [someDigits, if_pos hdigit, moreDigits_digits hds]
      rfl
    · simp [h0]

lemma decimal_digits : decimal (d :: ds ++ '\n' :: rest) = none := by
  have hs : dropSign (d :: ds ++ '\n' :: rest) = (false, d :: ds ++ '\n' :: rest) :=
    dropSign_digit (hd d List.mem_cons_self) _
  rw [decimal, hs]
  dsimp only
  rw [decimalDigits_digits hd hz]
  rfl

lemma specialNumber_digits : specialNumber (d :: ds ++ '\n' :: rest) = none := by
  have hdigit := hd d List.mem_cons_self
  have hs : dropSign (d :: ds ++ '\n' :: rest) = (false, d :: ds ++ '\n' :: rest) := dropSign_digit hdigit _
  rw [specialNumber, hs]
  dsimp only
  split
  · next he =>
    obtain ⟨rfl, -⟩ := List.cons.inj he
    cases hdigit
  · next he =>
    obtain ⟨rfl, -⟩ := List.cons.inj he
    cases hdigit
  · rfl

lemma integer_digits (hw : decimalNumber (d :: ds) < 2 ^ 63) :
    integer (d :: ds ++ '\n' :: rest) = some (.scalar (.signed (decimalNumber (d :: ds))), '\n' :: rest) := by
  have hs : dropSign (d :: ds ++ '\n' :: rest) = (false, d :: ds ++ '\n' :: rest) :=
    dropSign_digit (hd d List.mem_cons_self) _
  have hv := wordValue_natural hw
  -- behind a zero there is no letter for a base, only the line feed
  have hbase {x : Char} (hx : x ≠ '\n') (more : List Char) : d :: ds ++ '\n' :: rest ≠ '0' :: x :: more := by
    intro he
    obtain ⟨h0, he⟩ := List.cons.inj he
    rw [hz h0] at he
    exact hx (List.cons.inj he).1.symm
  unfold integer
  split
  · next he => exact absurd he (hbase (by decide) _)
  · next he => exact absurd he (hbase (by decide) _)
  · next he => exact absurd he (hbase (by decide) _)
  · rw [hs]
    dsimp only
    rw [decimalDigits_digits hd hz]
    rw [Option.bind_eq_bind, Option.bind_some, if_neg Bool.false_ne_true, hv]
    rfl

end

theorem numeric_toDigits {n : ℕ} (h : n < 2 ^ 63) (rest : List Char) :
    numeric (Nat.toDigits 10 n ++ '\n' :: rest) = some (.scalar (.signed n), '\n' :: rest) := by
  have hn := decimalNumber_toDigits n
  obtain ⟨hne, hd⟩ := digits_toDigits n
  have hz : (Nat.toDigits 10 n).head? = some '0' → Nat.toDigits 10 n = ['0'] := by
    intro h0
    rw [head_toDigits h0]
    rfl
  generalize Nat.toDigits 10 n = digits at *
  obtain ⟨d, ds, rfl⟩ := List.exists_cons_of_ne_nil hne
  have hz' : d = '0' → ds = [] := by
    rintro rfl
    exact (List.cons.inj (hz rfl)).2
  rw [numeric, moment_digits hd, decimal_digits hd hz', specialNumber_digits hd hz']
  subst hn
  exact integer_digits hd hz' rest h

/-! ### Blanks between items -/

structure Solid (c : Char) : Prop where
  blank : isBlank c = false
  comment : c ≠ '#'
  lineFeed : c ≠ '\n'
  carriageReturn : c ≠ '\r'

instance : DecidablePred Solid := fun c =>
  decidable_of_iff (isBlank c = false ∧ c ≠ '#' ∧ c ≠ '\n' ∧ c ≠ '\r')
    ⟨fun h => ⟨h.1, h.2.1, h.2.2.1, h.2.2.2⟩, fun h => ⟨h.blank, h.comment, h.lineFeed, h.carriageReturn⟩⟩

lemma solid_quote {c : Char} (h : c = '"' ∨ c = '\x27') : Solid c := by
  rcases h with rfl | rfl
  · decide
  · decide

lemma newLine?_eq_none {c : Char} (h : Solid c) (rest : List Char) : newLine? (c :: rest) = none := by
  unfold newLine?
  split
  · next he => exact absurd (List.cons.inj he).1 h.lineFeed
  · next he => exact absurd (List.cons.inj he).1 h.carriageReturn
  · rfl

lemma dropBlank_solid {gap : List Char} (hg : ∀ c ∈ gap, isBlank c = true) {c : Char} (h : Solid c) (rest : List Char) :
    dropBlank (gap ++ c :: rest) = c :: rest :=
  Text.dropWhile_front hg fun _ hd => Option.some.inj hd ▸ h.blank

lemma dropSpace_solid (rounds : ℕ) {gap : List Char} (hg : ∀ c ∈ gap, isBlank c = true) {c : Char} (h : Solid c)
    (rest : List Char) : dropSpace (rounds + 1) (gap ++ c :: rest) = c :: rest := by
  rw [dropSpace, dropBlank_solid hg h]
  split
  · next he => exact absurd (List.cons.inj he).1 h.comment
  · rw [newLine?_eq_none h]

lemma dropSpace_break (rounds : ℕ) {gap : List Char} (hg : ∀ c ∈ gap, isBlank c = true) {c : Char} (h : Solid c)
    (rest : List Char) : dropSpace (rounds + 2) ('\n' :: (gap ++ c :: rest)) = c :: rest := by
  rw [dropSpace]
  exact dropSpace_solid rounds hg h rest

/-! ### Lists -/

lemma readValue_text (levels : ℕ) (s : String) {rest : List Char} (hrest : Unquoted rest) :
    readValue levels (writeText s ++ rest) = some (.text s, rest) := by
  have ht := textValue_written s hrest
  obtain ⟨c, w, hw, hc⟩ := head_writeText s
  rw [hw, List.cons_append] at ht ⊢
  rcases hc with rfl | rfl
  · unfold readValue
    change (textValue _ >>= _) = _
    rw [ht]
    rfl
  · unfold readValue
    change (textValue _ >>= _) = _
    rw [ht]
    rfl

section

variable {item : ValueReader} {rounds : ℕ} {cs cs' behind more rest : List Char} {c : Char} {v : ConfigValue}
  {vs : List ConfigValue}

lemma readItems_close (h : dropSpace cs.length cs = ']' :: rest) :
    readItems item (rounds + 1) cs = some ([], rest) := by
  rw [readItems, h]
  rfl

lemma readItems_comma (h : dropSpace cs.length cs = c :: cs') (hc : c ≠ ']') (hi : item (c :: cs') = some (v, behind))
    (hb : dropSpace behind.length behind = ',' :: more) (hr : readItems item rounds more = some (vs, rest)) :
    readItems item (rounds + 1) cs = some (v :: vs, rest) := by
  rw [readItems, h]
  split
  · next he => exact absurd (List.cons.inj he).1 hc
  · rw [hi]
    dsimp only [Option.bind_eq_bind, Option.bind_some]
    rw [hb]
    change (readItems item rounds more).bind _ = _
    rw [hr]
    rfl

lemma readItems_last (h : dropSpace cs.length cs = c :: cs') (hc : c ≠ ']') (hi : item (c :: cs') = some (v, behind))
    (hb : dropSpace behind.length behind = ']' :: rest) : readItems item (rounds + 1) cs = some ([v], rest) := by
  rw [readItems, h]
  split
  · next he => exact absurd (List.cons.inj he).1 hc
  · rw [hi]
    dsimp only [Option.bind_eq_bind, Option.bind_some]
    rw [hb]
    rfl

end

def itemLines (items : List String) : List Char :=
  '\n' :: items.flatMap fun s => [' ', ' ', ' ', ' '] ++ writeText s ++ [',', '\n']

lemma length_itemLines (items : List String) : items.length ≤ (itemLines items).length := by
  induction items with
  | nil => exact Nat.zero_le _
  | cons s items ih =>
    simp only [itemLines, List.flatMap_cons, List.length_cons, List.length_append] at ih ⊢
    omega

lemma unquoted_cons {c : Char} (h : c ≠ '"' ∧ c ≠ '\x27') (rest : List Char) : Unquoted (c :: rest) :=
  fun _ hc => Option.some.inj hc ▸ h

lemma readItems_lines (levels : ℕ) {rounds : ℕ} {items : List String} (h : items.length < rounds) (rest : List Char) :
    readItems (readValue levels) rounds (itemLines items ++ ']' :: rest) = some (items.map .text, rest) := by
  obtain ⟨rounds, rfl⟩ := Nat.exists_eq_succ_of_ne_zero (Nat.ne_zero_of_lt h)
  induction items generalizing rounds with
  | nil =>
    apply readItems_close
    exact dropSpace_break rest.length (List.forall_mem_nil _) (by decide) rest
  | cons s items ih =>
    have hblank : ∀ c ∈ [' ', ' ', ' ', ' '], isBlank c = true := by simp [isBlank]
    have hcomma : Solid ',' := by decide
    rw [List.length_cons] at h
    obtain ⟨rounds, rfl⟩ := Nat.exists_eq_succ_of_ne_zero (n := rounds) (by omega)
    have hv := readValue_text levels s (unquoted_cons (c := ',') (by decide) (itemLines items ++ ']' :: rest))
    obtain ⟨c, w, hw, hc⟩ := head_writeText s
    rw [hw] at hv
    have hlines : itemLines (s :: items) ++ ']' :: rest =
        '\n' :: ([' ', ' ', ' ', ' '] ++ c :: (w ++ ',' :: (itemLines items ++ ']' :: rest))) := by
      simp [itemLines, hw]
    rw [hlines, List.map_cons]
    refine readItems_comma (dropSpace_break _ hblank (solid_quote hc) _) ?_ hv
      (dropSpace_solid _ (List.forall_mem_nil _) hcomma _) (ih rounds (by omega))
    rintro rfl
    simp at hc

/-! ### Entries -/

def Entry.value : Entry → ConfigValue
  | .natural n => .scalar (.signed n)
  | .text s => .text s
  | .texts items => .list (items.map .text)

def Entry.Fits : Entry → Prop
  | .natural n => n < 2 ^ 63
  | _ => True

@[simp] lemma Entry.fits_text (s : String) : (Entry.text s).Fits := trivial

@[simp] lemma Entry.fits_texts (items : List String) : (Entry.texts items).Fits := trivial

lemma readValue_natural {n : ℕ} (h : n < 2 ^ 63) (levels : ℕ) (rest : List Char) :
    readValue levels (Nat.toDigits 10 n ++ '\n' :: rest) = some (.scalar (.signed n), '\n' :: rest) := by
  have hn := numeric_toDigits h rest
  obtain ⟨hne, hd⟩ := digits_toDigits n
  obtain ⟨d, ds, hds⟩ := List.exists_cons_of_ne_nil hne
  rw [hds] at hn hd ⊢
  have hdigit := hd d List.mem_cons_self
  have hdne {c : Char} (hc : isDigit c = false) : d ≠ c := by
    rintro rfl
    rw [hc] at hdigit
    cases hdigit
  rw [List.cons_append, readValue]
  · rw [if_pos (by simp [hdigit])]
    exact hn
  all_goals simp [hdne (c := '"') (by decide), hdne (c := '\x27') (by decide), hdne (c := '[') (by decide),
    hdne (c := '\x7b') (by decide), hdne (c := 't') (by decide), hdne (c := 'f') (by decide)]

lemma readValue_list (levels : ℕ) {cs rest : List Char} {vs : List ConfigValue}
    (h : readItems (readValue levels) (cs.length + 1) cs = some (vs, rest)) :
    readValue (levels + 1) ('[' :: cs) = some (.list vs, rest) := by
  rw [readValue, h]
  rfl

theorem readValue_entry {entry : Entry} (h : entry.Fits) (rest : List Char) :
    readValue nestingLimit (writeEntry entry ++ '\n' :: rest) = some (entry.value, '\n' :: rest) := by
  have hline := unquoted_cons (c := '\n') (by decide) rest
  have hbracket : Solid ']' := by decide
  unfold writeEntry
  split
  · exact readValue_natural h nestingLimit rest
  · next s => exact readValue_text nestingLimit s hline
  · exact readValue_list _ (readItems_close (dropSpace_solid _ (List.forall_mem_nil _) hbracket _))
  · next s =>
    have hv (levels : ℕ) := readValue_text levels s (unquoted_cons (c := ']') (by decide) ('\n' :: rest))
    obtain ⟨c, w, hw, hc⟩ := head_writeText s
    simp only [hw, List.append_assoc, List.cons_append, List.nil_append] at hv ⊢
    refine readValue_list _ (readItems_last (dropSpace_solid _ (List.forall_mem_nil _) (solid_quote hc) _) ?_ (hv _)
      (dropSpace_solid _ (List.forall_mem_nil _) hbracket _))
    rintro rfl
    simp at hc
  · next items _ _ =>
    have he : ['[', '\n'] ++ items.flatMap (fun s => [' ', ' ', ' ', ' '] ++ writeText s ++ [',', '\n']) ++ [']'] ++
        '\n' :: rest = '[' :: (itemLines items ++ ']' :: '\n' :: rest) := by
      simp [itemLines]
    have hlen : items.length < (itemLines items ++ ']' :: '\n' :: rest).length + 1 := by
      have hl := length_itemLines items
      rw [List.length_append]
      omega
    rw [he]
    exact readValue_list _ (readItems_lines _ hlen ('\n' :: rest))

end ApiReference.Toml
