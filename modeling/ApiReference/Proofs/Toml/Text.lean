import ApiReference.Proofs.Text.Lines
import ApiReference.Toml.Lexeme

/-! Texts and keys of a settings file: whichever form the writer picks, the reader gets back what was
written, and stops right behind it. -/

namespace ApiReference.Toml

open Lexeme (hexValue)

/-! ### Characters between double quotes -/

inductive WrittenChar (c : Char) : List Char → Prop
  | raw : isTextChar c = true → c ≠ '"' → c ≠ '\\' → WrittenChar c [c]
  | short {x : Char} : escaped x = some c → WrittenChar c ['\\', x]
  | unit {a b d e : Char} : hexNumber [a, b, d, e] >>= charOf = some c → WrittenChar c ['\\', 'u', a, b, d, e]

lemma hexValue_upperHex {n : ℕ} (h : n < 16) : hexValue (upperHex n) = some n := by
  interval_cases n <;> rfl

lemma hexNumber_upperHex {n : ℕ} (h : n < 256) :
    hexNumber ['0', '0', upperHex (n / 16), upperHex (n % 16)] = some n := by
  have hz : hexValue '0' = some 0 := rfl
  have hh := hexValue_upperHex (n := n / 16) (by omega)
  have hl := hexValue_upperHex (n := n % 16) (by omega)
  simp only [hexNumber, List.foldlM_cons, List.foldlM_nil, hz, hh, hl, Option.map_some, Option.bind_eq_bind,
    Option.bind_some, Option.pure_def]
  congr 1
  omega

lemma charOf_toNat (c : Char) : charOf c.toNat = some c := by
  have hv : c.toNat.isValidChar := c.valid
  rw [charOf, if_pos hv, Char.ofNat_toNat]

lemma isTextChar_of_plain {c : Char} (h : needsEscape c = false) (hn : c ≠ '\n') : isTextChar c = true := by
  by_cases ht : c = '\t'
  · simp [isTextChar, isCommentChar, ht]
  · simpa [needsEscape, isTextChar, isCommentChar, ht, hn] using h

lemma writtenChar_escapeBasic (c : Char) : WrittenChar c (escapeBasic c) := by
  unfold escapeBasic
  split
  iterate 7 exact .short rfl
  · next hq hb _ _ hn _ _ =>
    split
    · next he =>
      have hs : c.toNat < 256 := by
        simp only [needsEscape, Bool.or_eq_true, Bool.and_eq_true, decide_eq_true_eq, beq_iff_eq] at he
        omega
      apply WrittenChar.unit
      rw [hexNumber_upperHex hs]
      exact charOf_toNat c
    · next he => exact .raw (isTextChar_of_plain (by simpa using he) hn) hq hb

lemma escaped_ne {x c : Char} (h : escaped x = some c) :
    x ≠ 'u' ∧ x ≠ 'U' ∧ isBlank x = false ∧ x ≠ '\n' ∧ x ≠ '\r' := by
  refine ⟨?_, ?_, ?_, ?_, ?_⟩
  · rintro rfl
    cases h
  · rintro rfl
    cases h
  · by_contra hb
    simp only [isBlank, Bool.not_eq_false, Bool.or_eq_true, beq_iff_eq] at hb
    rcases hb with rfl | rfl <;> cases h
  · rintro rfl
    cases h
  · rintro rfl
    cases h

lemma basicBody_char {c : Char} {w : List Char} (h : WrittenChar c w) (rest : List Char) :
    basicBody (w ++ rest) = push (some c) (basicBody rest) := by
  cases h with
  | raw ht hq hb =>
    rw [List.singleton_append, basicBody]
    · simp [ht, hb]
    all_goals simp [hq, hb]
  | @short x he =>
    obtain ⟨hu, hU, -⟩ := escaped_ne he
    change basicBody ('\\' :: x :: rest) = _
    rw [basicBody, he]
    all_goals simp [hu, hU]
  | @unit a b d e he =>
    change basicBody ('\\' :: 'u' :: a :: b :: d :: e :: rest) = _
    rw [basicBody, he]

lemma basicBody_written (cs rest : List Char) :
    basicBody (cs.flatMap escapeBasic ++ '"' :: rest) = some (cs, rest) := by
  induction cs with
  | nil => rw [List.flatMap_nil, List.nil_append, basicBody]
  | cons c cs ih =>
    rw [List.flatMap_cons, List.append_assoc, basicBody_char (writtenChar_escapeBasic c), ih]
    rfl

lemma literalBody_written {cs : List Char} (h : ∀ c ∈ cs, isTextChar c = true ∧ c ≠ '\x27') (rest : List Char) :
    literalBody (cs ++ '\x27' :: rest) = some (cs, rest) := by
  induction cs with
  | nil => rw [List.nil_append, literalBody]
  | cons c cs ih =>
    obtain ⟨⟨ht, hq⟩, hr⟩ := List.forall_mem_cons.mp h
    rw [List.cons_append, literalBody, if_pos ht, ih hr]
    · rfl
    · exact hq

/-! ### Texts over several lines -/

/-- How a reader of a text over several lines treats the quotes in it: three close it, up to two more right
before these belong to the text, and so do one or two that stand alone. -/
structure Quotes (read : List Char → Option (List Char × List Char)) (quote : Char) : Prop where
  alone {rest : List Char} : (∀ more, rest ≠ quote :: quote :: more) →
    read (quote :: rest) = push (some quote) (read rest)
  three {rest : List Char} : (∀ more, rest ≠ quote :: more) →
    read (quote :: quote :: quote :: rest) = some ([], rest)
  four {rest : List Char} : (∀ more, rest ≠ quote :: more) →
    read (quote :: quote :: quote :: quote :: rest) = some ([quote], rest)
  five (rest : List Char) :
    read (quote :: quote :: quote :: quote :: quote :: rest) = some ([quote, quote], rest)

section

variable {read : List Char → Option (List Char × List Char)} {quote : Char} (laws : Quotes read quote)
  {run : ℕ} (hr : run ≤ 2)
include laws hr

lemma Quotes.inside {c : Char} (hc : c ≠ quote) {cs rest rest' : List Char} (h : read (c :: rest) = some (cs, rest')) :
    read (List.replicate run quote ++ c :: rest) = some (List.replicate run quote ++ cs, rest') := by
  have hone : read (quote :: c :: rest) = some (quote :: cs, rest') := by
    rw [laws.alone (by simp [hc]), h]
    rfl
  interval_cases run
  · exact h
  · exact hone
  · change read (quote :: quote :: c :: rest) = _
    rw [laws.alone (by simp [hc]), hone]
    rfl

lemma Quotes.closing {rest : List Char} (hrest : ∀ more, rest ≠ quote :: more) :
    read (List.replicate run quote ++ quote :: quote :: quote :: rest) = some (List.replicate run quote, rest) := by
  interval_cases run
  · exact laws.three hrest
  · exact laws.four hrest
  · exact laws.five rest

end

lemma quotes_basicLines : Quotes (basicLines false) '"' where
  alone h := by
    have ht : isTextChar '"' = true := by decide
    rw [basicLines]
    · simp [ht]
    all_goals simp [h]
  three h := by
    rw [basicLines]
    all_goals simp [h]
  four h := by
    rw [basicLines]
    all_goals simp [h]
  five rest := by rw [basicLines]

lemma quotes_literalLines : Quotes literalLines '\x27' where
  alone h := by
    have ht : isTextChar '\x27' = true := by decide
    rw [literalLines, if_pos ht]
    all_goals simp [h]
  three h := by
    rw [literalLines]
    all_goals simp [h]
  four h := by
    rw [literalLines]
    all_goals simp [h]
  five rest := by rw [literalLines]

lemma basicLines_char {c : Char} {w : List Char} (h : WrittenChar c w) (rest : List Char) :
    basicLines false (w ++ rest) = push (some c) (basicLines false rest) := by
  cases h with
  | raw ht hq hb =>
    have hn : c ≠ '\n' ∧ c ≠ '\r' := by
      constructor
      · rintro rfl
        exact absurd ht (by decide)
      · rintro rfl
        exact absurd ht (by decide)
    rw [List.singleton_append, basicLines]
    · simp [ht, hb]
    all_goals simp [hq, hb, hn]
  | @short x he =>
    obtain ⟨hu, hU, hb, hn, hr⟩ := escaped_ne he
    have hend : endsLine (x :: rest) = false := by
      rw [endsLine, dropBlank, List.dropWhile_cons_of_neg (by simp [hb])]
      unfold newLine?
      split
      · next hx => exact absurd (List.cons.inj hx).1 hn
      · next hx => exact absurd (List.cons.inj hx).1 hr
      · rfl
    change basicLines false ('\\' :: x :: rest) = _
    rw [basicLines, if_neg (by simp [hend]), he]
    all_goals simp [hu, hU, hr]
  | @unit a b d e he =>
    change basicLines false ('\\' :: 'u' :: a :: b :: d :: e :: rest) = _
    rw [basicLines, he]

lemma basicLines_lineFeed (rest : List Char) :
    basicLines false ('\n' :: rest) = push (some '\n') (basicLines false rest) := by
  rw [basicLines]
  rfl

lemma WrittenChar.head {c : Char} {w : List Char} (h : WrittenChar c w) :
    ∃ d w', w = d :: w' ∧ d ≠ '"' ∧ d ≠ '\n' ∧ d ≠ '\r' := by
  cases h with
  | raw ht hq =>
    refine ⟨c, [], rfl, hq, ?_, ?_⟩
    · rintro rfl
      exact absurd ht (by decide)
    · rintro rfl
      exact absurd ht (by decide)
  | short => exact ⟨'\\', _, rfl, by decide, by decide, by decide⟩
  | unit => exact ⟨'\\', _, rfl, by decide, by decide, by decide⟩

lemma basicLines_pending {run : ℕ} (hr : run ≤ 2) (cs : List Char) {rest : List Char}
    (hrest : ∀ more, rest ≠ '"' :: more) :
    basicLines false (List.replicate run '"' ++ (escapeLines run cs ++ '"' :: '"' :: '"' :: rest)) =
      some (List.replicate run '"' ++ cs, rest) := by
  -- `run` quotes are written but not read yet: how they are read depends on what follows
  induction cs generalizing run with
  | nil =>
    rw [escapeLines, List.nil_append, List.append_nil]
    exact quotes_basicLines.closing hr hrest
  | cons c cs ih =>
    have hnext := ih (Nat.zero_le 2)
    rw [List.replicate_zero, List.nil_append, List.nil_append] at hnext
    rw [escapeLines]
    split
    · next hc =>
      subst hc
      split
      · next hlt =>
        have hmore := ih hlt
        rw [List.replicate_succ', List.append_assoc, List.append_assoc] at hmore
        exact hmore
      · have he : WrittenChar '"' ['\\', '"'] := .short rfl
        rw [List.append_assoc, List.cons_append]
        apply quotes_basicLines.inside hr (by decide)
        have hs := basicLines_char he (escapeLines 0 cs ++ '"' :: '"' :: '"' :: rest)
        rw [hnext] at hs
        exact hs
    · split
      · next hc =>
        subst hc
        rw [List.cons_append]
        apply quotes_basicLines.inside hr (by decide)
        rw [basicLines_lineFeed, hnext]
        rfl
      · have hw := writtenChar_escapeBasic c
        have hs := basicLines_char hw (escapeLines 0 cs ++ '"' :: '"' :: '"' :: rest)
        rw [hnext] at hs
        obtain ⟨d, w, he, hd, -⟩ := hw.head
        rw [he] at hs ⊢
        rw [List.append_assoc, List.cons_append]
        exact quotes_basicLines.inside hr hd hs

lemma literalLines_char {c : Char} (h : needsEscape c = false) (hq : c ≠ '\x27') (rest : List Char) :
    literalLines (c :: rest) = push (some c) (literalLines rest) := by
  by_cases hn : c = '\n'
  · subst hn
    rw [literalLines]
  · have ht := isTextChar_of_plain h hn
    have hr : c ≠ '\r' := by
      rintro rfl
      exact absurd h (by decide)
    rw [literalLines, if_pos ht]
    all_goals simp [hn, hr, hq]

def runStep (quote : Char) (runs : ℕ × ℕ) (c : Char) : ℕ × ℕ :=
  let run := if c = quote then runs.1 + 1 else 0
  (run, max run runs.2)

lemma best_le_runs (quote : Char) (cs : List Char) (runs : ℕ × ℕ) : runs.2 ≤ (cs.foldl (runStep quote) runs).2 := by
  induction cs generalizing runs with
  | nil => exact le_rfl
  | cons c cs ih => exact (le_max_right _ _).trans (ih (runStep quote runs c))

lemma literalLines_pending {run best : ℕ} (hr : run ≤ 2) {cs rest : List Char}
    (hruns : (cs.foldl (runStep '\x27') (run, best)).2 ≤ 2) (hc : ∀ c ∈ cs, needsEscape c = false)
    (hrest : ∀ more, rest ≠ '\x27' :: more) :
    literalLines (List.replicate run '\x27' ++ (cs ++ '\x27' :: '\x27' :: '\x27' :: rest)) =
      some (List.replicate run '\x27' ++ cs, rest) := by
  induction cs generalizing run best with
  | nil =>
    rw [List.nil_append, List.append_nil]
    exact quotes_literalLines.closing hr hrest
  | cons c cs ih =>
    obtain ⟨hp, hcs⟩ := List.forall_mem_cons.mp hc
    rw [List.foldl_cons] at hruns
    by_cases hq : c = '\x27'
    · subst hq
      have hle := (best_le_runs '\x27' cs _).trans hruns
      rw [runStep, if_pos rfl] at hle hruns
      have hmore := ih ((le_max_left _ _).trans hle) hruns hcs
      rw [List.replicate_succ', List.append_assoc, List.append_assoc] at hmore
      exact hmore
    · rw [runStep, if_neg hq] at hruns
      have hnext := ih (Nat.zero_le 2) hruns hcs
      rw [List.replicate_zero, List.nil_append, List.nil_append] at hnext
      apply quotes_literalLines.inside hr hq
      change literalLines (c :: (cs ++ _)) = _
      rw [literalLines_char hp hq, hnext]
      rfl

/-! ### The form of a text -/

lemma literal_of_plain {cs : List Char} (hp : cs.any needsEscape = false) (hn : '\n' ∉ cs) (hq : '\x27' ∉ cs) :
    ∀ c ∈ cs, isTextChar c = true ∧ c ≠ '\x27' := by
  intro c hc
  have hne {d : Char} (hd : d ∉ cs) : c ≠ d := fun he => hd (he ▸ hc)
  exact ⟨isTextChar_of_plain (by simpa using List.any_eq_false.mp hp c hc) (hne hn), hne hq⟩

lemma formOf_literal {cs : List Char} (h : formOf cs = .literal) : ∀ c ∈ cs, isTextChar c = true ∧ c ≠ '\x27' := by
  by_cases hl : (!cs.any needsEscape && !cs.contains '\n' && !cs.contains '\x27') = true
  · simp only [Bool.and_eq_true, Bool.not_eq_true', List.contains_eq_mem, decide_eq_false_iff_not] at hl
    exact literal_of_plain hl.1.1 hl.1.2 hl.2
  · simp only [formOf, hl] at h
    split_ifs at h with _ hf
    exact hf.elim

lemma formOf_literalLines {cs : List Char} (h : formOf cs = .literalLines) :
    (∀ c ∈ cs, needsEscape c = false) ∧ longestRun '\x27' cs ≤ 2 := by
  by_cases hl : (!cs.any needsEscape && decide (longestRun '\x27' cs ≤ 2)) = true
  · simpa only [Bool.and_eq_true, Bool.not_eq_true', List.any_eq_false, decide_eq_true_eq, Bool.not_eq_true] using hl
  · simp only [formOf, hl] at h
    split_ifs at h with _ _ _ hf
    exact hf.elim

def Unquoted (rest : List Char) : Prop := ∀ c ∈ rest.head?, c ≠ '"' ∧ c ≠ '\x27'

lemma Unquoted.ne_double {rest : List Char} (h : Unquoted rest) (more : List Char) : rest ≠ '"' :: more := by
  rintro rfl
  exact (h '"' rfl).1 rfl

lemma Unquoted.ne_single {rest : List Char} (h : Unquoted rest) (more : List Char) : rest ≠ '\x27' :: more := by
  rintro rfl
  exact (h '\x27' rfl).2 rfl

lemma textValue_basic {body cs rest : List Char} (hb : ∀ more, body ≠ '"' :: '"' :: more)
    (h : basicBody body = some (cs, rest)) : textValue ('"' :: body) = some (String.ofList cs, rest) := by
  unfold textValue
  split
  · next he => exact absurd (List.cons.inj he).2 (hb _)
  · next he =>
    rw [← (List.cons.inj he).2, h]
    rfl
  · next he => cases he
  · next he => cases he
  · next _ hn _ _ => exact absurd rfl (hn body)

lemma textValue_literal {body cs rest : List Char} (hb : ∀ more, body ≠ '\x27' :: '\x27' :: more)
    (h : literalBody body = some (cs, rest)) : textValue ('\x27' :: body) = some (String.ofList cs, rest) := by
  unfold textValue
  split
  · next he => cases he
  · next he => cases he
  · next he => exact absurd (List.cons.inj he).2 (hb _)
  · next he =>
    rw [← (List.cons.inj he).2, h]
    rfl
  · next _ _ _ hn => exact absurd rfl (hn body)

lemma dropFirstBreak_openLines {cs body : List Char}
    (h : '\n' ∉ cs → ∀ c ∈ body.head?, c ≠ '\n' ∧ c ≠ '\r') : dropFirstBreak (openLines cs ++ body) = body := by
  rw [openLines]
  split
  · rfl
  · next hc =>
    rw [List.nil_append, dropFirstBreak]
    unfold newLine?
    split
    · exact absurd rfl (h (by simpa using hc) '\n' rfl).1
    · exact absurd rfl (h (by simpa using hc) '\r' rfl).2
    · rfl

lemma flatMap_escapeBasic_ne (cs : List Char) {rest : List Char} (hrest : Unquoted rest) (more : List Char) :
    cs.flatMap escapeBasic ++ '"' :: rest ≠ '"' :: '"' :: more := by
  cases cs with
  | nil =>
    intro he
    exact hrest.ne_double more (List.cons.inj he).2
  | cons c cs =>
    obtain ⟨d, w, he, hd, -⟩ := (writtenChar_escapeBasic c).head
    rw [List.flatMap_cons, he]
    intro heq
    exact hd (List.cons.inj heq).1

lemma head_escapeLines {cs : List Char} (h : '\n' ∉ cs) (rest : List Char) :
    ∀ c ∈ (escapeLines 0 cs ++ '"' :: rest).head?, c ≠ '\n' ∧ c ≠ '\r' := by
  cases cs with
  | nil => simp [escapeLines]
  | cons c cs =>
    obtain ⟨hc, -⟩ := not_or.mp (mt List.mem_cons.mpr h)
    rw [escapeLines]
    split
    · simp
    · obtain ⟨d, w, he, -, hd⟩ := (writtenChar_escapeBasic c).head
      rw [if_neg (Ne.symm hc), he]
      simpa using hd

theorem textValue_written (s : String) {rest : List Char} (hrest : Unquoted rest) :
    textValue (writeText s ++ rest) = some (s, rest) := by
  obtain ⟨cs, rfl⟩ : ∃ cs, s = String.ofList cs := ⟨s.toList, by simp⟩
  rw [writeText, String.toList_ofList]
  split
  · simp only [List.append_assoc, List.cons_append, List.nil_append]
    exact textValue_basic (flatMap_escapeBasic_ne cs hrest) (basicBody_written cs rest)
  · next hf =>
    have hc := formOf_literal hf
    simp only [List.append_assoc, List.cons_append, List.nil_append]
    refine textValue_literal ?_ (literalBody_written hc rest)
    intro more he
    cases cs with
    | nil => exact hrest.ne_single more (List.cons.inj he).2
    | cons c cs => exact (hc c List.mem_cons_self).2 (List.cons.inj he).1
  · have hb := basicLines_pending (Nat.zero_le 2) cs hrest.ne_double
    simp only [List.append_assoc, List.cons_append, List.nil_append]
    change (basicLines false (dropFirstBreak _) >>= _) = _
    rw [dropFirstBreak_openLines fun hn => head_escapeLines hn _]
    rw [List.replicate_zero, List.nil_append, List.nil_append] at hb
    rw [hb]
    rfl
  · next hf =>
    obtain ⟨hc, hruns⟩ := formOf_literalLines hf
    have hb := literalLines_pending (Nat.zero_le 2) hruns hc hrest.ne_single
    simp only [List.append_assoc, List.cons_append, List.nil_append]
    change (literalLines (dropFirstBreak _) >>= _) = _
    rw [List.replicate_zero, List.nil_append, List.nil_append] at hb
    rw [dropFirstBreak_openLines, hb]
    · rfl
    · intro hn c hd
      cases cs with
      | nil =>
        obtain rfl := Option.some.inj hd
        decide
      | cons d cs =>
        obtain rfl := Option.some.inj hd
        refine ⟨fun he => hn (he ▸ List.mem_cons_self), ?_⟩
        rintro rfl
        exact absurd (hc '\r' List.mem_cons_self) (by decide)

/-! ### Keys -/

def Unkeyed (rest : List Char) : Prop := ∀ c ∈ rest.head?, isBareKeyChar c = false

lemma simpleKey_double {body cs rest : List Char} (h : basicBody body = some (cs, rest)) :
    simpleKey ('"' :: body) = some (String.ofList cs, rest) := by
  change (basicBody body >>= _) = _
  rw [h]
  rfl

lemma simpleKey_single {body cs rest : List Char} (h : literalBody body = some (cs, rest)) :
    simpleKey ('\x27' :: body) = some (String.ofList cs, rest) := by
  change (literalBody body >>= _) = _
  rw [h]
  rfl

lemma simpleKey_bare {cs rest : List Char} (h : isBareKey cs = true) (hrest : Unkeyed rest) :
    simpleKey (cs ++ rest) = some (String.ofList cs, rest) := by
  rw [isBareKey, Bool.and_eq_true, List.all_eq_true] at h
  obtain ⟨hne, hall⟩ := h
  cases cs with
  | nil => cases hne
  | cons c cs =>
    have hc := hall c List.mem_cons_self
    unfold simpleKey
    split
    · next he =>
      obtain ⟨rfl, -⟩ := List.cons.inj he
      exact absurd hc (by decide)
    · next he =>
      obtain ⟨rfl, -⟩ := List.cons.inj he
      exact absurd hc (by decide)
    · rw [Text.takeWhile_front hall hrest, Text.dropWhile_front hall hrest]
      rfl

theorem simpleKey_written (s : String) {rest : List Char} (hrest : Unkeyed rest) :
    simpleKey (writeKey s ++ rest) = some (s, rest) := by
  obtain ⟨cs, rfl⟩ : ∃ cs, s = String.ofList cs := ⟨s.toList, by simp⟩
  rw [writeKey, String.toList_ofList]
  have hd : simpleKey (['"'] ++ cs.flatMap escapeBasic ++ ['"'] ++ rest) = some (String.ofList cs, rest) := by
    simp only [List.append_assoc, List.cons_append, List.nil_append]
    exact simpleKey_double (basicBody_written cs rest)
  split_ifs with hb hp hl
  · exact simpleKey_bare hb hrest
  · exact hd
  · simp only [Bool.and_eq_true, Bool.not_eq_true', Bool.or_eq_false_iff, List.contains_eq_mem,
      decide_eq_false_iff_not] at hl
    simp only [List.append_assoc, List.cons_append, List.nil_append]
    apply simpleKey_single
    apply literalBody_written
    exact literal_of_plain hl.1.1 hl.1.2 hl.2
  · exact hd

lemma head_writeKey (s : String) :
    ∃ c w, writeKey s = c :: w ∧ (isBareKeyChar c = true ∨ c = '"' ∨ c = '\x27') := by
  rw [writeKey]
  split_ifs with hb
  · rw [isBareKey, Bool.and_eq_true, List.all_eq_true] at hb
    obtain ⟨hne, hall⟩ := hb
    obtain ⟨c, w, hw⟩ := List.exists_cons_of_ne_nil (l := s.toList) (by simpa using hne)
    exact ⟨c, w, hw, Or.inl (hall c (hw ▸ List.mem_cons_self))⟩
  · exact ⟨'"', _, rfl, Or.inr (Or.inl rfl)⟩
  · exact ⟨'\x27', _, rfl, Or.inr (Or.inr rfl)⟩
  · exact ⟨'"', _, rfl, Or.inr (Or.inl rfl)⟩

lemma head_writeText (s : String) : ∃ c w, writeText s = c :: w ∧ (c = '"' ∨ c = '\x27') := by
  rw [writeText]
  split
  · exact ⟨'"', _, rfl, Or.inl rfl⟩
  · exact ⟨'\x27', _, rfl, Or.inr rfl⟩
  · exact ⟨'"', _, rfl, Or.inl rfl⟩
  · exact ⟨'\x27', _, rfl, Or.inr rfl⟩

end ApiReference.Toml
