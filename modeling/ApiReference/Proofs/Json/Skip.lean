import ApiReference.Json.Skip
import ApiReference.Proofs.Json.Lexeme

/-! The automaton that passes over a value stops exactly behind the spelling of one. -/

namespace ApiReference.Skip

open Lexeme Json

def resume (stack : List Enclosing) (rest : List Char) : Except ReadError (List Char) :=
  match stack with
  | [] => .ok rest
  | stack => run .after stack rest

lemma resume_cons (e : Enclosing) (stack : List Enclosing) (rest : List Char) :
    resume (e :: stack) rest = run .after (e :: stack) rest := rfl

section

variable {mode mode' : Mode} {stack stack' : List Enclosing} {c : Char}

lemma run_next (h : step mode stack c = .ok (.next mode' stack')) (cs : List Char) :
    run mode stack (c :: cs) = run mode' stack' cs := by
  rw [run, h]

lemma run_close (h : step mode stack c = .ok (close stack')) (cs : List Char) :
    run mode stack (c :: cs) = resume stack' cs := by
  rw [run, h]
  cases stack' <;> rfl

lemma run_ended (h : step mode stack c = afterStep c stack) (cs : List Char) :
    run mode stack (c :: cs) = resume stack (c :: cs) := by
  cases stack with
  | nil =>
    rw [run, h]
    rfl
  | cons e stack =>
    rw [resume_cons, run, run, h]
    rfl

lemma run_atEnd (h : atEnd mode stack = endInside stack) : run mode stack [] = resume stack [] := by
  rw [run, h]
  cases stack with
  | nil => rfl
  | cons e stack => cases e <;> rfl

lemma run_while {p : Char → Bool} (h : ∀ c, p c = true → step mode stack c = .ok (.next mode stack))
    {w : List Char} (hw : ∀ c ∈ w, p c = true) (cs : List Char) :
    run mode stack (w ++ cs) = run mode stack cs := by
  induction w with
  | nil => rfl
  | cons d w ih =>
    rw [List.cons_append, run_next (h d (hw d List.mem_cons_self))]
    exact ih fun c hc => hw c (List.mem_cons_of_mem d hc)

lemma exists_while (p : Char → Bool) (cs : List Char) :
    ∃ w rest, (∀ c ∈ w, p c = true) ∧ cs = w ++ rest ∧ ∀ c ∈ rest.head?, p c = false := by
  refine ⟨cs.takeWhile p, cs.dropWhile p, List.all_eq_true.mp List.all_takeWhile,
    List.takeWhile_append_dropWhile.symm, ?_⟩
  intro c hc
  have hd := List.head?_dropWhile_not p cs
  rw [hc] at hd
  simpa using hd

end

/-! ### Words and texts -/

lemma run_word (w : Char) (ws : List Char) (stack : List Enclosing) (cs : List Char) :
    run (.word (w :: ws)) stack (w :: ws ++ cs) = resume stack cs := by
  induction ws generalizing w with
  | nil => exact run_close (by simp [step]) cs
  | cons v ws ih =>
    have hs : step (.word (w :: v :: ws)) stack w = .ok (.next (.word (v :: ws)) stack) := by simp [step]
    rw [List.cons_append, run_next hs]
    exact ih v

lemma word_of_run {w : Char} {ws cs out : List Char} {stack : List Enclosing}
    (h : run (.word (w :: ws)) stack cs = .ok out) :
    ∃ rest, cs = w :: ws ++ rest ∧ resume stack rest = .ok out := by
  induction ws generalizing w cs with
  | nil =>
    cases cs with
    | nil => cases h
    | cons c cs =>
      by_cases hc : c = w
      · have hs : step (.word [w]) stack c = .ok (close stack) := by simp [step, hc]
        rw [run_close hs] at h
        exact ⟨cs, by rw [hc]; rfl, h⟩
      · simp [run, step, hc] at h
  | cons v ws ih =>
    cases cs with
    | nil => cases h
    | cons c cs =>
      by_cases hc : c = w
      · have hs : step (.word (w :: v :: ws)) stack c = .ok (.next (.word (v :: ws)) stack) := by
          simp [step, hc]
        rw [run_next hs] at h
        obtain ⟨rest, rfl, hr⟩ := ih h
        exact ⟨rest, by rw [hc]; rfl, hr⟩
      · simp [run, step, hc] at h

def afterText (isKey : Bool) (stack : List Enclosing) (cs : List Char) : Except ReadError (List Char) :=
  if isKey then run .colon stack cs else resume stack cs

lemma run_quote (isKey : Bool) (stack : List Enclosing) (cs : List Char) :
    run (.text isKey) stack ('"' :: cs) = afterText isKey stack cs := by
  cases isKey with
  | true => exact run_next rfl cs
  | false => exact run_close rfl cs

lemma utf8Size_concat (w : List Char) (c : Char) : utf8Size (w ++ [c]) = utf8Size w + c.utf8Size := by
  simp [utf8Size]

lemma hexDigit_utf8Size {c : Char} {n : ℕ} (h : HexDigit c n) : c.utf8Size = 1 := by
  obtain ⟨hn, hc⟩ := h
  interval_cases n <;> rcases hc with rfl | rfl <;> decide

lemma run_hex {n : ℕ} {w : List Char} (h : Hex n w) (isKey : Bool) (stack : List Enclosing) (cs : List Char) :
    run (.hex isKey []) stack (w ++ cs) = run (.text isKey) stack cs := by
  cases h with
  | @digits a b c d i j k l hi hj hk hl =>
    have ha := hexDigit_utf8Size hi
    have hb := hexDigit_utf8Size hj
    have hc := hexDigit_utf8Size hk
    have hd := hexDigit_utf8Size hl
    rw [← hexValue_iff] at hi hj hk hl
    have h₁ : step (.hex isKey []) stack a = .ok (.next (.hex isKey [a]) stack) := by
      simp [step, hexStep, utf8Size, ha]
    have h₂ : step (.hex isKey [a]) stack b = .ok (.next (.hex isKey [a, b]) stack) := by
      simp [step, hexStep, utf8Size, ha, hb]
    have h₃ : step (.hex isKey [a, b]) stack c = .ok (.next (.hex isKey [a, b, c]) stack) := by
      simp [step, hexStep, utf8Size, ha, hb, hc]
    have h₄ : step (.hex isKey [a, b, c]) stack d = .ok (.next (.text isKey) stack) := by
      simp [step, hexStep, utf8Size, ha, hb, hc, hd, hi, hj, hk, hl]
    simp only [List.cons_append, List.nil_append, run_next h₁, run_next h₂, run_next h₃, run_next h₄]

lemma run_text {w : List Char} (h : Quotable w) (isKey : Bool) (stack : List Enclosing) (cs : List Char) :
    run (.text isKey) stack (w ++ '"' :: cs) = afterText isKey stack cs := by
  induction h with
  | nil => exact run_quote isKey stack cs
  | @raw c ws hc hq hb _ ih =>
    have hn : isControl c = false := by simpa [isControl] using hc
    have hs : step (.text isKey) stack c = .ok (.next (.text isKey) stack) := by
      simp [step, textStep, hq, hb, hn]
    rw [List.cons_append, run_next hs]
    exact ih
  | @short e c ws he _ ih =>
    have hu := ne_of_short he
    rw [← escaped_iff] at he
    have hs : step (.escape isKey) stack e = .ok (.next (.text isKey) stack) := by simp [step, hu, he]
    rw [List.cons_append, List.cons_append, run_next rfl, run_next hs]
    exact ih
  | @unit n w ws hx _ ih =>
    rw [List.cons_append, List.cons_append, run_next rfl, run_next rfl, List.append_assoc, run_hex hx]
    exact ih

lemma exists_hex {w : List Char} {c : Char} (hw : utf8Size w < 4) (hc : ¬ utf8Size (w ++ [c]) < 4)
    (h : (w ++ [c]).all fun d => (hexValue d).isSome) : ∃ n, Hex n (w ++ [c]) := by
  have size : ∀ v : List Char, (∀ d ∈ v, (hexValue d).isSome = true) → utf8Size v = v.length := by
    intro v hv
    induction v using List.reverseRecOn with
    | nil => rfl
    | append_singleton v d ih =>
      obtain ⟨n, hn⟩ := Option.isSome_iff_exists.mp (hv d (by simp))
      rw [utf8Size_concat, ih fun d hd => hv d (by simp [hd]), hexDigit_utf8Size ((hexValue_iff d n).mp hn)]
      simp
  rw [List.all_eq_true] at h
  have hl : (w ++ [c]).length = 4 := by
    have h₁ := size (w ++ [c]) h
    have h₂ := size w fun d hd => h d (by simp [hd])
    rw [List.length_append, List.length_singleton] at h₁ ⊢
    omega
  generalize w ++ [c] = v at h hl
  match v, hl with
  | [a, b, c, d], _ =>
    have digit : ∀ e ∈ [a, b, c, d], ∃ n, HexDigit e n := by
      intro e he
      obtain ⟨n, hn⟩ := Option.isSome_iff_exists.mp (h e he)
      exact ⟨n, (hexValue_iff e n).mp hn⟩
    obtain ⟨i, hi⟩ := digit a (by simp)
    obtain ⟨j, hj⟩ := digit b (by simp)
    obtain ⟨k, hk⟩ := digit c (by simp)
    obtain ⟨l, hl⟩ := digit d (by simp)
    exact ⟨_, .digits hi hj hk hl⟩

lemma hex_of_run {isKey : Bool} {stack : List Enclosing} {read cs out : List Char} (hr : utf8Size read < 4)
    (h : run (.hex isKey read) stack cs = .ok out) :
    ∃ n w rest, Hex n (read ++ w) ∧ cs = w ++ rest ∧ run (.text isKey) stack rest = .ok out := by
  induction cs generalizing read with
  | nil => cases h
  | cons c cs ih =>
    by_cases hs : utf8Size (read ++ [c]) < 4
    · have hn : step (.hex isKey read) stack c = .ok (.next (.hex isKey (read ++ [c])) stack) := by
        simp [step, hexStep, hs]
      rw [run_next hn] at h
      obtain ⟨n, w, rest, hx, rfl, ht⟩ := ih hs h
      exact ⟨n, c :: w, rest, by simpa using hx, rfl, ht⟩
    · by_cases ha : (read ++ [c]).all fun d => (hexValue d).isSome
      · have hn : step (.hex isKey read) stack c = .ok (.next (.text isKey) stack) := by
          simp only [step, hexStep, if_neg hs, if_pos ha]
        rw [run_next hn] at h
        obtain ⟨n, hx⟩ := exists_hex hr hs ha
        exact ⟨n, [c], cs, hx, rfl, h⟩
      · simp only [run, step, hexStep, if_neg hs, if_neg ha] at h
        cases h

lemma text_of_run {isKey : Bool} {stack : List Enclosing} {cs out : List Char}
    (h : run (.text isKey) stack cs = .ok out) :
    ∃ w rest, Quotable w ∧ cs = w ++ '"' :: rest ∧ afterText isKey stack rest = .ok out := by
  induction hn : cs.length using Nat.strong_induction_on generalizing cs with
  | _ n ih =>
  subst hn
  cases cs with
  | nil => cases h
  | cons c cs =>
    by_cases hq : c = '"'
    · subst hq
      rw [run_quote] at h
      exact ⟨[], cs, .nil, rfl, h⟩
    by_cases hb : c = '\\'
    · subst hb
      rw [run_next rfl] at h
      cases cs with
      | nil => cases h
      | cons e cs =>
        by_cases hu : e = 'u'
        · subst hu
          rw [run_next rfl] at h
          obtain ⟨n, u, rest, hx, rfl, ht⟩ := hex_of_run (by decide) h
          obtain ⟨w, rest', hw, rfl, ha⟩ := ih rest.length (by simp; omega) ht rfl
          exact ⟨'\\' :: 'u' :: (u ++ w), rest', .unit hx hw, by simp, ha⟩
        cases he : escaped e with
        | none => simp [run, step, hu, he] at h
        | some d =>
          have hs : step (.escape isKey) stack e = .ok (.next (.text isKey) stack) := by
            simp [step, hu, he]
          rw [run_next hs] at h
          obtain ⟨w, rest, hw, rfl, ha⟩ := ih cs.length (by simp) h rfl
          exact ⟨'\\' :: e :: w, rest, .short ((escaped_iff e d).mp he) hw, rfl, ha⟩
    by_cases hc : isControl c = true
    · simp [run, step, textStep, hq, hb, hc] at h
    · have hs : step (.text isKey) stack c = .ok (.next (.text isKey) stack) := by
        simp [step, textStep, hq, hb, hc]
      rw [run_next hs] at h
      obtain ⟨w, rest, hw, rfl, ha⟩ := ih cs.length (by simp) h rfl
      exact ⟨c :: w, rest, .raw (by simpa [isControl] using hc) hq hb hw, rfl, ha⟩

/-! ### Numbers -/

def Complete (mode : Mode) : Prop := mode = .zero ∨ mode = .whole ∨ mode = .fraction ∨ mode = .power

lemma run_stops {mode : Mode} (hm : Complete mode) (stack : List Enclosing) {rest : List Char} (hr : Stops rest) :
    run mode stack rest = resume stack rest := by
  cases rest with
  | nil => rcases hm with rfl | rfl | rfl | rfl <;> exact run_atEnd rfl
  | cons c rest =>
    obtain ⟨hd, hp, he, hE⟩ := hr c rfl
    apply run_ended
    rcases hm with rfl | rfl | rfl | rfl <;> simp [step, hd, hp, he, hE, isPowerMark]

lemma run_needDigit {mode mode' : Mode} {stack : List Enclosing} {d : Char}
    (hs : step mode stack d = needDigit mode' stack d) (hd : isDigit d = true) (cs : List Char) :
    run mode stack (d :: cs) = run mode' stack cs := by
  rw [needDigit, if_pos hd] at hs
  exact run_next hs cs

lemma run_mark {sign ds : List Char} {down : Bool} (hs : SpelledSign down sign) (hd : Digits ds)
    (stack : List Enclosing) (cs : List Char) :
    run .mark stack (sign ++ (ds ++ cs)) = run .power stack cs := by
  obtain ⟨hne, hall⟩ := hd
  cases ds with
  | nil => exact absurd rfl hne
  | cons d ds =>
    have hf := hall d List.mem_cons_self
    have loop : run .power stack (ds ++ cs) = run .power stack cs :=
      run_while (fun c hc => by simp [step, hc]) (fun c hc => hall c (List.mem_cons_of_mem d hc)) cs
    cases hs with
    | minus => exact (run_next rfl _).trans ((run_needDigit rfl hf _).trans loop)
    | plus => exact (run_next rfl _).trans ((run_needDigit rfl hf _).trans loop)
    | absent =>
      have hm : step .mark stack d = needDigit .power stack d := by
        simp [step, digit_ne hf (by decide : isDigit '+' = false), digit_ne hf (by decide : isDigit '-' = false)]
      exact (run_needDigit hm hf _).trans loop

lemma run_power {mode : Mode} (hm : Complete mode) (hn : mode ≠ .power) {power : Option (Bool × List Char)}
    {p : List Char} (hp : SpelledPower power p) (stack : List Enclosing) {rest : List Char} (hr : Stops rest) :
    run mode stack (p ++ rest) = resume stack rest := by
  cases hp with
  | absent => exact run_stops hm stack hr
  | @digits mark _ sign ds hc hs hd =>
    have hmark : step mode stack mark = .ok (.next .mark stack) := by
      rcases hm with rfl | rfl | rfl | rfl
      · rcases hc with rfl | rfl <;> rfl
      · rcases hc with rfl | rfl <;> rfl
      · rcases hc with rfl | rfl <;> rfl
      · exact absurd rfl hn
    rw [List.cons_append, List.append_assoc, run_next hmark, run_mark hs hd]
    exact run_stops (by simp [Complete]) stack hr

lemma run_fraction {mode : Mode} (hm : mode = .zero ∨ mode = .whole) {fraction : Option (List Char)}
    {power : Option (Bool × List Char)} {f p : List Char} (hf : SpelledFraction fraction f)
    (hp : SpelledPower power p) (stack : List Enclosing) {rest : List Char} (hr : Stops rest) :
    run mode stack (f ++ (p ++ rest)) = resume stack rest := by
  cases hf with
  | absent =>
    rcases hm with rfl | rfl
    · exact run_power (by simp [Complete]) (by decide) hp stack hr
    · exact run_power (by simp [Complete]) (by decide) hp stack hr
  | @digits ds hd =>
    have hpoint : step mode stack '.' = .ok (.next .point stack) := by rcases hm with rfl | rfl <;> rfl
    obtain ⟨hne, hall⟩ := hd
    cases ds with
    | nil => exact absurd rfl hne
    | cons d ds =>
      rw [List.cons_append, List.cons_append, run_next hpoint, run_needDigit rfl (hall d List.mem_cons_self),
        run_while (fun c hc => by simp [step, hc]) fun c hc => hall c (List.mem_cons_of_mem d hc)]
      exact run_power (by simp [Complete]) (by decide) hp stack hr

lemma step_value_digit {d : Char} (h : isDigit d = true) (stack : List Enclosing) :
    step .value stack d = .ok (.next (if d = '0' then .zero else .whole) stack) := by
  have ne := fun c (hc : isDigit c = false) => digit_ne h hc
  have hb : isBlank d = false := by
    simp [isBlank, ne ' ' (by decide), ne '\t' (by decide), ne '\n' (by decide), ne '\r' (by decide)]
  by_cases hz : d = '0'
  · subst hz
    rfl
  · simp [step, valueStep, hb, hz, h, ne 'n' (by decide), ne 't' (by decide), ne 'f' (by decide), ne '-' (by decide)]

lemma run_whole {mode : Mode} {stack : List Enclosing} {whole : List Char} (hw : Digits whole)
    (hz : whole.head? = some '0' → whole = ['0'])
    (hs : ∀ d, isDigit d = true → step mode stack d = .ok (.next (if d = '0' then .zero else .whole) stack))
    (cs : List Char) : ∃ mode', (mode' = .zero ∨ mode' = .whole) ∧
      run mode stack (whole ++ cs) = run mode' stack cs := by
  obtain ⟨hne, hall⟩ := hw
  cases whole with
  | nil => exact absurd rfl hne
  | cons d ds =>
    have hd := hs d (hall d List.mem_cons_self)
    by_cases h0 : d = '0'
    · have he := hz (by rw [h0]; rfl)
      rw [if_pos h0] at hd
      cases he
      exact ⟨.zero, Or.inl rfl, run_next hd cs⟩
    · rw [if_neg h0] at hd
      refine ⟨.whole, Or.inr rfl, ?_⟩
      rw [List.cons_append, run_next hd]
      exact run_while (fun c hc => by simp [step, hc]) (fun c hc => hall c (List.mem_cons_of_mem d hc)) cs

lemma step_minus_digit {d : Char} (h : isDigit d = true) (stack : List Enclosing) :
    step .minus stack d = .ok (.next (if d = '0' then .zero else .whole) stack) := by
  by_cases hz : d = '0' <;> simp [step, needDigit, hz, h]

lemma run_number {n : Numeral} {w : List Char} (h : SpelledNumber n w) (stack : List Enclosing)
    {rest : List Char} (hr : Stops rest) : run .value stack (w ++ rest) = resume stack rest := by
  cases h with
  | @parts negative whole _ _ f p hw hz hf hp =>
    cases negative with
    | true =>
      obtain ⟨mode, hm, he⟩ := run_whole hw hz (fun d hd => step_minus_digit hd stack) (f ++ (p ++ rest))
      have hs : run .value stack ('-' :: (whole ++ (f ++ (p ++ rest)))) = resume stack rest :=
        (run_next rfl _).trans (he.trans (run_fraction hm hf hp stack hr))
      simpa using hs
    | false =>
      obtain ⟨mode, hm, he⟩ := run_whole hw hz (fun d hd => step_value_digit hd stack) (f ++ (p ++ rest))
      simpa using he.trans (run_fraction hm hf hp stack hr)

lemma power_of_run {stack : List Enclosing} {cs out : List Char} (h : run .power stack cs = .ok out) :
    ∃ ds rest, (∀ c ∈ ds, isDigit c = true) ∧ cs = ds ++ rest ∧ resume stack rest = .ok out := by
  obtain ⟨ds, rest, hd, rfl, hn⟩ := exists_while isDigit cs
  rw [run_while (fun c hc => by simp [step, hc]) hd] at h
  refine ⟨ds, rest, hd, rfl, ?_⟩
  cases rest with
  | nil => rwa [run_atEnd rfl] at h
  | cons c rest =>
    have hs : step .power stack c = afterStep c stack := by simp [step, hn c rfl]
    rwa [run_ended hs] at h

lemma needDigit_of_run {mode mode' : Mode} {stack : List Enclosing} {d : Char} {cs out : List Char}
    (hs : step mode stack d = needDigit mode' stack d) (h : run mode stack (d :: cs) = .ok out) :
    isDigit d = true ∧ run mode' stack cs = .ok out := by
  by_cases hd : isDigit d = true
  · exact ⟨hd, by rwa [run_needDigit hs hd] at h⟩
  · rw [run, hs, needDigit, if_neg hd] at h
    cases h

lemma digits_of_run {mode : Mode} {stack : List Enclosing} {cs out : List Char}
    (hs : ∀ d, step mode stack d = needDigit .power stack d) (he : atEnd mode stack = .error .invalidNumber)
    (h : run mode stack cs = .ok out) :
    ∃ ds rest, Digits ds ∧ cs = ds ++ rest ∧ resume stack rest = .ok out := by
  cases cs with
  | nil =>
    rw [run, he] at h
    cases h
  | cons d cs =>
    obtain ⟨hd, hp⟩ := needDigit_of_run (hs d) h
    obtain ⟨ds, rest, hall, rfl, hr⟩ := power_of_run hp
    exact ⟨d :: ds, rest, ⟨by simp, by simpa using ⟨hd, hall⟩⟩, rfl, hr⟩

lemma mark_of_run {stack : List Enclosing} {cs out : List Char} (h : run .mark stack cs = .ok out) :
    ∃ down sign ds rest, SpelledSign down sign ∧ Digits ds ∧ cs = sign ++ (ds ++ rest) ∧
      resume stack rest = .ok out := by
  cases cs with
  | nil => cases h
  | cons c cs =>
    by_cases hc : c = '+' ∨ c = '-'
    · have hs : step .mark stack c = .ok (.next .sign stack) := by simp [step, hc]
      rw [run_next hs] at h
      obtain ⟨ds, rest, hd, rfl, hr⟩ := digits_of_run (fun _ => rfl) rfl h
      rcases hc with rfl | rfl
      · exact ⟨false, ['+'], ds, rest, .plus, hd, rfl, hr⟩
      · exact ⟨true, ['-'], ds, rest, .minus, hd, rfl, hr⟩
    · have hs : step .mark stack c = needDigit .power stack c := by simp [step, hc]
      obtain ⟨hd, hp⟩ := needDigit_of_run hs h
      obtain ⟨ds, rest, hall, rfl, hr⟩ := power_of_run hp
      exact ⟨false, [], c :: ds, rest, .absent, ⟨by simp, by simpa using ⟨hd, hall⟩⟩, rfl, hr⟩

lemma fraction_of_run {stack : List Enclosing} {cs out : List Char} (h : run .fraction stack cs = .ok out) :
    ∃ ds power p rest, (∀ c ∈ ds, isDigit c = true) ∧ SpelledPower power p ∧ cs = ds ++ (p ++ rest) ∧
      resume stack rest = .ok out := by
  obtain ⟨ds, cs', hd, rfl, hn⟩ := exists_while isDigit cs
  rw [run_while (fun c hc => by simp [step, hc]) hd] at h
  cases cs' with
  | nil =>
    rw [run_atEnd rfl] at h
    exact ⟨ds, none, [], [], hd, .absent, rfl, h⟩
  | cons c cs' =>
    by_cases hc : c = 'e' ∨ c = 'E'
    · have hs : step .fraction stack c = .ok (.next .mark stack) := by
        rcases hc with rfl | rfl <;> rfl
      rw [run_next hs] at h
      obtain ⟨down, sign, es, rest, hsign, hes, rfl, hr⟩ := mark_of_run h
      exact ⟨ds, _, c :: (sign ++ es), rest, hd, .digits hc hsign hes, by simp, hr⟩
    · have hs : step .fraction stack c = afterStep c stack := by
        simp [step, hn c rfl, isPowerMark, not_or.mp hc]
      rw [run_ended hs] at h
      exact ⟨ds, none, [], c :: cs', hd, .absent, rfl, h⟩

lemma tail_of_run {mode : Mode} (hm : mode = .zero ∨ mode = .whole) {stack : List Enclosing}
    {cs out : List Char} (hn : ∀ c ∈ cs.head?, isDigit c = false) (h : run mode stack cs = .ok out) :
    ∃ fraction f power p rest, SpelledFraction fraction f ∧ SpelledPower power p ∧
      cs = f ++ (p ++ rest) ∧ resume stack rest = .ok out := by
  cases cs with
  | nil =>
    refine ⟨none, [], none, [], [], .absent, .absent, rfl, ?_⟩
    rcases hm with rfl | rfl <;> rwa [run_atEnd rfl] at h
  | cons c cs =>
    have hd := hn c rfl
    by_cases hp : c = '.'
    · subst hp
      have hs : step mode stack '.' = .ok (.next .point stack) := by rcases hm with rfl | rfl <;> rfl
      rw [run_next hs] at h
      cases cs with
      | nil => cases h
      | cons d cs =>
        obtain ⟨hdigit, hf⟩ := needDigit_of_run rfl h
        obtain ⟨ds, power, p, rest, hall, hpower, rfl, hr⟩ := fraction_of_run hf
        exact ⟨some (d :: ds), '.' :: d :: ds, power, p, rest,
          .digits ⟨by simp, by simpa using ⟨hdigit, hall⟩⟩, hpower, rfl, hr⟩
    by_cases hc : c = 'e' ∨ c = 'E'
    · have hs : step mode stack c = .ok (.next .mark stack) := by
        rcases hm with rfl | rfl <;> rcases hc with rfl | rfl <;> rfl
      rw [run_next hs] at h
      obtain ⟨down, sign, es, rest, hsign, hes, rfl, hr⟩ := mark_of_run h
      exact ⟨none, [], _, c :: (sign ++ es), rest, .absent, .digits hc hsign hes, by simp, hr⟩
    · have hs : step mode stack c = afterStep c stack := by
        rcases hm with rfl | rfl <;> simp [step, hd, hp, isPowerMark, not_or.mp hc]
      rw [run_ended hs] at h
      exact ⟨none, [], none, [], c :: cs, .absent, .absent, rfl, h⟩

lemma unsigned_of_run (negative : Bool) {d : Char} (hd : isDigit d = true) {stack : List Enclosing}
    {cs out : List Char} (h : run (if d = '0' then .zero else .whole) stack cs = .ok out) :
    ∃ n w rest, SpelledNumber n ((if negative then ['-'] else []) ++ w) ∧ d :: cs = w ++ rest ∧
      resume stack rest = .ok out := by
  by_cases hz : d = '0'
  · subst hz
    rw [if_pos rfl] at h
    have hn : ∀ c ∈ cs.head?, isDigit c = false := by
      intro c hc
      cases cs with
      | nil => cases hc
      | cons e cs =>
        cases hc
        cases hc : isDigit c with
        | false => rfl
        | true => simp [run, step, hc] at h
    obtain ⟨fraction, f, power, p, rest, hf, hp, rfl, hr⟩ := tail_of_run (Or.inl rfl) hn h
    have hw : Digits ['0'] := ⟨by simp, by simp [hd]⟩
    exact ⟨_, ['0'] ++ (f ++ p), rest, .parts hw (fun _ => rfl) hf hp, by simp, hr⟩
  · rw [if_neg hz] at h
    obtain ⟨ds, cs', hall, rfl, hn⟩ := exists_while isDigit cs
    rw [run_while (fun c hc => by simp [step, hc]) hall] at h
    obtain ⟨fraction, f, power, p, rest, hf, hp, rfl, hr⟩ := tail_of_run (Or.inr rfl) hn h
    have hw : Digits (d :: ds) := ⟨by simp, by simpa using ⟨hd, hall⟩⟩
    exact ⟨_, d :: ds ++ (f ++ p), rest, .parts hw (by simp [hz]) hf hp, by simp, hr⟩

lemma minus_of_run {stack : List Enclosing} {cs out : List Char} (h : run .minus stack cs = .ok out) :
    ∃ n w rest, SpelledNumber n w ∧ '-' :: cs = w ++ rest ∧ resume stack rest = .ok out := by
  cases cs with
  | nil => cases h
  | cons d cs =>
    have hd : isDigit d = true := by
      by_contra hd
      have hz : d ≠ '0' := by
        rintro rfl
        exact hd rfl
      simp [run, step, needDigit, hz, hd] at h
    rw [run_next (step_minus_digit hd stack)] at h
    obtain ⟨n, w, rest, hn, he, hr⟩ := unsigned_of_run true hd h
    exact ⟨n, _, rest, hn, by rw [he]; rfl, hr⟩

/-! ### Lists and objects -/

def Enclosing.closer : Enclosing → Char
  | .list => ']'
  | .object => '\x7d'

def Enclosing.itemMode : Enclosing → Mode
  | .list => .value
  | .object => .key

lemma Enclosing.closer_eq (e : Enclosing) : e.closer = ']' ∨ e.closer = '\x7d' := by cases e <;> simp [closer]

section

variable {e : Enclosing} {stack : List Enclosing}

lemma step_after_blank {c : Char} (h : isBlank c = true) :
    step .after (e :: stack) c = .ok (.next .after (e :: stack)) := by
  cases e <;> simp [step, afterStep, h]

lemma step_opened_blank {c : Char} (h : isBlank c = true) :
    step .opened (e :: stack) c = .ok (.next .opened (e :: stack)) := by
  cases e <;> simp [step, openedStep, h]

lemma step_item_blank {c : Char} (h : isBlank c = true) :
    step e.itemMode (e :: stack) c = .ok (.next e.itemMode (e :: stack)) := by
  cases e <;> simp [step, Enclosing.itemMode, valueStep, keyStep, h]

lemma step_after_comma : step .after (e :: stack) ',' = .ok (.next e.itemMode (e :: stack)) := by
  cases e <;> rfl

lemma step_after_closer : step .after (e :: stack) e.closer = .ok (close stack) := by cases e <;> rfl

lemma step_opened_closer : step .opened (e :: stack) e.closer = .ok (close stack) := by cases e <;> rfl

lemma step_opened_item {c : Char} (hb : isBlank c = false) (hc : c ≠ e.closer) :
    step .opened (e :: stack) c = step e.itemMode (e :: stack) c := by
  cases e with
  | list =>
    have hc : c ≠ ']' := hc
    simp [step, openedStep, Enclosing.itemMode, hb, hc]
  | object =>
    have hc : c ≠ '\x7d' := hc
    simp [step, openedStep, Enclosing.itemMode, hb, hc]

lemma run_opened_item {c : Char} (hb : isBlank c = false) (hc : c ≠ e.closer) (cs : List Char) :
    run .opened (e :: stack) (c :: cs) = run e.itemMode (e :: stack) (c :: cs) := by
  rw [run, run, step_opened_item hb hc]

variable {α : Type} {item : α → List Char → Prop}

lemma run_trailing (hi : ∀ {a w rest}, item a w → Stops rest →
      run e.itemMode (e :: stack) (w ++ rest) = run .after (e :: stack) rest)
    {as : List α} {w : List Char} (h : Trailing item as w) (rest : List Char) :
    run .after (e :: stack) (w ++ e.closer :: rest) = resume stack rest := by
  induction h with
  | nil hg => rw [run_while (fun _ => step_after_blank) hg, run_close step_after_closer]
  | cons hb hb' ha ht ih =>
    simp only [List.append_assoc, List.cons_append]
    rw [run_while (fun _ => step_after_blank) hb, run_next step_after_comma,
      run_while (fun _ => step_item_blank) hb', hi ha (ht.stops e.closer_eq rest), ih]

lemma run_listed (hi : ∀ {a w rest}, item a w → Stops rest →
      run e.itemMode (e :: stack) (w ++ rest) = run .after (e :: stack) rest)
    (hh : ∀ {a w}, item a w → ∃ c cs, w = c :: cs ∧ isBlank c = false ∧ c ≠ e.closer)
    {as : List α} {w : List Char} (h : Listed item as w) (rest : List Char) :
    run .opened (e :: stack) (w ++ e.closer :: rest) = resume stack rest := by
  cases h with
  | empty hg => rw [run_while (fun _ => step_opened_blank) hg, run_close step_opened_closer]
  | items hb ha ht =>
    have hs := hi ha (ht.stops e.closer_eq rest)
    obtain ⟨c, cs, rfl, hc, hne⟩ := hh ha
    simp only [List.append_assoc, List.cons_append] at hs ⊢
    rw [run_while (fun _ => step_opened_blank) hb, run_opened_item hc hne, hs, run_trailing hi ht]

lemma step_after_other {c : Char} (hb : isBlank c = false) (hk : c ≠ ',') (hc : c ≠ e.closer) :
    ∃ err, step .after (e :: stack) c = .error err := by
  cases e with
  | list =>
    have hc : c ≠ ']' := hc
    exact ⟨.expectedCommaOrBracket, by simp [step, afterStep, hb, hk, hc]⟩
  | object =>
    have hc : c ≠ '\x7d' := hc
    exact ⟨.expectedCommaOrBrace, by simp [step, afterStep, hb, hk, hc]⟩

lemma trailing_of_run {n : ℕ} {out : List Char}
    (hi : ∀ {cs}, cs.length < n → run e.itemMode (e :: stack) cs = .ok out →
      ∃ a rest, Front item a cs rest ∧ run .after (e :: stack) rest = .ok out)
    {cs : List Char} (hn : cs.length ≤ n) (h : run .after (e :: stack) cs = .ok out) :
    ∃ as w rest, Trailing item as w ∧ cs = w ++ e.closer :: rest ∧ resume stack rest = .ok out := by
  induction hl : cs.length using Nat.strong_induction_on generalizing cs with
  | _ l ih =>
  subst hl
  obtain ⟨gap, cs, hg, rfl, hb⟩ := exists_while isBlank cs
  rw [run_while (fun _ => step_after_blank) hg] at h
  cases cs with
  | nil => cases e <;> cases h
  | cons c cs =>
    by_cases hc : c = e.closer
    · subst hc
      rw [run_close step_after_closer] at h
      exact ⟨[], gap, cs, .nil hg, rfl, h⟩
    by_cases hk : c = ','
    · subst hk
      rw [run_next step_after_comma] at h
      simp only [List.length_append, List.length_cons] at hn ih
      obtain ⟨a, cs', ⟨before, w, hbefore, ha, rfl⟩, ha'⟩ := hi (by omega) h
      simp only [List.length_append] at hn ih
      obtain ⟨as, ws, rest, ht, rfl, hr⟩ := ih cs'.length (by omega) (by omega) ha' rfl
      exact ⟨a :: as, _, rest, .cons hg hbefore ha ht, by simp, hr⟩
    · obtain ⟨err, he⟩ := step_after_other (hb c rfl) hk hc
      rw [run, he] at h
      cases h

variable (e) in
lemma listed_of_run {n : ℕ} {out : List Char}
    (hi : ∀ {cs}, cs.length < n → run e.itemMode (e :: stack) cs = .ok out →
      ∃ a rest, Front item a cs rest ∧ run .after (e :: stack) rest = .ok out)
    {cs : List Char} (hn : cs.length < n) (h : run .opened (e :: stack) cs = .ok out) :
    ∃ as w rest, Listed item as w ∧ cs = w ++ e.closer :: rest ∧ resume stack rest = .ok out := by
  obtain ⟨gap, cs, hg, rfl, hb⟩ := exists_while isBlank cs
  rw [run_while (fun _ => step_opened_blank) hg] at h
  cases cs with
  | nil => cases e <;> cases h
  | cons c cs =>
    by_cases hc : c = e.closer
    · subst hc
      rw [run_close step_opened_closer] at h
      exact ⟨[], gap, cs, .empty hg, rfl, h⟩
    · rw [run_opened_item (hb c rfl) hc] at h
      simp only [List.length_append] at hn
      obtain ⟨a, cs', ⟨before, w, hbefore, ha, he⟩, ha'⟩ := hi (by omega) h
      have hl : cs'.length ≤ n := by
        rw [he] at hn
        simp only [List.length_append] at hn
        omega
      obtain ⟨as, ws, rest, ht, rfl, hr⟩ := trailing_of_run hi hl ha'
      refine ⟨a :: as, gap ++ before ++ (w ++ ws), rest, .items (Blank.append hg hbefore) ha ht, ?_, hr⟩
      rw [he]
      simp

end

/-! ### Whole values -/

lemma step_colon_blank {c : Char} (h : isBlank c = true) (stack : List Enclosing) :
    step .colon stack c = .ok (.next .colon stack) := by
  simp [step, h]

lemma step_value_blank {c : Char} (h : isBlank c = true) (stack : List Enclosing) :
    step .value stack c = .ok (.next .value stack) := by
  simp [step, valueStep, h]

lemma run_member {value : Tree → List Char → Prop} {stack : List Enclosing}
    (hv : ∀ {v w rest}, value v w → Stops rest → run .value stack (w ++ rest) = resume stack rest)
    {member : Option String × Tree} {w rest : List Char} (h : SpelledMember value member w) (hr : Stops rest) :
    run .key stack (w ++ rest) = resume stack rest := by
  cases h with
  | pair hk hb hb' hw =>
    simp only [List.append_assoc, List.cons_append]
    rw [run_next rfl, run_text hk.quotable, afterText, if_pos rfl,
      run_while (fun _ hc => step_colon_blank hc stack) hb, run_next rfl,
      run_while (fun _ hc => step_value_blank hc stack) hb', hv hw hr]

theorem run_value {v : Tree} {w : List Char} (h : Spelled v w) :
    ∀ {stack : List Enclosing} {rest : List Char}, Ends v rest →
      run .value stack (w ++ rest) = resume stack rest := by
  -- for every stack, since a list or object puts itself on top of it for the values inside
  induction h using Spelled.inside with
  | null =>
    intro stack rest _
    exact (run_next rfl _).trans (run_word 'u' ['l', 'l'] stack rest)
  | isTrue =>
    intro stack rest _
    exact (run_next rfl _).trans (run_word 'r' ['u', 'e'] stack rest)
  | isFalse =>
    intro stack rest _
    exact (run_next rfl _).trans (run_word 'a' ['l', 's', 'e'] stack rest)
  | number hn =>
    intro stack rest hr
    exact run_number hn stack hr
  | text ht =>
    intro stack rest _
    simp only [List.append_assoc, List.cons_append, List.nil_append]
    rw [run_next rfl, run_text ht.quotable]
    rfl
  | list _ ih =>
    intro stack rest _
    simp only [List.append_assoc, List.cons_append, List.nil_append]
    rw [run_next rfl]
    refine run_listed ?_ ?_ ih rest
    · rintro v w rest ⟨_, hv⟩ hr
      exact hv hr.ends
    · rintro v w ⟨hv, _⟩
      obtain ⟨c, cs, rfl, hc⟩ := hv.head
      exact ⟨c, cs, rfl, hc.not_blank, hc.ne (by decide)⟩
  | object _ ih =>
    intro stack rest _
    simp only [List.append_assoc, List.cons_append, List.nil_append]
    rw [run_next rfl]
    refine run_listed ?_ ?_ ih rest
    · intro member w rest hm hr
      exact run_member (fun ⟨_, hv⟩ hr => hv hr.ends) hm hr
    · rintro _ _ ⟨_, _, _, _⟩
      exact ⟨'"', _, rfl, rfl, by decide⟩

lemma colon_of_run {stack : List Enclosing} {cs out : List Char} (h : run .colon stack cs = .ok out) :
    ∃ before rest, Blank before ∧ cs = before ++ ':' :: rest ∧ run .value stack rest = .ok out := by
  obtain ⟨gap, cs, hg, rfl, hb⟩ := exists_while isBlank cs
  rw [run_while (fun _ hc => step_colon_blank hc stack) hg] at h
  cases cs with
  | nil => cases h
  | cons c cs =>
    by_cases hc : c = ':'
    · subst hc
      rw [run_next rfl] at h
      exact ⟨gap, cs, hg, rfl, h⟩
    · simp [run, step, hb c rfl, hc] at h

lemma member_of_run {n : ℕ} {stack : List Enclosing} {out : List Char}
    (hv : ∀ {cs}, cs.length < n → run .value stack cs = .ok out →
      ∃ v rest, Front Spelled v cs rest ∧ resume stack rest = .ok out)
    {cs : List Char} (hn : cs.length < n) (h : run .key stack cs = .ok out) :
    ∃ member rest, Front (SpelledMember Spelled) member cs rest ∧ resume stack rest = .ok out := by
  obtain ⟨gap, cs, hg, rfl, hb⟩ := exists_while isBlank cs
  rw [run_while (fun c hc => by simp [step, keyStep, hc]) hg] at h
  cases cs with
  | nil => cases h
  | cons c cs =>
    by_cases hc : c = '"'
    · subst hc
      rw [run_next rfl] at h
      obtain ⟨k, cs, hk, rfl, ht⟩ := text_of_run h
      obtain ⟨key, hkey⟩ := hk.spelled
      obtain ⟨before, cs, hbefore, rfl, hcolon⟩ := colon_of_run ht
      simp only [List.length_append, List.length_cons] at hn
      obtain ⟨v, rest, ⟨behind, w, hbehind, hw, rfl⟩, hr⟩ := hv (by omega) hcolon
      exact ⟨(key, v), rest, ⟨gap, _, hg, .pair hkey hbefore hbehind hw, by simp⟩, hr⟩
    · simp [run, step, keyStep, hb c rfl, hc] at h

theorem value_of_run {stack : List Enclosing} {cs out : List Char} (h : run .value stack cs = .ok out) :
    ∃ v rest, Front Spelled v cs rest ∧ resume stack rest = .ok out := by
  -- on the length of the text, which is shorter wherever a list or object has been opened
  induction hn : cs.length using Nat.strong_induction_on generalizing cs stack out with
  | _ n ih =>
  subst hn
  obtain ⟨gap, cs, hg, rfl, hb⟩ := exists_while isBlank cs
  rw [run_while (fun _ hc => step_value_blank hc stack) hg] at h
  -- the spelling stands right behind the gap, whatever its form
  suffices hs : ∃ v w rest, Spelled v w ∧ cs = w ++ rest ∧ resume stack rest = .ok out by
    obtain ⟨v, w, rest, hw, rfl, hr⟩ := hs
    exact ⟨v, rest, ⟨gap, w, hg, hw, rfl⟩, hr⟩
  cases cs with
  | nil => cases h
  | cons c cs =>
    have hc := hb c rfl
    by_cases h₁ : c = 'n'
    · subst h₁
      rw [run_next rfl] at h
      obtain ⟨rest, rfl, hr⟩ := word_of_run h
      exact ⟨_, _, rest, .null, rfl, hr⟩
    by_cases h₂ : c = 't'
    · subst h₂
      rw [run_next rfl] at h
      obtain ⟨rest, rfl, hr⟩ := word_of_run h
      exact ⟨_, _, rest, .isTrue, rfl, hr⟩
    by_cases h₃ : c = 'f'
    · subst h₃
      rw [run_next rfl] at h
      obtain ⟨rest, rfl, hr⟩ := word_of_run h
      exact ⟨_, _, rest, .isFalse, rfl, hr⟩
    by_cases h₄ : c = '-'
    · subst h₄
      rw [run_next rfl] at h
      obtain ⟨n, w, rest, hw, he, hr⟩ := minus_of_run h
      exact ⟨_, w, rest, .number hw, he, hr⟩
    by_cases h₅ : isDigit c = true
    · rw [run_next (step_value_digit h₅ stack)] at h
      obtain ⟨n, w, rest, hw, he, hr⟩ := unsigned_of_run false h₅ h
      exact ⟨_, w, rest, .number hw, he, hr⟩
    by_cases h₆ : c = '"'
    · subst h₆
      rw [run_next rfl] at h
      obtain ⟨w, rest, hw, rfl, hr⟩ := text_of_run h
      obtain ⟨s, hs⟩ := hw.spelled
      exact ⟨_, _, rest, .text hs, by simp, hr⟩
    have shorter : cs.length < (gap ++ c :: cs).length := by
      simp only [List.length_append, List.length_cons]
      omega
    have inside : ∀ {stack' : List Enclosing} {cs' : List Char}, cs'.length < (gap ++ c :: cs).length →
        run .value stack' cs' = .ok out → ∃ v rest, Front Spelled v cs' rest ∧ resume stack' rest = .ok out :=
      fun hl hv => ih _ hl hv rfl
    by_cases h₇ : c = '['
    · subst h₇
      rw [run_next rfl] at h
      obtain ⟨items, w, rest, hw, rfl, hr⟩ := listed_of_run .list inside shorter h
      exact ⟨_, _, rest, .list hw, by simp [Enclosing.closer], hr⟩
    by_cases h₈ : c = '\x7b'
    · subst h₈
      rw [run_next rfl] at h
      obtain ⟨members, w, rest, hw, rfl, hr⟩ := listed_of_run .object (member_of_run inside) shorter h
      exact ⟨_, _, rest, .object hw, by simp [Enclosing.closer], hr⟩
    · have hz : c ≠ '0' := fun hz => h₅ (by rw [hz]; rfl)
      simp [run, step, valueStep, hc, h₁, h₂, h₃, h₄, hz, h₅, h₆, h₇, h₈] at h

end ApiReference.Skip

namespace ApiReference

open Json

theorem skipValue_exact {v : Tree} {cs rest : List Char} (h : Front Spelled v cs rest) (hr : Ends v rest) :
    skipValue cs = .ok rest := by
  obtain ⟨before, w, hb, hw, rfl⟩ := h
  rw [skipValue, Skip.run_while (fun _ hc => Skip.step_value_blank hc []) hb, Skip.run_value hw hr]
  rfl

theorem skipValue_sound {cs rest : List Char} (h : skipValue cs = .ok rest) :
    ∃ v, Front Spelled v cs rest := by
  obtain ⟨v, rest', hv, he⟩ := Skip.value_of_run h
  cases he
  exact ⟨v, hv⟩

end ApiReference
