import ApiReference.Proofs.Text.Blank

/-! What the lines of a text are, and what is left of a line without the blanks around it, said without
the scanners that find them. -/

namespace ApiReference.Text

section

variable {p : Char → Bool} {front rest : List Char} (hf : ∀ c ∈ front, p c = true) (hr : ∀ c ∈ rest.head?, p c = false)
include hf hr

lemma dropWhile_front : (front ++ rest).dropWhile p = rest := by
  rw [List.dropWhile_append_of_pos hf]
  cases rest with
  | nil => rfl
  | cons c rest => exact List.dropWhile_cons_of_neg (by simp [hr c rfl])

lemma takeWhile_front : (front ++ rest).takeWhile p = front := by
  rw [List.takeWhile_append_of_pos hf]
  cases rest with
  | nil => exact List.append_nil front
  | cons c rest => rw [List.takeWhile_cons_of_neg (by simp [hr c rfl]), List.append_nil]

end

/-! ### Trimmed texts -/

structure Trimmed (cs core : List Char) : Prop where
  blanks : ∃ front back, cs = front ++ core ++ back ∧ ∀ c ∈ front ++ back, isBlank c = true
  first : ∀ c ∈ core.head?, isBlank c = false
  last : ∀ c ∈ core.getLast?, isBlank c = false

lemma trimmed_trimChars (cs : List Char) : Trimmed cs (trimChars cs) where
  blanks := by
    have hl : cs.takeWhile isBlank ++ trimLeft cs = cs := List.takeWhile_append_dropWhile
    have hr : trimChars cs ++ ((trimLeft cs).reverse.takeWhile isBlank).reverse = trimLeft cs := by
      rw [trimChars, trimRight, ← List.reverse_append, List.takeWhile_append_dropWhile, List.reverse_reverse]
    refine ⟨cs.takeWhile isBlank, ((trimLeft cs).reverse.takeWhile isBlank).reverse, ?_, ?_⟩
    · rw [List.append_assoc, hr, hl]
    · intro c hc
      rw [List.mem_append, List.mem_reverse] at hc
      exact hc.elim List.mem_takeWhile_imp List.mem_takeWhile_imp
  first := by
    intro c hc
    have ht := List.head?_dropWhile_not isBlank (trimChars cs)
    rw [← trimLeft, trimLeft_trimChars, Option.mem_def.mp hc] at ht
    simpa using ht
  last := by
    intro c hc
    have ht := List.head?_dropWhile_not isBlank (trimLeft cs).reverse
    rw [trimChars, trimRight, List.getLast?_reverse, Option.mem_def] at hc
    rw [hc] at ht
    simpa using ht

lemma Trimmed.eq_trimChars {cs core : List Char} (h : Trimmed cs core) : trimChars cs = core := by
  obtain ⟨⟨front, back, rfl, hb⟩, hfirst, hlast⟩ := h
  have hfront : ∀ c ∈ front, isBlank c = true := fun c hc => hb c (List.mem_append_left _ hc)
  have hback : ∀ c ∈ back, isBlank c = true := fun c hc => hb c (List.mem_append_right _ hc)
  cases core with
  | nil =>
    have hall : ∀ c ∈ front ++ [] ++ back, isBlank c = true := by simpa using hb
    rw [trimChars, trimLeft, List.dropWhile_eq_nil_iff.mpr hall]
    rfl
  | cons c core =>
    have hl : trimLeft (front ++ (c :: core) ++ back) = (c :: core) ++ back := by
      rw [trimLeft, List.append_assoc]
      exact dropWhile_front hfront hfirst
    rw [trimChars, hl, trimRight, List.reverse_append, dropWhile_front, List.reverse_reverse]
    · simpa using hback
    · rwa [List.head?_reverse]

theorem trimmed_iff {cs core : List Char} : Trimmed cs core ↔ trimChars cs = core :=
  ⟨Trimmed.eq_trimChars, fun h => h ▸ trimmed_trimChars cs⟩

/-! ### Lines -/

/-- A line begins at the front of the text or behind a line feed and ends before the next line feed. A carriage
return before that line feed is part of the line break. What follows the last line feed is a line unless it is
empty. -/
inductive IsLine (cs : List Char) : List Char → Prop
  | closed {front line back : List Char} : cs = front ++ line ++ '\n' :: back → (∀ c ∈ front.getLast?, c = '\n') →
      '\n' ∉ line → IsLine cs (dropReturn line)
  | last {front line : List Char} : cs = front ++ line → (∀ c ∈ front.getLast?, c = '\n') → '\n' ∉ line →
      line ≠ [] → IsLine cs line

lemma linesOf_of_notMem {cs : List Char} (h : '\n' ∉ cs) : linesOf cs = if cs = [] then [] else [cs] := by
  rw [linesOf, splitChars_of_notMem h]
  cases cs <;> rfl

lemma linesOf_append (as bs : List Char) :
    linesOf (as ++ '\n' :: bs) = (splitChars '\n' as).map dropReturn ++ linesOf bs := by
  have hne : splitChars '\n' bs ≠ [] := splitChars_ne_nil bs
  rw [linesOf, linesOf, splitChars_append, List.dropLast_append_of_ne_nil hne, List.map_append,
    List.getLast?_append_of_ne_nil _ hne]
  split <;> simp

lemma linesOf_cons {line : List Char} (h : '\n' ∉ line) (back : List Char) :
    linesOf (line ++ '\n' :: back) = dropReturn line :: linesOf back := by
  rw [linesOf_append, splitChars_of_notMem h]
  rfl

lemma mem_linesOf_behind {front rest line : List Char} (hf : ∀ c ∈ front.getLast?, c = '\n')
    (h : line ∈ linesOf rest) : line ∈ linesOf (front ++ rest) := by
  cases front using List.reverseRecOn with
  | nil => exact h
  | append_singleton as c =>
    obtain rfl := hf c (by simp)
    rw [List.append_assoc, List.singleton_append, linesOf_append]
    exact List.mem_append_right _ h

lemma IsLine.mem_linesOf {cs line : List Char} (h : IsLine cs line) : line ∈ linesOf cs := by
  cases h with
  | closed he hf hl =>
    rw [he, List.append_assoc]
    apply mem_linesOf_behind hf
    rw [linesOf_cons hl]
    exact List.mem_cons_self
  | last he hf hl hne =>
    rw [he]
    apply mem_linesOf_behind hf
    rw [linesOf_of_notMem hl, if_neg hne]
    exact List.mem_cons_self

lemma IsLine.behind {cs line : List Char} (h : IsLine cs line) (as : List Char) : IsLine (as ++ '\n' :: cs) line := by
  have hlast {front : List Char} (hf : ∀ c ∈ front.getLast?, c = '\n') :
      ∀ c ∈ (as ++ '\n' :: front).getLast?, c = '\n' := by
    cases front with
    | nil => simp
    | cons d front => simpa using hf
  cases h with
  | @closed front line back he hf hl =>
    exact @closed _ (as ++ '\n' :: front) line back (by simp [he]) (hlast hf) hl
  | @last front line he hf hl hne => exact @last _ (as ++ '\n' :: front) line (by simp [he]) (hlast hf) hl hne

lemma isLine_of_mem {cs line : List Char} (h : line ∈ linesOf cs) : IsLine cs line := by
  by_cases hn : '\n' ∈ cs
  · -- the first line and the text behind its line feed
    obtain ⟨first, back, rfl, hf⟩ := List.eq_append_cons_of_mem hn
    rw [linesOf_cons hf, List.mem_cons] at h
    rcases h with rfl | h
    · exact @IsLine.closed _ [] first back rfl (by simp) hf
    · exact (isLine_of_mem h).behind first
  · rw [linesOf_of_notMem hn] at h
    split at h
    · cases h
    · next hne =>
      obtain rfl := List.mem_singleton.mp h
      exact @IsLine.last _ [] line rfl (by simp) hn hne
termination_by cs.length

theorem isLine_iff {cs line : List Char} : IsLine cs line ↔ line ∈ linesOf cs :=
  ⟨IsLine.mem_linesOf, isLine_of_mem⟩

end ApiReference.Text
