import ApiReference.Proofs.Text.Lines
import ApiReference.Settings.Environment

/-! The names of environment variables: words with two underscores between them, in letters of either case, lead
along the path of these words. -/

namespace ApiReference

namespace Text

lemma toLower_of_not_ascii {c : Char} (h : 128 ≤ c.toNat) : c.toLower = c := by
  apply dif_neg
  rintro ⟨-, hz⟩
  have hle : c.val.toNat ≤ 90 := hz
  have hn : c.toNat = c.val.toNat := rfl
  omega

lemma ascii_of_toLower {c : Char} (h : c.toLower.toNat < 128) : c.toNat < 128 := by
  by_contra hn
  rw [toLower_of_not_ascii (not_lt.mp hn)] at h
  exact hn h

lemma forall_ascii {p : Char → Prop} (h : ∀ n < 128, p (Char.ofNat n)) {c : Char} (hc : c.toNat < 128) : p c := by
  have hp := h c.toNat hc
  rwa [Char.ofNat_toNat] at hp

lemma trimChars_of_no_blank {cs : List Char} (h : ∀ c ∈ cs, isBlank c = false) : trimChars cs = cs := by
  apply trimmed_iff.mp
  refine ⟨⟨[], [], by simp, by simp⟩, ?_, ?_⟩
  · intro c hc
    exact h c (List.mem_of_mem_head? hc)
  · intro c hc
    exact h c (List.mem_of_mem_getLast? hc)

lemma lowerChars_ascii {cs : List Char} (h : ∀ c ∈ cs, c.toNat < 128) (before : List Char) :
    lowerChars before cs = cs.map Char.toLower := by
  induction cs generalizing before with
  | nil => rfl
  | cons c cs ih =>
    obtain ⟨hc, hcs⟩ := List.forall_mem_cons.mp h
    have hne {d : Char} (hd : ¬ d.toNat < 128) : c ≠ d := by
      rintro rfl
      exact hd hc
    rw [lowerChars, if_neg (hne (by decide)), if_neg (hne (by decide)), lowerChar, if_pos hc, ih hcs, List.map_cons]
    rfl

lemma splitChars_intercalate {sep : Char} {words : List (List Char)} (hne : words ≠ []) (h : ∀ w ∈ words, sep ∉ w) :
    splitChars sep ([sep].intercalate words) = words := by
  induction words with
  | nil => exact absurd rfl hne
  | cons w words ih =>
    obtain ⟨hw, hrest⟩ := List.forall_mem_cons.mp h
    cases words with
    | nil => rw [List.intercalate_singleton, splitChars_of_notMem hw]
    | cons w' words =>
      rw [List.intercalate_cons_cons, List.append_assoc, List.singleton_append, splitChars_append,
        splitChars_of_notMem hw, ih (List.cons_ne_nil _ _) hrest]
      rfl

end Text

namespace Environment

def isPlain (c : Char) : Bool := c.toNat < 128 && !Text.isBlank c

def isWordChar (c : Char) : Bool := isPlain c && c.toLower == c && c != '.'

structure IsWord (w : List Char) : Prop where
  ne_nil : w ≠ []
  chars : w.all isWordChar = true
  apart : ¬ ['_', '_'] <:+: w

def Spellable : List (List Char) → Prop
  | [] => False
  | [w] => IsWord w
  | w :: words => IsWord w ∧ w.getLast? ≠ some '_' ∧ Spellable words

instance : DecidablePred IsWord := fun w =>
  decidable_of_iff (w ≠ [] ∧ w.all isWordChar = true ∧ ¬ ['_', '_'] <:+: w)
    ⟨fun h => ⟨h.1, h.2.1, h.2.2⟩, fun h => ⟨h.ne_nil, h.chars, h.apart⟩⟩

instance decidableSpellable : DecidablePred Spellable
  | [] => isFalse id
  | [w] => inferInstanceAs (Decidable (IsWord w))
  | w :: w' :: words =>
    have := decidableSpellable (w' :: words)
    inferInstanceAs (Decidable (IsWord w ∧ w.getLast? ≠ some '_' ∧ Spellable (w' :: words)))

lemma IsWord.plain {w : List Char} (h : IsWord w) : ∀ c ∈ w, isPlain c = true ∧ c.toLower = c ∧ c ≠ '.' := by
  intro c hc
  have hw := List.all_eq_true.mp h.chars c hc
  simpa only [isWordChar, Bool.and_eq_true, beq_iff_eq, bne_iff_ne, and_assoc] using hw

lemma joinUnderscores_append {w rest : List Char} (h : ¬ ['_', '_'] <:+: w)
    (hb : w.getLast? = some '_' → rest.head? ≠ some '_') :
    joinUnderscores (w ++ rest) = w ++ joinUnderscores rest := by
  induction w with
  | nil => rfl
  | cons c w ih =>
    -- no two underscores begin here: not inside the word, and not across its end
    have hstep : ∀ more, c = '_' → w ++ rest = '_' :: more → False := by
      rintro more rfl he
      cases w with
      | nil =>
        have hrest : rest = '_' :: more := he
        exact hb rfl (by rw [hrest, List.head?_cons])
      | cons d w =>
        obtain rfl : d = '_' := (List.cons.inj he).1
        exact h ⟨[], w, rfl⟩
    have hin : ¬ ['_', '_'] <:+: w := fun hw => h (hw.trans (List.suffix_cons c w).isInfix)
    have hlast : w.getLast? = some '_' → rest.head? ≠ some '_' := by
      intro hl
      apply hb
      rw [List.getLast?_cons, hl]
      rfl
    rw [List.cons_append, joinUnderscores, ih hin hlast, List.cons_append]
    exact hstep

lemma joinUnderscores_spelled {words : List (List Char)} (h : Spellable words) :
    joinUnderscores (['_', '_'].intercalate words) = ['.'].intercalate words := by
  induction words with
  | nil => rfl
  | cons w words ih =>
    cases words with
    | nil =>
      have hj : joinUnderscores (w ++ []) = w ++ joinUnderscores [] := joinUnderscores_append h.apart fun _ => by simp
      rw [List.append_nil, joinUnderscores, List.append_nil] at hj
      rw [List.intercalate_singleton, List.intercalate_singleton, hj]
    | cons w' words =>
      obtain ⟨hw, hl, hrest⟩ := h
      rw [List.intercalate_cons_cons, List.intercalate_cons_cons, List.append_assoc,
        joinUnderscores_append hw.apart fun hlast => absurd hlast hl, List.append_assoc, ← ih hrest]
      rfl

lemma Spellable.words {words : List (List Char)} (h : Spellable words) : words ≠ [] ∧ ∀ w ∈ words, IsWord w := by
  induction words with
  | nil => exact h.elim
  | cons w words ih =>
    cases words with
    | nil => exact ⟨List.cons_ne_nil _ _, List.forall_mem_singleton.mpr h⟩
    | cons w' words =>
      obtain ⟨hw, -, hrest⟩ := h
      exact ⟨List.cons_ne_nil _ _, List.forall_mem_cons.mpr ⟨hw, (ih hrest).2⟩⟩

lemma forall_intercalate {p : Char → Prop} {sep : List Char} (hsep : ∀ c ∈ sep, p c)
    {words : List (List Char)} (h : ∀ w ∈ words, ∀ c ∈ w, p c) : ∀ c ∈ sep.intercalate words, p c := by
  induction words with
  | nil => simp [List.intercalate]
  | cons w words ih =>
    obtain ⟨hw, hrest⟩ := List.forall_mem_cons.mp h
    cases words with
    | nil => rwa [List.intercalate_singleton]
    | cons w' words =>
      rw [List.intercalate_cons_cons]
      intro c hc
      rw [List.mem_append, List.mem_append] at hc
      rcases hc with (hc | hc) | hc
      · exact hw c hc
      · exact hsep c hc
      · exact ih hrest c hc

lemma isPlain_of_toLower {c : Char} (h : isPlain c.toLower = true) :
    isPlain c = true ∧ c.toLower.toUpper = c.toUpper := by
  have hascii : c.toNat < 128 := by
    rw [isPlain, Bool.and_eq_true, decide_eq_true_eq] at h
    exact Text.ascii_of_toLower h.1
  have hcases : ∀ n < 128, isPlain (Char.ofNat n).toLower = isPlain (Char.ofNat n) ∧
      (Char.ofNat n).toLower.toUpper = (Char.ofNat n).toUpper := by decide +kernel
  obtain ⟨hp, hu⟩ := Text.forall_ascii
    (p := fun c => isPlain c.toLower = isPlain c ∧ c.toLower.toUpper = c.toUpper) hcases hascii
  exact ⟨hp ▸ h, hu⟩

lemma trim_of_plain {cs : List Char} (h : ∀ c ∈ cs, isPlain c = true) :
    Text.trim (String.ofList cs) = String.ofList cs := by
  rw [Text.trim, String.toList_ofList, Text.trimChars_of_no_blank]
  intro c hc
  have hp := h c hc
  rw [isPlain, Bool.and_eq_true, Bool.not_eq_true'] at hp
  exact hp.2

lemma afterStart_spelled {name : String} {body : List Char}
    (hn : name.toList.map Char.toLower = "symdoc_".toList ++ body) (hb : ∀ c ∈ body, isPlain c = true) :
    ∃ rest, afterStart (Text.trim name) = some rest ∧ Text.lowercase rest = String.ofList body := by
  have hall : ∀ c ∈ "symdoc_".toList ++ body, isPlain c = true :=
    List.forall_mem_append.mpr ⟨List.all_eq_true.mp (by decide +kernel), hb⟩
  have hname : ∀ c ∈ name.toList, isPlain c = true ∧ c.toLower.toUpper = c.toUpper := by
    intro c hc
    exact isPlain_of_toLower (hall c.toLower (hn ▸ List.mem_map_of_mem hc))
  have htrim : Text.trim name = name := by
    have ht := trim_of_plain fun c hc => (hname c hc).1
    rwa [String.ofList_toList] at ht
  have hupper : name.toList.map Char.toUpper = ("symdoc_".toList ++ body).map Char.toUpper := by
    rw [← hn, List.map_map]
    exact List.map_congr_left fun c hc => (hname c hc).2.symm
  have htake : (name.toList.take 7).map Char.toUpper = nameStart.toList := by
    rw [List.map_take, hupper, List.map_append, List.take_append_of_le_length (by decide +kernel)]
    rfl
  have hascii : ∀ c ∈ name.toList.drop 7, c.toNat < 128 := by
    intro c hc
    have hp := (hname c (List.mem_of_mem_drop hc)).1
    rw [isPlain, Bool.and_eq_true, decide_eq_true_eq] at hp
    exact hp.1
  refine ⟨String.ofList (name.toList.drop 7), ?_, ?_⟩
  · rw [htrim]
    exact if_pos htake
  · rw [Text.lowercase, String.toList_ofList, Text.lowerChars_ascii hascii, List.map_drop, hn]
    rfl

lemma split_dotted {path : List String} (h : Spellable (path.map String.toList)) :
    Text.split '.' (Text.lowercaseAscii (Text.trim (String.ofList (['.'].intercalate (path.map String.toList))))) =
      path := by
  obtain ⟨hne, hwords⟩ := h.words
  have hplain : ∀ c ∈ ['.'].intercalate (path.map String.toList), isPlain c = true := by
    refine forall_intercalate (List.forall_mem_singleton.mpr (by decide)) ?_
    intro w hw c hc
    exact ((hwords w hw).plain c hc).1
  have hlower : ∀ c ∈ ['.'].intercalate (path.map String.toList), c.toLower = c := by
    refine forall_intercalate (List.forall_mem_singleton.mpr (by decide)) ?_
    intro w hw c hc
    exact ((hwords w hw).plain c hc).2.1
  have hdots : ∀ w ∈ path.map String.toList, '.' ∉ w := by
    intro w hw hc
    exact ((hwords w hw).plain '.' hc).2.2 rfl
  rw [trim_of_plain hplain, Text.lowercaseAscii, String.toList_ofList, List.map_congr_left hlower, List.map_id',
    Text.split, String.toList_ofList, Text.splitChars_intercalate hne hdots, List.map_map]
  exact List.map_id'' (fun _ => String.ofList_toList) path

theorem pathOf_spelled {path : List String} (h : Spellable (path.map String.toList)) {name : String}
    (hn : Text.lowercaseAscii name = "symdoc_" ++ String.intercalate "__" path) : pathOf name = some path := by
  obtain ⟨-, hwords⟩ := h.words
  have hlower : name.toList.map Char.toLower =
      "symdoc_".toList ++ ['_', '_'].intercalate (path.map String.toList) := by
    rw [← String.toList_ofList (l := name.toList.map Char.toLower), ← Text.lowercaseAscii, hn, String.toList_append,
      String.toList_intercalate]
    rfl
  have hplain : ∀ c ∈ ['_', '_'].intercalate (path.map String.toList), isPlain c = true := by
    refine forall_intercalate (List.all_eq_true.mp (by decide)) ?_
    intro w hw c hc
    exact ((hwords w hw).plain c hc).1
  have hfull : path.contains "" = false := by
    rw [List.contains_eq_mem, decide_eq_false_iff_not]
    intro hmem
    exact (hwords _ (List.mem_map_of_mem hmem)).ne_nil rfl
  obtain ⟨rest, hstart, hrest⟩ := afterStart_spelled hlower hplain
  rw [pathOf, hstart, Option.bind_eq_bind, Option.bind_some, hrest, String.toList_ofList, joinUnderscores_spelled h]
  dsimp only
  rw [split_dotted h, hfull]
  rfl

end Environment

end ApiReference
