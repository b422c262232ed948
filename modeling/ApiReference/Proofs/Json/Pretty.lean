import ApiReference.Json.Pretty
import ApiReference.Proofs.Json.Reader

/-! Indented text is a spelling. Its tree has the texts, the numerals and the order of the data it was
made of. -/

namespace ApiReference

open Lexeme Json

/-! ### Numbers -/

lemma head_toDigits {n : ℕ} (h : (Nat.toDigits 10 n).head? = some '0') : n = 0 := by
  induction n using Nat.strong_induction_on with
  | _ n ih =>
    rcases Nat.lt_or_ge n 10 with hn | hn
    · rw [Nat.toDigits_of_lt_base hn] at h
      exact Nat.digitChar_eq_zero.mp (Option.some.inj h)
    · rw [Nat.toDigits_of_base_le (by decide) hn, List.head?_append_of_ne_nil _ Nat.toDigits_ne_nil] at h
      have hq : n / 10 = 0 := ih (n / 10) (by omega) h
      omega

lemma digits_toDigits (n : ℕ) : Digits (Nat.toDigits 10 n) :=
  ⟨Nat.toDigits_ne_nil, fun _ hc => Nat.isDigit_of_mem_toDigits (by decide) (by decide) hc⟩

lemma digitValue_digitChar {n : ℕ} (h : n < 10) : digitValue (Nat.digitChar n) = n := by
  interval_cases n <;> rfl

lemma takeDigits_toDigits {n : ℕ} (h : n < wordLimit) : takeDigits 0 (Nat.toDigits 10 n) = (n, 0) := by
  induction n using Nat.strong_induction_on with
  | _ n ih =>
    rcases Nat.lt_or_ge n 10 with hn | hn
    · rw [Nat.toDigits_of_lt_base hn]
      simp [takeDigits, digitValue_digitChar hn, h]
    · -- no part of the number is out of range when the whole is in it
      have hq : takeDigits 0 (Nat.toDigits 10 (n / 10)) = (n / 10, 0) := ih (n / 10) (by omega) (by omega)
      have hv : n / 10 * 10 + digitValue (Nat.digitChar (n % 10)) = n := by
        rw [digitValue_digitChar (Nat.mod_lt n (by decide))]
        omega
      rw [takeDigits] at hq
      rw [Nat.toDigits_of_base_le (by decide) hn, takeDigits, List.foldl_append, hq]
      simp [hv, h]

namespace Number

def numeral (n : Number) : Numeral :=
  ((Lexeme.numeral n.text.toList).toOption.map (·.1)).getD ⟨false, [], none, none⟩

lemma numeral_of_spelled {n : Number} {m : Numeral} (h : SpelledNumber m n.text.toList) : n.numeral = m := by
  have hn : Lexeme.numeral (n.text.toList ++ []) = .ok (m, []) := numeral_append h blank_nil.stops
  rw [List.append_nil] at hn
  rw [numeral, hn]
  rfl

lemma toList_text_integer (n : ℤ) :
    (integer n).text.toList = (if n < 0 then ['-'] else []) ++ Nat.toDigits 10 n.natAbs := by
  cases n with
  | ofNat n =>
    have ht : (integer (Int.ofNat n)).text = n.repr := rfl
    have hs : ¬ Int.ofNat n < 0 := Int.not_lt.mpr (Int.natCast_nonneg n)
    rw [ht, Nat.toList_repr, if_neg hs]
    rfl
  | negSucc n =>
    have ht : (integer (Int.negSucc n)).text = "-" ++ (n + 1).repr := rfl
    rw [ht, String.toList_append, Nat.toList_repr, if_pos (Int.negSucc_lt_zero n)]
    rfl

lemma spelled_integer (n : ℤ) :
    SpelledNumber ⟨n < 0, Nat.toDigits 10 n.natAbs, none, none⟩ (integer n).text.toList := by
  have hz : (Nat.toDigits 10 n.natAbs).head? = some '0' → Nat.toDigits 10 n.natAbs = ['0'] := by
    intro h
    rw [head_toDigits h]
    rfl
  have hs := @SpelledNumber.parts (n < 0) _ _ _ _ _ (digits_toDigits n.natAbs) hz .absent .absent
  simpa [toList_text_integer] using hs

def FitsWord (n : ℤ) : Prop := -2 ^ 63 ≤ n ∧ n < 2 ^ 64

instance (n : ℤ) : Decidable (FitsWord n) := inferInstanceAs (Decidable (_ ∧ _))

lemma value_numeral {n : ℤ} (h : FitsWord n) : (integer n).numeral.value = .ok (integer n) := by
  obtain ⟨hl, hu⟩ := h
  have hd : takeDigits 0 (Nat.toDigits 10 n.natAbs) = (n.natAbs, 0) := by
    apply takeDigits_toDigits
    change n.natAbs < 2 ^ 64
    omega
  rw [numeral_of_spelled (spelled_integer n), Numeral.value, hd]
  dsimp only
  rw [if_neg (Nat.lt_irrefl 0)]
  by_cases hn : n < 0
  · have hm : ¬ (n.natAbs = 0 ∨ n.natAbs > Nat.pow 2 63) := by
      change ¬ (n.natAbs = 0 ∨ n.natAbs > 2 ^ 63)
      omega
    have he : -(n.natAbs : ℤ) = n := by omega
    rw [if_pos (decide_eq_true hn), if_neg (by simpa using hm), he]
    rfl
  · have he : (n.natAbs : ℤ) = n := by omega
    rw [if_neg (by simpa using hn), he]
    rfl

end Number

namespace Json

/-! ### Texts -/

lemma spelledChar_escapeChar (c : Char) : SpelledChar c (escapeChar c) := by
  unfold escapeChar
  split_ifs with hq hb h₁ h₂ h₃ h₄ h₅ hc
  iterate 7
    · subst c
      exact .short (by decide)
  · have hz : HexDigit '0' 0 := by decide
    have hx : Hex (((0 * 16 + 0) * 16 + c.toNat / 16) * 16 + c.toNat % 16)
        ['0', '0', Nat.digitChar (c.toNat / 16), Nat.digitChar (c.toNat % 16)] :=
      .digits hz hz ⟨by omega, Or.inl rfl⟩ ⟨by omega, Or.inl rfl⟩
    have hn : ((0 * 16 + 0) * 16 + c.toNat / 16) * 16 + c.toNat % 16 = c.toNat := by omega
    rw [hn] at hx
    exact .unit (by omega) hx
  · exact .raw (by omega) hq hb

lemma spelledChars_escaped (cs : List Char) : SpelledChars cs (cs.flatMap escapeChar) := by
  induction cs with
  | nil => exact .nil
  | cons c cs ih => exact .cons (spelledChar_escapeChar c) ih

lemma spelledText_escaped (s : String) : SpelledText (some s) (s.toList.flatMap escapeChar) := by
  have hs := SpelledText.whole (spelledChars_escaped s.toList)
  rwa [String.ofList_toList] at hs

/-! ### Lists and objects -/

lemma blank_newLine (depth : ℕ) : Blank (newLine depth) := by
  intro c hc
  rcases List.mem_cons.mp hc with rfl | hc
  · rfl
  · rw [(List.mem_replicate.mp hc).2]
    rfl

def tree : Json → Tree
  | .null => .null
  | .bool value => .bool value
  | .number n => .number n.numeral
  | .text s => .text (some s)
  | .list items => .list (items.map tree)
  | .object members => .object (members.map fun m => (some m.1, tree m.2))
decreasing_by
  · decreasing_tactic
  · have hm : sizeOf m < sizeOf members := List.sizeOf_lt_of_mem ‹_›
    have hs : sizeOf m.2 < sizeOf m := by
      cases m
      simp
    simp only [object.sizeOf_spec]
    omega

def Written (j : Json) : Prop := ∀ depth, Spelled j.tree (prettyChars depth j)

lemma written_null : Written .null := by
  intro depth
  rw [tree, prettyChars]
  exact .null

lemma written_bool (value : Bool) : Written (.bool value) := by
  intro depth
  rw [tree]
  cases value with
  | true => exact .isTrue
  | false => exact .isFalse

lemma written_integer (n : ℤ) : Written (.number (.integer n)) := by
  intro depth
  have hn := Number.spelled_integer n
  rw [tree, prettyChars, Number.numeral_of_spelled hn]
  exact .number hn

lemma written_text (s : String) : Written (.text s) := by
  intro depth
  rw [tree, prettyChars]
  exact .text (spelledText_escaped s)

lemma trailing_items {items : List Json} (h : ∀ j ∈ items, j.Written) (depth : ℕ) {gap : List Char}
    (hg : Blank gap) : Trailing Spelled (items.map tree) (prettyItems depth items ++ gap) := by
  induction items with
  | nil => exact .nil hg
  | cons item items ih =>
    obtain ⟨hi, hr⟩ := List.forall_mem_cons.mp h
    have ht := Trailing.cons blank_nil (blank_newLine depth) (hi depth) (ih hr)
    simpa [prettyItems] using ht

theorem written_list {items : List Json} (h : ∀ j ∈ items, j.Written) : Written (.list items) := by
  intro depth
  cases items with
  | nil =>
    rw [tree, prettyChars]
    exact .list (.empty blank_nil)
  | cons item items =>
    obtain ⟨hi, hr⟩ := List.forall_mem_cons.mp h
    have ht := trailing_items hr (depth + 1) (blank_newLine depth)
    have hl := Spelled.list (.items (blank_newLine (depth + 1)) (hi (depth + 1)) ht)
    simpa [tree, prettyChars] using hl

lemma spelled_member (key : String) {value : Json} (h : value.Written) (depth : ℕ) :
    SpelledMember Spelled (some key, value.tree) (textChars key ++ ([':', ' '] ++ prettyChars depth value)) := by
  have hs : Blank [' '] := by simp [Blank, isBlank]
  have hm := SpelledMember.pair (spelledText_escaped key) blank_nil hs (h depth)
  simpa [textChars] using hm

lemma trailing_members {members : List (String × Json)} (h : ∀ m ∈ members, m.2.Written) (depth : ℕ)
    {gap : List Char} (hg : Blank gap) :
    Trailing (SpelledMember Spelled) (members.map fun m => (some m.1, m.2.tree))
      (prettyMembers depth members ++ gap) := by
  induction members with
  | nil => exact .nil hg
  | cons m members ih =>
    obtain ⟨hm, hr⟩ := List.forall_mem_cons.mp h
    have ht := Trailing.cons blank_nil (blank_newLine depth) (spelled_member m.1 hm depth) (ih hr)
    simpa [prettyMembers] using ht

theorem written_object {members : List (String × Json)} (h : ∀ m ∈ members, m.2.Written) :
    Written (.object members) := by
  intro depth
  cases members with
  | nil =>
    rw [tree, prettyChars]
    exact .object (.empty blank_nil)
  | cons m members =>
    obtain ⟨hm, hr⟩ := List.forall_mem_cons.mp h
    have ht := trailing_members hr (depth + 1) (blank_newLine depth)
    have hl := Spelled.object (.items (blank_newLine (depth + 1)) (spelled_member m.1 hm (depth + 1)) ht)
    simpa [tree, prettyChars] using hl

theorem Written.document {j : Json} (h : j.Written) : Document j.tree j.pretty :=
  ⟨[], prettyChars 0 j, [], blank_nil, h 0, blank_nil, by simp [pretty]⟩

end Json

end ApiReference
