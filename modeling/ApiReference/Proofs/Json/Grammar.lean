import ApiReference.Json.Lexeme
import Mathlib.Data.List.Basic
import Mathlib.Tactic

/-! The grammar of documents: which texts spell a tree. It says nothing of how a text is read. -/

namespace ApiReference.Json

open Lexeme

/-- A value of any form. The members of an object keep their order and may repeat a key. A text is
`none` when its escapes leave half of a surrogate pair alone, which no string can hold. -/
inductive Tree
  | null
  | bool (value : Bool)
  | number (value : Numeral)
  | text (value : Option String)
  | list (items : List Tree)
  | object (members : List (Option String × Tree))

def Blank (w : List Char) : Prop := ∀ c ∈ w, isBlank c = true

/-! ### Texts -/

def HexDigit (c : Char) (n : ℕ) : Prop :=
  n < 16 ∧ (c = Nat.digitChar n ∨ c = (Nat.digitChar n).toUpper)

instance (c : Char) (n : ℕ) : Decidable (HexDigit c n) := inferInstanceAs (Decidable (_ ∧ _))

inductive Hex : ℕ → List Char → Prop
  | digits {a b c d i j k l} : HexDigit a i → HexDigit b j → HexDigit c k → HexDigit d l →
      Hex (((i * 16 + j) * 16 + k) * 16 + l) [a, b, c, d]

def shortEscapes : List (Char × Char) :=
  [('"', '"'), ('\\', '\\'), ('/', '/'), ('b', '\x08'), ('f', '\x0c'), ('n', '\n'), ('r', '\r'), ('t', '\t')]

inductive SpelledChar : Char → List Char → Prop
  | raw {c} : 32 ≤ c.toNat → c ≠ '"' → c ≠ '\\' → SpelledChar c [c]
  | short {e c} : (e, c) ∈ shortEscapes → SpelledChar c ['\\', e]
  | unit {c w} : c.toNat < 0x10000 → Hex c.toNat w → SpelledChar c ('\\' :: 'u' :: w)
  | pair {c high low} : 0x10000 ≤ c.toNat → Hex (0xD800 + (c.toNat - 0x10000) / 0x400) high →
      Hex (0xDC00 + (c.toNat - 0x10000) % 0x400) low →
      SpelledChar c ('\\' :: 'u' :: (high ++ '\\' :: 'u' :: low))

inductive SpelledChars : List Char → List Char → Prop
  | nil : SpelledChars [] []
  | cons {c w cs ws} : SpelledChar c w → SpelledChars cs ws → SpelledChars (c :: cs) (w ++ ws)

inductive Quotable : List Char → Prop
  | nil : Quotable []
  | raw {c ws} : 32 ≤ c.toNat → c ≠ '"' → c ≠ '\\' → Quotable ws → Quotable (c :: ws)
  | short {e c ws} : (e, c) ∈ shortEscapes → Quotable ws → Quotable ('\\' :: e :: ws)
  | unit {n w ws} : Hex n w → Quotable ws → Quotable ('\\' :: 'u' :: (w ++ ws))

inductive SpelledText : Option String → List Char → Prop
  | whole {s w} : SpelledChars s w → SpelledText (some (String.ofList s)) w
  | broken {w} : Quotable w → (∀ s, ¬ SpelledChars s w) → SpelledText none w

/-! ### Numbers -/

def Digits (ds : List Char) : Prop := ds ≠ [] ∧ ∀ c ∈ ds, isDigit c = true

inductive SpelledFraction : Option (List Char) → List Char → Prop
  | absent : SpelledFraction none []
  | digits {ds} : Digits ds → SpelledFraction (some ds) ('.' :: ds)

inductive SpelledSign : Bool → List Char → Prop
  | minus : SpelledSign true ['-']
  | plus : SpelledSign false ['+']
  | absent : SpelledSign false []

inductive SpelledPower : Option (Bool × List Char) → List Char → Prop
  | absent : SpelledPower none []
  | digits {mark down sign ds} : mark = 'e' ∨ mark = 'E' → SpelledSign down sign → Digits ds →
      SpelledPower (some (down, ds)) (mark :: (sign ++ ds))

inductive SpelledNumber : Numeral → List Char → Prop
  | parts {negative whole fraction power f p} : Digits whole → (whole.head? = some '0' → whole = ['0']) →
      SpelledFraction fraction f → SpelledPower power p →
      SpelledNumber ⟨negative, whole, fraction, power⟩
        ((if negative then ['-'] else []) ++ (whole ++ (f ++ p)))

/-! ### Lists and objects -/

inductive Trailing {α : Type} (item : α → List Char → Prop) : List α → List Char → Prop
  | nil {gap} : Blank gap → Trailing item [] gap
  | cons {before behind a w as rest} : Blank before → Blank behind → item a w → Trailing item as rest →
      Trailing item (a :: as) (before ++ ',' :: (behind ++ (w ++ rest)))

inductive Listed {α : Type} (item : α → List Char → Prop) : List α → List Char → Prop
  | empty {gap} : Blank gap → Listed item [] gap
  | items {before a w as rest} : Blank before → item a w → Trailing item as rest →
      Listed item (a :: as) (before ++ (w ++ rest))

inductive SpelledMember (value : Tree → List Char → Prop) : Option String × Tree → List Char → Prop
  | pair {key k before behind v w} : SpelledText key k → Blank before → Blank behind → value v w →
      SpelledMember value (key, v) ('"' :: (k ++ '"' :: (before ++ ':' :: (behind ++ w))))

inductive Spelled : Tree → List Char → Prop
  | null : Spelled .null ['n', 'u', 'l', 'l']
  | isTrue : Spelled (.bool true) ['t', 'r', 'u', 'e']
  | isFalse : Spelled (.bool false) ['f', 'a', 'l', 's', 'e']
  | number {n w} : SpelledNumber n w → Spelled (.number n) w
  | text {s w} : SpelledText s w → Spelled (.text s) ('"' :: (w ++ ['"']))
  | list {items w} : Listed Spelled items w → Spelled (.list items) ('[' :: (w ++ [']']))
  | object {members w} : Listed (SpelledMember Spelled) members w →
      Spelled (.object members) ('\x7b' :: (w ++ ['\x7d']))

def Document (v : Tree) (s : String) : Prop :=
  ∃ before w behind, Blank before ∧ Spelled v w ∧ Blank behind ∧ s.toList = before ++ (w ++ behind)

def Front {α : Type} (item : α → List Char → Prop) (a : α) (cs rest : List Char) : Prop :=
  ∃ before w, Blank before ∧ item a w ∧ cs = before ++ (w ++ rest)

lemma SpelledChars.plain {cs : List Char} (h : ∀ c ∈ cs, 32 ≤ c.toNat ∧ c ≠ '"' ∧ c ≠ '\\') : SpelledChars cs cs := by
  induction cs with
  | nil => exact .nil
  | cons c cs ih =>
    obtain ⟨hl, hq, hb⟩ := h c List.mem_cons_self
    exact .cons (.raw hl hq hb) (ih fun d hd => h d (List.mem_cons_of_mem c hd))

lemma SpelledText.plain {s : String} (h : ∀ c ∈ s.toList, 32 ≤ c.toNat ∧ c ≠ '"' ∧ c ≠ '\\') :
    SpelledText (some s) s.toList := by
  have hw := SpelledText.whole (SpelledChars.plain h)
  rwa [String.ofList_toList] at hw

lemma Spelled.singleton {v : Tree} {w : List Char} (h : Spelled v w) :
    Spelled (.list [v]) ('[' :: ((w ++ []) ++ [']'])) :=
  have hn : Blank [] := by simp [Blank]
  .list (.items hn h (.nil hn))

def Stops (rest : List Char) : Prop :=
  ∀ c ∈ rest.head?, isDigit c = false ∧ c ≠ '.' ∧ c ≠ 'e' ∧ c ≠ 'E'

def Ends : Tree → List Char → Prop
  | .number _, rest => Stops rest
  | _, _ => True

lemma Stops.ends {v : Tree} {rest : List Char} (h : Stops rest) : Ends v rest := by
  cases v with
  | number => exact h
  | _ => trivial

def Tree.Starts : Tree → Char → Prop
  | .null, c => c = 'n'
  | .bool true, c => c = 't'
  | .bool false, c => c = 'f'
  | .number _, c => c = '-' ∨ isDigit c = true
  | .text _, c => c = '"'
  | .list _, c => c = '['
  | .object _, c => c = '\x7b'

lemma Tree.Starts.ne {v : Tree} {c d : Char} (h : v.Starts c)
    (hd : d ∉ ['n', 't', 'f', '-', '"', '[', '\x7b'] ∧ isDigit d = false) : c ≠ d := by
  rintro rfl
  obtain ⟨hm, hn⟩ := hd
  cases v with
  | bool b => cases b <;> simp_all [Starts]
  | _ => simp_all [Starts]

lemma Tree.Starts.null_iff {v : Tree} {c : Char} (h : v.Starts c) : c = 'n' ↔ v = .null := by
  cases v with
  | null => simp [show c = 'n' from h]
  | bool b => cases b <;> simp_all [Starts]
  | number n =>
    rcases h with rfl | h
    · simp
    · have hn : c ≠ 'n' := by
        rintro rfl
        cases h
      simp [hn]
  | _ => simp_all [Starts]

lemma Tree.Starts.not_blank {v : Tree} {c : Char} (h : v.Starts c) : isBlank c = false := by
  have h₁ : c ≠ ' ' := h.ne (by decide)
  have h₂ : c ≠ '\t' := h.ne (by decide)
  have h₃ : c ≠ '\n' := h.ne (by decide)
  have h₄ : c ≠ '\r' := h.ne (by decide)
  simp [isBlank, h₁, h₂, h₃, h₄]

lemma SpelledNumber.head {n : Numeral} {w : List Char} (h : SpelledNumber n w) :
    ∃ c cs, w = c :: cs ∧ (c = '-' ∨ isDigit c = true) := by
  cases h with
  | @parts negative whole _ _ f p hw _ _ _ =>
    cases negative with
    | true => exact ⟨'-', whole ++ (f ++ p), rfl, Or.inl rfl⟩
    | false =>
      obtain ⟨hne, hall⟩ := hw
      cases whole with
      | nil => exact absurd rfl hne
      | cons d ds => exact ⟨d, ds ++ (f ++ p), rfl, Or.inr (hall d List.mem_cons_self)⟩

lemma Spelled.head {v : Tree} {w : List Char} (h : Spelled v w) : ∃ c cs, w = c :: cs ∧ v.Starts c := by
  cases h with
  | number hn => exact hn.head
  | _ => exact ⟨_, _, rfl, rfl⟩

lemma Stops.gap {gap cs : List Char} (hg : Blank gap) (hs : Stops cs) : Stops (gap ++ cs) := by
  cases gap with
  | nil => exact hs
  | cons b gap =>
    intro d hd
    cases hd
    have hb : isBlank b = true := hg b List.mem_cons_self
    simp only [isBlank, Bool.or_eq_true, beq_iff_eq] at hb
    rcases hb with ((rfl | rfl) | rfl) | rfl <;> decide

lemma Blank.stops {gap : List Char} (h : Blank gap) : Stops gap := by
  have hn : Stops [] := by simp [Stops]
  simpa using Stops.gap h hn

lemma Trailing.stops {α : Type} {item : α → List Char → Prop} {as : List α} {w : List Char}
    (h : Trailing item as w) {c : Char} (hc : c = ']' ∨ c = '\x7d') (rest : List Char) : Stops (w ++ c :: rest) := by
  cases h with
  | nil hg =>
    refine Stops.gap hg fun d hd => ?_
    cases hd
    rcases hc with rfl | rfl <;> decide
  | cons hb _ _ _ =>
    rw [List.append_assoc]
    refine Stops.gap hb fun d hd => ?_
    cases hd
    decide

@[elab_as_elim]
theorem Spelled.inside {motive : (v : Tree) → (w : List Char) → Spelled v w → Prop}
    (null : motive _ _ .null) (isTrue : motive _ _ .isTrue) (isFalse : motive _ _ .isFalse)
    (number : ∀ {n w} (h : SpelledNumber n w), motive _ _ (.number h))
    (text : ∀ {s w} (h : SpelledText s w), motive _ _ (.text h))
    (list : ∀ {items w} (h : Listed Spelled items w),
      Listed (fun v w => ∃ h : Spelled v w, motive v w h) items w → motive _ _ (.list h))
    (object : ∀ {members w} (h : Listed (SpelledMember Spelled) members w),
      Listed (SpelledMember fun v w => ∃ h : Spelled v w, motive v w h) members w → motive _ _ (.object h))
    {v : Tree} {w : List Char} (h : Spelled v w) : motive v w h := by
  let Q := fun v w => ∃ h : Spelled v w, motive v w h
  exact @Spelled.rec motive (fun items w _ => Listed Q items w)
    (fun members w _ => Listed (SpelledMember Q) members w) (fun items w _ => Trailing Q items w)
    (fun member w _ => SpelledMember Q member w) (fun members w _ => Trailing (SpelledMember Q) members w)
    null isTrue isFalse number text list object
    .empty (fun hb hv _ ih iht => .items hb ⟨hv, ih⟩ iht)
    .empty (fun hb _ _ ih iht => .items hb ih iht)
    .nil (fun hb hb' hv _ ih iht => .cons hb hb' ⟨hv, ih⟩ iht)
    (fun hk hb hb' hv ih => .pair hk hb hb' ⟨hv, ih⟩)
    .nil (fun hb hb' _ _ ih iht => .cons hb hb' ih iht) v w h

end ApiReference.Json
