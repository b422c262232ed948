import ApiReference.Proofs.Graph.Backfill
import ApiReference.Proofs.Text.Blank

/-! The two ways to join the lines of a comment give the same opt-outs, for every marker that holds
neither separator. -/

namespace ApiReference

lemma mem_secondaryOptOuts (secondary : List Symbol) (marker x : String) :
    x ∈ secondaryOptOuts secondary marker ↔ ∃ t ∈ secondary, ∃ doc, t.doc = some doc ∧
      isOptedOut (String.intercalate " " doc.lines) marker ∧ t.id = x := by
  simp only [secondaryOptOuts, mem_distinct, List.mem_map, List.mem_filter]
  constructor
  · rintro ⟨t, ⟨ht, ho⟩, rfl⟩
    cases hd : t.doc with
    | none => simp [hd] at ho
    | some doc => exact ⟨t, ht, doc, hd, by simpa [hd] using ho, rfl⟩
  · rintro ⟨t, ht, doc, hd, ho, rfl⟩
    exact ⟨t, ⟨ht, by simpa [hd] using ho⟩, rfl⟩

def Joined (c d : Char) : Prop := c = d ∨ c = ' ' ∧ d = '\n'

lemma Joined.isBlank_eq (c d : Char) (h : Joined c d) : Text.isBlank c = Text.isBlank d := by
  rcases h with rfl | ⟨rfl, rfl⟩
  · rfl
  · decide

lemma joined_self (cs : List Char) : List.Forall₂ Joined cs cs :=
  List.forall₂_same.mpr fun _ _ => Or.inl rfl

lemma joined_lines (lines : List (List Char)) :
    List.Forall₂ Joined ([' '].intercalate lines) (['\n'].intercalate lines) := by
  induction lines with
  | nil => exact .nil
  | cons line lines ih =>
    cases lines with
    | nil => simpa using joined_self line
    | cons next lines =>
      rw [List.intercalate_cons_cons, List.intercalate_cons_cons]
      apply List.rel_append _ ih
      apply List.rel_append (joined_self line)
      exact .cons (Or.inr ⟨rfl, rfl⟩) .nil

lemma isPrefixOf_joined {marker as bs : List Char} (hs : ' ' ∉ marker) (hn : '\n' ∉ marker)
    (h : List.Forall₂ Joined as bs) : marker.isPrefixOf as = marker.isPrefixOf bs := by
  induction h generalizing marker with
  | nil => rfl
  | @cons c d as bs hcd _ ih =>
    cases marker with
    | nil => rfl
    | cons m marker =>
      rw [List.mem_cons, not_or] at hs hn
      have hm : (m == c) = (m == d) := by
        rcases hcd with rfl | ⟨rfl, rfl⟩
        · rfl
        · rw [beq_false_of_ne (Ne.symm hs.1), beq_false_of_ne (Ne.symm hn.1)]
      rw [List.isPrefixOf, List.isPrefixOf, hm, ih hs.2 hn.2]

section

variable {marker : String} (hs : ' ' ∉ marker.toList) (hn : '\n' ∉ marker.toList)
include hs hn

lemma isOptedOut_joins (lines : List String) :
    isOptedOut (String.intercalate " " lines) marker = isOptedOut (DocComment.text ⟨lines⟩) marker := by
  have hj := Text.trimChars_rel Joined.isBlank_eq (joined_lines (lines.map String.toList))
  have hp := isPrefixOf_joined hs hn hj
  simp only [isOptedOut, Text.startsWith, DocComment.text, Text.trim, String.toList_ofList,
    Text.trimChars_trimChars, String.toList_intercalate]
  exact congrArg _ hp

lemma isOptedOut_backfill {secondary : List Symbol} {s t : Symbol} (h : ¬ s.hasDocComment)
    (ht : t.Offers secondary s.id) :
    isOptedOut (s.backfill secondary).docText marker ↔ s.id ∈ secondaryOptOuts [t] marker := by
  obtain ⟨doc, hd, -⟩ := t.hasDocComment_iff.mp ht.1.2
  have hx : (s.backfill secondary).docText = doc.text := by
    rw [Symbol.backfill_of_offers h ht, Symbol.docText, hd]
    rfl
  rw [hx, ← isOptedOut_joins hs hn, mem_secondaryOptOuts]
  constructor
  · intro ho
    exact ⟨t, List.mem_singleton_self t, doc, hd, ho, ht.1.1⟩
  · rintro ⟨u, hu, doc', hd', ho, -⟩
    rw [List.mem_singleton.mp hu, hd] at hd'
    cases hd'
    exact ho

end

lemma mem_primaryOptOuts_of_mem {table : SymbolTable} {s : Symbol} (h : s ∈ table.symbols) (marker : String) :
    s.id ∈ primaryOptOuts table marker ↔ isOptedOut s.docText marker := by
  rw [mem_primaryOptOuts]
  constructor
  · rintro ⟨u, hu, ho, hid⟩
    rwa [List.inj_on_of_nodup_map table.nodup hu h hid] at ho
  · intro ho
    exact ⟨s, h, ho, rfl⟩

/-- A comment opts out by the one test exactly if it does by the other, so it makes no difference to an
opt-out whether its comment was backfilled. -/
theorem optOuts_agree (marker : String) (hs : ' ' ∉ marker.toList) (hn : '\n' ∉ marker.toList) :
    (∀ lines : List String,
      isOptedOut (String.intercalate " " lines) marker = isOptedOut (DocComment.text ⟨lines⟩) marker) ∧
    ∀ (secondary : List Symbol) (s t : Symbol) (table : SymbolTable), ¬ s.hasDocComment →
      t.Offers secondary s.id → s.backfill secondary ∈ table.symbols →
        (s.id ∈ primaryOptOuts table marker ↔ s.id ∈ secondaryOptOuts [t] marker) := by
  refine ⟨isOptedOut_joins hs hn, ?_⟩
  intro secondary s t table h ht hm
  have hp := mem_primaryOptOuts_of_mem hm marker
  rw [backfill_id] at hp
  exact hp.trans (isOptedOut_backfill hs hn h ht)

def legacy : Symbol := ⟨"c", .classType, "C", [], some ⟨["", "\u00a0:nodoc:", "Old."]⟩, none⟩

theorem optOuts_agree_legacy :
    let bare : Symbol := ⟨"c", .classType, "C", ["class C"], some ⟨[]⟩, none⟩
    let table := SymbolTable.ofList (backfillAll [bare] [legacy])
    "c" ∈ primaryOptOuts table ":nodoc:" ∧
      ("c" ∈ primaryOptOuts table ":nodoc:" ↔ "c" ∈ secondaryOptOuts [legacy] ":nodoc:") := by
  intro bare table
  have ht : legacy.Offers [legacy] bare.id := ⟨⟨rfl, rfl⟩, [], [], rfl, by simp⟩
  exact ⟨by decide, (optOuts_agree ":nodoc:" (by decide) (by decide)).2 [legacy] bare legacy table
    (by decide) ht (by decide)⟩

-- a marker with a space may match across two lines in the one test only
example : isOptedOut (String.intercalate " " ["a", "b"]) "a b" = true ∧
    isOptedOut (DocComment.text ⟨["a", "b"]⟩) "a b" = false := by decide

end ApiReference
