import ApiReference.CommandLine.Parser
import ApiReference.Proofs.Except
import ApiReference.Proofs.Text.Lines

/-! Options in words of their own, and what a level of a command line holds once it has read some of them. -/

namespace ApiReference.CommandLine

structure Argument where
  name : String
  value : Option String
  deriving DecidableEq, Repr

def Argument.word (a : Argument) : String := "--" ++ a.name ++ a.value.elim "" ("=" ++ ·)

def valuesOf (name : String) (as : List Argument) : List String :=
  (as.filter (·.name == name)).map (·.value.getD "")

lemma valuesOf_append (name : String) (as bs : List Argument) :
    valuesOf name (as ++ bs) = valuesOf name as ++ valuesOf name bs := by
  rw [valuesOf, List.filter_append, List.map_append, valuesOf, valuesOf]

/-! ### Names of options -/

lemma Opt.longName_injective : Function.Injective Opt.longName := by
  intro a b h
  cases a <;> cases b <;> simp_all [longName]

lemma Opt.longName_ne_nil (o : Opt) : o.longName.toList ≠ [] := by
  cases o <;> decide +kernel

lemma Opt.longName_plain (o : Opt) : ∀ c ∈ o.longName.toList, (c != '=') = true := by
  apply List.all_eq_true.mp
  cases o <;> decide +kernel

lemma Level.findLong_longName {level : Level} {o : Opt} (h : o ∈ level.options) :
    level.findLong o.longName = some o := by
  have hf : (level.options.find? fun x => x.longName == o.longName).isSome :=
    List.find?_isSome.mpr ⟨o, h, beq_self_eq_true _⟩
  obtain ⟨x, hx⟩ := Option.isSome_iff_exists.mp hf
  have hname := List.find?_some hx
  rw [findLong, hx, Opt.longName_injective (beq_iff_eq.mp hname)]

inductive Level.Takes (level : Level) : Argument → Opt → Prop
  | value {o : Opt} {v : String} : o ∈ level.options → o.takesValue = true → v ≠ "" → Takes level ⟨o.longName, some v⟩ o
  | flag {o : Opt} : o ∈ level.options → o.takesValue = false → o ≠ .help → o ≠ .version → Takes level ⟨o.longName, none⟩ o

section

variable {level : Level} {a : Argument} {o : Opt} (h : level.Takes a o)
include h

lemma Level.Takes.name : a.name = o.longName := by
  cases h <;> rfl

lemma Level.Takes.value_ne (hp : o.takesPath = true) : a.value.getD "" ≠ "" := by
  cases h with
  | value _ _ hv => exact hv
  | flag _ ht => simp [Opt.takesPath, ht] at hp

end

/-! ### One word -/

namespace Given

variable {g : Given} (hp : g.pending = none) {o : Opt}
include hp

lemma meet_value (ht : o.takesValue = true) (v : String) : g.meet o (some v) = g.take o v := by
  rw [meet, settle, hp]
  cases o with
  | info | force | json | help | version => cases ht
  | _ => rfl

lemma meet_flag (ht : o.takesValue = false) (hh : o ≠ .help) (hv : o ≠ .version) : g.meet o none = g.take o "" := by
  rw [meet, settle, hp]
  cases o with
  | info | force | json => rfl
  | help => exact absurd rfl hh
  | version => exact absurd rfl hv
  | _ => cases ht

end Given

lemma toList_word (name : String) (value : Option String) : (Argument.mk name value).word.toList =
    '-' :: '-' :: (name.toList ++ value.elim [] fun v => '=' :: v.toList) := by
  cases value with
  | none => simp [Argument.word]
  | some v => simp [Argument.word]

section

variable {level : Level} {a : Argument} {o : Opt} (h : level.Takes a o) {g : Given}
include h

lemma readLong_argument (hp : g.pending = none) :
    readLong level g (o.longName.toList ++ a.value.elim [] fun v => '=' :: v.toList) = g.take o (a.value.getD "") := by
  have hplain := o.longName_plain
  cases h with
  | @value o v ho ht hv =>
    have hhead : ∀ c ∈ ('=' :: v.toList).head?, (c != '=') = false := by simp
    change readLong level g (o.longName.toList ++ '=' :: v.toList) = g.take o v
    rw [readLong, Text.takeWhile_front hplain hhead, Text.dropWhile_front hplain hhead, String.ofList_toList,
      Level.findLong_longName ho]
    dsimp only
    rw [ht, if_neg (by simp), String.ofList_toList]
    exact Given.meet_value hp ht v
  | @flag o ho ht hh hv =>
    have hhead : ∀ c ∈ ([] : List Char).head?, (c != '=') = false := by simp
    change readLong level g (o.longName.toList ++ []) = g.take o ""
    rw [readLong, Text.takeWhile_front hplain hhead, Text.dropWhile_front hplain hhead, String.ofList_toList,
      Level.findLong_longName ho]
    dsimp only
    rw [ht, if_neg (by simp)]
    exact Given.meet_flag hp ht hh hv

lemma readWord_argument (hp : g.pending = none) (ht : g.trailing = false) :
    readWord level g a.word = g.take o (a.value.getD "") := by
  obtain ⟨c, cs, hc⟩ := List.exists_cons_of_ne_nil o.longName_ne_nil
  have hlong := readLong_argument h hp
  rw [readWord, if_neg (by simp [ht]), toList_word, h.name]
  rw [hc] at hlong ⊢
  exact hlong

end

/-! ### What is held -/

namespace Given

structure Holds (g : Given) (as : List Argument) : Prop where
  values (o : Opt) : g.values o = valuesOf o.longName as
  pending : g.pending = none
  symbol : g.symbol = none
  trailing : g.trailing = false

lemma holds_nil : ({} : Given).Holds [] := ⟨fun _ => rfl, rfl, rfl, rfl⟩

lemma has_eq (g : Given) (o : Opt) : g.has o = !(g.values o).isEmpty := by
  rw [has, values, List.isEmpty_map, Bool.eq_iff_iff]
  simp

lemma value?_eq (g : Given) (o : Opt) : g.value? o = (g.values o).head? := by
  rw [value?, values, List.head?_map, List.head?_filter]

lemma Holds.take {level : Level} {g : Given} {as : List Argument} {a : Argument} {o : Opt} (hg : g.Holds as)
    (h : level.Takes a o) (hs : o.isRepeatable = false → valuesOf a.name as = []) :
    ∃ g', g.take o (a.value.getD "") = .ok g' ∧ g'.Holds (as ++ [a]) := by
  -- Neither check of `take` fails: the option is new or repeatable, and a path is not empty.
  have hfresh : ¬ (g.has o && !o.isRepeatable) = true := by
    intro hh
    rw [Bool.and_eq_true, Bool.not_eq_true', has_eq, hg.values, ← h.name] at hh
    rw [hs hh.2] at hh
    cases hh.1
  have hvalue : ¬ (o.takesPath && decide (a.value.getD "" = "")) = true := by
    intro hh
    rw [Bool.and_eq_true, decide_eq_true_eq] at hh
    exact h.value_ne hh.1 hh.2
  refine ⟨{ g with options := g.options ++ [(o, a.value.getD "")] }, ?_, ?_, hg.pending, hg.symbol, hg.trailing⟩
  · rw [Given.take, if_neg hfresh, if_neg hvalue]
  · intro o'
    rw [valuesOf_append, ← hg.values, Given.values, Given.values, List.filter_append, List.map_append]
    congr 1
    rw [valuesOf, List.filter_singleton, List.filter_singleton, h.name, Opt.longName_injective.beq_eq]
    cases o == o' <;> rfl

end Given

def Single (as : List Argument) : Prop := ∀ o : Opt, o.isRepeatable = false → (valuesOf o.longName as).length ≤ 1

lemma Single.fresh {done as : List Argument} {a : Argument} (hs : Single (done ++ a :: as)) {level : Level} {o : Opt}
    (h : level.Takes a o) (ho : o.isRepeatable = false) : valuesOf a.name done = [] := by
  have hlength := hs o ho
  have hself : valuesOf a.name [a] = [a.value.getD ""] := by simp [valuesOf]
  rw [← h.name, valuesOf_append, ← List.singleton_append, valuesOf_append, hself] at hlength
  apply List.eq_nil_of_length_eq_zero
  simp only [List.length_append, List.length_singleton] at hlength
  omega

section

variable {β : Type} {level : Level} {reader : Given → List String → Except UsageError β}
  (hread : ∀ {g : Given} {done : List Argument} {a : Argument} {o : Opt} (words : List String), g.Holds done →
    level.Takes a o → reader g (a.word :: words) = (readWord level g a.word >>= fun g => reader g words))
include hread

lemma Given.Holds.run {as done : List Argument} {g : Given} (hg : g.Holds done)
    (ht : ∀ a ∈ as, ∃ o, level.Takes a o) (hs : Single (done ++ as)) (rest : List String) :
    ∃ g', g'.Holds (done ++ as) ∧ reader g (as.map Argument.word ++ rest) = reader g' rest := by
  -- Over the arguments to come. Of those that were read, only `Holds` is kept, and `Single` spans both.
  induction as generalizing done g with
  | nil => exact ⟨g, (List.append_nil done).symm ▸ hg, rfl⟩
  | cons a as ih =>
    rw [List.forall_mem_cons] at ht
    obtain ⟨⟨o, ho⟩, ht⟩ := ht
    obtain ⟨g₁, htake, hg₁⟩ := hg.take ho (hs.fresh ho)
    rw [List.append_cons] at hs
    obtain ⟨g', hg', hrest⟩ := ih hg₁ ht hs
    refine ⟨g', (List.append_cons done a as).symm ▸ hg', ?_⟩
    rw [List.map_cons, List.cons_append, hread _ hg ho, readWord_argument ho hg.pending hg.trailing, htake, ok_bind]
    exact hrest

end

lemma readWords_arguments {level : Level} {as : List Argument} (ht : ∀ a ∈ as, ∃ o, level.Takes a o) (hs : Single as)
    (rest : List String) :
    ∃ g : Given, g.Holds as ∧ readWords level {} (as.map Argument.word ++ rest) = readWords level g rest :=
  Given.Holds.run (fun _ _ _ => rfl) Given.holds_nil ht hs rest

lemma ne_of_word {name : String} {a : Argument} (h : name.toList.head? ≠ some '-') : a.word ≠ name := by
  rintro rfl
  rw [toList_word] at h
  exact h rfl

lemma subcommand?_word (a : Argument) : subcommand? a.word = none := by
  rw [subcommand?]
  all_goals exact ne_of_word (by decide +kernel)

lemma readRoot_arguments {as : List Argument} (ht : ∀ a ∈ as, ∃ o, Level.root.Takes a o) (hs : Single as)
    (rest : List String) :
    ∃ g : Given, g.Holds as ∧ readRoot {} (as.map Argument.word ++ rest) = readRoot g rest := by
  have hread {g : Given} {done : List Argument} {a : Argument} {o : Opt} (words : List String) (hg : g.Holds done)
      (_ : Level.root.Takes a o) : readRoot g (a.word :: words) = (readWord .root g a.word >>= fun g => readRoot g words) := by
    have hwaiting : g.isWaiting = false := by
      rw [Given.isWaiting, hg.pending]
    rw [readRoot, hg.trailing, hwaiting, if_neg (by decide), if_neg (ne_of_word (by decide +kernel)), subcommand?_word]
  exact Given.Holds.run hread Given.holds_nil ht hs rest

end ApiReference.CommandLine
