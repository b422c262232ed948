import ApiReference.Proofs.Settings.Entries
import ApiReference.Proofs.Toml.Value

/-! A written document is read line by line, and what its lines leave in the tables. -/

namespace ApiReference.Toml

open Lexeme (isDigit)

/-! ### Keys and values on a line -/

lemma solid_bare {c : Char} (h : isBareKeyChar c = true) : Solid c := by
  have hne {d : Char} (hd : isBareKeyChar d = false) : c ≠ d := by
    rintro rfl
    rw [hd] at h
    cases h
  refine ⟨?_, hne (by decide), hne (by decide), hne (by decide)⟩
  simp [isBlank, hne (d := ' ') (by decide), hne (d := '\t') (by decide)]

lemma isBareKeyChar_of_isDigit {c : Char} (h : isDigit c = true) : isBareKeyChar c = true := by
  have hd : c.isDigit = true := h
  simp [isBareKeyChar, Char.isAlphanum, hd]

lemma exists_head_writeKey (s : String) : ∃ c w, writeKey s = c :: w ∧ Solid c ∧ c ≠ '[' ∧ c ≠ '\uFEFF' := by
  obtain ⟨c, w, hw, hc⟩ := head_writeKey s
  refine ⟨c, w, hw, ?_, ?_, ?_⟩
  · rcases hc with hc | hc
    · exact solid_bare hc
    · exact solid_quote hc
  · rintro rfl
    revert hc
    decide
  · rintro rfl
    revert hc
    decide

lemma exists_head_writeEntry (entry : Entry) : ∃ c w, writeEntry entry = c :: w ∧ Solid c := by
  have hbracket : Solid '[' := by decide
  unfold writeEntry
  split
  · next n =>
    obtain ⟨hne, hd⟩ := digits_toDigits n
    obtain ⟨d, ds, hds⟩ := List.exists_cons_of_ne_nil hne
    exact ⟨d, ds, hds, solid_bare (isBareKeyChar_of_isDigit (hd d (hds ▸ List.mem_cons_self)))⟩
  · next s =>
    obtain ⟨c, w, hw, hc⟩ := head_writeText s
    exact ⟨c, w, hw, solid_quote hc⟩
  · exact ⟨'[', _, rfl, hbracket⟩
  · exact ⟨'[', _, rfl, hbracket⟩
  · exact ⟨'[', _, rfl, hbracket⟩

lemma dropBlank_writeKey (s : String) (rest : List Char) : dropBlank (writeKey s ++ rest) = writeKey s ++ rest := by
  obtain ⟨c, w, hw, hc, -⟩ := exists_head_writeKey s
  rw [hw]
  exact dropBlank_solid (List.forall_mem_nil _) hc _

lemma dottedKey_last (rounds : ℕ) (s : String) {rest rest' : List Char} (hk : Unkeyed rest)
    (hb : dropBlank rest = rest') (hd : ∀ more, rest' ≠ '.' :: more) :
    dottedKey (rounds + 1) (writeKey s ++ rest) = some ([s], rest') := by
  rw [dottedKey, dropBlank_writeKey, simpleKey_written s hk, Option.bind_eq_bind, Option.bind_some]
  dsimp only
  rw [hb]
  split
  · next he => exact absurd rfl (hd _)
  · rfl

lemma dottedKey_more (rounds : ℕ) (s : String) {names : List String} {cs rest : List Char}
    (h : dottedKey rounds cs = some (names, rest)) :
    dottedKey (rounds + 1) (writeKey s ++ '.' :: cs) = some (s :: names, rest) := by
  have hk : Unkeyed ('.' :: cs) := fun _ hc => Option.some.inj hc ▸ rfl
  have hdot : Solid '.' := by decide
  have hb : dropBlank ('.' :: cs) = '.' :: cs := dropBlank_solid (List.forall_mem_nil _) hdot cs
  rw [dottedKey, dropBlank_writeKey, simpleKey_written s hk, Option.bind_eq_bind, Option.bind_some]
  dsimp only
  rw [hb]
  change (dottedKey rounds cs).bind _ = _
  rw [h]
  rfl

lemma dottedKey_written {rounds : ℕ} {name : List String} (hne : name ≠ []) (hr : name.length ≤ rounds)
    (rest : List Char) :
    dottedKey rounds (['.'].intercalate (name.map writeKey) ++ ']' :: rest) = some (name, ']' :: rest) := by
  induction name generalizing rounds with
  | nil => exact absurd rfl hne
  | cons key name ih =>
    obtain ⟨rounds, rfl⟩ := Nat.exists_eq_succ_of_ne_zero (n := rounds) (by rintro rfl; cases hr)
    cases name with
    | nil =>
      have hk : Unkeyed (']' :: rest) := fun _ hc => Option.some.inj hc ▸ rfl
      have hclose : Solid ']' := by decide
      rw [List.map_singleton, List.intercalate_singleton]
      refine dottedKey_last rounds key hk (dropBlank_solid (List.forall_mem_nil _) hclose rest) ?_
      simp
    | cons key' name =>
      have hin := ih (List.cons_ne_nil _ _) (Nat.le_of_succ_le_succ hr)
      have he : ['.'].intercalate ((key :: key' :: name).map writeKey) ++ ']' :: rest =
          writeKey key ++ '.' :: (['.'].intercalate ((key' :: name).map writeKey) ++ ']' :: rest) := by
        simp [List.intercalate]
      rw [he]
      exact dottedKey_more rounds key hin

/-! ### Lines -/

inductive Line
  | empty
  | header (name : List String)
  | pair (key : String) (entry : Entry)

namespace Line

def write : Line → List Char
  | empty => ['\n']
  | header name => '[' :: ['.'].intercalate (name.map writeKey) ++ [']', '\n']
  | pair key entry => writeLine (key, entry)

def Fits : Line → Prop
  | empty => True
  | header name => name ≠ [] ∧ name.length < 80
  | pair _ entry => entry.Fits

def load (s : State) : Line → Option State
  | empty => some s
  | header name => (openTable name s.entries).map fun entries => { entries, current := name }
  | pair key entry => s.addPair [key] entry.value

end Line

lemma expect_self (c : Char) (rest : List Char) : expect c (c :: rest) = some rest := by
  rw [expect, if_pos rfl]

lemma endLine_break (rest : List Char) : endLine ('\n' :: rest) = some rest := rfl

lemma endLine_solid {c : Char} (h : Solid c) (rest : List Char) : endLine (c :: rest) = none := by
  have hb : dropBlank (c :: rest) = c :: rest := dropBlank_solid (List.forall_mem_nil _) h rest
  have hc : dropComment (c :: rest) = c :: rest := by
    unfold dropComment
    split
    · next he => exact absurd (List.cons.inj he).1 h.comment
    · rfl
  rw [endLine, hb, hc]
  exact newLine?_eq_none h rest

lemma readPair_written (key : String) {entry : Entry} (h : entry.Fits) (rest : List Char) :
    readPair (readValue nestingLimit) (writeLine (key, entry) ++ rest) =
      some ([key], entry.value, '\n' :: rest) := by
  obtain ⟨c, w, hw, hc⟩ := exists_head_writeEntry entry
  have hv := readValue_entry h rest
  have hequals : Solid '=' := by decide
  have hspace : ∀ d ∈ [' '], isBlank d = true := by simp [isBlank]
  have hk : Unkeyed (' ' :: '=' :: ' ' :: (writeEntry entry ++ '\n' :: rest)) := fun _ hd => Option.some.inj hd ▸ rfl
  have hkey : keyPath (writeKey key ++ ' ' :: '=' :: ' ' :: (writeEntry entry ++ '\n' :: rest)) =
      some ([key], '=' :: ' ' :: (writeEntry entry ++ '\n' :: rest)) :=
    dottedKey_last _ key hk (dropBlank_solid hspace hequals _) (by simp)
  have hblank : dropBlank (' ' :: (writeEntry entry ++ '\n' :: rest)) = writeEntry entry ++ '\n' :: rest := by
    rw [hw]
    exact dropBlank_solid hspace hc _
  have hline : writeLine (key, entry) ++ rest =
      writeKey key ++ ' ' :: '=' :: ' ' :: (writeEntry entry ++ '\n' :: rest) := by
    simp [writeLine]
  rw [hline, readPair, hkey, Option.bind_eq_bind, Option.bind_some]
  dsimp only
  rw [expect_self, Option.bind_eq_bind, Option.bind_some, hblank, hv]
  rfl

lemma readLine_pair (s : State) (key : String) {entry : Entry} (h : entry.Fits) (rest : List Char) :
    readLine s (writeLine (key, entry) ++ rest) = (s.addPair [key] entry.value).map (·, rest) := by
  obtain ⟨c, w, hw, hc, hbracket, -⟩ := exists_head_writeKey key
  have hp := readPair_written key h rest
  obtain ⟨w', hline⟩ : ∃ w', writeLine (key, entry) ++ rest = c :: w' := ⟨_, by rw [writeLine, hw]; rfl⟩
  have hb : dropBlank (c :: w') = c :: w' := dropBlank_solid (List.forall_mem_nil _) hc w'
  rw [hline] at hp ⊢
  rw [readLine, hb]
  split
  · next he => exact absurd (List.cons.inj he).1 hbracket
  · rw [endLine_solid hc]
    dsimp only
    rw [hp]
    dsimp only [Option.bind_eq_bind, Option.bind_some]
    rw [endLine_break]
    cases s.addPair [key] entry.value <;> rfl

lemma readLine_header (s : State) {name : List String} (hne : name ≠ []) (hl : name.length < 80) (rest : List Char) :
    readLine s ((Line.header name).write ++ rest) = ((Line.header name).load s).map (·, rest) := by
  have hk := dottedKey_written hne (Nat.le_of_lt_succ hl) ('\n' :: rest)
  obtain ⟨key, names, rfl⟩ := List.exists_cons_of_ne_nil hne
  obtain ⟨c, w, hw, -, hbracket, -⟩ := exists_head_writeKey key
  obtain ⟨w', hname⟩ : ∃ w', ['.'].intercalate ((key :: names).map writeKey) ++ ']' :: '\n' :: rest = c :: w' := by
    cases names with
    | nil => exact ⟨_, by simp [List.intercalate, hw]; rfl⟩
    | cons key' names => exact ⟨_, by simp [List.intercalate, hw]; rfl⟩
  have hwrite : (Line.header (key :: names)).write ++ rest = '[' :: c :: w' := by
    rw [← hname]
    simp [Line.write]
  have hheader : readHeader s ('[' :: c :: w') = ((Line.header (key :: names)).load s).map (·, '\n' :: rest) := by
    rw [hname] at hk
    unfold readHeader
    split
    · next he => exact absurd (List.cons.inj (List.cons.inj he).2).1 hbracket
    · next he =>
      obtain rfl := (List.cons.inj he).2
      rw [keyPath, hk]
      dsimp only [Option.bind_eq_bind, Option.bind_some]
      rw [expect_self, Line.load]
      cases openTable (key :: names) s.entries <;> rfl
    · next hn => exact absurd rfl (hn _)
  have hopen : Solid '[' := by decide
  have hb : dropBlank ('[' :: c :: w') = '[' :: c :: w' := dropBlank_solid (List.forall_mem_nil _) hopen _
  rw [hwrite, readLine, hb]
  change (readHeader s ('[' :: c :: w')).bind _ = _
  rw [hheader]
  cases (Line.header (key :: names)).load s <;> rfl

lemma readLine_written (s : State) {line : Line} (h : line.Fits) (rest : List Char) :
    readLine s (line.write ++ rest) = (line.load s).map (·, rest) := by
  cases line with
  | empty => rfl
  | header name => exact readLine_header s h.1 h.2 rest
  | pair key entry => exact readLine_pair s key h rest

lemma Line.write_ne_nil (line : Line) : line.write ≠ [] := by
  cases line with
  | empty => exact List.cons_ne_nil _ _
  | header name => exact List.cons_ne_nil _ _
  | pair key entry =>
    obtain ⟨c, w, hw, -⟩ := exists_head_writeKey key
    rw [write, writeLine, hw]
    exact List.cons_ne_nil _ _

theorem readLines_written {lines : List Line} (h : ∀ line ∈ lines, line.Fits) (s : State) {rounds : ℕ}
    (hr : (lines.flatMap Line.write).length ≤ rounds) :
    readLines rounds s (lines.flatMap Line.write) = lines.foldlM Line.load s := by
  induction lines generalizing s rounds with
  | nil => rw [List.flatMap_nil, readLines, List.foldlM_nil, Option.pure_def]
  | cons line lines ih =>
    obtain ⟨hl, hs⟩ := List.forall_mem_cons.mp h
    have hpos := List.length_pos_iff.mpr line.write_ne_nil
    rw [List.flatMap_cons, List.length_append] at hr
    obtain ⟨rounds, rfl⟩ := Nat.exists_eq_succ_of_ne_zero (n := rounds) (by omega)
    rw [List.flatMap_cons, readLines, readLine_written s hl, List.foldlM_cons]
    · cases line.load s with
      | none => rfl
      | some s' => exact ih hs s' (by omega)
    · simp [line.write_ne_nil]

/-! ### Documents -/

def Section.lines (s : Section) : List Line :=
  (if s.name = [] then [] else [.empty, .header s.name]) ++ s.entries.map fun e => .pair e.1 e.2

lemma Section.write_eq (s : Section) : s.write = s.lines.flatMap Line.write := by
  obtain ⟨name, entries⟩ := s
  have hpairs : (entries.map fun e => Line.pair e.1 e.2).flatMap Line.write = entries.flatMap writeLine :=
    List.flatMap_map ..
  cases name with
  | nil => simp [write, lines, writeHeader, hpairs]
  | cons key name => simp [write, lines, writeHeader, hpairs, Line.write]

lemma dropMark_write (line : Line) (rest : List Char) : dropMark (line.write ++ rest) = line.write ++ rest := by
  obtain ⟨c, w, hw, hc⟩ : ∃ c w, line.write = c :: w ∧ c ≠ '\uFEFF' := by
    cases line with
    | empty => exact ⟨'\n', _, rfl, by decide⟩
    | header name => exact ⟨'[', _, rfl, by decide⟩
    | pair key entry =>
      obtain ⟨c, w, hw, -, -, hc⟩ := exists_head_writeKey key
      exact ⟨c, _, by rw [Line.write, writeLine, hw]; rfl, hc⟩
  rw [hw, List.cons_append, dropMark, if_neg]
  intro hm
  apply hc
  rw [← Char.ofNat_toNat c, hm]

def Section.Fits (s : Section) : Prop := s.name.length < 80 ∧ ∀ e ∈ s.entries, e.2.Fits

lemma Section.Fits.lines {s : Section} (h : s.Fits) : ∀ line ∈ s.lines, line.Fits := by
  intro line hl
  rw [Section.lines, List.mem_append] at hl
  rcases hl with hl | hl
  · split at hl
    · cases hl
    · next hne =>
      simp only [List.mem_cons, List.not_mem_nil, or_false] at hl
      rcases hl with rfl | rfl
      · trivial
      · exact ⟨hne, h.1⟩
  · obtain ⟨e, he, rfl⟩ := List.mem_map.mp hl
    exact h.2 e he

theorem ofText_writeDocument {sections : List Section} (h : ∀ s ∈ sections, s.Fits) :
    ofText (writeDocument sections) =
      ((sections.flatMap Section.lines).foldlM Line.load { entries := [], current := [] }).map
        fun s => entriesToValues s.entries := by
  have hlines : ∀ line ∈ sections.flatMap Section.lines, line.Fits := by
    intro line hl
    obtain ⟨s, hs, hl⟩ := List.mem_flatMap.mp hl
    exact (h s hs).lines line hl
  have hw : sections.flatMap Section.write = (sections.flatMap Section.lines).flatMap Line.write := by
    rw [List.flatMap_assoc]
    exact List.flatMap_congr fun s _ => s.write_eq
  have hmark : dropMark (sections.flatMap Section.write) = sections.flatMap Section.write := by
    rw [hw]
    cases sections.flatMap Section.lines with
    | nil => rfl
    | cons line lines => exact dropMark_write line _
  rw [ofText, writeDocument, String.toList_ofList, hmark, hw, readLines_written hlines _ (Nat.le_succ _)]
  cases (sections.flatMap Section.lines).foldlM Line.load { entries := [], current := [] } <;> rfl

/-! ### Tables -/

lemma addValue_key (key : String) (v : ConfigValue) (entries : Entries) :
    addValue [key] v entries = if (valueAt? key entries).isSome then none else some (setEntry key (.value v) entries) :=
  rfl

lemma descend_append (change : Origin → Entries → Option Entries) (front back : List String) (origin : Origin)
    (entries : Entries) :
    descend false change (front ++ back) origin entries =
      descend false (descend false change back) front origin entries := by
  induction front generalizing origin entries with
  | nil => rfl
  | cons key front ih => simp only [List.cons_append, descend, ih]

def Leads (path : List String) (whole : Entries → Entries) : Prop :=
  ∀ (change : Entries → Option Entries) (origin : Origin) (table : Entries),
    descend false (fun _ => change) path origin (whole table) = (change table).map whole

lemma leads_nil : Leads [] id := by
  intro change origin table
  rw [Option.map_id]
  rfl

section

variable {path : List String} {whole : Entries → Entries} (h : Leads path whole)
include h

lemma Leads.table (key : String) (entries : Entries) :
    Leads (path ++ [key]) fun table => whole (setEntry key (.table .header table) entries) := by
  intro change origin table
  have hin : descend false (fun _ => change) [key] origin (setEntry key (.table .header table) entries) =
      (change table).map fun table => setEntry key (.table .header table) entries := by
    rw [descend, valueAt?_setEntry_self]
    change (change table).bind _ = _
    cases change table with
    | none => rfl
    | some table' => exact congrArg some (setEntry_setEntry key _ _ entries)
  have hout := h (descend false (fun _ => change) [key] origin) origin (setEntry key (.table .header table) entries)
  rw [hin, Option.map_map] at hout
  rw [descend_append]
  exact hout

lemma Leads.open {key : String} {table : Entries} (hk : valueAt? key table = none) (current : List String) :
    (Line.header (path ++ [key])).load { entries := whole table, current } =
      some { entries := whole (setEntry key (.table .header []) table), current := path ++ [key] } := by
  have ho : openTable (path ++ [key]) (whole table) = some (whole (setEntry key (.table .header []) table)) := by
    rw [openTable, List.dropLast_concat, h, List.getLast?_concat]
    dsimp only [Option.bind_eq_bind, Option.bind_some]
    rw [hk]
    rfl
  rw [Line.load, ho]
  rfl

lemma Leads.addPair {key : String} {table : Entries} (hk : valueAt? key table = none) (entry : Entry) :
    (Line.pair key entry).load { entries := whole table, current := path } =
      some { entries := whole (setEntry key (.value entry.value) table), current := path } := by
  rw [Line.load, State.addPair, h, addValue_key, hk]
  rfl

end

def filled (table : Entries) (entries : List (String × Entry)) : Entries :=
  entries.foldl (fun table e => setEntry e.1 (.value e.2.value) table) table

lemma valueAt?_filled (key : String) (table : Entries) {entries : List (String × Entry)}
    (hn : (entries.map (·.1)).Nodup) :
    valueAt? key (filled table entries) =
      ((valueAt? key entries).map fun entry => .value entry.value).or (valueAt? key table) := by
  induction entries generalizing table with
  | nil => rfl
  | cons e entries ih =>
    obtain ⟨k, entry⟩ := e
    rw [List.map_cons, List.nodup_cons] at hn
    rw [filled, List.foldl_cons, ← filled, ih _ hn.2, valueAt?_cons, valueAt?_setEntry]
    by_cases hk : k = key
    · have hnone : valueAt? key entries = none := by
        apply valueAt?_eq_none
        intro e he hkey
        apply hn.1
        exact List.mem_map.mpr ⟨e, he, hkey.trans hk.symm⟩
      rw [hnone, if_pos hk, if_pos hk]
      rfl
    · rw [if_neg hk, if_neg hk]

lemma filled_of_ordered {entries : List (String × Entry)} (h : Ordered entries) :
    filled [] entries = entries.map fun e => (e.1, .value e.2.value) := by
  induction entries using List.reverseRecOn with
  | nil => rfl
  | append_singleton entries e ih =>
    obtain ⟨hfront, -, hlast⟩ := List.pairwise_append.mp h
    rw [filled, List.foldl_append]
    change setEntry e.1 (.value e.2.value) (filled [] entries) = _
    rw [ih hfront, List.map_append]
    apply setEntry_append
    intro e' he'
    obtain ⟨e'', hmem, rfl⟩ := List.mem_map.mp he'
    exact hlast e'' hmem e List.mem_cons_self

section

variable {path : List String} {whole : Entries → Entries} (h : Leads path whole)
include h

lemma Leads.fill {entries : List (String × Entry)} (hn : (entries.map (·.1)).Nodup) {table : Entries}
    (hk : ∀ e ∈ entries, valueAt? e.1 table = none) :
    (entries.map fun e => Line.pair e.1 e.2).foldlM Line.load { entries := whole table, current := path } =
      some { entries := whole (filled table entries), current := path } := by
  induction entries generalizing table with
  | nil => rfl
  | cons e entries ih =>
    obtain ⟨he, hrest⟩ := List.forall_mem_cons.mp hk
    rw [List.map_cons, List.nodup_cons] at hn
    rw [List.map_cons, List.foldlM_cons, h.addPair he, Option.bind_eq_bind, Option.bind_some]
    apply ih hn.2
    intro e' he'
    have hne : e.1 ≠ e'.1 := fun heq => hn.1 (heq ▸ List.mem_map_of_mem he')
    rw [valueAt?_setEntry, if_neg hne]
    exact hrest e' he'

theorem Leads.section {key : String} {table : Entries} (hk : valueAt? key table = none)
    {entries : List (String × Entry)} (hn : (entries.map (·.1)).Nodup) (current : List String) :
    (Section.lines { name := path ++ [key], entries }).foldlM Line.load { entries := whole table, current } =
      some
        { entries := whole (setEntry key (.table .header (filled [] entries)) table), current := path ++ [key] } := by
  rw [Section.lines, if_neg (by simp), List.foldlM_append, List.foldlM_cons, Line.load, Option.bind_eq_bind,
    Option.bind_some, List.foldlM_cons, h.open hk]
  exact (h.table key table).fill hn fun _ _ => rfl

end

lemma entriesToValues_eq_map (entries : Entries) :
    entriesToValues entries = entries.map fun e => (e.1, e.2.toValue) := by
  induction entries with
  | nil => rfl
  | cons e entries ih => rw [entriesToValues, ih, List.map_cons]

end ApiReference.Toml
