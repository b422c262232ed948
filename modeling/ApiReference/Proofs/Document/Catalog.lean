import ApiReference.Document.Markdown
import ApiReference.Proofs.Sorting
import ApiReference.Proofs.Symbol.Table
import Mathlib.Data.List.Nodup
import Mathlib.Data.String.Basic

/-! The sections of a document share the symbols of the table out among them, and the table of
contents lists what stands in the body. -/

namespace ApiReference

def codePoints (s : String) : List ℕ := s.toList.map Char.toNat

lemma codePoints_le {a b : String} (h : a ≤ b) : codePoints a ≤ codePoints b := by
  rcases h.lt_or_eq with hlt | rfl
  · have hc : ∀ c d : Char, c < d → c.toNat < d.toNat := fun _ _ hcd => hcd
    exact le_of_lt (List.map_lt hc (String.lt_iff_toList_lt.mp hlt))
  · exact le_rfl

def Kind.memberKinds : List Kind :=
  [.initializer, .typeProperty, .typeMethod, .instanceProperty, .instanceMethod, .enumCase]

lemma Kind.category_eq_member (k : Kind) : k.category = .member ↔ k ∈ memberKinds := by
  cases k <;> simp [category, memberKinds]

def SectionCounts.total (counts : SectionCounts) : ℕ :=
  counts.classes + counts.protocols + counts.enumerations + counts.structures + counts.typeAliases +
    counts.globalFunctions + counts.globalVariables + counts.uncategorized

lemma pairwise_idxOf {l : List Symbol} (h : l.Nodup) : l.Pairwise fun a b => l.idxOf a < l.idxOf b := by
  rw [List.pairwise_iff_getElem]
  intro i j hi hj hij
  rwa [h.idxOf_getElem, h.idxOf_getElem]

namespace SymbolTable

variable (table : SymbolTable)

lemma nodup_symbols : table.symbols.Nodup := table.nodup.of_map

lemma section_member : table.section .member = [] := if_pos rfl

lemma section_eq {category : Category} (hc : category ≠ .member) :
    table.section category = (table.symbols.filter fun s => decide (s.kind.category = category)).mergeSort
      (keyLe fun s => s.title) := if_neg hc

lemma mem_section {category : Category} (hc : category ≠ .member) (s : Symbol) :
    s ∈ table.section category ↔ s ∈ table.symbols ∧ s.kind.category = category := by
  rw [section_eq table hc, List.mem_mergeSort, List.mem_filter, decide_eq_true_eq]

lemma mem_section_iff (category : Category) (s : Symbol) :
    s ∈ table.section category ↔
      s ∈ table.symbols ∧ s.kind.category = category ∧ s.kind ∉ Kind.memberKinds := by
  rw [← Kind.category_eq_member]
  by_cases hc : category = .member
  · simp [hc, section_member]
  · rw [mem_section table hc]
    apply and_congr_right
    intro _
    constructor
    · rintro rfl
      exact ⟨rfl, hc⟩
    · exact And.left

lemma nodup_section (category : Category) : (table.section category).Nodup := by
  by_cases hc : category = .member
  · simp [hc, section_member]
  · rw [section_eq table hc, List.nodup_mergeSort]
    exact table.nodup_symbols.filter _

lemma length_section {category : Category} (hc : category ≠ .member) :
    (table.section category).length = table.symbols.countP fun s => decide (s.kind.category = category) := by
  rw [section_eq table hc, List.length_mergeSort, List.countP_eq_length_filter]

lemma section_order (category : Category) :
    (table.section category).Pairwise fun a b => codePoints a.title ≤ codePoints b.title ∧
      (a.title = b.title → table.symbols.idxOf a < table.symbols.idxOf b) := by
  by_cases hc : category = .member
  · simp [hc, section_member]
  · rw [section_eq table hc]
    apply List.Pairwise.and
    · exact (pairwise_mergeSort (fun s : Symbol => s.title) _).imp codePoints_le
    · apply pairwise_ties
      exact (pairwise_idxOf table.nodup_symbols).filter _

lemma total_counts :
    table.counts.total + table.symbols.countP (fun s => decide (s.kind ∈ Kind.memberKinds)) = table.size := by
  simp only [SectionCounts.total, counts, size, length_section table, ne_eq, reduceCtorEq, not_false_eq_true,
    ← Kind.category_eq_member]
  induction table.symbols with
  | nil => rfl
  | cons s symbols ih =>
    cases hk : s.kind.category <;> simp [hk] <;> omega

end SymbolTable

namespace DocumentSource

variable (d : DocumentSource) (options : DocumentOptions)

def chapters : List (Category × List Symbol) :=
  (contentsSections.map fun category => (category, d.table.section category)).filter fun c => c.2 != []

def outline (chapter : Category × List Symbol) : List String :=
  ["### " ++ chapter.1.heading ++ "\n"] ++ chapter.2.map contentsEntry ++ [""]

def entry (category : Category) (s : Symbol) : List String :=
  if category = .typeAlias then d.flatEntry options s else d.typeEntry options s

def opening (category : Category) (s : Symbol) : String :=
  (if category = .typeAlias then "### " else "## ") ++ s.title ++ "\n"

def relations (category : Category) (s : Symbol) : List String :=
  if category = .typeAlias then []
  else
    titleLine "Conforms to" (d.hierarchy.conformanceTitles s.id) ++
      titleLine "Inherits from" (d.hierarchy.superclassTitles s.id) ++
      (groups (d.entries (d.hierarchy.membersOf s.id))).flatMap (d.memberGroup options) ++ ["---\n"]

lemma entry_eq (category : Category) (s : Symbol) :
    d.entry options category s =
      opening category s :: declaration options s :: d.documentation options s :: d.relations options category s := by
  rw [entry, opening, relations]
  by_cases hc : category = .typeAlias
  · rw [if_pos hc, if_pos hc, if_pos hc]
    rfl
  · rw [if_neg hc, if_neg hc, if_neg hc, typeEntry]
    simp only [List.append_assoc, List.cons_append, List.nil_append]

def body (chapter : Category × List Symbol) : List String :=
  ["## " ++ chapter.1.heading ++ "\n"] ++ chapter.2.flatMap (d.entry options chapter.1) ++
    (if chapter.1 = .typeAlias then ["---\n"] else [])

lemma chapters_flatMap (write : Category × List Symbol → List String) (sections : Category → List String)
    (h : ∀ category, sections category =
      if d.table.section category = [] then [] else write (category, d.table.section category)) :
    contentsSections.flatMap sections = d.chapters.flatMap write := by
  rw [chapters]
  induction contentsSections with
  | nil => rfl
  | cons category rest ih =>
    rw [List.flatMap_cons, h category, ih, List.map_cons]
    by_cases hs : d.table.section category = []
    · rw [if_pos hs, List.filter_cons_of_neg (by simpa using hs), List.nil_append]
    · rw [if_neg hs, List.filter_cons_of_pos (by simpa using hs), List.flatMap_cons]

lemma contents_chapters :
    d.contents = ["## Table of Contents\n"] ++ d.chapters.flatMap outline ++ ["---\n"] := by
  rw [contents, d.chapters_flatMap outline d.contentsSection]
  intro category
  rw [contentsSection, outline]
  cases d.table.section category <;> rfl

def bodySection (category : Category) : List String :=
  if category = .typeAlias then d.flatSection options category else d.typeSection options category

lemma bodySection_eq (category : Category) :
    d.bodySection options category =
      if d.table.section category = [] then [] else d.body options (category, d.table.section category) := by
  rw [bodySection, body]
  by_cases hc : category = .typeAlias
  · have he : d.entry options category = d.flatEntry options := funext fun s => if_pos hc
    rw [if_pos hc, if_pos hc, flatSection, he]
    cases d.table.section category <;> rfl
  · have he : d.entry options category = d.typeEntry options := funext fun s => if_neg hc
    rw [if_neg hc, if_neg hc, typeSection, he, List.append_nil]
    cases d.table.section category <;> rfl

lemma body_chapters :
    typeSections.flatMap (d.typeSection options) ++ d.flatSection options .typeAlias =
      d.chapters.flatMap (d.body options) := by
  rw [← d.chapters_flatMap (d.body options) (d.bodySection options) (d.bodySection_eq options)]
  simp [typeSections, contentsSections, bodySection]

lemma blocks_chapters :
    d.blocks options = header options ++ ["## Table of Contents\n"] ++ d.chapters.flatMap outline ++ ["---\n"] ++
      d.chapters.flatMap (d.body options) ++
        [Category.globalFunction, .globalVariable].flatMap (d.flatSection options) := by
  rw [← body_chapters, blocks, contents_chapters, flatSections, List.flatMap_cons]
  simp only [List.append_assoc]

/-- Every symbol that is no member stands once, in its own section. Sections are in order of title and then
of the table, and the first five of them stand in the table of contents as they stand in the body: a line that
names the symbol there, and an entry under its heading here. -/
theorem sections_exact :
    (∀ s category, (d.table.section category).count s =
      if s ∈ d.table.symbols ∧ s.kind.category = category ∧ s.kind ∉ Kind.memberKinds then 1 else 0) ∧
    (∀ category, (d.table.section category).Pairwise fun a b => codePoints a.title ≤ codePoints b.title ∧
      (a.title = b.title → d.table.symbols.idxOf a < d.table.symbols.idxOf b)) ∧
    d.table.counts.total + d.table.symbols.countP (fun s => decide (s.kind ∈ Kind.memberKinds)) =
      d.table.size ∧
    (∀ s, contentsEntry s = "- [" ++ s.title ++ "](#" ++ anchor s.title ++ ")") ∧
    (∀ category s, d.entry options category s =
      opening category s :: declaration options s :: d.documentation options s :: d.relations options category s) ∧
    d.markdown options = String.intercalate "\n"
      (header options ++ ["## Table of Contents\n"] ++ d.chapters.flatMap outline ++ ["---\n"] ++
        d.chapters.flatMap (d.body options) ++
          [Category.globalFunction, .globalVariable].flatMap (d.flatSection options)) := by
  refine ⟨?_, d.table.section_order, d.table.total_counts, fun _ => rfl, d.entry_eq options, ?_⟩
  · intro s category
    rw [(d.table.nodup_section category).count]
    simp only [d.table.mem_section_iff]
  · rw [markdown, blocks_chapters]

end DocumentSource

end ApiReference
