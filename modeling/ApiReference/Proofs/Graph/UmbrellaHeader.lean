import ApiReference.Graph.UmbrellaHeader
import ApiReference.Proofs.Graph.Table
import ApiReference.Proofs.Text.Blank

/-! What the lines of an umbrella header contribute: the longest name that a line can be read to import.
Declarations of a header whose name is read in full are excluded. -/

namespace ApiReference

namespace UmbrellaHeader

lemma after?_append (start rest : List Char) : after? start (start ++ rest) = some rest := by
  simp [after?]

def Names (cs h : List Char) : Prop :=
  ∃ stem rest, stem ≠ [] ∧ h = stem ++ ['.', 'h'] ∧ cs = h ++ '>' :: rest

lemma Names.length_lt {cs h : List Char} (hn : Names cs h) : 2 < h.length := by
  obtain ⟨stem, rest, hs, rfl, -⟩ := hn
  have hpos := List.length_pos_iff.mpr hs
  rw [List.length_append]
  exact Nat.lt_add_of_pos_left hpos

lemma Names.isPrefix {cs h : List Char} (hn : Names cs h) : h <+: cs := by
  obtain ⟨stem, rest, -, -, rfl⟩ := hn
  exact List.prefix_append _ _

lemma longestHeader_cases (stem cs : List Char) :
    (∃ h, longestHeader stem cs = some h ∧ Names (stem.reverse ++ cs) h ∧
      ∀ h', Names (stem.reverse ++ cs) h' → h'.length ≤ h.length) ∨
    (longestHeader stem cs = none ∧ ∀ h', Names (stem.reverse ++ cs) h' → h'.length < stem.length + 2) := by
  induction cs generalizing stem with
  | nil =>
    refine Or.inr ⟨rfl, ?_⟩
    rintro h' ⟨x, rest, -, -, he⟩
    have hlen := congrArg List.length he
    simp only [List.append_nil, List.length_reverse, List.length_append, List.length_cons] at hlen
    omega
  | cons c cs ih =>
    have hstep := ih (c :: stem)
    rw [List.reverse_cons, List.append_assoc, List.singleton_append] at hstep
    rw [longestHeader]
    obtain ⟨h, hsome, hn, hmax⟩ | ⟨hnone, hlt⟩ := hstep
    · rw [hsome]
      exact Or.inl ⟨h, rfl, hn, hmax⟩
    · rw [hnone]
      -- only the name that ends right here is left
      by_cases hc : (!stem.isEmpty && ['.', 'h', '>'].isPrefixOf (c :: cs)) = true
      · rw [if_pos hc]
        rw [Bool.and_eq_true, List.isPrefixOf_iff_prefix] at hc
        obtain ⟨hs, rest, hr⟩ := hc
        refine Or.inl ⟨_, rfl, ⟨stem.reverse, rest, by simpa using hs, rfl, by simp [← hr]⟩, ?_⟩
        intro h' hn'
        have hlen := hlt h' hn'
        simp only [List.length_append, List.length_reverse, List.length_cons, List.length_nil] at hlen ⊢
        omega
      · rw [if_neg hc]
        refine Or.inr ⟨rfl, ?_⟩
        intro h' hn'
        have hle := hlt h' hn'
        by_contra hge
        apply hc
        obtain ⟨x, rest, hx, rfl, he⟩ := hn'
        have hl : stem.reverse.length = x.length := by
          simp only [List.length_append, List.length_reverse, List.length_cons, List.length_nil] at hle hge ⊢
          omega
        rw [List.append_assoc] at he
        obtain ⟨rfl, hr⟩ := List.append_inj he hl
        rw [hr]
        simpa using hx

lemma Names.longestHeader_ne_none {cs h : List Char} (hn : Names cs h) : longestHeader [] cs ≠ none := by
  obtain ⟨_, hsome, -⟩ | ⟨-, hlt⟩ := longestHeader_cases [] cs
  · simp [hsome]
  · have hs := hlt h hn
    have hl := hn.length_lt
    rw [List.length_nil] at hs
    omega

lemma longestHeader_eq_some {cs h : List Char} :
    longestHeader [] cs = some h ↔ Names cs h ∧ ∀ h', Names cs h' → h'.length ≤ h.length := by
  obtain ⟨h₀, hsome, hn₀, hmax₀⟩ | ⟨hnone, -⟩ := longestHeader_cases [] cs
  · rw [hsome, Option.some.injEq]
    constructor
    · rintro rfl
      exact ⟨hn₀, hmax₀⟩
    · rintro ⟨hn, hmax⟩
      have hp := List.prefix_of_prefix_length_le hn₀.isPrefix hn.isPrefix (hmax h₀ hn₀)
      exact hp.eq_of_length_le (hmax₀ h hn)
  · rw [hnone]
    constructor
    · intro h
      cases h
    · rintro ⟨hn, -⟩
      exact absurd hnone hn.longestHeader_ne_none

lemma exists_longer {p r : List Char} (hr : ['.', 'h', '>'] <:+: r) :
    ∃ h, Names (p ++ '>' :: r) h ∧ p.length < h.length := by
  obtain ⟨before, after, rfl⟩ := hr
  refine ⟨(p ++ '>' :: before) ++ ['.', 'h'], ⟨p ++ '>' :: before, after, by simp, rfl, by simp⟩, ?_⟩
  simp

lemma Names.of_longer {p r h : List Char} (hn : Names (p ++ '>' :: r) h) (hl : p.length < h.length) :
    '>' ∈ h ∧ ['.', 'h', '>'] <:+: r := by
  obtain ⟨stem, rest, -, hh, he⟩ := hn
  obtain ⟨as, rfl, hr⟩ | ⟨bs, rfl, -⟩ := List.append_eq_append_iff.mp he
  · cases as with
    | nil => simp at hl
    | cons c as =>
      obtain ⟨rfl, rfl⟩ := List.cons.inj hr
      refine ⟨by simp, ?_⟩
      -- the ending `.h` cannot reach back over the bracket
      have hend : ['.', 'h'] <:+ p ++ '>' :: as := hh ▸ List.suffix_append _ _
      have htail : '>' :: as <:+ p ++ '>' :: as := List.suffix_append _ _
      rcases Nat.lt_or_ge as.length 2 with hs | hs
      · have hsub := List.suffix_of_suffix_length_le htail hend (by simpa using hs)
        have hm : '>' ∈ ['.', 'h'] := hsub.subset List.mem_cons_self
        exact absurd hm (by decide)
      · have hsub := List.suffix_of_suffix_length_le hend ((List.suffix_cons '>' as).trans htail) hs
        obtain ⟨before, rfl⟩ := hsub
        exact ⟨before, rest, by simp⟩
  · simp at hl

lemma longestHeader_import {x p r : List Char} (hx : x ≠ []) (hp : p = x ++ ['.', 'h']) :
    ∃ h, longestHeader [] (p ++ '>' :: r) = some h ∧
      (h = p ∧ ¬ ['.', 'h', '>'] <:+: r ∨ '>' ∈ h ∧ ['.', 'h', '>'] <:+: r) := by
  have hn : Names (p ++ '>' :: r) p := ⟨x, r, hx, hp, rfl⟩
  by_cases hr : ['.', 'h', '>'] <:+: r
  · obtain ⟨longer, hl, hlt⟩ := exists_longer (p := p) hr
    obtain ⟨h, hsome⟩ := Option.ne_none_iff_exists'.mp hn.longestHeader_ne_none
    obtain ⟨hh, hmax⟩ := longestHeader_eq_some.mp hsome
    exact ⟨h, hsome, Or.inr (hh.of_longer (hlt.trans_le (hmax longer hl)))⟩
  · refine ⟨p, longestHeader_eq_some.mpr ⟨hn, ?_⟩, Or.inl ⟨rfl, hr⟩⟩
    intro h' hn'
    by_contra hlt
    exact hr (hn'.of_longer (not_le.mp hlt)).2

lemma lineHeader_import {ns line blanks rest : List Char} (hne : blanks ≠ [])
    (hb : ∀ c ∈ blanks, Text.isBlank c = true)
    (h : Text.trimChars line = "#import".toList ++ (blanks ++ (['<'] ++ ns ++ ['/'] ++ rest))) :
    lineHeader ns line = longestHeader [] rest := by
  have hd : (blanks ++ (['<'] ++ ns ++ ['/'] ++ rest)).dropWhile Text.isBlank = ['<'] ++ ns ++ ['/'] ++ rest := by
    rw [List.dropWhile_append_of_pos hb]
    rfl
  have hl : ¬ (['<'] ++ ns ++ ['/'] ++ rest).length = (blanks ++ (['<'] ++ ns ++ ['/'] ++ rest)).length := by
    have hlen := List.length_pos_iff.mpr hne
    simp only [List.length_append]
    omega
  rw [lineHeader, h, after?_append]
  simp only [Option.bind_eq_bind, Option.bind_some, hd, if_neg hl, after?_append]

lemma mem_headers (text ns name : String) :
    name ∈ headers text ns ↔
      ∃ line ∈ Text.linesOf text.toList, ∃ h, lineHeader ns.toList line = some h ∧ String.ofList h = name := by
  simp only [headers, sortTexts, List.mem_mergeSort, mem_distinct, List.mem_filterMap, Option.map_eq_some_iff]

end UmbrellaHeader

lemma Symbol.fileName_of_endsWith {s : Symbol} {uri path : String} (hs : s.location = some uri)
    (he : Text.endsWith uri ("/" ++ path)) :
    ∃ last, s.fileName = some (String.ofList last) ∧ last <:+ path.toList ∧ '/' ∉ last ∧
      ('/' ∉ path.toList → last = path.toList) := by
  rw [Text.endsWith, List.isSuffixOf_iff_suffix] at he
  obtain ⟨front, hf⟩ := he
  obtain ⟨last, hsuf, hn, heq, hlast⟩ := Text.exists_last_piece '/' path.toList
  refine ⟨last, ?_, hsuf, hn, heq⟩
  have hp := hlast front
  rw [show front ++ '/' :: path.toList = uri.toList by simpa using hf] at hp
  rw [fileName, hs, Option.map_some, List.getLastD_eq_getLast?, Text.split, List.getLast?_map, hp]
  rfl

section

variable {ns p x r : String} {line : List Char} (hx : x ≠ "") (hp : p = x ++ ".h")
variable (himport : Text.trimChars line = ("#import <" ++ ns ++ "/" ++ p ++ ">" ++ r).toList)
include hx hp himport

lemma UmbrellaHeader.lineHeader_path :
    ∃ h, lineHeader ns.toList line = some h ∧
      (h = p.toList ∧ ¬ ".h>".toList <:+: r.toList ∨ '>' ∈ h ∧ ".h>".toList <:+: r.toList) := by
  have hx' : x.toList ≠ [] := by simpa using hx
  have hp' : p.toList = x.toList ++ ['.', 'h'] := by simp [hp]
  obtain ⟨h, hsome, hcases⟩ := longestHeader_import (r := r.toList) hx' hp'
  refine ⟨h, ?_, hcases⟩
  have hblank : ∀ c ∈ [' '], Text.isBlank c = true := by
    intro c hc
    rw [List.mem_singleton.mp hc]
    rfl
  rw [← hsome]
  apply lineHeader_import (List.cons_ne_nil _ _) hblank
  rw [himport]
  simp

lemma UmbrellaHeader.line_names_file (hb : '>' ∉ p.toList) {s : Symbol} {uri : String}
    (hs : s.location = some uri) (he : Text.endsWith uri ("/" ++ ns ++ "/" ++ p)) :
    (∃ h, lineHeader ns.toList line = some h ∧ s.fileName = some (String.ofList h)) ↔
      '/' ∉ p.toList ∧ ¬ ".h>".toList <:+: r.toList := by
  have he' : Text.endsWith uri ("/" ++ p) := by
    rw [Text.endsWith, List.isSuffixOf_iff_suffix] at he ⊢
    refine List.IsSuffix.trans ?_ he
    simp only [String.toList_append, List.append_assoc]
    exact List.suffix_append_of_suffix (List.suffix_append _ _)
  obtain ⟨h, hsome, hcases⟩ := lineHeader_path hx hp himport
  obtain ⟨last, hfile, hsuf, hslash, hflat⟩ := Symbol.fileName_of_endsWith hs he'
  rw [hsome, hfile]
  constructor
  · rintro ⟨_, ⟨⟩, hlast⟩
    obtain rfl := String.ofList_inj.mp (Option.some.inj hlast)
    rcases hcases with ⟨rfl, hr⟩ | ⟨hm, -⟩
    · exact ⟨hslash, hr⟩
    · exact absurd (hsuf.subset hm) hb
  · rintro ⟨hs, hr⟩
    rcases hcases with ⟨rfl, -⟩ | ⟨-, hr'⟩
    · exact ⟨_, rfl, by rw [hflat hs]⟩
    · exact absurd hr' hr

end

namespace PreparedGraph

/-- An import of a header by its bare name, with no second closing `.h>` on its line, excludes what the
header declares. -/
theorem imported_header_excluded (text ns p x r : String) (line : List Char)
    (hline : line ∈ Text.linesOf text.toList)
    (himport : Text.trimChars line = ("#import <" ++ ns ++ "/" ++ p ++ ">" ++ r).toList)
    (hx : x ≠ "") (hp : p = x ++ ".h") (hb : '>' ∉ p.toList) (flat : '/' ∉ p.toList)
    (once : ¬ ".h>".toList <:+: r.toList) (loaded : LoadedGraphs) (marker : String) (s : Symbol)
    (hs : s ∈ loaded.secondary) (uri : String) (hu : s.location = some uri)
    (he : Text.endsWith uri ("/" ++ ns ++ "/" ++ p)) (hm : s.id ∈ loaded.symbols.map (·.id)) :
    let prepared := prepare loaded (UmbrellaHeader.headers text ns) marker
    s.id ∈ prepared.excluded ∧ s.id ∉ prepared.table.ids := by
  intro prepared
  obtain ⟨h, hsome, hfile⟩ := (UmbrellaHeader.line_names_file hx hp himport hb hu he).mpr ⟨flat, once⟩
  have hh : String.ofList h ∈ UmbrellaHeader.headers text ns :=
    (UmbrellaHeader.mem_headers text ns _).mpr ⟨line, hline, h, hsome, rfl⟩
  have hc : s.id ∈ (complete loaded).ids := by
    rw [ids_complete, mem_distinct]
    exact hm
  have hexcluded : s.id ∈ prepared.excluded := by
    rw [excluded_prepare, mem_excludedIds]
    exact ⟨⟨s, hs, ⟨_, hh, hfile⟩, rfl⟩, hc⟩
  refine ⟨hexcluded, ?_⟩
  rw [table_prepare, SymbolTable.mem_ids_without]
  exact fun ht => ht.2 hexcluded

def declaredAt (uri : String) : LoadedGraphs where
  symbols := [⟨"i", .classType, "I", ["class I"], none, none⟩]
  relationships := []
  secondary := [⟨"i", .classType, "I", [], none, some uri⟩]

def declaredUnder (uri text : String) : PreparedGraph :=
  prepare (declaredAt uri) (UmbrellaHeader.headers text "D") ":nodoc:"

theorem imported_header_excluded_annotated :
    "i" ∈ (declaredUnder "file:///D/I.h" "@import D;\n  #import <D/I.h> // <I>\r\n").excluded ∧
      "i" ∉ (declaredUnder "file:///D/I.h" "@import D;\n  #import <D/I.h> // <I>\r\n").table.ids :=
  imported_header_excluded "@import D;\n  #import <D/I.h> // <I>\r\n" "D" "I.h" "I" " // <I>"
    "  #import <D/I.h> // <I>".toList (by decide +kernel) (by decide +kernel) (by decide) (by decide)
    (by decide) (by decide) (by decide) (declaredAt "file:///D/I.h") ":nodoc:"
    ⟨"i", .classType, "I", [], none, some "file:///D/I.h"⟩ (by decide) "file:///D/I.h" rfl
    (by decide) (by decide)

theorem imported_header_published :
    (Text.endsWith "file:///D/S/I.h" ("/" ++ "D" ++ "/" ++ "S/I.h") ∧
      UmbrellaHeader.headers "#import <D/S/I.h>" "D" = ["S/I.h"] ∧
      (declaredUnder "file:///D/S/I.h" "#import <D/S/I.h>").excluded = [] ∧
      "i" ∈ (declaredUnder "file:///D/S/I.h" "#import <D/S/I.h>").table.ids) ∧
    Text.endsWith "file:///D/I.h" ("/" ++ "D" ++ "/" ++ "I.h") ∧
      UmbrellaHeader.headers "#import <D/I.h> // not <D/J.h>" "D" = ["I.h> // not <D/J.h"] ∧
      (declaredUnder "file:///D/I.h" "#import <D/I.h> // not <D/J.h>").excluded = [] ∧
      "i" ∈ (declaredUnder "file:///D/I.h" "#import <D/I.h> // not <D/J.h>").table.ids := by
  decide +kernel

end PreparedGraph

end ApiReference
