import ApiReference.Proofs.Graph.UmbrellaHeader
import ApiReference.Proofs.Text.Lines

/-! The grammar of import lines. The headers of a text are those that some line imports, each read as far
as the line allows. -/

namespace ApiReference.UmbrellaHeader

def Imports (ns line h : List Char) : Prop :=
  ∃ blanks stem rest, blanks ≠ [] ∧ (∀ c ∈ blanks, Text.isBlank c = true) ∧ stem ≠ [] ∧ h = stem ++ ".h".toList ∧
    line = "#import".toList ++ blanks ++ "<".toList ++ ns ++ "/".toList ++ h ++ ">".toList ++ rest

def Opens (ns line rest : List Char) : Prop :=
  ∃ blanks, blanks ≠ [] ∧ (∀ c ∈ blanks, Text.isBlank c = true) ∧
    line = "#import".toList ++ (blanks ++ (['<'] ++ ns ++ ['/'] ++ rest))

lemma imports_iff {ns line h : List Char} : Imports ns line h ↔ ∃ rest, Opens ns line rest ∧ Names rest h := by
  constructor
  · rintro ⟨blanks, stem, rest, hne, hb, hs, hh, rfl⟩
    exact ⟨h ++ '>' :: rest, ⟨blanks, hne, hb, by simp⟩, stem, rest, hs, hh, rfl⟩
  · rintro ⟨_, ⟨blanks, hne, hb, rfl⟩, stem, rest, hs, hh, rfl⟩
    exact ⟨blanks, stem, rest, hne, hb, hs, hh, by simp⟩

lemma after?_eq_some {start cs rest : List Char} : after? start cs = some rest ↔ cs = start ++ rest := by
  constructor
  · intro h
    rw [after?] at h
    split at h
    · next hp =>
      obtain ⟨more, rfl⟩ := List.isPrefixOf_iff_prefix.mp hp
      simpa using h
    · cases h
  · rintro rfl
    exact after?_append start rest

lemma lineHeader_of_opens {ns line rest : List Char} (h : Opens ns (Text.trimChars line) rest) :
    lineHeader ns line = longestHeader [] rest := by
  obtain ⟨blanks, hne, hb, he⟩ := h
  exact lineHeader_import hne hb he

lemma opens_of_lineHeader {ns line h : List Char} (hs : lineHeader ns line = some h) :
    ∃ rest, Opens ns (Text.trimChars line) rest := by
  rw [lineHeader, Option.bind_eq_bind, Option.bind_eq_some_iff] at hs
  obtain ⟨behind, hb, hs⟩ := hs
  dsimp only at hs
  split at hs
  · cases hs
  · next hl =>
    rw [Option.bind_eq_some_iff] at hs
    obtain ⟨rest, hr, -⟩ := hs
    rw [after?_eq_some] at hb hr
    have hsplit : behind.takeWhile Text.isBlank ++ behind.dropWhile Text.isBlank = behind :=
      List.takeWhile_append_dropWhile
    refine ⟨rest, behind.takeWhile Text.isBlank, ?_, fun c hc => List.mem_takeWhile_imp hc, ?_⟩
    · intro hnil
      apply hl
      rw [hnil, List.nil_append] at hsplit
      rw [hsplit]
    · rw [← hr, hsplit, hb]

lemma Opens.unique {ns line rest rest' : List Char} (h : Opens ns line rest) (h' : Opens ns line rest') :
    rest = rest' := by
  obtain ⟨blanks, -, hb, he⟩ := h
  obtain ⟨blanks', -, hb', he'⟩ := h'
  have hbody := congrArg (List.dropWhile Text.isBlank) (List.append_cancel_left (he.symm.trans he'))
  rw [Text.dropWhile_front hb (by simp [Text.isBlank]), Text.dropWhile_front hb' (by simp [Text.isBlank])] at hbody
  exact List.append_cancel_left hbody

lemma lineHeader_eq_some {ns line h : List Char} :
    lineHeader ns line = some h ↔ Imports ns (Text.trimChars line) h ∧
      ∀ h', Imports ns (Text.trimChars line) h' → h'.length ≤ h.length := by
  constructor
  · intro hs
    obtain ⟨rest, ho⟩ := opens_of_lineHeader hs
    rw [lineHeader_of_opens ho, longestHeader_eq_some] at hs
    refine ⟨imports_iff.mpr ⟨rest, ho, hs.1⟩, ?_⟩
    intro h' hi
    obtain ⟨rest', ho', hn⟩ := imports_iff.mp hi
    obtain rfl := ho.unique ho'
    exact hs.2 h' hn
  · rintro ⟨hi, hmax⟩
    obtain ⟨rest, ho, hn⟩ := imports_iff.mp hi
    rw [lineHeader_of_opens ho, longestHeader_eq_some]
    refine ⟨hn, ?_⟩
    intro h' hn'
    exact hmax h' (imports_iff.mpr ⟨rest, ho, hn'⟩)

/-- A header is listed if and only if a line of the text, without the blanks around it, imports it and can be read
to import no longer one. -/
theorem headers_grammar (text ns h : String) :
    h ∈ headers text ns ↔ ∃ line core, Text.IsLine text.toList line ∧ Text.Trimmed line core ∧
      Imports ns.toList core h.toList ∧ ∀ h', Imports ns.toList core h' → h'.length ≤ h.toList.length := by
  rw [mem_headers]
  constructor
  · rintro ⟨line, hl, cs, hs, rfl⟩
    rw [lineHeader_eq_some] at hs
    refine ⟨line, _, Text.isLine_iff.mpr hl, Text.trimmed_trimChars line, ?_⟩
    rwa [String.toList_ofList]
  · rintro ⟨line, _, hl, ht, hi, hmax⟩
    obtain rfl := ht.eq_trimChars
    exact ⟨line, Text.isLine_iff.mp hl, h.toList, lineHeader_eq_some.mpr ⟨hi, hmax⟩, String.ofList_toList⟩

-- several closing brackets, a namespace with marks of its own, a carriage return, and an empty stem
example : headers "\t#import \u3000<A.b/X.h> <A.b/Y.h> z\r\n#import <AXb/Z.h>\n#import <A.b/.h>" "A.b" =
    ["X.h> <A.b/Y.h"] := by
  decide +kernel

end ApiReference.UmbrellaHeader
