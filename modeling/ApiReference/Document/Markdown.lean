import ApiReference.Document.Catalog
import ApiReference.Document.Options
import ApiReference.Graph.Members
import ApiReference.Graph.Visibility
import ApiReference.Text.Lowercase

/-! The reference document: a title, a table of contents, a section of entries with members for each
category of types, and a flat section for each other category. A document is a list of blocks,
joined by line feeds; most blocks end in a line feed of their own. -/

namespace ApiReference

def anchor (title : String) : String := Text.lowercase title

structure DocumentSource where
  table : SymbolTable
  index : RelationIndex
  optedOut : List String

namespace DocumentSource

variable (d : DocumentSource) (options : DocumentOptions)

def hierarchy : Hierarchy := ⟨d.table, d.index⟩

def contentsSections : List Category :=
  [.classType, .protocol, .enumeration, .structureType, .typeAlias]

def typeSections : List Category := [.classType, .protocol, .enumeration, .structureType]

def flatSections : List Category := [.typeAlias, .globalFunction, .globalVariable]

def header : List String :=
  ["# " ++ options.title ++ "\n"] ++
    (if options.intro = "" then [] else [options.intro ++ "\n"]) ++ ["---\n"]

def contentsEntry (s : Symbol) : String := "- [" ++ s.title ++ "](#" ++ anchor s.title ++ ")"

def contentsSection (category : Category) : List String :=
  match d.table.section category with
  | [] => []
  | symbols => ["### " ++ category.heading ++ "\n"] ++ symbols.map contentsEntry ++ [""]

def contents : List String :=
  ["## Table of Contents\n"] ++ contentsSections.flatMap d.contentsSection ++ ["---\n"]

def declaration (s : Symbol) : String :=
  "```" ++ options.fence ++ "\n" ++ s.declaration ++ "\n```\n"

def undocumented (s : Symbol) : Bool :=
  d.optedOut.contains s.id || s.docText == "" || isOptedOut s.docText options.marker

def documentation (s : Symbol) : String :=
  (if d.undocumented options s then options.placeholder else s.docText) ++ "\n"

abbrev Entry := Symbol × Member

def entries (members : List Member) : List Entry :=
  members.filterMap fun m => (d.table.find? m.id).map (·, m)

def kindLe (a b : Kind) : Bool :=
  a.memberPriority < b.memberPriority ||
    (a.memberPriority == b.memberPriority && textLe a.displayName b.displayName)

def kindsOf : List Entry → List Kind
  | [] => []
  | e :: es => e.1.kind :: (kindsOf es).filter fun k => !decide (k = e.1.kind)

def groups (es : List Entry) : List (Kind × List Entry) :=
  ((kindsOf es).map fun k =>
    (k, (es.filter fun e => decide (e.1.kind = k)).mergeSort fun a b =>
      textLe a.1.title b.1.title)).mergeSort fun a b => kindLe a.1 b.1

def attribution (m : Member) : String :=
  if m.inherited then
    match d.table.find? m.declaredIn with
    | some p => " *(from " ++ p.title ++ ")*"
    | none => ""
  else ""

def memberEntry (e : Entry) : List String :=
  ["#### `" ++ e.1.title ++ "`" ++ d.attribution e.2 ++ "\n", declaration options e.1,
    d.documentation options e.1]

def memberGroup (group : Kind × List Entry) : List String :=
  ["### " ++ group.1.plural ++ "\n"] ++ group.2.flatMap (d.memberEntry options) ++ [""]

def titleLine (label : String) : List String → List String
  | [] => []
  | titles => ["**" ++ label ++ ":** " ++ String.intercalate ", " titles ++ "\n"]

def typeEntry (s : Symbol) : List String :=
  ["## " ++ s.title ++ "\n", declaration options s, d.documentation options s] ++
    titleLine "Conforms to" (d.hierarchy.conformanceTitles s.id) ++
    titleLine "Inherits from" (d.hierarchy.superclassTitles s.id) ++
    (groups (d.entries (d.hierarchy.membersOf s.id))).flatMap (d.memberGroup options) ++
    ["---\n"]

def typeSection (category : Category) : List String :=
  match d.table.section category with
  | [] => []
  | symbols => ["## " ++ category.heading ++ "\n"] ++ symbols.flatMap (d.typeEntry options)

def flatEntry (s : Symbol) : List String :=
  ["### " ++ s.title ++ "\n", declaration options s, d.documentation options s]

def flatSection (category : Category) : List String :=
  match d.table.section category with
  | [] => []
  | symbols =>
    ["## " ++ category.heading ++ "\n"] ++ symbols.flatMap (d.flatEntry options) ++ ["---\n"]

def blocks : List String :=
  header options ++ d.contents ++ typeSections.flatMap (d.typeSection options) ++
    flatSections.flatMap (d.flatSection options)

def markdown : String := String.intercalate "\n" (d.blocks options)

end DocumentSource

end ApiReference
