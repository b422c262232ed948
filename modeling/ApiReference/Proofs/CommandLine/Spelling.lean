import ApiReference.Proofs.CommandLine.Argument
import ApiReference.Proofs.Settings.Entries

/-! Invocations in words: in whatever order the options stand, they are read as the invocation that they spell. -/

namespace ApiReference

abbrev Options : Type := List (String × List (Option String))

namespace Options

def valued (name : String) (value : Option String) : String × List (Option String) := (name, value.toList.map some)

def flag (name : String) (on : Bool) : String × List (Option String) := (name, if on then [none] else [])

def valuesAt (name : String) (options : Options) : List String := ((valueAt? name options).getD []).map (·.getD "")

end Options

open Options

def InputArguments.options (inputs : InputArguments) : Options :=
  [valued "module" inputs.module, ("primary", inputs.primary.map some), valued "graph-dir" inputs.graphDir,
    valued "secondary" inputs.secondary, valued "umbrella-header" inputs.umbrellaHeader]

namespace Command

def name : Command → String
  | init _ => "init"
  | config => "config"
  | render _ _ _ => "render"
  | members _ _ _ => "members"

def options : Command → Options
  | init force => [flag "force" force]
  | config => []
  | render inputs output json => inputs.options ++ [valued "output" output, flag "json" json]
  | members _ inputs json => inputs.options ++ [flag "json" json]

def symbol? : Command → Option String
  | members symbol _ _ => some symbol
  | _ => none

def positionals (command : Command) : List String := command.symbol?.elim [] fun symbol => ["--", symbol]

end Command

namespace Invocation

def globals (call : Invocation) : Options := [valued "config" call.config, flag "info" call.info]

def options (call : Invocation) : Options := call.globals ++ call.command.options

end Invocation

namespace CommandLine

def arguments (options : Options) : List Argument := options.flatMap fun e => e.2.map (Argument.mk e.1)

/-- The words for an invocation: its options in any order that leaves the primary graphs in theirs. -/
inductive Spells (call : Invocation) : List String → Prop
  | words {front back : List Argument} : (front ++ back).Perm (arguments call.options) →
      (front ++ back).filter (·.name == "primary") = (arguments call.options).filter (·.name == "primary") →
      (∀ a ∈ front, a ∈ arguments call.globals) →
      Spells call (front.map Argument.word ++ call.command.name :: (back.map Argument.word ++ call.command.positionals))

/-! ### What options are given -/

lemma valuesOf_arguments {options : Options} (h : (options.map Prod.fst).Nodup) (name : String) :
    valuesOf name (arguments options) = valuesAt name options := by
  induction options with
  | nil => rfl
  | cons e options ih =>
    obtain ⟨key, values⟩ := e
    rw [List.map_cons, List.nodup_cons] at h
    have hcons : arguments ((key, values) :: options) = values.map (Argument.mk key) ++ arguments options := rfl
    rw [hcons, valuesOf_append, ih h.2, valuesAt, valuesAt, valueAt?_cons]
    by_cases hk : key = name
    · subst hk
      have habsent : valueAt? key options = none := by
        apply valueAt?_eq_none
        rintro e he rfl
        exact h.1 (List.mem_map.mpr ⟨e, he, rfl⟩)
      rw [if_pos rfl, habsent]
      simp [valuesOf, List.filter_map, Function.comp_def]
    · rw [if_neg hk]
      simp [valuesOf, List.filter_map, Function.comp_def, hk]

lemma nodup_options (call : Invocation) : (call.options.map Prod.fst).Nodup := by
  rw [Invocation.options]
  cases call.command with
  | init force => exact (by decide : List.Nodup ["config", "info", "force"])
  | config => exact (by decide : List.Nodup ["config", "info"])
  | render inputs output json =>
    exact (by decide : List.Nodup ["config", "info", "module", "primary", "graph-dir", "secondary", "umbrella-header",
      "output", "json"])
  | members symbol inputs json =>
    exact (by decide : List.Nodup ["config", "info", "module", "primary", "graph-dir", "secondary", "umbrella-header",
      "json"])

/-! ### Levels -/

def levelOf : Command → Level
  | .init _ => .init
  | .config => .config
  | .render _ _ _ => .render
  | .members _ _ _ => .members

lemma subcommand?_name (command : Command) : subcommand? command.name = some (levelOf command) := by
  cases command <;> rfl

inductive Level.Offers (level : Level) : String × List (Option String) → Prop
  | valued {o : Opt} (value : Option String) : o ∈ level.options → o.takesValue = true →
      Offers level (valued o.longName value)
  | flag {o : Opt} (on : Bool) : o ∈ level.options → o.takesValue = false → o ≠ .help → o ≠ .version →
      Offers level (flag o.longName on)
  | primary (paths : List String) : .primary ∈ level.options → Offers level ("primary", paths.map some)

namespace Level

lemma Offers.length {level : Level} {e : String × List (Option String)} (h : level.Offers e) (hn : e.1 ≠ "primary") :
    e.2.length ≤ 1 := by
  cases h with
  | valued value => cases value <;> simp [Options.valued]
  | flag on => cases on <;> simp [Options.flag]
  | primary paths => exact absurd rfl hn

lemma Offers.takes {level : Level} {e : String × List (Option String)} (h : level.Offers e) {v : Option String}
    (hv : v ∈ e.2) (hn : v ≠ some "") : ∃ o, level.Takes ⟨e.1, v⟩ o := by
  cases h with
  | @valued o value ho ht =>
    obtain ⟨v, -, rfl⟩ := List.mem_map.mp hv
    exact ⟨o, .value ho ht fun he => hn (congrArg some he)⟩
  | @flag o on ho ht hh hw =>
    obtain rfl : v = none := by
      cases on with
      | false => cases hv
      | true => exact List.mem_singleton.mp hv
    exact ⟨o, .flag ho ht hh hw⟩
  | primary paths ho =>
    obtain ⟨v, -, rfl⟩ := List.mem_map.mp hv
    exact ⟨.primary, .value ho rfl fun he => hn (congrArg some he)⟩

lemma takes_arguments {level : Level} {options : Options} (ho : ∀ e ∈ options, level.Offers e) {a : Argument}
    (ha : a ∈ arguments options) (hn : a.value ≠ some "") : ∃ o, level.Takes a o := by
  obtain ⟨e, he, hae⟩ := List.mem_flatMap.mp ha
  obtain ⟨v, hv, rfl⟩ := List.mem_map.mp hae
  exact (ho e he).takes hv hn

lemma offers_globals (level : Level) (call : Invocation) : ∀ e ∈ call.globals, level.Offers e := by
  have hconfig : Opt.config ∈ level.options := by cases level <;> decide
  have hinfo : Opt.info ∈ level.options := by cases level <;> decide
  rw [Invocation.globals, List.forall_mem_cons, List.forall_mem_singleton]
  exact ⟨.valued call.config hconfig rfl, .flag call.info hinfo rfl (by decide) (by decide)⟩

lemma offers_inputs {level : Level} (h : ∀ o ∈ inputOptions, o ∈ level.options) (inputs : InputArguments) :
    ∀ e ∈ inputs.options, level.Offers e := by
  have hmodule := h .module (by decide)
  have hprimary := h .primary (by decide)
  have hdir := h .graphDir (by decide)
  have hsecondary := h .secondary (by decide)
  have humbrella := h .umbrellaHeader (by decide)
  simp only [InputArguments.options, List.forall_mem_cons]
  exact ⟨.valued _ hmodule rfl, .primary _ hprimary, .valued _ hdir rfl, .valued _ hsecondary rfl,
    .valued _ humbrella rfl, List.forall_mem_nil _⟩

lemma offers_command (command : Command) : ∀ e ∈ command.options, (levelOf command).Offers e := by
  cases command with
  | init force =>
    change ∀ e ∈ [flag "force" force], Level.init.Offers e
    exact List.forall_mem_singleton.mpr (.flag (o := .force) force (by decide) rfl (by decide) (by decide))
  | config => exact List.forall_mem_nil _
  | render inputs output json =>
    change ∀ e ∈ inputs.options ++ [valued "output" output, flag "json" json], Level.render.Offers e
    rw [List.forall_mem_append, List.forall_mem_cons, List.forall_mem_singleton]
    exact ⟨offers_inputs (by decide) inputs, .valued (o := .output) output (by decide) rfl,
      .flag (o := .json) json (by decide) rfl (by decide) (by decide)⟩
  | members symbol inputs json =>
    change ∀ e ∈ inputs.options ++ [flag "json" json], Level.members.Offers e
    rw [List.forall_mem_append, List.forall_mem_singleton]
    exact ⟨offers_inputs (by decide) inputs, .flag (o := .json) json (by decide) rfl (by decide) (by decide)⟩

lemma offers_options (call : Invocation) : ∀ e ∈ call.options, (levelOf call.command).Offers e :=
  List.forall_mem_append.mpr ⟨offers_globals _ call, offers_command call.command⟩

end Level

/-! ### Orders -/

lemma filter_eq_of_perm {α : Type} {p : α → Bool} {as bs : List α} (h : as.Perm bs) (hl : (bs.filter p).length ≤ 1) :
    as.filter p = bs.filter p := by
  have hf := h.filter p
  obtain ⟨cs, hc⟩ : ∃ cs, cs = bs.filter p := ⟨_, rfl⟩
  rw [← hc] at hf hl ⊢
  match cs, hl with
  | [], _ => exact List.perm_nil.mp hf
  | [b], _ => exact List.perm_singleton.mp hf

lemma length_valuesAt {name : String} (hn : name ≠ "primary") (call : Invocation) : (valuesAt name call.options).length ≤ 1 := by
  rw [valuesAt, List.length_map]
  cases hv : valueAt? name call.options with
  | none => exact Nat.zero_le 1
  | some values =>
    obtain ⟨e, he, rfl⟩ := Option.map_eq_some_iff.mp hv
    have hkey : e.1 = name := by simpa using List.find?_some he
    exact (Level.offers_options call e (List.mem_of_find?_eq_some he)).length (hkey ▸ hn)

lemma Single.of_append {as bs : List Argument} (h : Single (as ++ bs)) : Single as ∧ Single bs := by
  constructor
  all_goals
    intro o ho
    have hl := h o ho
    rw [valuesOf_append, List.length_append] at hl
    omega

section

variable {call : Invocation} {as : List Argument} (hp : as.Perm (arguments call.options))
  (hk : as.filter (·.name == "primary") = (arguments call.options).filter (·.name == "primary"))
include hp hk

lemma valuesOf_perm (name : String) : valuesOf name as = valuesAt name call.options := by
  rw [← valuesOf_arguments (nodup_options call)]
  by_cases hn : name = "primary"
  · rw [hn, valuesOf, valuesOf, hk]
  · -- Any other option is there at most once, and one argument has only one order.
    have hl := length_valuesAt hn call
    rw [← valuesOf_arguments (nodup_options call), valuesOf, List.length_map] at hl
    rw [valuesOf, valuesOf, filter_eq_of_perm hp hl]

lemma single_perm : Single as := by
  intro o ho
  rw [valuesOf_perm hp hk]
  apply length_valuesAt
  intro hn
  obtain rfl : o = .primary := Opt.longName_injective hn
  cases ho

end

/-! ### Reading -/

lemma valuesAt_valued {name : String} {options : Options} {value : Option String}
    (h : valueAt? name options = some (valued name value).2) : valuesAt name options = value.toList := by
  rw [valuesAt, h]
  cases value <;> rfl

lemma valuesAt_flag {name : String} {options : Options} {on : Bool}
    (h : valueAt? name options = some (flag name on).2) : valuesAt name options = if on then [""] else [] := by
  rw [valuesAt, h]
  cases on <;> rfl

section

variable {g : Given} {o : Opt} {options : Options} (h : g.values o = valuesAt o.longName options)
include h

lemma value?_of_valued {value : Option String} (hm : valueAt? o.longName options = some (valued o.longName value).2) :
    g.value? o = value := by
  rw [g.value?_eq, h, valuesAt_valued hm, Option.head?_toList]

lemma has_of_flag {on : Bool} (hm : valueAt? o.longName options = some (flag o.longName on).2) : g.has o = on := by
  rw [g.has_eq, h, valuesAt_flag hm]
  cases on <;> rfl

end

lemma inputsOf_eq {g : Given} {inputs : InputArguments} {rest : Options}
    (h : ∀ o : Opt, o ≠ .config → o ≠ .info → g.values o = valuesAt o.longName (inputs.options ++ rest)) :
    inputsOf g = inputs := by
  have hmodule : g.value? .module = inputs.module := value?_of_valued (h .module (by decide) (by decide)) rfl
  have hdir : g.value? .graphDir = inputs.graphDir := value?_of_valued (h .graphDir (by decide) (by decide)) rfl
  have hsecondary : g.value? .secondary = inputs.secondary :=
    value?_of_valued (h .secondary (by decide) (by decide)) rfl
  have humbrella : g.value? .umbrellaHeader = inputs.umbrellaHeader :=
    value?_of_valued (h .umbrellaHeader (by decide) (by decide)) rfl
  have hprimary : g.values .primary = inputs.primary := by
    rw [h .primary (by decide) (by decide)]
    change (inputs.primary.map some).map _ = _
    simp [Function.comp_def]
  rw [inputsOf, hmodule, hdir, hsecondary, humbrella, hprimary]

lemma commandOf_eq {command : Command} {g : Given}
    (hv : ∀ o : Opt, o ≠ .config → o ≠ .info → g.values o = valuesAt o.longName command.options)
    (hs : g.symbol = command.symbol?) : commandOf (levelOf command) g = .ok command := by
  cases command with
  | init force =>
    have hforce : g.has .force = force := has_of_flag (hv .force (by decide) (by decide)) rfl
    change Except.ok (Command.init (g.has .force)) = _
    rw [hforce]
  | config => rfl
  | render inputs output json =>
    have houtput : g.value? .output = output := value?_of_valued (hv .output (by decide) (by decide)) rfl
    have hjson : g.has .json = json := has_of_flag (hv .json (by decide) (by decide)) rfl
    change Except.ok (Command.render (inputsOf g) (g.value? .output) (g.has .json)) = _
    rw [inputsOf_eq hv, houtput, hjson]
  | members symbol inputs json =>
    have hjson : g.has .json = json := has_of_flag (hv .json (by decide) (by decide)) rfl
    rw [levelOf, commandOf, hs]
    change Except.ok (Command.members symbol (inputsOf g) (g.has .json)) = _
    rw [inputsOf_eq hv, hjson]

lemma readWords_positionals {command : Command} {g : Given} {as : List Argument} (hg : g.Holds as) :
    ∃ inner, readWords (levelOf command) g command.positionals = .ok inner ∧ inner.options = g.options ∧
      inner.symbol = command.symbol? := by
  obtain ⟨options, pending, symbol, trailing⟩ := g
  obtain rfl : pending = none := hg.pending
  obtain rfl : symbol = none := hg.symbol
  obtain rfl : trailing = false := hg.trailing
  cases command with
  | members symbol inputs json =>
    exact ⟨{ options, pending := none, symbol := some symbol, trailing := true }, rfl, rfl, rfl⟩
  | _ => exact ⟨_, rfl, rfl, rfl⟩

lemma readSubcommand_arguments {command : Command} {as : List Argument} (ht : ∀ a ∈ as, ∃ o, (levelOf command).Takes a o)
    (hs : Single as) (hv : ∀ o : Opt, o ≠ .config → o ≠ .info → valuesOf o.longName as = valuesAt o.longName command.options) :
    ∃ inner : Given, (∀ o, inner.values o = valuesOf o.longName as) ∧
      readSubcommand (levelOf command) (as.map Argument.word ++ command.positionals) = .ok (inner, command) := by
  obtain ⟨g, hg, hread⟩ := readWords_arguments ht hs command.positionals
  obtain ⟨inner, htail, hoptions, hsymbol⟩ := readWords_positionals hg
  have hvalues (o : Opt) : inner.values o = valuesOf o.longName as := by
    rw [Given.values, hoptions]
    exact hg.values o
  have hcommand := commandOf_eq (fun o hc hi => (hvalues o).trans (hv o hc hi)) hsymbol
  refine ⟨inner, hvalues, ?_⟩
  rw [readSubcommand, hread, htail, ok_bind, hcommand]
  rfl

lemma readRoot_name {g : Given} {as : List Argument} (hg : g.Holds as) (command : Command) (words : List String) :
    readRoot g (command.name :: words) =
      (readSubcommand (levelOf command) words >>= fun inner => pure (g, some inner)) := by
  have hwaiting : g.isWaiting = false := by rw [Given.isWaiting, hg.pending]
  have hsettle : g.settle = .ok g := by rw [Given.settle, hg.pending]
  have hhelp : command.name ≠ "help" := by cases command <;> simp [Command.name]
  rw [readRoot, hg.trailing, hwaiting, if_neg (by decide), if_neg hhelp, subcommand?_name, hsettle]
  rfl

/-! ### Both sides of the command's name -/

section

variable {outer inner : Given} {o : Opt}

lemma value?_sides {value : Option String} (h : outer.values o ++ inner.values o = value.toList) :
    (inner.value? o <|> outer.value? o) = value := by
  rw [Given.value?_eq, Given.value?_eq]
  cases value with
  | none =>
    obtain ⟨ho, hi⟩ := List.append_eq_nil_iff.mp h
    rw [ho, hi]
    rfl
  | some v =>
    obtain ⟨ho, hi⟩ | ⟨ho, hi⟩ := List.append_eq_singleton_iff.mp h
    · rw [ho, hi]
      rfl
    · rw [ho, hi]
      rfl

lemma has_sides {on : Bool} (h : outer.values o ++ inner.values o = if on then [""] else []) :
    (inner.has o || outer.has o) = on := by
  have hboth : (inner.has o || outer.has o) = !(outer.values o ++ inner.values o).isEmpty := by
    rw [Given.has_eq, Given.has_eq]
    cases outer.values o <;> cases inner.values o <;> rfl
  rw [hboth, h]
  cases on <;> rfl

end

section

variable {call : Invocation} {o : Opt} (hc : o ≠ .config) (hi : o ≠ .info)
include hc hi

lemma globals_ne : ∀ e ∈ call.globals, e.1 ≠ o.longName := by
  rw [Invocation.globals, List.forall_mem_cons, List.forall_mem_singleton]
  constructor
  · exact fun h => hc (Opt.longName_injective h.symm : o = .config)
  · exact fun h => hi (Opt.longName_injective h.symm : o = .info)

lemma valuesAt_command : valuesAt o.longName call.options = valuesAt o.longName call.command.options := by
  rw [valuesAt, valuesAt, Invocation.options, valueAt?_append, valueAt?_eq_none (globals_ne hc hi), Option.none_or]

lemma valuesOf_front {front : List Argument} (hf : ∀ a ∈ front, a ∈ arguments call.globals) :
    valuesOf o.longName front = [] := by
  rw [valuesOf, List.map_eq_nil_iff, List.filter_eq_nil_iff]
  intro a ha hn
  obtain ⟨e, he, hae⟩ := List.mem_flatMap.mp (hf a ha)
  obtain ⟨v, -, rfl⟩ := List.mem_map.mp hae
  exact globals_ne hc hi e he (beq_iff_eq.mp hn)

end

/-- However a command line spells an invocation, it is read as that one. -/
theorem parse_spelled {call : Invocation} {words : List String} (h : Spells call words)
    (hn : ∀ a ∈ arguments call.options, a.value ≠ some "") : parse words = .ok call := by
  obtain @⟨front, back, hp, hk, hf⟩ := h
  have hvalues (o : Opt) : valuesOf o.longName front ++ valuesOf o.longName back = valuesAt o.longName call.options := by
    rw [← valuesOf_append]
    exact valuesOf_perm hp hk _
  obtain ⟨hsfront, hsback⟩ := (single_perm hp hk).of_append
  have hglobal : ∀ a ∈ front, ∃ o, Level.root.Takes a o := fun a ha =>
    Level.takes_arguments (Level.offers_globals .root call) (hf a ha)
      (hn a (hp.subset (List.mem_append_left _ ha)))
  have hlocal : ∀ a ∈ back, ∃ o, (levelOf call.command).Takes a o := fun a ha =>
    have hmem := hp.subset (List.mem_append_right _ ha)
    Level.takes_arguments (Level.offers_options call) hmem (hn a hmem)
  -- Only global options stand in front, so the subcommand finds all of its own.
  have hback (o : Opt) (hc : o ≠ .config) (hi : o ≠ .info) :
      valuesOf o.longName back = valuesAt o.longName call.command.options := by
    rw [← valuesAt_command hc hi, ← hvalues, valuesOf_front hc hi hf, List.nil_append]
  obtain ⟨outer, houter, hroot⟩ := readRoot_arguments hglobal hsfront
    (call.command.name :: (back.map Argument.word ++ call.command.positionals))
  obtain ⟨inner, hinner, hsub⟩ := readSubcommand_arguments hlocal hsback hback
  -- A global option is on one side only, whichever that is.
  have hsides (o : Opt) : outer.values o ++ inner.values o = valuesAt o.longName call.options := by
    rw [houter.values, hinner, hvalues]
  have hconfig : (inner.value? .config <|> outer.value? .config) = call.config :=
    value?_sides ((hsides .config).trans (valuesAt_valued rfl))
  have hinfo : (inner.has .info || outer.has .info) = call.info :=
    has_sides ((hsides .info).trans (valuesAt_flag rfl))
  rw [parse, hroot, readRoot_name houter, hsub, ok_bind]
  change Except.ok (Invocation.mk _ _ _) = _
  rw [hconfig, hinfo]

def membersCall : Invocation where
  config := some "--info"
  info := true
  command := .members "--json" { module := some "render", primary := ["b=1", "a"] } true

def membersWords : List String :=
  ["--config=--info", "members", "--primary=b=1", "--json", "--info", "--primary=a", "--module=render", "--", "--json"]

theorem parse_spelled_interleaved : Spells membersCall membersWords ∧ parse membersWords = .ok membersCall := by
  have h : Spells membersCall ([⟨"config", some "--info"⟩].map Argument.word ++ "members" ::
      ([⟨"primary", some "b=1"⟩, ⟨"json", none⟩, ⟨"info", none⟩, ⟨"primary", some "a"⟩, ⟨"module", some "render"⟩].map
        Argument.word ++ ["--", "--json"])) :=
    .words (by decide) (by decide) (by decide)
  have hwords : Spells membersCall membersWords := h
  exact ⟨hwords, parse_spelled hwords (by decide)⟩

end CommandLine

end ApiReference
