import JavaStubs.CommandLine.Program
import JavaStubs.Proofs.Outcome
import JavaStubs.Proofs.Text.Layout
import Mathlib.Data.List.Induction
import Mathlib.Data.Set.List

/-!
# Documented command lines

A documented line has options with their values first, then perhaps `-jar`, then arguments without a
dash. Normalising and reading have to agree on where the value of an option ends. They do on every
such line, so that the flag is found and each value belongs to its option.
-/

namespace JavaStubs

namespace OsText

theorem toChars?_eq_some {t : OsText} {s : List Char} (h : toChars? t = some s) : t = ofChars s := by
  induction t generalizing s with
  | nil =>
    cases h
    rfl
  | cons g rest ih =>
    cases g with
    | stray => cases h
    | char c =>
      obtain ⟨later, isText, rfl⟩ := Option.map_eq_some_iff.mp h
      exact congrArg (_ :: ·) (ih isText)

theorem toString?_eq_some {t : OsText} {s : String} (h : toString? t = some s) : t = ofString s := by
  obtain ⟨chars, isText, rfl⟩ := Option.map_eq_some_iff.mp h
  rw [toChars?_eq_some isText, ofString, String.toList_ofList]

end OsText

namespace CommandLine

open Text

def IsDashed (arg : OsText) : Prop := arg.head? = some (.char '-')

instance (arg : OsText) : Decidable (IsDashed arg) := inferInstanceAs (Decidable (_ = _))

/-! ## Options on a line -/

/-- An option with its value, which is an argument of its own or attached by an equals sign. -/
structure GivenOption where
  option : ValueOption
  value : OsText
  isAttached : Bool
  nonempty : value ≠ []
  notDashed : isAttached = false → ¬ IsDashed value

namespace GivenOption

def flag (g : GivenOption) : OsText :=
  .ofString <| match g.option with
    | .catalog => "--catalog"
    | .classpath => "--classpath"
    | .javac => "--javac"
    | .scratchDir => "--scratch-dir"

def arguments (g : GivenOption) : List OsText :=
  if g.isAttached then [g.flag ++ .char '=' :: g.value] else [g.flag, g.value]

/-- The values that were given to an option, in order. -/
def valuesOf (given : List GivenOption) (o : ValueOption) : List OsText :=
  (given.filter fun g => g.option = o).map value

def Once (given : List GivenOption) : Prop := ∀ o ≠ .catalog, (valuesOf given o).length ≤ 1

def optionsOf (given : List GivenOption) : Options where
  catalogs := (valuesOf given .catalog).map Path.mk
  classpath := (valuesOf given .classpath).head?
  javac := (valuesOf given .javac).head?.map Path.mk
  scratchDir := (valuesOf given .scratchDir).head?.map Path.mk

theorem flag_eq_word (g : GivenOption) : g.flag = OsText.ofString ("--" ++ g.option.word) := by
  unfold flag
  cases g.option <;> rfl

variable {given : List GivenOption} {g : GivenOption}

theorem valuesOf_append (o : ValueOption) :
    valuesOf (given ++ [g]) o = valuesOf given o ++ if g.option = o then [g.value] else [] := by
  by_cases same : g.option = o <;> simp [valuesOf, same]

theorem Once.init (h : Once (given ++ [g])) : Once given := by
  intro o single
  have atMost := h o single
  rw [valuesOf_append, List.length_append] at atMost
  omega

theorem Once.valuesOf_last (h : Once (given ++ [g])) (single : g.option ≠ .catalog) :
    valuesOf given g.option = [] := by
  have atMost := h _ single
  rw [valuesOf_append, if_pos rfl, List.length_append, List.length_singleton] at atMost
  exact List.eq_nil_of_length_eq_zero (by omega)

/-- One more option adds its value to what the options before it say. -/
theorem set_optionsOf (h : Once (given ++ [g])) :
    (optionsOf given).set g.option g.value = .ok (optionsOf (given ++ [g])) := by
  have last := h.valuesOf_last
  have nonempty := g.nonempty
  cases isOption : g.option with
  | catalog =>
    simp [Options.set, Options.mayRepeat, optionsOf, valuesOf_append, isOption, nonempty]
  | classpath | javac | scratchDir =>
    have free := last (by rw [isOption]; decide)
    rw [isOption] at free
    simp [Options.set, Options.has, optionsOf, valuesOf_append, isOption, nonempty, free]

end GivenOption

/-! ## Words of options -/

section Words

variable (o : ValueOption)

theorem ofWord?_word : ValueOption.ofWord? (OsText.ofString o.word) = some o := by
  cases o <;> decide

theorem ofString_word_ne_nil : OsText.ofString o.word ≠ [] := by
  cases o <;> decide

theorem equal_not_mem_word : Glyph.char '=' ∉ OsText.ofString o.word := by
  cases o <;> decide

theorem flag_eq :
    OsText.ofString ("--" ++ o.word) = .char '-' :: .char '-' :: OsText.ofString o.word := by
  rw [OsText.ofString_append]
  rfl

theorem isValueOption_flag : isValueOption (OsText.ofString ("--" ++ o.word)) := by
  cases o <;> decide

end Words

theorem not_isValueOption {arg : OsText} (equal : .char '=' ∈ arg) : ¬ isValueOption arg := by
  intro isOption
  obtain ⟨o, -, same⟩ := List.any_eq_true.mp isOption
  rw [decide_eq_true_eq.mp same, flag_eq] at equal
  simp [equal_not_mem_word o] at equal

/-! ## Normalising -/

section Normalize

variable {arg : OsText} {rest : List OsText}

theorem formOf_of_not_dashed (h : ¬ IsDashed arg) : formOf arg = .plain := by
  match arg with
  | [] => rfl
  | [_] => rfl
  | a :: b :: rest =>
    have first : a ≠ .char '-' := fun dash => h (congrArg some dash)
    simp [formOf, isDash, first]

theorem normalize_of_not_dashed (h : ¬ IsDashed arg) : normalize (arg :: rest) = arg :: rest := by
  have notJar : arg ≠ OsText.ofString "-jar" := by
    rintro rfl
    exact h rfl
  have stops : !(arg.head?.map isDash).getD false := by
    cases arg with
    | nil => rfl
    | cons a arg =>
      have first : a ≠ .char '-' := fun dash => h (congrArg some dash)
      simp [isDash, first]
  rw [normalize.eq_def]
  simp only
  rw [if_neg notJar, if_pos (.inr stops)]

theorem normalize_positional {args : List OsText} (h : ∀ arg ∈ args, ¬ IsDashed arg) :
    normalize args = args := by
  cases args with
  | nil => rfl
  | cons arg rest => exact normalize_of_not_dashed (h arg List.mem_cons_self)

theorem normalize_jar :
    normalize (OsText.ofString "-jar" :: rest) = OsText.ofString "--jar" :: rest := by
  rw [normalize.eq_def]
  simp only
  rw [if_pos trivial]

/-- An argument with two dashes and more behind them is kept, and so is its value if it has one. -/
theorem normalize_long {name : OsText} (nonempty : name ≠ []) :
    normalize ((.char '-' :: .char '-' :: name) :: rest) =
      if isValueOption (.char '-' :: .char '-' :: name) then
        match rest with
        | [] => [.char '-' :: .char '-' :: name]
        | value :: rest => (.char '-' :: .char '-' :: name) :: value :: normalize rest
      else (.char '-' :: .char '-' :: name) :: normalize rest := by
  have notJar : Glyph.char '-' :: .char '-' :: name ≠ OsText.ofString "-jar" := by
    intro same
    injection same with _ same
    injection same with same
    cases same
  have goesOn : ¬ (Glyph.char '-' :: .char '-' :: name = OsText.ofString "--" ∨
      !((Glyph.char '-' :: .char '-' :: name).head?.map isDash).getD false) := by
    rintro (same | stops)
    · injection same with _ same
      injection same with _ same
      exact nonempty same
    · cases stops
  rw [normalize.eq_def]
  exact (if_neg notJar).trans (if_neg goesOn)

theorem GivenOption.normalize_arguments (g : GivenOption) :
    normalize (g.arguments ++ rest) = g.arguments ++ normalize rest := by
  unfold arguments
  rw [flag_eq_word, flag_eq]
  split
  case isTrue =>
    rw [List.singleton_append, List.cons_append, List.cons_append, normalize_long (by simp),
      if_neg (not_isValueOption (by simp))]
    rfl
  case isFalse =>
    have isFlag := isValueOption_flag g.option
    rw [flag_eq] at isFlag
    rw [List.cons_append, normalize_long (ofString_word_ne_nil _), if_pos isFlag]
    rfl

theorem normalize_given (given : List GivenOption) :
    normalize (given.flatMap GivenOption.arguments ++ rest) =
      given.flatMap GivenOption.arguments ++ normalize rest := by
  induction given with
  | nil => rfl
  | cons g given ih =>
    rw [List.flatMap_cons, List.append_assoc, g.normalize_arguments, ih, List.append_assoc]

end Normalize

/-! ## Reading -/

namespace Reading

/-- A reading that has come to some options: a value may still have to be taken into them, but
nothing else is awaited. -/
structure StandsFor (r : Reading) (opts : Options) : Prop where
  settle : r.settle = .ok opts
  goesOn : r.onlyArgs = false
  complete : r.pending = .nothing ∨ ∃ o value, r.pending = .option o (some value)

theorem start_standsFor : start.StandsFor {} := ⟨rfl, rfl, .inl rfl⟩

variable {r : Reading} {opts later : Options}

theorem StandsFor.settled (h : r.StandsFor opts) :
    r.settled = .ok { r with options := opts, pending := .nothing } := by
  rw [Reading.settled, h.settle]
  rfl

theorem formOf_flag (o : ValueOption) :
    formOf (OsText.ofString ("--" ++ o.word)) = .long (OsText.ofString o.word) none := by
  cases o <;> decide

theorem formOf_attached (o : ValueOption) (value : OsText) :
    formOf (OsText.ofString ("--" ++ o.word) ++ .char '=' :: value) =
      .long (OsText.ofString o.word) (some value) := by
  rw [flag_eq, List.cons_append, List.cons_append, formOf, if_neg (by decide), if_neg (by decide),
    if_neg (by simp), cut?_append (equal_not_mem_word o)]

theorem StandsFor.step_long (h : r.StandsFor opts) {arg name : OsText} {value : Option OsText}
    (form : formOf arg = .long name value) : step r arg = r.long name value := by
  rw [step, h.goesOn, form, if_neg Bool.false_ne_true]

/-- An option is read as what setting it makes of the options so far. -/
theorem StandsFor.option (h : r.StandsFor opts) {g : GivenOption}
    (set : opts.set g.option g.value = .ok later) :
    ∃ next, g.arguments.foldlM step r = .ok next ∧ next.StandsFor later := by
  unfold GivenOption.arguments
  rw [GivenOption.flag_eq_word]
  split
  case isTrue =>
    refine ⟨{ r with options := later, pending := .nothing }, ?_, rfl, h.goesOn, .inl rfl⟩
    rw [List.foldlM_cons, h.step_long (formOf_attached _ _)]
    simp only [long, ofWord?_word, h.settled, Outcome.ok_bind, set, orStop]
    rfl
  case isFalse separate =>
    have plain := formOf_of_not_dashed (g.notDashed (by simpa using separate))
    -- The value is read but not taken into the options yet; `settle` does that.
    refine ⟨{ r with options := opts, pending := .option g.option (some g.value) }, ?_, ?_,
      h.goesOn, .inr ⟨_, _, rfl⟩⟩
    · rw [List.foldlM_cons, h.step_long (formOf_flag _)]
      simp only [long, ofWord?_word, h.settled, Outcome.ok_bind]
      simp [step, plain, h.goesOn]
    · simp only [Reading.settle, set, orStop]

/-- Options are read as what they say, where only catalogs are given more than once. -/
theorem standsFor_of_given {given : List GivenOption} (once : GivenOption.Once given) :
    ∃ r, (given.flatMap GivenOption.arguments).foldlM step start = .ok r ∧
      r.StandsFor (GivenOption.optionsOf given) := by
  -- From the end, since setting the last option depends on what was given before it.
  induction given using List.reverseRecOn with
  | nil => exact ⟨start, rfl, start_standsFor⟩
  | append_singleton given g ih =>
    obtain ⟨r, read, stands⟩ := ih once.init
    obtain ⟨next, readNext, standsNext⟩ := stands.option (GivenOption.set_optionsOf once)
    refine ⟨next, ?_, standsNext⟩
    rw [List.flatMap_append, List.foldlM_append, read, List.flatMap_singleton]
    exact readNext

theorem StandsFor.step_jar (h : r.StandsFor opts) (free : opts.jar = false) :
    step r (OsText.ofString "--jar") =
      .ok { r with options := { opts with jar := true }, pending := .nothing } := by
  have form : formOf (OsText.ofString "--jar") = .long (OsText.ofString "jar") none := by decide
  have noValue : ValueOption.ofWord? (OsText.ofString "jar") = none := by decide
  rw [h.step_long form]
  simp only [long, noValue, flag, h.settled, Outcome.ok_bind, setJar, free]
  rfl

theorem StandsFor.jar (h : r.StandsFor opts) (free : opts.jar = false) (hasJar : Bool) :
    ∃ next, (if hasJar then [OsText.ofString "--jar"] else []).foldlM step r = .ok next ∧
      next.StandsFor { opts with jar := hasJar } := by
  cases hasJar with
  | false =>
    have same : { opts with jar := false } = opts := by rw [← free]
    exact ⟨r, rfl, same ▸ h⟩
  | true =>
    refine ⟨{ r with options := { opts with jar := true }, pending := .nothing }, ?_, rfl, h.goesOn,
      .inl rfl⟩
    rw [if_pos rfl, List.foldlM_cons, h.step_jar free]
    rfl

theorem foldlM_positional {args : List OsText} (notDashed : ∀ arg ∈ args, ¬ IsDashed arg)
    (values : List OsText) :
    args.foldlM step ⟨opts, .args values, false⟩ = .ok ⟨opts, .args (values ++ args), false⟩ := by
  induction args generalizing values with
  | nil => simp [pure, Except.pure]
  | cons arg rest ih =>
    obtain ⟨first, others⟩ := List.forall_mem_cons.mp notDashed
    have next : step ⟨opts, .args values, false⟩ arg = .ok ⟨opts, .args (values ++ [arg]), false⟩ := by
      simp [step, formOf_of_not_dashed first, positional]
    rw [List.foldlM_cons, next, Outcome.ok_bind, ih others, List.append_assoc,
      List.singleton_append]

theorem StandsFor.positional (h : r.StandsFor opts) {args : List OsText}
    (notDashed : ∀ arg ∈ args, ¬ IsDashed arg) :
    (args.foldlM step r >>= Reading.settle) = orStop (args.foldlM Options.addArg opts) := by
  cases args with
  | nil => exact h.settle
  | cons arg rest =>
    obtain ⟨first, others⟩ := List.forall_mem_cons.mp notDashed
    have next : step r arg = .ok ⟨opts, .args [arg], false⟩ := by
      rw [step, h.goesOn, formOf_of_not_dashed first]
      obtain none | ⟨o, value, some⟩ := h.complete
      · simp [none, Reading.positional, h.settled, h.goesOn]
      · simp [some, Reading.positional, h.settled, h.goesOn]
    rw [List.foldlM_cons, next, Outcome.ok_bind, foldlM_positional others, Outcome.ok_bind]
    rfl

end Reading

/-! ## Completing and invoking -/

namespace Options

variable {opts : Options}

theorem foldlM_addArg (texts : List String) :
    (texts.map OsText.ofString).foldlM addArg opts = .ok { opts with args := opts.args ++ texts } := by
  induction texts generalizing opts with
  | nil => simp [pure, Except.pure]
  | cons text rest ih =>
    have first : opts.addArg (OsText.ofString text) = .ok { opts with args := opts.args ++ [text] } := by
      rw [addArg, OsText.toString?_ofString]
    rw [List.map_cons, List.foldlM_cons, first, Outcome.ok_bind, ih, List.append_assoc,
      List.singleton_append]

theorem foldlM_addArg_eq_error {args : List OsText} {arg : OsText} (mem : arg ∈ args)
    (stray : OsText.toString? arg = none) : args.foldlM addArg opts = .error .notText := by
  induction args generalizing opts with
  | nil => cases mem
  | cons first rest ih =>
    rw [List.foldlM_cons, Outcome.bind_eq_error_iff, addArg]
    cases isText : OsText.toString? first with
    | none => exact .inl rfl
    | some text =>
      refine .inr ⟨_, rfl, ih ?_⟩
      obtain rfl | later := List.mem_cons.mp mem
      · cases stray.symm.trans isText
      · exact later

/-- No variable stands in for an option. -/
def NoFallbacks (env : Environment) : Prop :=
  ∀ (o : ValueOption) (name : String), o.variableName? = some name → env.get? name = none

theorem setFromEnvironment_of_noFallbacks {env : Environment} (unset : NoFallbacks env)
    (o : ValueOption) : setFromEnvironment env opts o = .ok opts := by
  have none : o.variableName?.bind env.get? = none := Option.bind_eq_none_iff.mpr (unset o)
  rw [setFromEnvironment, none]

theorem complete_of_noFallbacks {env : Environment} (unset : NoFallbacks env) :
    ValueOption.all.foldlM (setFromEnvironment env) opts = .ok opts := by
  simp [ValueOption.all, setFromEnvironment_of_noFallbacks unset, Outcome.ok_bind, pure, Except.pure]

theorem invocation_of_pair {typeName output : String} (pair : opts.args = [typeName, output]) :
    opts.invocation = .ok (if opts.jar then .archive typeName (Path.ofString output)
      else .source typeName (Path.ofString output)) := by
  cases jar : opts.jar <;> simp [invocation, pair, jar]

theorem invocation_of_count (other : opts.args.length ≠ 2) :
    ∃ message, opts.invocation = .error (.argument message) := by
  unfold invocation
  generalize opts.args.length + (if opts.jar then 1 else 0) = total
  simp only
  split
  case isTrue => exact ⟨_, rfl⟩
  split
  case isTrue => exact ⟨_, rfl⟩
  split
  case h_1 pair | h_2 pair =>
    rw [pair] at other
    exact absurd rfl other
  case h_3 | h_4 => exact ⟨_, rfl⟩

end Options

/-! ## Lines -/

structure DocumentedLine where
  given : List GivenOption
  once : GivenOption.Once given
  hasJar : Bool
  positional : List OsText
  notDashed : ∀ arg ∈ positional, ¬ IsDashed arg

namespace DocumentedLine

variable (line : DocumentedLine)

def arguments : List OsText :=
  line.given.flatMap GivenOption.arguments
    ++ ((if line.hasJar then [OsText.ofString "-jar"] else []) ++ line.positional)

/-- What the line says, with its positional arguments as texts. -/
def options (args : List String) : Options :=
  { GivenOption.optionsOf line.given with jar := line.hasJar, args }

theorem normalize_arguments :
    normalize line.arguments = line.given.flatMap GivenOption.arguments
      ++ ((if line.hasJar then [OsText.ofString "--jar"] else []) ++ line.positional) := by
  rw [arguments, normalize_given]
  congr 1
  cases line.hasJar with
  | false => exact normalize_positional line.notDashed
  | true => exact normalize_jar

/-- The options and the flag are read as what they say, and the positional arguments are left. -/
theorem parse_arguments {env : Environment} (unset : Options.NoFallbacks env) :
    parse env (normalize line.arguments) =
      orStop (line.positional.foldlM Options.addArg (line.options [])) := by
  obtain ⟨r, read, stands⟩ := Reading.standsFor_of_given line.once
  obtain ⟨next, readNext, standsNext⟩ := stands.jar rfl line.hasJar
  have settle : (line.positional.foldlM Reading.step next >>= Reading.settle) =
      orStop (line.positional.foldlM Options.addArg (line.options [])) :=
    standsNext.positional line.notDashed
  rw [parse, normalize_arguments, List.foldlM_append, read, Outcome.ok_bind, List.foldlM_append,
    readNext, Outcome.ok_bind, ← bind_assoc, settle]
  cases line.positional.foldlM Options.addArg (line.options []) with
  | error => rfl
  | ok opts => simp only [orStop, Outcome.ok_bind, Options.complete_of_noFallbacks unset]

end DocumentedLine

/-! ## What a line asks for -/

/-- Arguments are read as options that ask for an invocation. -/
def AsksFor (env : Environment) (args : List OsText) (opts : Options) (invocation : Invocation) :
    Prop :=
  parse env (normalize args) = .ok opts ∧ opts.invocation = .ok invocation

namespace DocumentedLine

variable {env : Environment} (line : DocumentedLine) {opts : Options} {asked : Invocation}

/-- The invocation that two positional arguments stand for. -/
def invocation (typeName output : String) : Invocation :=
  if line.hasJar then .archive typeName (Path.ofString output)
  else .source typeName (Path.ofString output)

theorem parse_texts (unset : Options.NoFallbacks env) {texts : List String}
    (isText : line.positional = texts.map OsText.ofString) :
    parse env (normalize line.arguments) = .ok (line.options texts) := by
  rw [line.parse_arguments unset, isText, Options.foldlM_addArg]
  rfl

theorem invocation_options (typeName output : String) :
    (line.options [typeName, output]).invocation = .ok (line.invocation typeName output) :=
  Options.invocation_of_pair rfl

theorem source_eq_invocation_iff {typeName other output : String} {dir : Path} :
    .source typeName dir = line.invocation other output ↔
      line.hasJar = false ∧ typeName = other ∧ dir = Path.ofString output := by
  cases jar : line.hasJar <;> simp [invocation, jar]

theorem archive_eq_invocation_iff {typeName other output : String} {file : Path} :
    .archive typeName file = line.invocation other output ↔
      line.hasJar = true ∧ typeName = other ∧ file = Path.ofString output := by
  cases jar : line.hasJar <;> simp [invocation, jar]

theorem invocation_of_count {args : List String} (other : args.length ≠ 2) :
    ∃ message, (line.options args).invocation = .error (.argument message) :=
  Options.invocation_of_count other

theorem texts_or_notText (unset : Options.NoFallbacks env) :
    (∃ texts : List String, line.positional = texts.map OsText.ofString) ∨
      parse env (normalize line.arguments) = .error (.fault .notText) := by
  by_cases stray : ∃ arg ∈ line.positional, OsText.toString? arg = none
  case pos =>
    obtain ⟨arg, mem, none⟩ := stray
    rw [line.parse_arguments unset, Options.foldlM_addArg_eq_error mem none]
    exact .inr rfl
  case neg =>
    left
    have all : line.positional ∈ Set.range (List.map OsText.ofString) := by
      rw [Set.range_list_map]
      intro arg mem
      cases isText : OsText.toString? arg with
      | none => exact absurd ⟨arg, mem, isText⟩ stray
      | some text => exact ⟨text, (OsText.toString?_eq_some isText).symm⟩
    obtain ⟨texts, same⟩ := all
    exact ⟨texts, same.symm⟩

theorem asksFor_iff (unset : Options.NoFallbacks env) :
    AsksFor env line.arguments opts asked ↔ ∃ typeName output,
      line.positional = [OsText.ofString typeName, OsText.ofString output] ∧
        opts = line.options [typeName, output] ∧ asked = line.invocation typeName output := by
  constructor
  · rintro ⟨read, invoked⟩
    obtain ⟨texts, isText⟩ | refused := line.texts_or_notText unset
    · obtain rfl := Except.ok.inj ((line.parse_texts unset isText).symm.trans read)
      by_cases two : texts.length = 2
      · obtain ⟨typeName, output, rfl⟩ := List.length_eq_two.mp two
        rw [invocation_options] at invoked
        exact ⟨typeName, output, isText, rfl, (Except.ok.inj invoked).symm⟩
      · obtain ⟨message, refused⟩ := line.invocation_of_count two
        rw [refused] at invoked
        cases invoked
    · rw [refused] at read
      cases read
  · rintro ⟨typeName, output, isText, rfl, rfl⟩
    exact ⟨line.parse_texts unset isText, line.invocation_options typeName output⟩

/-- Whatever else stands on the line is refused before anything is done. -/
theorem perform_of_no_pair (unset : Options.NoFallbacks env)
    (noPair : ∀ typeName output,
      line.positional ≠ [OsText.ofString typeName, OsText.ofString output]) :
    ∃ message, perform env line.arguments = Action.fail (.argument message) := by
  obtain ⟨texts, isText⟩ | refused := line.texts_or_notText unset
  · have other : texts.length ≠ 2 := by
      intro two
      obtain ⟨typeName, output, rfl⟩ := List.length_eq_two.mp two
      exact noPair typeName output isText
    obtain ⟨message, refused⟩ := line.invocation_of_count other
    refine ⟨message, ?_⟩
    simp only [perform, line.parse_texts unset isText, refused]
    rfl
  · exact ⟨_, by rw [perform, refused]⟩

/-- How a line is read: as the source of a type without the flag, as an archive with it, each with
the options as they were given, and only with two positional arguments. -/
structure ReadAsDocumented (env : Environment) : Prop where
  source {opts : Options} {typeName : String} {dir : Path} :
    AsksFor env line.arguments opts (.source typeName dir) ↔
      line.hasJar = false ∧ ∃ output, dir = Path.ofString output ∧
        line.positional = [OsText.ofString typeName, OsText.ofString output] ∧
        opts = line.options [typeName, output]
  archive {opts : Options} {typeName : String} {file : Path} :
    AsksFor env line.arguments opts (.archive typeName file) ↔
      line.hasJar = true ∧ ∃ output, file = Path.ofString output ∧
        line.positional = [OsText.ofString typeName, OsText.ofString output] ∧
        opts = line.options [typeName, output]
  refused :
    (¬ ∃ typeName output,
        line.positional = [OsText.ofString typeName, OsText.ofString output]) →
      ∃ message, perform env line.arguments = Action.fail (.argument message)

/-- Every documented line is read as documented where no variable stands in for an option. -/
theorem readAsDocumented (unset : Options.NoFallbacks env) : line.ReadAsDocumented env where
  source := by
    intro opts typeName dir
    simp only [line.asksFor_iff unset, source_eq_invocation_iff]
    constructor
    · rintro ⟨_, output, pair, rfl, noJar, rfl, rfl⟩
      exact ⟨noJar, output, rfl, pair, rfl⟩
    · rintro ⟨noJar, output, rfl, pair, rfl⟩
      exact ⟨typeName, output, pair, rfl, noJar, rfl, rfl⟩
  archive := by
    intro opts typeName file
    simp only [line.asksFor_iff unset, archive_eq_invocation_iff]
    constructor
    · rintro ⟨_, output, pair, rfl, jar, rfl, rfl⟩
      exact ⟨jar, output, rfl, pair, rfl⟩
    · rintro ⟨jar, output, rfl, pair, rfl⟩
      exact ⟨typeName, output, pair, rfl, jar, rfl, rfl⟩
  refused noPair := line.perform_of_no_pair unset (by simpa using noPair)

/-- A line with a value of its own, an attached value and the flag. -/
def archiveLine : DocumentedLine where
  given :=
    [⟨.catalog, OsText.ofString "a.yaml", false, by decide, fun _ => by decide⟩,
      ⟨.javac, OsText.ofString "/opt/javac", true, by decide, nofun⟩]
  once := by
    intro o
    cases o <;> decide
  hasJar := true
  positional := [OsText.ofString "a.B", OsText.ofString "b.jar"]
  notDashed := by decide

theorem archiveLine_readAsDocumented :
    Options.NoFallbacks .empty ∧
      archiveLine.arguments =
        ["--catalog", "a.yaml", "--javac=/opt/javac", "-jar", "a.B", "b.jar"].map OsText.ofString ∧
      AsksFor .empty archiveLine.arguments
        { jar := true
          catalogs := [Path.ofString "a.yaml"]
          javac := some (Path.ofString "/opt/javac")
          args := ["a.B", "b.jar"] }
        (.archive "a.B" (Path.ofString "b.jar")) :=
  ⟨fun _ _ _ => rfl, by decide, (readAsDocumented archiveLine fun _ _ _ => rfl).archive.mpr
    ⟨rfl, "b.jar", rfl, rfl, rfl⟩⟩

end DocumentedLine

end CommandLine
end JavaStubs
