/-
  Proofs/Command/Arguments.lean --- which command lines are runs, and what they ask for.

  A command line that is a run says settings one after the other: options with
  their values, in one argument or in two, and the flag.  It is one exactly if no
  setting is repeated, paths are not empty, and a schema and somewhere to put the
  texts are given; what it asks for is read off its settings
  (`ofArguments_eq_run_iff`).
-/
import Mathlib.Data.List.Nodup
import Mathlib.Data.List.TakeWhile
import TypeProjection.Command.Options

set_option autoImplicit false

namespace TypeProjection.Command

open Projection (defaultSubnamespace)

variable {draft draft' : Draft} {options : Options} {arguments rest : List String}

/-! ## Settings -/

/-- What one option, or the flag, on a command line says. -/
inductive Setting where
  /-- an option has a value -/
  | value (option : ValueOption) (text : String)
  /-- the texts are only shown -/
  | dryRun
  deriving DecidableEq, Repr

/-- The arguments that say a setting. -/
inductive Setting.Spelled : Setting → List String → Prop where
  /-- the option, then its value -/
  | apart {option : ValueOption} {text : String} (h : canBeValue text = true) :
    Spelled (.value option text) [option.flag, text]
  /-- the option with its value assigned to it -/
  | assigned (option : ValueOption) (text : String) :
    Spelled (.value option text) [option.flag ++ "=" ++ text]
  /-- the flag -/
  | dryRun : Spelled .dryRun ["--dry-run"]

/-- Arguments that say settings one after the other. -/
inductive Says : List Setting → List String → Prop where
  /-- nothing is left -/
  | nil : Says [] []
  /-- nothing is behind the mark that ends options -/
  | endMark : Says [] ["--"]
  /-- one setting, then the others -/
  | cons {setting : Setting} {settings : List Setting} {arguments rest : List String}
    (h : setting.Spelled arguments) (hrest : Says settings rest) :
    Says (setting :: settings) (arguments ++ rest)

/-- The value that settings give to an option. -/
def valueIn (option : ValueOption) : List Setting → Option String
  | [] => none
  | .value option' text :: settings =>
    if option' = option then some text else valueIn option settings
  | .dryRun :: settings => valueIn option settings

/-- What a setting is about: an option, or the flag. -/
def Setting.subject : Setting → Option ValueOption
  | .value option _ => some option
  | .dryRun => none

/-- A value that an option can have: a path is not empty. -/
def Setting.Usable : Setting → Prop
  | .value option text => option.isPath = true → text ≠ ""
  | .dryRun => True

/-- Settings that can be given together. -/
structure Givable (settings : List Setting) : Prop where
  /-- No two are about the same. -/
  distinct : (settings.map Setting.subject).Nodup
  /-- All values can be used. -/
  usable : ∀ setting ∈ settings, setting.Usable

/-- What options with given values, with the flag or without it, ask for. -/
structure Asks (given : ValueOption → Option String) (dryRun : Bool) (options : Options) :
    Prop where
  /-- The schema is given. -/
  schema : given .schema = some options.schema
  /-- The overrides may be given. -/
  overrides : given .overrides = options.overrides
  /-- The texts are shown, or a directory for them is given. -/
  placed : dryRun = true ∨ (given .outDir).isSome = true
  /-- With the flag the directory does not count. -/
  destination : options.destination = if dryRun then none else given .outDir
  /-- The stem is the usual one unless another one is given. -/
  stem : options.stem = (given .stem).getD defaultStem
  /-- What can be chosen about the texts is the usual unless something else is given. -/
  config : options.config =
    { style := ⟨(given .lead).getD defaultLead⟩
      subnamespace := (given .subnamespace).getD defaultSubnamespace }

theorem valueIn_eq_some_iff {settings : List Setting} (h : (settings.map Setting.subject).Nodup)
    {option : ValueOption} {text : String} :
    valueIn option settings = some text ↔ .value option text ∈ settings := by
  induction settings with
  | nil => simp [valueIn]
  | cons setting settings ih =>
    rw [List.map_cons, List.nodup_cons] at h
    cases setting with
    | dryRun => simp [valueIn, ih h.2]
    | value option' text' =>
      by_cases hoption : option' = option
      · subst hoption
        have hother : .value option' text ∉ settings := fun hmem =>
          h.1 (List.mem_map.2 ⟨_, hmem, rfl⟩)
        simp [valueIn, hother, eq_comm]
      · simp [valueIn, hoption, Ne.symm hoption, ih h.2]

/-! ## How options are written -/

theorem optionOfFlag?_flag (option : ValueOption) : optionOfFlag? option.flag = some option := by
  cases option <;> decide

theorem eq_flag_of_optionOfFlag? {flag : String} {option : ValueOption}
    (h : optionOfFlag? flag = some option) : flag = option.flag := by
  have hfound := List.find?_some h
  exact (eq_of_beq hfound).symm

/-- An option as it is written is not taken for anything else. -/
theorem flag_ne (option : ValueOption) :
    option.flag ≠ "--" ∧ asksForHelp option.flag = false ∧ option.flag ≠ "--dry-run" ∧
      '=' ∉ option.flag.toList := by
  cases option <;> decide

theorem ne_of_not_mem {name : String} (h : '=' ∉ name.toList) :
    ∀ c ∈ name.toList, (c != '=') = true := by
  rintro c hc
  have hne : c ≠ '=' := fun heq => h (heq ▸ hc)
  simpa using hne

theorem splitAssignment_of_not_mem {name : String} (h : '=' ∉ name.toList) :
    splitAssignment name = (name, none) := by
  have hrest : name.toList.dropWhile (· != '=') = [] :=
    List.dropWhile_eq_nil_iff.2 (ne_of_not_mem h)
  simp [splitAssignment, hrest]

theorem splitAssignment_assigned {name : String} (h : '=' ∉ name.toList) (value : String) :
    splitAssignment (name ++ "=" ++ value) = (name, some value) := by
  have htext : (name ++ "=" ++ value).toList = name.toList ++ '=' :: value.toList := by
    simp
  simp [splitAssignment, htext, List.takeWhile_append_of_pos (ne_of_not_mem h),
    List.dropWhile_append_of_pos (ne_of_not_mem h)]

/-- A value that is assigned keeps an argument from being a word of its own. -/
theorem assigned_ne {word : String} (h : '=' ∉ word.toList) (name value : String) :
    name ++ "=" ++ value ≠ word := by
  rintro rfl
  simp at h

theorem asksForHelp_assigned (option : ValueOption) (value : String) :
    asksForHelp (option.flag ++ "=" ++ value) = false := by
  have hlong : option.flag ++ "=" ++ value ≠ "--help" := assigned_ne (by decide) _ _
  have hshort : (option.flag ++ "=" ++ value).toList.take 2 = ['-', '-'] := by
    cases option <;> simp [ValueOption.flag]
  rw [asksForHelp, hshort, decide_eq_false hlong]
  rfl

/-- An argument is its name, or its name with a value assigned to it. -/
theorem eq_of_splitAssignment {argument name : String} {value? : Option String}
    (h : splitAssignment argument = (name, value?)) :
    argument = value?.elim name (name ++ "=" ++ ·) := by
  unfold splitAssignment at h
  dsimp only at h
  split at h
  · cases h
    rfl
  · rename_i c value hrest
    cases h
    have hc : c = '=' := by
      have hhead := List.head?_dropWhile_not (· != '=') argument.toList
      rw [hrest] at hhead
      simpa using hhead
    have hsplit := List.takeWhile_append_dropWhile (p := (· != '=')) (l := argument.toList)
    rw [← String.toList_inj]
    simpa [hrest, hc] using hsplit.symm

/-! ## Reading settings -/

/-- The draft with one more setting, if nothing is repeated and the value can be used. -/
def Draft.add? (draft : Draft) : Setting → Option Draft
  | .value option text => draft.set? option text
  | .dryRun => if draft.dryRun then none else some { draft with dryRun := true }

/-- A setting that is said is read before what stands behind it. -/
theorem readArguments_spelled {setting : Setting} (h : setting.Spelled arguments) (draft : Draft)
    (rest : List String) :
    readArguments draft (arguments ++ rest) =
      match draft.add? setting with
      | some draft' => readArguments draft' rest
      | none => .misuse := by
  cases h with
  | dryRun =>
    rw [List.singleton_append, readArguments, if_neg (by decide), if_neg (by decide),
      if_pos rfl, Draft.add?]
    cases draft.dryRun <;> rfl
  | @apart option text htext =>
    obtain ⟨hend, hhelp, hflag, heq⟩ := flag_ne option
    rw [List.cons_append, List.singleton_append, readArguments, if_neg hend,
      if_neg (by simp [hhelp]), if_neg hflag, splitAssignment_of_not_mem heq]
    simp only [optionOfFlag?_flag, htext, if_true]
    rfl
  | assigned option text =>
    have hend : option.flag ++ "=" ++ text ≠ "--" := assigned_ne (by decide) _ _
    have hflag : option.flag ++ "=" ++ text ≠ "--dry-run" := assigned_ne (by decide) _ _
    have hhelp := asksForHelp_assigned option text
    rw [List.singleton_append, readArguments, if_neg hend, if_neg (by simp [hhelp]),
      if_neg hflag, splitAssignment_assigned (flag_ne option).2.2.2]
    simp only [optionOfFlag?_flag]
    rfl

/-- Arguments that say settings are read by adding the settings to the draft one by one. -/
theorem readArguments_of_said {settings : List Setting} (h : Says settings arguments)
    (draft : Draft) :
    readArguments draft arguments =
      match settings.foldlM Draft.add? draft with
      | some draft' => draft'.finish
      | none => .misuse := by
  induction h generalizing draft with
  | nil => rfl
  | endMark =>
    rw [readArguments, if_pos rfl, if_pos rfl]
    rfl
  | cons hspelled _ ih =>
    rw [readArguments_spelled hspelled, List.foldlM_cons]
    cases draft.add? _ with
    | none => rfl
    | some draft' => exact ih draft'

/-- Arguments that are read as a run say settings. -/
theorem exists_said_of_readArguments (h : readArguments draft arguments = .run options) :
    ∃ settings, Says settings arguments := by
  fun_induction readArguments draft arguments with
  | case1 => exact ⟨[], .nil⟩
  | case2 => exact ⟨[], .endMark⟩
  | case6 _ _ _ _ _ ih =>
    obtain ⟨settings, hsaid⟩ := ih h
    exact ⟨_, .cons .dryRun hsaid⟩
  | case8 _ _ _ _ _ _ option hoption value _ _ _ hsplit ih =>
    rw [eq_of_splitAssignment hsplit, eq_flag_of_optionOfFlag? hoption]
    obtain ⟨settings, hsaid⟩ := ih h
    exact ⟨_, .cons (.assigned option value) hsaid⟩
  | case10 _ _ _ _ _ _ _ hoption _ _ hvalue _ _ hsplit ih =>
    rw [eq_of_splitAssignment hsplit, eq_flag_of_optionOfFlag? hoption]
    obtain ⟨settings, hsaid⟩ := ih h
    exact ⟨_, .cons (.apart hvalue) hsaid⟩
  | case3 | case4 | case5 | case7 | case9 | case11 | case12 | case13 => cases h

/-! ## Adding settings -/

/-- The draft has something on a subject. -/
def Draft.Has (draft : Draft) : Option ValueOption → Prop
  | some option => (draft.value? option).isSome = true
  | none => draft.dryRun = true

/-- The draft with one more setting, whatever it has. -/
def Draft.plus (draft : Draft) : Setting → Draft
  | .value option text => { draft with values := (option, text) :: draft.values }
  | .dryRun => { draft with dryRun := true }

/-- A setting can be added exactly if there is nothing on its subject yet and its value can
be used. -/
theorem Draft.add?_eq_some_iff {setting : Setting} :
    draft.add? setting = some draft' ↔
      ¬ draft.Has setting.subject ∧ setting.Usable ∧ draft.plus setting = draft' := by
  cases setting with
  | value option text =>
    simp only [add?, set?, Has, plus, Setting.subject, Setting.Usable]
    by_cases hhas : (draft.value? option).isSome = true
    · simp [hhas]
    · by_cases hpath : option.isPath = true ∧ text = ""
      · simp [hpath]
      · simp [hhas, hpath]
        tauto
  | dryRun =>
    simp only [add?, Has, plus, Setting.subject, Setting.Usable]
    cases draft.dryRun <;> simp

theorem Draft.value?_plus (draft : Draft) (setting : Setting) (option : ValueOption) :
    (draft.plus setting).value? option = (valueIn option [setting]).or (draft.value? option) := by
  cases setting with
  | value option' text =>
    by_cases hoption : option' = option
    · simp [plus, value?, valueIn, hoption]
    · have hne : (option == option') = false := by simpa using Ne.symm hoption
      simp [plus, value?, valueIn, hoption, List.lookup_cons, hne]
  | dryRun => rfl

theorem Draft.has_plus_iff (draft : Draft) (setting : Setting) (subject : Option ValueOption) :
    (draft.plus setting).Has subject ↔ setting.subject = subject ∨ draft.Has subject := by
  cases subject with
  | none => cases setting <;> simp [Has, plus, Setting.subject]
  | some option =>
    simp only [Has, value?_plus]
    cases setting with
    | value option' text => by_cases hoption : option' = option <;>
        simp [valueIn, Setting.subject, hoption]
    | dryRun => simp [valueIn, Setting.subject]

/-- Settings can be added one by one exactly if they can be given together, and nothing is
there yet on what they are about. -/
theorem foldlM_add?_eq_some_iff {settings : List Setting} :
    settings.foldlM Draft.add? draft = some draft' ↔
      Givable settings ∧ (∀ setting ∈ settings, ¬ draft.Has setting.subject) ∧
        settings.foldl Draft.plus draft = draft' := by
  induction settings generalizing draft with
  | nil =>
    have hgivable : Givable [] := ⟨List.nodup_nil, fun _ h => absurd h List.not_mem_nil⟩
    simp [hgivable]
  | cons setting settings ih =>
    simp only [List.foldlM_cons, bind, Option.bind_eq_some_iff, Draft.add?_eq_some_iff, ih,
      List.forall_mem_cons, List.foldl_cons]
    constructor
    · rintro ⟨-, ⟨hnew, husable, rfl⟩, ⟨hdistinct, hall⟩, hnone, rfl⟩
      refine ⟨⟨?_, List.forall_mem_cons.2 ⟨husable, hall⟩⟩, ⟨hnew, fun other hother => ?_⟩, rfl⟩
      · rw [List.map_cons, List.nodup_cons]
        refine ⟨fun hmem => ?_, hdistinct⟩
        obtain ⟨other, hother, heq⟩ := List.mem_map.1 hmem
        exact hnone other hother ((draft.has_plus_iff setting _).2 (.inl heq.symm))
      · exact fun hhas => hnone other hother ((draft.has_plus_iff setting _).2 (.inr hhas))
    · rintro ⟨⟨hdistinct, hall⟩, ⟨hnew, hnone⟩, rfl⟩
      rw [List.map_cons, List.nodup_cons] at hdistinct
      rw [List.forall_mem_cons] at hall
      refine ⟨_, ⟨hnew, hall.1, rfl⟩, ⟨hdistinct.2, hall.2⟩, fun other hother hhas => ?_, rfl⟩
      rcases (draft.has_plus_iff setting _).1 hhas with heq | hhas
      · exact hdistinct.1 (heq ▸ List.mem_map_of_mem hother)
      · exact hnone other hother hhas

theorem dryRun_foldl_plus (settings : List Setting) (draft : Draft) :
    (settings.foldl Draft.plus draft).dryRun = (draft.dryRun || settings.contains .dryRun) := by
  induction settings generalizing draft with
  | nil => simp
  | cons setting settings ih =>
    rw [List.foldl_cons, ih, List.contains_cons]
    cases setting with
    | dryRun => simp [Draft.plus]
    | value option text =>
      have hne : (Setting.dryRun == .value option text) = false := beq_eq_false_iff_ne.2 nofun
      rw [hne, Bool.false_or, Draft.plus]

/-- The value of an option is the one that the settings give to it. -/
theorem value?_foldl_plus {settings : List Setting}
    (hdistinct : (settings.map Setting.subject).Nodup) (draft : Draft) (option : ValueOption) :
    (settings.foldl Draft.plus draft).value? option =
      (valueIn option settings).or (draft.value? option) := by
  induction settings generalizing draft with
  | nil => rfl
  | cons setting settings ih =>
    rw [List.map_cons, List.nodup_cons] at hdistinct
    rw [List.foldl_cons, ih hdistinct.2, Draft.value?_plus]
    cases setting with
    | dryRun => rfl
    | value option' text =>
      by_cases hoption : option' = option
      · -- no setting behind this one is about the option
        have hnone : valueIn option settings = none := by
          rw [Option.eq_none_iff_forall_ne_some]
          intro text' htext'
          refine hdistinct.1 (List.mem_map.2 ⟨_, (valueIn_eq_some_iff hdistinct.2).1 htext', ?_⟩)
          rw [Setting.subject, Setting.subject, hoption]
        rw [hnone]
        simp [valueIn, hoption]
      · simp [valueIn, hoption]

theorem finish_eq_run_iff :
    draft.finish = .run options ↔ Asks draft.value? draft.dryRun options := by
  rw [Draft.finish]
  constructor
  · intro h
    split at h
    · cases h
    · rename_i schema outDir hschema
      split at h
      · cases h
      · rename_i hplaced
        cases h
        refine ⟨hschema, rfl, ?_, rfl, rfl, rfl⟩
        cases hdry : draft.dryRun with
        | true => exact .inl rfl
        | false =>
          simp only [hdry, Bool.not_false, and_true, Option.isNone_iff_eq_none] at hplaced
          exact .inr (Option.isSome_iff_ne_none.2 hplaced)
  · rintro ⟨hschema, hoverrides, hplaced, hdestination, hstem, hconfig⟩
    have hcase : ¬ ((draft.value? .outDir).isNone = true ∧ (!draft.dryRun) = true) := by
      rintro ⟨hnone, hdry⟩
      rcases hplaced with hplaced | hplaced
      · simp [hplaced] at hdry
      · simp [Option.isNone_iff_eq_none.1 hnone] at hplaced
    simp only [hschema, if_neg hcase, hoverrides, ← hdestination, ← hstem, ← hconfig]

/-! ## Command lines -/

/-- A command line that says settings is a run exactly if they can be given together, and
asks for what they say. -/
theorem ofArguments_eq_run_iff {settings : List Setting} (h : Says settings arguments) :
    Request.ofArguments arguments = .run options ↔
      Givable settings ∧ Asks (valueIn · settings) (settings.contains .dryRun) options := by
  rw [Request.ofArguments, readArguments_of_said h]
  have hempty : ∀ setting ∈ settings, ¬ Draft.Has ⟨[], false⟩ setting.subject := by
    intro setting _
    cases setting <;> exact Bool.false_ne_true
  have hadd : ∀ full, settings.foldlM Draft.add? ⟨[], false⟩ = some full ↔
      Givable settings ∧ (∀ setting ∈ settings, ¬ Draft.Has ⟨[], false⟩ setting.subject) ∧
        settings.foldl Draft.plus ⟨[], false⟩ = full := fun _ => foldlM_add?_eq_some_iff
  by_cases hgivable : Givable settings
  · rw [(hadd _).2 ⟨hgivable, hempty, rfl⟩]
    have hvalue : (settings.foldl Draft.plus ⟨[], false⟩).value? = (valueIn · settings) := by
      funext option
      rw [value?_foldl_plus hgivable.distinct]
      exact Option.or_none
    show (settings.foldl Draft.plus ⟨[], false⟩).finish = .run options ↔ _
    rw [finish_eq_run_iff, hvalue, dryRun_foldl_plus, Bool.false_or]
    exact (and_iff_right hgivable).symm
  · have hnone : settings.foldlM Draft.add? ⟨[], false⟩ = none := by
      rw [Option.eq_none_iff_forall_ne_some]
      exact fun full hfull => hgivable ((hadd full).1 hfull).1
    rw [hnone]
    exact iff_of_false nofun fun hrun => hgivable hrun.1

/-- Settings have the flag exactly if an argument is the flag. -/
theorem Says.dryRun_mem_iff {settings : List Setting} (h : Says settings arguments) :
    .dryRun ∈ settings ↔ "--dry-run" ∈ arguments := by
  induction h with
  | nil | endMark => decide
  | cons hspelled _ ih =>
    rw [List.mem_cons, List.mem_append, ih]
    refine or_congr ?_ Iff.rfl
    cases hspelled with
    | dryRun => simp
    | @apart option text htext =>
      have hflag : option.flag ≠ "--dry-run" := (flag_ne option).2.2.1
      have hvalue : text ≠ "--dry-run" := by
        rintro rfl
        exact absurd htext (by decide)
      simp [hflag.symm, hvalue.symm]
    | assigned option text =>
      have hne : option.flag ++ "=" ++ text ≠ "--dry-run" := assigned_ne (by decide) _ _
      simp [hne.symm]

/-- All settings can be said. -/
theorem exists_said (settings : List Setting) : ∃ arguments, Says settings arguments := by
  induction settings with
  | nil => exact ⟨[], .nil⟩
  | cons setting settings ih =>
    obtain ⟨arguments, hsaid⟩ := ih
    cases setting with
    | value option text => exact ⟨_, .cons (.assigned option text) hsaid⟩
    | dryRun => exact ⟨_, .cons .dryRun hsaid⟩

end TypeProjection.Command
