/-
  VuserScript.Proofs.Tool

  What the tool that converts a plan makes of its arguments. With the arguments of
  a conversion it does what the conversion does, and answers the report of it.
  Arguments without a plan, or with an option of a wrong type, are answered as
  well, and nothing is done then.
-/
import VuserScript.Proofs.Json
import VuserScript.Proofs.OptionsFile
import VuserScript.Tool

namespace VuserScript.Tool

open Conversion (Report)

/-! ## Arguments of a conversion -/

/-- A member has a value; one that is not there has its default. -/
def HasMember (arguments : Json) (name : String) (value default : Json) : Prop :=
  arguments.member? name = some value ∨ arguments.member? name = none ∧ value = default

/-- Arguments that name a plan and, where these are not the usual ones, an output folder and
options. There may be other members. -/
structure Names (arguments : Json) (o : Options) (jmxPath folder : String) : Prop where
  plan : arguments.member? "jmx_path" = some (.string jmxPath)
  output : HasMember arguments "output_dir" (.string folder) (.string "lr_scripts")
  correlation :
    HasMember arguments "enable_correlation" (.bool o.enableCorrelation) (.bool true)
  datFiles : HasMember arguments "write_dat_files" (.bool o.writeDatFiles) (.bool true)
  scriptPrefix : HasMember arguments "script_prefix" (.string o.scriptPrefix) (.string "Script_")

/-- Arguments without a plan, or with an option whose value has a wrong type. -/
def IsNoConversion (arguments : Json) : Prop :=
  arguments.member? "jmx_path" = none
    ∨ ∃ name ∈ Options.names, ∃ value, arguments.member? name = some value
      ∧ ¬ Options.IsValueFor name (OptionValue.ofJson value)

section

variable {arguments value default : Json} {o : Options} {name jmxPath folder : String}

theorem HasMember.getD (h : HasMember arguments name value default) :
    (arguments.member? name).getD default = value := by
  rcases h with hsome | ⟨hnone, hvalue⟩
  · rw [hsome, Option.getD_some]
  · rw [hnone, Option.getD_none, hvalue]

/-- A path among the arguments can only be one of an object. -/
theorem jmxPath_eq_ok {arguments path : Json} (h : arguments.member? "jmx_path" = some path) :
    Tool.jmxPath arguments = .ok path := by
  cases arguments with
  | object members => simp only [Tool.jmxPath, h]
  | _ => cases h

theorem exists_jmxPath_eq_error (h : arguments.member? "jmx_path" = none) :
    ∃ problem, Tool.jmxPath arguments = .error problem := by
  cases arguments with
  | object members =>
    refine ⟨.argumentMissing "jmx_path", ?_⟩
    simp only [Tool.jmxPath, h]
  | _ => exact ⟨_, rfl⟩

/-! ## Options among the arguments -/

/-- The options that arguments name, with their values. -/
def namedOptions (arguments : Json) : List (String × OptionValue) :=
  ["enable_correlation", "write_dat_files", "script_prefix"].filterMap fun name =>
    (arguments.member? name).map fun value => (name, OptionValue.ofJson value)

theorem mem_namedOptions {given : OptionValue} : (name, given) ∈ namedOptions arguments
    ↔ name ∈ Options.names ∧ (arguments.member? name).map OptionValue.ofJson = some given := by
  have horder : ∀ other, other ∈ ["enable_correlation", "write_dat_files", "script_prefix"]
      ↔ other ∈ Options.names := by
    intro other
    simp only [Options.names, List.mem_cons, List.not_mem_nil, or_false]
    tauto
  simp only [namedOptions, List.mem_filterMap, horder, Option.map_eq_some_iff, Prod.mk.injEq]
  constructor
  · rintro ⟨other, hother, value, hvalue, rfl, hgiven⟩
    exact ⟨hother, value, hvalue, hgiven⟩
  · rintro ⟨hname, value, hvalue, hgiven⟩
    exact ⟨name, hname, value, hvalue, rfl, hgiven⟩

theorem lookup_namedOptions (h : name ∈ Options.names) :
    (namedOptions arguments).reverse.lookup name
      = (arguments.member? name).map OptionValue.ofJson :=
  lookup_eq_of_mem_iff fun _ =>
    List.mem_reverse.trans (mem_namedOptions.trans (and_iff_right h))

theorem optionsOf_eq (arguments : Json) : optionsOf arguments
    = match Options.ofEntries "tool arguments" (namedOptions arguments) with
      | .ok o => .ok o
      | .error problem => .error (.options problem) := rfl

/-- Only options are named, so that the types of their values decide. -/
theorem optionsOf_eq_ok_iff : optionsOf arguments = .ok o
    ↔ Options.setAll "tool arguments" {} (namedOptions arguments) = .ok o := by
  have hnames : ∀ entry ∈ namedOptions arguments, entry.1 ∈ Options.names :=
    fun _ hentry => (mem_namedOptions.mp hentry).1
  have hentries := @Options.ofEntries_eq_ok_iff "tool arguments" o (namedOptions arguments)
  rw [and_iff_right hnames] at hentries
  rw [← hentries, optionsOf_eq]
  cases Options.ofEntries "tool arguments" (namedOptions arguments) <;> simp

theorem HasMember.map_or {v d : Json} (h : HasMember arguments name v d) :
    ((arguments.member? name).map OptionValue.ofJson).or (some (OptionValue.ofJson d))
      = some (OptionValue.ofJson v) := by
  rcases h with hsome | ⟨hnone, rfl⟩
  · rw [hsome]
    rfl
  · rw [hnone]
    rfl

/-- Options have values that they can have. -/
theorem isValueFor_of_lookup {given : OptionValue} (hname : name ∈ Options.names)
    (h : o.entries.lookup name = some given) : Options.IsValueFor name given := by
  simp only [Options.names, List.mem_cons, List.not_mem_nil, or_false] at hname
  rcases hname with rfl | rfl | rfl <;> cases h
  · exact .inl rfl
  · exact rfl
  · exact .inr rfl

/-- What is named of the options has the right type, and what is not named has its default. -/
theorem Names.optionsOf (h : Names arguments o jmxPath folder) :
    Tool.optionsOf arguments = .ok o := by
  have hvalues : ∀ name ∈ Options.names,
      ((arguments.member? name).map OptionValue.ofJson).or (({} : Options).entries.lookup name)
        = o.entries.lookup name := by
    simp only [Options.names, List.forall_mem_cons, List.not_mem_nil, false_imp_iff, imp_true_iff,
      and_true]
    exact ⟨h.correlation.map_or, h.scriptPrefix.map_or, h.datFiles.map_or⟩
  obtain ⟨o', ho'⟩ : ∃ o', Options.setAll "tool arguments" {} (namedOptions arguments)
      = .ok o' := by
    -- what is named is a value of `o`, so that it has the right type
    refine Options.setAll_eq_ok_iff.mpr fun entry hentry => ?_
    obtain ⟨hname, hgiven⟩ := mem_namedOptions.mp hentry
    refine isValueFor_of_lookup (o := o) hname ?_
    rw [← hvalues _ hname, hgiven, Option.some_or]
  obtain rfl : o' = o := Options.eq_of_lookup_eq fun name hname => by
    rw [Options.lookup_of_setAll ho', lookup_namedOptions hname, hvalues name hname]
  exact optionsOf_eq_ok_iff.mpr ho'

/-- An option of a wrong type leaves no options. -/
theorem exists_optionsOf_eq_error (hname : name ∈ Options.names)
    (hmember : arguments.member? name = some value)
    (hwrong : ¬ Options.IsValueFor name (OptionValue.ofJson value)) :
    ∃ problem, Tool.optionsOf arguments = .error problem := by
  cases hoptions : Tool.optionsOf arguments with
  | error problem => exact ⟨problem, rfl⟩
  | ok o =>
    have hall := Options.setAll_eq_ok_iff.mp ⟨o, optionsOf_eq_ok_iff.mp hoptions⟩
    have hentry : (name, OptionValue.ofJson value) ∈ namedOptions arguments := by
      rw [mem_namedOptions, hmember]
      exact ⟨hname, rfl⟩
    exact absurd (hall _ hentry) hwrong

/-! ## Calls -/

theorem outcome_ofExcept {α : Type} (r : Except Problem α) (σ : Session) :
    (MonadExcept.ofExcept r : Job α).outcome σ = (r, σ) := by
  cases r <;> rfl

/-- The answer that tells of a problem. -/
def problemAnswer (problem : Problem) : Json :=
  .object [("success", .bool false), ("error", .string problem.message),
    ("error_type", .string problem.kind)]

/-- A call of the tool is answered, whatever comes of it. -/
theorem outcome_call (arguments : Json) (σ : Session) :
    (call "convert_jmx_to_loadrunner" arguments).outcome σ
      = (.ok (match ((convertAnswer arguments).outcome σ).1 with
          | .ok value => value.render
          | .error problem => (problemAnswer problem).render),
        ((convertAnswer arguments).outcome σ).2) := by
  have hrun : (call "convert_jmx_to_loadrunner" arguments).outcome σ
      = (.ok ((Tool.convert.run arguments).run σ).1, ((Tool.convert.run arguments).run σ).2) :=
    Job.outcome_lift _ σ
  rw [hrun]
  simp only [run, answer, Job.outcome, StateT.run_bind]
  rcases ((convertAnswer arguments).run.run σ) with ⟨problem | value, τ⟩ <;> rfl

/-- With the arguments of a conversion the tool converts, and answers the report. -/
theorem outcome_call_of_names {σ τ : Session} {report : Report}
    (h : Names arguments o jmxPath folder)
    (hreport : (Conversion.convert o jmxPath folder).outcome σ = (.ok report, τ)) :
    ∃ text message, (call "convert_jmx_to_loadrunner" arguments).outcome σ = (.ok text, τ)
      ∧ Json.Writes (.object (report.members
        ++ if report.success then [("message", .string message)] else [])) text := by
  have hanswer : ∃ message, (convertAnswer arguments).outcome σ = (.ok (.object (report.members
      ++ if report.success then [("message", .string message)] else [])), τ) := by
    refine ⟨"Generated " ++ toString report.scripts.length ++ " LoadRunner script(s) in "
      ++ folder, ?_⟩
    simp only [convertAnswer, Job.outcome_bind, outcome_ofExcept, jmxPath_eq_ok h.plan,
      h.optionsOf, h.output.getD, pathText, hreport, Job.outcome_pure]
  obtain ⟨message, hanswer⟩ := hanswer
  refine ⟨_, message, ?_, Json.writes_render _⟩
  rw [outcome_call, hanswer]

/-- With arguments of no conversion the tool tells why, and does nothing. -/
theorem outcome_call_of_isNoConversion (h : IsNoConversion arguments) (σ : Session) :
    ∃ text problem, (call "convert_jmx_to_loadrunner" arguments).outcome σ = (.ok text, σ)
      ∧ Json.Writes (problemAnswer problem) text := by
  have hanswer : ∃ problem, (convertAnswer arguments).outcome σ = (.error problem, σ) := by
    cases hpath : arguments.member? "jmx_path" with
    | none =>
      obtain ⟨problem, hproblem⟩ := exists_jmxPath_eq_error hpath
      refine ⟨problem, ?_⟩
      simp only [convertAnswer, Job.outcome_bind, outcome_ofExcept, hproblem]
    | some path =>
      rcases h with hnone | ⟨name, hname, value, hmember, hwrong⟩
      · rw [hpath] at hnone
        cases hnone
      · obtain ⟨problem, hproblem⟩ := exists_optionsOf_eq_error hname hmember hwrong
        refine ⟨problem, ?_⟩
        simp only [convertAnswer, Job.outcome_bind, outcome_ofExcept, jmxPath_eq_ok hpath,
          hproblem]
  obtain ⟨problem, hanswer⟩ := hanswer
  refine ⟨_, problem, ?_, Json.writes_render _⟩
  rw [outcome_call, hanswer]

end

end VuserScript.Tool
