/-
  VuserScript.Proofs.FrontEnds

  The ways to ask for a conversion. A tool and a command of the console make the
  same of it as the conversion alone: each comes to the options and the paths in
  a way of its own, and each tells in a way of its own how the conversion ended.
-/
import VuserScript.Proofs.Console.Converting
import VuserScript.Proofs.Tool

namespace VuserScript

open Console (AsksFor HasBase IsBare IsLast IsLeftOut IsPlain IsPlainReport Service Spells)
open Conversion (Report convert)

/-- For all files, and for every conversion that gives a report there: with the arguments of it the
tool leaves the files and the records as the conversion does, and answers the members of the report,
with a message if and only if nothing has stopped the conversion. A call of the console that asks
for the same leaves the files as the conversion does, and ends with code 0 if nothing has stopped
it, and otherwise with code 1. Arguments without a plan, or with an option of a wrong type, are
answered as well; nothing is changed then. -/
theorem front_ends_agree (σ : Session) :
    (∀ (o : Options) (jmxPath folder : String) (report : Report),
      ((convert o jmxPath folder).outcome σ).1 = .ok report →
        (∀ arguments, Tool.Names arguments o jmxPath folder →
          ∃ text message,
            (Tool.call "convert_jmx_to_loadrunner" arguments).outcome σ
              = (.ok text, ((convert o jmxPath folder).outcome σ).2)
            ∧ Json.Writes (.object (report.members
              ++ if report.success then [("message", .string message)] else [])) text)
        ∧ ∀ (service : Service) (words : List String) (given : List (Console.Choice × String)),
          Spells words given [jmxPath] → AsksFor σ.disk given o jmxPath folder →
          IsPlain jmxPath → IsPlain folder → IsPlainReport report →
          ((Console.run service ("convert" :: words)).run σ).2.disk
              = ((convert o jmxPath folder).outcome σ).2.disk
            ∧ ((Console.run service ("convert" :: words)).run σ).1.ending.code
              = if report.success then 0 else 1)
      ∧ ∀ arguments, Tool.IsNoConversion arguments →
        ∃ text problem, (Tool.call "convert_jmx_to_loadrunner" arguments).outcome σ = (.ok text, σ)
          ∧ Json.Writes (Tool.problemAnswer problem) text := by
  refine ⟨fun o jmxPath folder report hreport => ⟨fun arguments harguments => ?_,
    fun service words given hspells hasks hpath hfolder hplain => ?_⟩, fun arguments hno => ?_⟩
  · have hwhole : (convert o jmxPath folder).outcome σ
        = (.ok report, ((convert o jmxPath folder).outcome σ).2) := by rw [← hreport]
    exact Tool.outcome_call_of_names harguments hwhole
  · exact Console.run_of_asksFor service hspells hasks hpath hfolder hplain hreport
  · exact Tool.outcome_call_of_isNoConversion hno σ

/-! ## One plan in all these ways -/

/-- A plan with a thread group, and a file of options. -/
def planWithOptionsFile : Session where
  disk :=
    { tree := ⟨[(["o.yaml"], .file "script_prefix: Load_".toUTF8),
        (["plan.jmx"], .file ("<jmeterTestPlan><hashTree><ThreadGroup testname=\"Users\"/>"
          ++ "<hashTree/></hashTree></jmeterTestPlan>").toUTF8)]⟩
      workingFolder := [] }

/-- The options that are asked for. -/
def optionsOfCall : Options where
  scriptPrefix := "Load_"
  writeDatFiles := false

/-- The arguments of the tool. -/
def argumentsOfCall : Json :=
  .object [("jmx_path", .string "plan.jmx"), ("output_dir", .string "out"),
    ("write_dat_files", .bool false), ("script_prefix", .string "Load_")]

/-- The words behind the name of the command. -/
def wordsOfCall : List String :=
  ["-vo", "out", "plan.jmx", "--config=o.yaml", "--no-dat"]

/-- What these give. -/
def givenOfCall : List (Console.Choice × String) :=
  [(.verbose, ""), (.output, "out"), (.config, "o.yaml"), (.noDat, "")]

theorem names_argumentsOfCall :
    Tool.Names argumentsOfCall optionsOfCall "plan.jmx" "out" where
  plan := rfl
  output := .inl rfl
  correlation := .inr ⟨rfl, rfl⟩
  datFiles := .inl rfl
  scriptPrefix := .inl rfl

theorem spells_wordsOfCall : Spells wordsOfCall givenOfCall ["plan.jmx"] := by
  have hwords : wordsOfCall = [Console.letterWord 1 ['o'], "out", "plan.jmx",
      Console.Choice.config.longName ++ "=" ++ "o.yaml", Console.Choice.noDat.longName] := by
    decide
  have hlast : Spells [Console.Choice.noDat.longName] [(.noDat, "")] [] :=
    .flag (by decide) rfl .nothing
  have hconfig : Spells [Console.Choice.config.longName ++ "=" ++ "o.yaml",
      Console.Choice.noDat.longName] [(.config, "o.yaml"), (.noDat, "")] [] :=
    .joined (by decide) rfl "o.yaml" hlast
  rw [hwords]
  exact .letterValue 1 "out" (.operand (by decide) hconfig)

theorem hasBase_givenOfCall :
    HasBase planWithOptionsFile.disk givenOfCall { scriptPrefix := "Load_" } := by
  have hsource : OptionsFile.ofSource "o.yaml" (.ofBytes "script_prefix: Load_".toUTF8.toList)
      = .ok { scriptPrefix := "Load_" } := by
    decide +kernel
  obtain ⟨document, hparsed, hgives⟩ := OptionsFile.ofSource_eq_ok_iff.mp hsource
  have hlast : IsLast givenOfCall .config "o.yaml" :=
    ⟨[(.verbose, ""), (.output, "out")], [(.noDat, "")], rfl, by decide⟩
  exact .file hlast ⟨_, _, rfl, rfl⟩ rfl hparsed hgives

theorem asksFor_givenOfCall :
    AsksFor planWithOptionsFile.disk givenOfCall optionsOfCall "plan.jmx" "out" where
  asksNothing := by decide
  plan := ⟨_, _, rfl, rfl⟩
  output := ⟨[(.verbose, "")], [(.config, "o.yaml"), (.noDat, "")], rfl, by decide⟩
  filled := by decide
  place entry access h := by cases h
  options := by
    refine ⟨_, hasBase_givenOfCall, ?_, ?_, ?_⟩
    · simp [optionsOfCall, givenOfCall, IsLeftOut]
    · simp [optionsOfCall, givenOfCall, IsLeftOut]
    · exact .inr ⟨by simp [givenOfCall, IsLeftOut], rfl⟩

/-- The conversion gives a report, and no tag stands in it. -/
theorem convert_planWithOptionsFile : ∃ report,
    ((convert optionsOfCall "plan.jmx" "out").outcome planWithOptionsFile).1 = .ok report
      ∧ report.success = true ∧ IsPlainReport report := by
  have hreport : ((convert optionsOfCall "plan.jmx" "out").outcome
      planWithOptionsFile).1.toOption.map (fun report =>
        (report.success, report.scripts.map fun script => (script.name, script.folder),
          report.warnings)) = some (true, [("Users", "out/Load_Users")], []) := by
    decide +kernel
  obtain ⟨report, hok, hshape⟩ := Option.map_eq_some_iff.mp hreport
  simp only [Prod.mk.injEq] at hshape
  obtain ⟨hsuccess, hscripts, hwarnings⟩ := hshape
  have hplain : ∀ script ∈ report.scripts, IsPlain script.name ∧ IsPlain script.folder := by
    intro script hscript
    have hpair := List.mem_map_of_mem (f := fun script => (script.name, script.folder)) hscript
    rw [hscripts, List.mem_singleton, Prod.mk.injEq] at hpair
    rw [hpair.1, hpair.2]
    exact ⟨IsBare.isPlain (by decide +kernel), IsBare.isPlain (by decide +kernel)⟩
  refine ⟨report, Job.eq_ok_of_toOption_eq_some hok, hsuccess, ?_⟩
  exact
    { names := fun script hscript => (hplain script hscript).1
      folders := fun script hscript => (hplain script hscript).2
      warnings := by simp [hwarnings] }

/-- In both ways the plan is converted, and the answers tell so; what is no object of arguments is
answered without a change. -/
theorem front_ends_agree_planWithOptionsFile :
    (∃ report text message,
      ((convert optionsOfCall "plan.jmx" "out").outcome planWithOptionsFile).1 = .ok report
        ∧ (Tool.call "convert_jmx_to_loadrunner" argumentsOfCall).outcome planWithOptionsFile
          = (.ok text, ((convert optionsOfCall "plan.jmx" "out").outcome planWithOptionsFile).2)
        ∧ Json.Writes (.object (report.members ++ [("message", .string message)])) text)
      ∧ ((Console.run .finished ("convert" :: wordsOfCall)).run planWithOptionsFile).2.disk
        = ((convert optionsOfCall "plan.jmx" "out").outcome planWithOptionsFile).2.disk
      ∧ ((Console.run .finished ("convert" :: wordsOfCall)).run
        planWithOptionsFile).1.ending.code = 0
      ∧ ∃ text problem,
        (Tool.call "convert_jmx_to_loadrunner" (.array [])).outcome planWithOptionsFile
          = (.ok text, planWithOptionsFile)
        ∧ Json.Writes (Tool.problemAnswer problem) text := by
  obtain ⟨report, hreport, hsuccess, hplain⟩ := convert_planWithOptionsFile
  obtain ⟨hconversions, hothers⟩ := front_ends_agree planWithOptionsFile
  obtain ⟨htool, hconsole⟩ := hconversions optionsOfCall "plan.jmx" "out" report hreport
  obtain ⟨text, message, hcall, hwrites⟩ := htool argumentsOfCall names_argumentsOfCall
  obtain ⟨hdisk, hcode⟩ := hconsole .finished wordsOfCall givenOfCall spells_wordsOfCall
    asksFor_givenOfCall (IsBare.isPlain (by decide +kernel)) (IsBare.isPlain (by decide +kernel))
    hplain
  rw [hsuccess, if_pos rfl] at hwrites hcode
  have hnone : Tool.IsNoConversion (.array []) := .inl rfl
  exact ⟨⟨report, text, message, hreport, hcall, hwrites⟩, hdisk, hcode, hothers _ hnone⟩

end VuserScript
