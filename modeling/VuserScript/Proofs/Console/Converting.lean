/-
  VuserScript.Proofs.Console.Converting

  What comes of a call of the console that asks for a conversion. The options are
  those of a file, if one is named, changed by what else is given; the command
  does what the conversion does, and its code tells whether nothing stopped it.
-/
import VuserScript.Proofs.Console.OptionsErrors
import VuserScript.Proofs.Console.Showing
import VuserScript.Proofs.Console.Words
import VuserScript.Proofs.Conversion.Loading

namespace VuserScript.Console

open OptionsFile (Gives)
open Storage (Disk Path)

/-! ## Options that are given -/

/-- The last value that is given for an option. -/
def IsLast (given : List (Choice × String)) (c : Choice) (value : String) : Prop :=
  ∃ before behind, given = before ++ (c, value) :: behind ∧ ∀ entry ∈ behind, entry.1 ≠ c

/-- An option is not given. -/
def IsLeftOut (given : List (Choice × String)) (c : Choice) : Prop :=
  ∀ entry ∈ given, entry.1 ≠ c

/-- Options over others: two that are given switch off, and the last prefix that is given takes the
place of the other one. -/
structure Overrides (given : List (Choice × String)) (base o : Options) : Prop where
  correlation : o.enableCorrelation = true
    ↔ base.enableCorrelation = true ∧ IsLeftOut given .noCorrelation
  datFiles : o.writeDatFiles = true ↔ base.writeDatFiles = true ∧ IsLeftOut given .noDat
  scriptPrefix : IsLast given .scriptPrefix o.scriptPrefix
    ∨ IsLeftOut given .scriptPrefix ∧ o.scriptPrefix = base.scriptPrefix

/-- The options of the file that is named: those that the document in it gives. Without a file they
are the usual ones. -/
inductive HasBase (d : Disk) (given : List (Choice × String)) : Options → Prop where
  | noFile (leftOut : IsLeftOut given .config) : HasBase d given {}
  | file {path : String} {bytes : ByteArray} {document : Yaml.Document} {base : Options}
      (last : IsLast given .config path)
      (there : HasOpenFile d path)
      (read : d.read (Path.parse path) = .ok bytes)
      (parsed : Yaml.Document.read (.ofBytes bytes.toList) = .ok document)
      (gives : Gives document base) : HasBase d given base

/-- Options of a call that ask for the conversion of a plan into a folder. At the path of the plan
there is a file, and at that of the folder a folder or nothing; what is there may be read. -/
structure AsksFor (d : Disk) (given : List (Choice × String)) (o : Options)
    (jmxPath folder : String) : Prop where
  asksNothing : ∀ entry ∈ given, entry.1 ≠ .version ∧ entry.1 ≠ .help
  plan : HasOpenFile d jmxPath
  output : IsLast given .output folder
  filled : folder ≠ ""
  place : TakesFolder d folder
  options : ∃ base, HasBase d given base ∧ Overrides given base o

section

variable {given : List (Choice × String)} {c : Choice} {value : String} {base o : Options}
  {a : Arguments}

theorem lookup_of_isLeftOut (h : IsLeftOut given c) : given.reverse.lookup c = none := by
  refine List.lookup_eq_none_iff.mpr fun entry hentry => ?_
  rw [bne_iff_ne]
  exact (h entry (List.mem_reverse.mp hentry)).symm

theorem value?_of_isLeftOut (h : IsLeftOut a.given c) : a.value? c = none :=
  lookup_of_isLeftOut h

theorem value?_of_isLast (h : IsLast a.given c value) : a.value? c = some value := by
  obtain ⟨before, behind, hgiven, hbehind⟩ := h
  rw [Arguments.value?, hgiven, List.reverse_append, List.reverse_cons, List.append_assoc,
    List.lookup_append, lookup_of_isLeftOut hbehind, Option.none_or]
  simp

theorem has_eq_false_iff : a.has c = false ↔ IsLeftOut a.given c := by
  simp [Arguments.has, IsLeftOut]

/-- The options of a call are the ones that override those of the file. -/
theorem Overrides.eq (h : Overrides a.given base o) : o = Shell.overridden a base := by
  obtain ⟨correlation, scriptPrefix, datFiles⟩ := o
  obtain ⟨hcorrelation, hdat, hprefix⟩ := h
  have hswitch : ∀ {b b' : Bool} {choice : Choice},
      (b = true ↔ b' = true ∧ IsLeftOut a.given choice) → b = (b' && !a.has choice) := by
    intro b b' choice hb
    rw [Bool.eq_iff_iff, hb, Bool.and_eq_true, Bool.not_eq_true', has_eq_false_iff]
  have hvalue : scriptPrefix = (a.value? .scriptPrefix).getD base.scriptPrefix := by
    rcases hprefix with hlast | ⟨hleft, hsame⟩
    · rw [value?_of_isLast hlast, Option.getD_some]
    · rw [value?_of_isLeftOut hleft, Option.getD_none]
      exact hsame
  rw [Options.mk.injEq]
  exact ⟨hswitch hcorrelation, hvalue, hswitch hdat⟩

end

namespace Shell

variable {σ τ : Session} {blocks : List Block} {words : List String} {a : Arguments}
  {jmxPath folder : String} {base o : Options}

/-! ## The options of a call -/

theorem outcome_options (hbase : HasBase σ.disk a.given base) (h : Overrides a.given base o) :
    (options a).outcome (blocks, σ) = (.ok o, blocks, σ) := by
  rw [h.eq]
  cases hbase with
  | noFile leftOut =>
    simp only [options, value?_of_isLeftOut leftOut]
    rfl
  | @file path bytes document base last there read parsed gives =>
    have hload : (OptionsFile.load path).outcome σ = (.ok base, σ) := by
      rw [OptionsFile.load_of_read read,
        OptionsFile.ofSource_eq_ok_iff.mpr ⟨document, parsed, gives⟩]
    have hne : path ≠ "" := by
      rintro rfl
      obtain ⟨bytes, access, hentry, -⟩ := there
      cases hentry
    rw [outcome_options_of_file blocks (value?_of_isLast last) hne hload]

/-! ## Converting -/

/-- The code that a command ends with. -/
def codeOf : Except Ending Unit → Nat
  | .ok () => 0
  | .error ending => ending.code

/-- What is told of a conversion. -/
def tell (report : Conversion.Report) (folder : String) : Shell Unit := do
  showReport report
  match report.problem with
  | some problem =>
    sayBoxed none ("[bold red]✗ Conversion failed:[/bold red] " ++ problem.message)
    stop 1
  | none =>
    sayBoxed none ("[bold green]✓ Conversion completed![/bold green]\n\n"
      ++ "Script folders written to: " ++ folder
      ++ "\n[dim]Open them in VuGen and review parameters & correlations.[/dim]")

theorem outcome_tell {report : Conversion.Report} (hreport : IsPlainReport report)
    (hfolder : IsPlain folder) (s : Scene) :
    ∃ r blocks, (tell report folder).outcome s = (r, blocks, s.2)
      ∧ codeOf r = if report.success then 0 else 1 := by
  obtain ⟨⟨⟩, blocks, hshown⟩ := goesOn_showReport hreport s
  rw [tell, outcome_bind, hshown]
  cases hproblem : report.problem with
  | none =>
    obtain ⟨⟨⟩, last, hlast⟩ := goesOn_sayBoxed none (canShow_completed hfolder) (blocks, s.2)
    refine ⟨.ok (), last, hlast, ?_⟩
    rw [Conversion.Report.success, hproblem]
    rfl
  | some problem =>
    have hfails : (if report.success then 0 else 1) = 1 := by
      rw [Conversion.Report.success, hproblem]
      rfl
    rw [hfails]
    simp only
    rw [outcome_bind, outcome_sayBoxed]
    -- the code is 1 as well if the text of the problem cannot be shown
    cases Text.Markup.plainText
      ("[bold red]✗ Conversion failed:[/bold red] " ++ problem.message) with
    | ok text => exact ⟨.error ⟨1, none⟩, _, rfl, rfl⟩
    | error fault => exact ⟨.error ⟨1, some (.markup fault)⟩, blocks, rfl, rfl⟩

/-- A call whose conversion gives a report does what the conversion does. -/
theorem Calls.outcome_convert_of_report {report : Conversion.Report}
    (h : Calls σ words a jmxPath) (houtput : a.value? .output = some folder) (hfilled : folder ≠ "")
    (hoptions : (options a).outcome (blocks, σ) = (.ok o, blocks, σ))
    (hconvert : (Conversion.convert o jmxPath folder).outcome σ = (.ok report, τ))
    (hpath : IsPlain jmxPath) (hfolder : IsPlain folder) (hreport : IsPlainReport report) :
    ∃ r shown, (convert words).outcome (blocks, σ) = (r, shown, τ)
      ∧ codeOf r = if report.success then 0 else 1 := by
  obtain ⟨⟨⟩, first, hfirst⟩ := goesOn_say (canShow_planLine hpath) (blocks, σ)
  obtain ⟨⟨⟩, second, hsecond⟩ := goesOn_say (canShow_folderLine hfolder) (first, σ)
  obtain ⟨third, hperform⟩ : ∃ third,
      (perform (a.count .verbose) (Conversion.convert o jmxPath folder)).outcome (second, σ)
        = (.ok (.ok report), third, τ) := by
    rw [outcome_perform, hconvert]
    exact ⟨_, rfl⟩
  obtain ⟨r, shown, htold, hcode⟩ := outcome_tell hreport hfolder (third, τ)
  -- what the command does behind the job is to tell of the report
  have hrun : (convert words).outcome (blocks, σ) = (tell report folder).outcome (third, τ) := by
    simp only [convert, outcome_bind, outcome_arguments h.read,
      outcome_answerQuestions h.asksNothing, Calls.outcome_planOperand h, hoptions, houtput, hfirst,
      hsecond, hperform]
    exact (outcome_bind (showReport report) _ (third, τ)).symm
  exact ⟨r, shown, hrun.trans htold, hcode⟩

/-- A call for a folder that no path leads to is ended before anything is done. -/
theorem outcome_convert_of_zero
    (hread : Arguments.read Command.convert.choices true words = .ok a)
    (hasks : ∀ entry ∈ a.given, entry.1 ≠ .version ∧ entry.1 ≠ .help)
    (hconfig : ∀ path, a.value? .config = some path → HasOpenFile σ.disk path)
    (hgiven : ∃ entry ∈ a.given, entry.1 = .output) (houtput : a.value? .output = some folder)
    (hzero : σ.disk.entryAt folder = .error .zeroCharacter) :
    (convert words).outcome (blocks, σ)
      = (.error ⟨1, some (.storage .zeroCharacter)⟩, blocks, σ) := by
  have hstop : (checkOption .convert a .output).outcome (blocks, σ)
      = (.error ⟨1, some (.storage .zeroCharacter)⟩, blocks, σ) := by
    simp only [checkOption, houtput, demandNoFile, entryAt, outcome_bind, outcome_session, hzero,
      outcome_abandon]
  have hother : ∀ choice ≠ Choice.output,
      (checkOption .convert a choice).outcome (blocks, σ) = (.ok (), blocks, σ) := by
    intro choice hne
    unfold checkOption
    split
    · exact absurd rfl hne
    · next path hpath =>
      exact outcome_demandFile _ _ (hconfig path hpath)
    · rfl
  -- the options are checked one by one, and only the one for the folder ends the run
  have hchecks : ((a.given.map (·.1)).eraseDups.forM (checkOption .convert a)).outcome (blocks, σ)
      = (.error ⟨1, some (.storage .zeroCharacter)⟩, blocks, σ) := by
    obtain ⟨entry, hentry, hchoice⟩ := hgiven
    refine outcome_forM_of_stop (fun choice _ => ?_) ⟨.output, ?_, hstop⟩
    · by_cases hchoice : choice = .output
      · exact .inr (hchoice ▸ hstop)
      · exact .inl (hother choice hchoice)
    · rw [List.mem_eraseDups, ← hchoice]
      exact List.mem_map_of_mem hentry
  simp only [convert, outcome_bind, outcome_arguments hread, outcome_answerQuestions hasks,
    planOperand, hchecks]

end Shell

/-! ## Runs -/

section

variable {σ : Session} {words : List String} {given : List (Choice × String)} {a : Arguments}
  {base o : Options} {jmxPath folder : String}

theorem run_convert {τ : Session} {r : Except Ending Unit} {shown : List Block}
    (service : Service) (h : (Shell.convert words).outcome ([], σ) = (r, shown, τ)) :
    ((run service ("convert" :: words)).run σ).2 = τ
      ∧ ((run service ("convert" :: words)).run σ).1.ending.code = Shell.codeOf r := by
  rw [← Shell.outcome_program_convert service] at h
  rw [run_eq, h]
  refine ⟨rfl, ?_⟩
  cases r <;> rfl

theorem HasBase.exists_file {d : Disk} {path : String} (h : HasBase d a.given base)
    (hconfig : a.value? .config = some path) : HasOpenFile d path := by
  cases h with
  | noFile leftOut =>
    rw [value?_of_isLeftOut leftOut] at hconfig
    cases hconfig
  | file last there read parsed gives =>
    rw [value?_of_isLast last] at hconfig
    cases hconfig
    exact there

/-- A call of the console that asks for a conversion does what the conversion does, and ends with
code 0 if and only if nothing has stopped it, and with code 1 otherwise. -/
theorem run_of_asksFor {report : Conversion.Report} (service : Service)
    (hspells : Spells words given [jmxPath]) (h : AsksFor σ.disk given o jmxPath folder)
    (hpath : IsPlain jmxPath) (hfolder : IsPlain folder) (hplain : IsPlainReport report)
    (hreport : ((Conversion.convert o jmxPath folder).outcome σ).1 = .ok report) :
    ((run service ("convert" :: words)).run σ).2.disk
        = ((Conversion.convert o jmxPath folder).outcome σ).2.disk
      ∧ ((run service ("convert" :: words)).run σ).1.ending.code
        = if report.success then 0 else 1 := by
  obtain ⟨base, hbase, hoverrides⟩ := h.options
  have hread : Arguments.read Command.convert.choices true words = .ok ⟨given, [jmxPath]⟩ :=
    Arguments.read_of_spells hspells
  generalize ha : (⟨given, [jmxPath]⟩ : Arguments) = a at hread
  obtain ⟨rfl, hoperands⟩ : given = a.given ∧ a.operands = [jmxPath] := by
    rw [← ha]
    exact ⟨rfl, rfl⟩
  have houtput : a.value? .output = some folder := value?_of_isLast h.output
  cases hentry : σ.disk.entryAt folder with
  | ok e =>
    have hcalls : Calls σ words a jmxPath :=
      { read := hread
        asksNothing := h.asksNothing
        output := fun path hpath => by
          rw [houtput] at hpath
          cases hpath
          exact ⟨⟨e, hentry⟩, h.place⟩
        config := fun path hconfig => hbase.exists_file hconfig
        operand := hoperands
        plan := h.plan }
    have hconvert : (Conversion.convert o jmxPath folder).outcome σ
        = (.ok report, ((Conversion.convert o jmxPath folder).outcome σ).2) := by rw [← hreport]
    obtain ⟨r, shown, hrun, hcode⟩ := Shell.Calls.outcome_convert_of_report hcalls houtput h.filled
      (Shell.outcome_options hbase hoverrides) hconvert hpath hfolder hplain
    obtain ⟨hsession, hend⟩ := run_convert service hrun
    rw [hsession, hend]
    exact ⟨rfl, hcode⟩
  | error trouble =>
    -- no folder can be made there, so that the conversion has failed for want of a plan
    obtain ⟨rfl, hzero⟩ := Disk.entryAt_eq_error hentry
    obtain ⟨hdisk, hsuccess⟩ := Conversion.convert_of_zero hzero hreport
    have hgiven : ∃ entry ∈ a.given, entry.1 = .output := by
      obtain ⟨before, behind, hsplit, -⟩ := h.output
      exact ⟨(.output, folder), by rw [hsplit]; simp, rfl⟩
    have hrun : (Shell.convert words).outcome ([], σ)
        = (.error ⟨1, some (.storage .zeroCharacter)⟩, [], σ) :=
      Shell.outcome_convert_of_zero hread h.asksNothing
        (fun path hconfig => hbase.exists_file hconfig) hgiven houtput hentry
    obtain ⟨hsession, hend⟩ := run_convert service hrun
    rw [hsession, hend, hdisk, hsuccess]
    exact ⟨rfl, rfl⟩

end

end VuserScript.Console
