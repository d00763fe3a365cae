/-
  VuserScript.Proofs.Console.OptionsErrors

  How a conversion that is called for from the console ends if the file of its
  options gives none. A problem with options is told and the run ends with code
  1; the troubles that reading the file passes on end the run without a word, and
  so does a text of the problem that cannot be shown for its brackets.
-/
import VuserScript.Proofs.Console.Shell
import VuserScript.Proofs.OptionsFile

namespace VuserScript.Console

open OptionsFile (Gives HasValues IsConfigProblem IsOptions PassedOn)
open Shell (errorText)
open Storage (Disk Path)

/-! ## Calls of the command -/

/-- There is a file at a path, and it may be read. -/
def HasOpenFile (d : Disk) (path : String) : Prop :=
  ∃ bytes access, d.entryAt path = .ok (some (.file bytes, access)) ∧ access.read = true

/-- If anything is at a path, it is a folder that may be read. -/
def TakesFolder (d : Disk) (path : String) : Prop :=
  ∀ entry access, d.entryAt path = .ok (some (entry, access)) →
    entry = .folder ∧ access.read = true

/-- Words that call for the conversion of a plan: no question is asked, and what is at the paths is
what the command demands. -/
structure Calls (σ : Session) (words : List String) (a : Arguments) (jmxPath : String) : Prop where
  read : Arguments.read Command.convert.choices true words = .ok a
  asksNothing : ∀ entry ∈ a.given, entry.1 ≠ .version ∧ entry.1 ≠ .help
  output : ∀ path, a.value? .output = some path →
    (∃ e, σ.disk.entryAt path = .ok e) ∧ TakesFolder σ.disk path
  config : ∀ path, a.value? .config = some path → HasOpenFile σ.disk path
  operand : a.operands = [jmxPath]
  plan : HasOpenFile σ.disk jmxPath

namespace Shell

variable {σ : Session} {blocks : List Block} {words : List String} {a : Arguments}
  {jmxPath path : String}

theorem outcome_entryAt {e : Option (Storage.Entry × Storage.Access)}
    (h : σ.disk.entryAt path = .ok e) :
    (entryAt path).outcome (blocks, σ) = (.ok e, blocks, σ) := by
  simp only [entryAt, outcome_bind, outcome_session, h, outcome_pure]

theorem outcome_demandFile (c : Command) (names : List String) (h : HasOpenFile σ.disk path) :
    (demandFile c names path).outcome (blocks, σ) = (.ok (), blocks, σ) := by
  obtain ⟨bytes, access, hentry, hread⟩ := h
  simp only [demandFile, outcome_bind, outcome_entryAt hentry, hread, if_true, outcome_pure]

theorem outcome_demandNoFile {e : Option (Storage.Entry × Storage.Access)} (c : Command)
    (names : List String) (h : σ.disk.entryAt path = .ok e) (htakes : TakesFolder σ.disk path) :
    (demandNoFile c names path).outcome (blocks, σ) = (.ok (), blocks, σ) := by
  simp only [demandNoFile, outcome_bind, outcome_entryAt h]
  rcases e with _ | ⟨entry, access⟩
  · rfl
  · obtain ⟨rfl, hread⟩ := htakes entry access h
    simp only [hread, if_true, outcome_pure]

theorem Calls.outcome_checkOption (h : Calls σ words a jmxPath) (choice : Choice) :
    (checkOption .convert a choice).outcome (blocks, σ) = (.ok (), blocks, σ) := by
  unfold checkOption
  split
  · next path hpath =>
    obtain ⟨⟨e, he⟩, htakes⟩ := h.output path hpath
    exact outcome_demandNoFile _ _ he htakes
  · next path hpath =>
    exact outcome_demandFile _ _ (h.config path hpath)
  · rfl

theorem Calls.outcome_planOperand (h : Calls σ words a jmxPath) :
    (planOperand .convert a).outcome (blocks, σ) = (.ok jmxPath, blocks, σ) := by
  have hchecks := outcome_forM_of_same (s := (blocks, σ)) (l := (a.given.map (·.1)).eraseDups)
    fun choice _ => Calls.outcome_checkOption h choice
  simp only [planOperand, outcome_bind, hchecks, h.operand, outcome_demandFile _ _ h.plan]
  rfl

theorem outcome_arguments (h : Arguments.read Command.convert.choices true words = .ok a) :
    (arguments .convert true words).outcome (blocks, σ) = (.ok a, blocks, σ) := by
  simp only [arguments, h]
  rfl

theorem outcome_answerQuestions
    (h : ∀ entry ∈ a.given, entry.1 ≠ .version ∧ entry.1 ≠ .help) :
    (answerQuestions .convert a).outcome (blocks, σ) = (.ok (), blocks, σ) := by
  have hnone : (a.given.find? fun entry => entry.1 = .version ∨ entry.1 = .help) = none := by
    refine List.find?_eq_none.mpr fun entry hentry => ?_
    simpa using h entry hentry
  simp only [answerQuestions, hnone]
  rfl

/-- The command is stopped if there are no options. -/
theorem Calls.outcome_convert (h : Calls σ words a jmxPath) {ending : Ending} {s : Scene}
    (hoptions : (options a).outcome (blocks, σ) = (.error ending, s)) :
    (convert words).outcome (blocks, σ) = (.error ending, s) := by
  simp only [convert, outcome_bind, outcome_arguments h.read,
    outcome_answerQuestions h.asksNothing, Calls.outcome_planOperand h, hoptions]

/-- The program leaves the words behind the name of the command to the command. -/
theorem outcome_program_convert (service : Service) (words : List String) (s : Scene) :
    (program service ("convert" :: words)).outcome s = (convert words).outcome s := by
  have hread : Arguments.read Command.main.choices false ("convert" :: words)
      = .ok { operands := "convert" :: words } := by
    rw [Arguments.read]
    rfl
  have hwords : (programWords ("convert" :: words)).outcome s
      = (.ok ("convert" :: words), s) := by
    simp only [programWords, arguments, hread]
    rfl
  have hname : Command.byName.lookup "convert" = some .convert := by decide
  unfold program
  rw [List.isEmpty_cons, if_neg Bool.false_ne_true, outcome_bind, hwords]
  simp only [hname]

/-- The options of a file, changed by what else is given. -/
def overridden (a : Arguments) (base : Options) : Options where
  enableCorrelation := base.enableCorrelation && !a.has .noCorrelation
  writeDatFiles := base.writeDatFiles && !a.has .noDat
  scriptPrefix := (a.value? .scriptPrefix).getD base.scriptPrefix

/-- The options for a call that names a file. If there are none in it, the problem is told, or ends
the run as it is. -/
theorem outcome_options_of_file {r : Except Problem Options} (blocks : List Block)
    (hconfig : a.value? .config = some path) (hne : path ≠ "") :
    (OptionsFile.load path).outcome σ = (r, σ) →
    (options a).outcome (blocks, σ) = match r with
      | .ok base => (.ok (overridden a base), blocks, σ)
      | .error problem => if isOptionsError problem
        then (fail problem : Shell Options).outcome (blocks, σ)
        else (.error ⟨1, some problem⟩, blocks, σ) := by
  intro hload
  have hperform : (perform 0 (OptionsFile.load path)).outcome (blocks, σ)
      = (.ok r, blocks, σ) := outcome_perform_of_same 0 hload
  unfold options
  rw [hconfig]
  split
  · next heq => cases heq
  · next heq => exact absurd (Option.some.inj heq) hne
  · next other _ heq =>
    cases heq
    cases r with
    | ok base =>
      simp only [outcome_bind, hperform, outcome_pure]
      rfl
    | error problem =>
      simp only [outcome_bind, hperform]
      by_cases htold : isOptionsError problem = true
      · rw [if_pos htold, if_pos htold, outcome_bind, outcome_fail]
        cases Text.Markup.plainText (errorText problem) <;> rfl
      · rw [if_neg htold, if_neg htold]
        rfl

end Shell

/-! ## Endings -/

theorem run_eq (service : Service) (words : List String) (σ : Session) :
    (run service words).run σ
      = (⟨((Shell.program service words).outcome ([], σ)).2.1,
          match ((Shell.program service words).outcome ([], σ)).1 with
          | .ok () => ⟨0, none⟩
          | .error ending => ending⟩,
        ((Shell.program service words).outcome ([], σ)).2.2) := by
  rfl

/-- A call whose options are refused ends in the same way. -/
theorem run_of_options_refused {σ : Session} {words : List String} {a : Arguments}
    {jmxPath : String} {ending : Ending} {s : Scene} (service : Service)
    (hcall : Calls σ words a jmxPath) (h : (Shell.options a).outcome ([], σ) = (.error ending, s)) :
    (run service ("convert" :: words)).run σ = (⟨s.1, ending⟩, s.2) := by
  have hrun := Shell.Calls.outcome_convert hcall h
  rw [← Shell.outcome_program_convert service] at hrun
  rw [run_eq, hrun]

theorem isOptionsError_of_isConfigProblem {problem : Problem} (h : IsConfigProblem problem) :
    Shell.isOptionsError problem = true := by
  cases problem <;> first | rfl | exact h.elim

theorem not_isOptionsError_of_passedOn {source : Yaml.Source} {problem : Problem}
    (h : PassedOn source problem) : Shell.isOptionsError problem = false := by
  cases h with
  | undecodable read => rfl
  | misfit read => rfl
  | @key d entry read mapping mem unnamed =>
    obtain ⟨message, hproblem⟩ := OptionsFile.exists_keyProblem (OptionsFile.unknownKeys d.entries)
    rw [hproblem]
    rfl

/-- A run that ends with code 1 in a session, and with what is told of a problem if anything is. -/
structure EndsTelling (r : Outcome × Session) (σ : Session) (problem : Problem) (isTold : Prop) :
    Prop where
  code : r.1.ending.code = 1
  session : r.2 = σ
  told : r.1.ending.problem = none
    ↔ isTold ∧ ∃ shown, Text.Markup.plainText (errorText problem) = .ok shown
  shows : ∀ shown, isTold → Text.Markup.plainText (errorText problem) = .ok shown →
    r.1.blocks = [.text shown]

section

variable {path : String} {σ : Session} {bytes : ByteArray}

/-- A call whose options are refused by telling a problem. -/
theorem endsTelling_of_fail {words : List String} {a : Arguments} {jmxPath : String}
    {problem : Problem} {isTold : Prop} (service : Service) (hcall : Calls σ words a jmxPath)
    (h : (Shell.options a).outcome ([], σ) = (Shell.fail problem : Shell Options).outcome ([], σ))
    (htold : isTold) :
    EndsTelling ((run service ("convert" :: words)).run σ) σ problem isTold := by
  rw [Shell.outcome_fail] at h
  cases hshown : Text.Markup.plainText (errorText problem) with
  | ok shown =>
    rw [hshown] at h
    rw [run_of_options_refused service hcall h]
    refine ⟨rfl, rfl, iff_of_true rfl ⟨htold, shown, hshown⟩, fun other _ hother => ?_⟩
    rw [hshown] at hother
    cases hother
    rfl
  | error fault =>
    -- the fault of the markup takes the place of the problem
    rw [hshown] at h
    rw [run_of_options_refused service hcall h]
    refine ⟨rfl, rfl, iff_of_false nofun ?_, fun other _ hother => ?_⟩
    · rintro ⟨-, shown, hother⟩
      rw [hshown] at hother
      cases hother
    · rw [hshown] at hother
      cases hother

/-- A call whose file of options gives none ends with code 1 and changes nothing. -/
theorem run_of_options_error (hread : σ.disk.read (Path.parse path) = .ok bytes)
    {words : List String} {a : Arguments} {jmxPath : String} {problem : Problem}
    (service : Service) (hcall : Calls σ words a jmxPath) (hconfig : a.value? .config = some path)
    (hne : path ≠ "") (hload : ((OptionsFile.load path).outcome σ).1 = .error problem) :
    EndsTelling ((run service ("convert" :: words)).run σ) σ problem
      (∀ other, ¬ PassedOn (.ofBytes bytes.toList) other) := by
  have hwhole := OptionsFile.load_of_read hread
  have hsource : OptionsFile.ofSource path (.ofBytes bytes.toList) = .error problem := by
    rw [hwhole] at hload
    exact hload
  rw [hsource] at hwhole
  have hoptions := Shell.outcome_options_of_file [] hconfig hne hwhole
  simp only at hoptions
  rcases OptionsFile.ofSource_eq_error hsource with hproblem | hproblem
  · rw [if_pos (isOptionsError_of_isConfigProblem hproblem)] at hoptions
    exact endsTelling_of_fail service hcall hoptions (hproblem.not_passedOn hsource)
  · rw [not_isOptionsError_of_passedOn hproblem, if_neg Bool.false_ne_true] at hoptions
    rw [run_of_options_refused service hcall hoptions]
    refine ⟨rfl, rfl, iff_of_false nofun fun h => h.1 problem hproblem, fun _ hno => ?_⟩
    exact absurd hproblem (hno problem)

/-- For every file, whatever its bytes are: reading options from it changes nothing, and gives the
values of a document in the file over the defaults, or a problem with options, unless one of the
troubles comes up that reading passes on; this is what comes of it then. A call of the console that
names the file ends with code 1 if there are no options, and tells why, unless the trouble is one
that is passed on or the text of the problem cannot be shown. -/
theorem options_file_told_iff (hread : σ.disk.read (Path.parse path) = .ok bytes) :
    ((OptionsFile.load path).outcome σ).2 = σ
      ∧ (∀ o, ((OptionsFile.load path).outcome σ).1 = .ok o
        ↔ ∃ d, Yaml.Document.read (.ofBytes bytes.toList) = .ok d ∧ Gives d o)
      ∧ (((∃ o, ((OptionsFile.load path).outcome σ).1 = .ok o)
          ∨ ∃ problem, ((OptionsFile.load path).outcome σ).1 = .error problem
            ∧ problem.kind = "ConfigException")
        ↔ ∀ problem, ¬ PassedOn (.ofBytes bytes.toList) problem)
      ∧ (∀ problem, PassedOn (.ofBytes bytes.toList) problem →
        ((OptionsFile.load path).outcome σ).1 = .error problem)
      ∧ ∀ (service : Service) (words : List String) (a : Arguments) (jmxPath : String)
        (problem : Problem), Calls σ words a jmxPath → a.value? .config = some path → path ≠ "" →
        ((OptionsFile.load path).outcome σ).1 = .error problem →
        EndsTelling ((run service ("convert" :: words)).run σ) σ problem
          (∀ other, ¬ PassedOn (.ofBytes bytes.toList) other) := by
  have hwhole := OptionsFile.load_of_read hread
  have hpassed : ∀ problem, PassedOn (.ofBytes bytes.toList) problem →
      ((OptionsFile.load path).outcome σ).1 = .error problem := by
    intro problem hproblem
    rw [hwhole]
    exact hproblem.ofSource path
  refine ⟨by rw [hwhole], fun o => ?_, ⟨fun h problem hproblem => ?_, fun hnone => ?_⟩, hpassed,
    fun service words a jmxPath problem hcall hconfig hne hload =>
      run_of_options_error hread service hcall hconfig hne hload⟩
  · rw [hwhole]
    exact OptionsFile.ofSource_eq_ok_iff
  · -- a trouble that is passed on is the only thing that comes of the file
    have herror := hpassed problem hproblem
    rcases h with ⟨o, ho⟩ | ⟨other, hother, hkind⟩
    · rw [herror] at ho
      cases ho
    · rw [herror] at hother
      cases hother
      exact hproblem.kind_ne hkind
  · rw [hwhole]
    cases hsource : OptionsFile.ofSource path (.ofBytes bytes.toList) with
    | ok o => exact .inl ⟨o, rfl⟩
    | error problem =>
      rcases OptionsFile.ofSource_eq_error hsource with hproblem | hproblem
      · exact .inr ⟨problem, rfl, hproblem.kind⟩
      · exact absurd hproblem (hnone problem)

end

/-! ## A key that is a number -/

/-- A plan, and a file of options whose only key is a number. -/
def filesWithNumber : Session where
  disk :=
    { tree := ⟨[(["o.yaml"], .file "1: x\n".toUTF8),
        (["plan.jmx"], .file "<jmeterTestPlan/>".toUTF8)]⟩
      workingFolder := [] }

/-- The words that name both. -/
def callWithNumber : Arguments where
  given := [(.config, "o.yaml")]
  operands := ["plan.jmx"]

theorem calls_filesWithNumber :
    Calls filesWithNumber ["plan.jmx", "--config", "o.yaml"] callWithNumber "plan.jmx" where
  read := by decide +kernel
  asksNothing := by decide
  output path h := by cases h
  config path h := by
    cases h
    exact ⟨_, _, rfl, rfl⟩
  operand := rfl
  plan := ⟨_, _, rfl, rfl⟩

theorem load_filesWithNumber : ((OptionsFile.load "o.yaml").outcome filesWithNumber).1
    = .error (.type "sequence item 0: expected str instance, int found") := by
  decide +kernel

/-- The run ends with code 1 and without a word about the options. -/
theorem run_filesWithNumber :
    let r := (run .finished ["convert", "plan.jmx", "--config", "o.yaml"]).run filesWithNumber
    r.1.ending.code = 1 ∧ r.2 = filesWithNumber ∧ r.1.ending.problem ≠ none := by
  intro r
  have hread : filesWithNumber.disk.read (Path.parse "o.yaml") = .ok "1: x\n".toUTF8 := rfl
  obtain ⟨-, -, hiff, -, hcalls⟩ := @options_file_told_iff "o.yaml" filesWithNumber _ hread
  have hends := hcalls .finished _ callWithNumber "plan.jmx" _ calls_filesWithNumber rfl
    (by decide) load_filesWithNumber
  refine ⟨hends.code, hends.session, fun hnone => ?_⟩
  -- a key that is a number is no problem with options
  rcases hiff.mpr (hends.told.mp hnone).1 with ⟨o, ho⟩ | ⟨problem, hproblem, hkind⟩
  · rw [load_filesWithNumber] at ho
    cases ho
  · rw [load_filesWithNumber] at hproblem
    cases hproblem
    exact absurd hkind (by decide)

/-- Not every file of options gives options or a problem with them. -/
theorem not_forall_options_file :
    ¬ ∀ (path : String) (σ : Session) (bytes : ByteArray),
      σ.disk.read (Path.parse path) = .ok bytes →
      (∃ o, ((OptionsFile.load path).outcome σ).1 = .ok o)
        ∨ ∃ problem, ((OptionsFile.load path).outcome σ).1 = .error problem
          ∧ problem.kind = "ConfigException" := by
  intro hall
  rcases hall "o.yaml" filesWithNumber "1: x\n".toUTF8 rfl with ⟨o, ho⟩ | ⟨problem, hproblem, hkind⟩
  · rw [load_filesWithNumber] at ho
    cases ho
  · rw [load_filesWithNumber] at hproblem
    cases hproblem
    exact absurd hkind (by decide)

end VuserScript.Console
