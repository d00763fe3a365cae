/-
  VuserScript.Proofs.Conversion.Endings

  What a conversion that answers tells, against what it has done: without a
  plan nothing at all, and otherwise the scripts of the first thread groups, up
  to the one with which the first problem came up. Of the thread groups behind
  that one nothing is on the disk. The warnings are those of the listed scripts,
  behind one about a plan without thread groups.
-/
import VuserScript.Proofs.Conversion.Beginnings
import VuserScript.Proofs.Conversion.DataCopies

namespace VuserScript.Conversion

open Plan (Group)
open Script (Tally)
open Storage (Disk IsEntryName Location Path)

/-! ## Headings -/

/-- What the plan alone tells of the script of a thread group. -/
structure Heading where
  name : String
  folder : String
  tally : Tally

/-- The heading of the script in a report. -/
def GroupReport.heading (r : GroupReport) : Heading :=
  ⟨r.name, r.folder, r.tally⟩

/-- The headings of the scripts of thread groups, from where a run has come to. -/
def headings (options : Options) (outputFolder : Path) (p : Progress) : List Group → List Heading
  | [] => []
  | g :: groups =>
    let name := folderName options.scriptPrefix p.taken (g.name p.number)
    let (action, names) := Script.actionOf options.enableCorrelation g.items p.names
    ⟨g.name p.number, (outputFolder.child name).text, action.tally⟩
      :: headings options outputFolder ⟨names, folded name :: p.taken, p.number + 1⟩ groups

theorem length_headings (options : Options) (outputFolder : Path) (p : Progress)
    (groups : List Group) : (headings options outputFolder p groups).length = groups.length := by
  induction groups generalizing p with
  | nil => rfl
  | cons g groups ih => simp only [headings, List.length_cons, ih]

theorem Converted.heading {s : Setting} {p q : Progress} {g : Group} {d e : Disk} {x : Stages}
    {r : GroupReport} (h : Converted s p g d x r q e) (groups : List Group) :
    headings s.options s.outputFolder p (g :: groups)
      = r.heading :: headings s.options s.outputFolder q groups := by
  have hq : q = ⟨q.names, folded (s.scriptName p g) :: p.taken, p.number + 1⟩ := by
    rw [← h.taken, ← h.number]
  rw [hq, GroupReport.heading, h.name, h.folder, h.tally, groupFolder_eq, headings, ← h.action]
  rfl

/-- The reports of a run are headed as those of the first thread groups, in their order. -/
theorem Runs.headings {s : Setting} {p : Progress} {groups : List Group} {σ τ : Session}
    {reports : List GroupReport} {problem : Option Problem}
    (h : Runs s p groups σ reports problem τ) : reports.map GroupReport.heading
      = (headings s.options s.outputFolder p groups).take reports.length := by
  induction h with
  | done => rfl
  | stopped stop => rfl
  | next first others ih =>
    obtain ⟨x, hx⟩ := converted_of_ok first
    rw [hx.heading, List.map_cons, List.length_cons, List.take_succ_cons, ih]

/-! ## Stopped runs -/

/-- A run that was stopped at the thread group behind those with a listed script. -/
structure StoppedBehind (options : Options) (jmxPath outputFolder : String) (σ : Session)
    (scripts : List GroupReport) (problem : Problem) (e : Disk) : Prop where
  /-- The listed scripts are those of the first thread groups, none of which was stopped. -/
  finished : ((convertFirst scripts.length options jmxPath outputFolder).outcome σ).1
    = .ok (scripts, none)
  /-- There is a thread group behind these, and with it the problem comes up. -/
  further : scripts.length < (plannedGroups jmxPath σ).length
  stopped : ((convertFirst (scripts.length + 1) options jmxPath outputFolder).outcome σ).1
    = .ok (scripts, some problem)
  headed : scripts.map GroupReport.heading
    = (headings options (Path.parse outputFolder) {} (plannedGroups jmxPath σ)).take scripts.length
  /-- Where the folders of all later thread groups would be, there is what was there when the
  output folder was made. -/
  untouched : ∃ out, (σ.disk.ensureFolders (Path.parse outputFolder)).1.LeadsTo
      (Path.parse outputFolder) out
    ∧ ∀ name ∈ (scriptNames options.scriptPrefix {} (plannedGroups jmxPath σ)).drop
        (scripts.length + 1),
      Disk.SameFrom (out ++ [name]) (σ.disk.ensureFolders (Path.parse outputFolder)).1 e

theorem Runs.stoppedBehind {options : Options} {jmxPath outputFolder : String} {σ τ υ : Session}
    {groups : List Group} {setting : Setting} {warnings : List String} {out : Location}
    {scripts : List GroupReport} {problem : Problem}
    (h : Runs setting {} groups τ scripts (some problem) υ)
    (hprepare : (prepare options (Path.parse jmxPath) (Path.parse outputFolder)).outcome σ
      = (.ok (groups, setting, warnings), τ))
    (hbegun : Begun options jmxPath outputFolder σ groups setting τ out) :
    StoppedBehind options jmxPath outputFolder σ scripts problem υ.disk := by
  obtain ⟨hfurther, hstopped⟩ := h.stopped_at
  obtain ⟨q, ρ, hfinished, -, -⟩ := h.split (Nat.le_refl scripts.length)
  rw [List.take_length] at hfinished
  have hheaded := h.headings
  have hgrown := hstopped.grownTo hbegun.rooted hbegun.leads
  rw [hbegun.options, hbegun.folder, ← hbegun.groups] at hheaded
  rw [scriptNames_take, hbegun.options, ← hbegun.groups] at hgrown
  refine ⟨?_, hbegun.groups ▸ hfurther, ?_, hheaded, out, ?_, fun name hname => ?_⟩
  · rw [convertFirst_eq_ok hprepare hfinished]
  · rw [convertFirst_eq_ok hprepare hstopped]
  · rw [hbegun.made, ← hbegun.folder]
    exact hbegun.leads
  · rw [hbegun.made]
    exact hgrown.sameFrom fun htake => not_mem_drop_scriptNames htake hname

/-! ## Endings -/

/-- How a conversion that answers with a report ends. -/
structure Ending (options : Options) (jmxPath outputFolder : String) (σ : Session)
    (report : Report) (e : Disk) : Prop where
  /-- Success is told exactly if no error is. -/
  success : ("success", Json.bool true) ∈ report.members ↔ ("error", Json.null) ∈ report.members
  /-- Without a plan nothing is done and nothing is listed. -/
  unloaded : ∀ problem, ((Plan.load (Path.parse jmxPath).text).outcome σ).1 = .error problem →
    e = σ.disk ∧ report.scripts = [] ∧ report.warnings = [] ∧ report.problem = some problem
  /-- A success lists the scripts of all thread groups, in document order. -/
  finished : report.success = true → report.scripts.map GroupReport.heading
    = headings options (Path.parse outputFolder) {} (plannedGroups jmxPath σ)
  /-- With a plan, a problem is one with the output folder, or with one of the thread groups. -/
  stopped : ∀ problem root, report.problem = some problem →
    ((Plan.load (Path.parse jmxPath).text).outcome σ).1 = .ok root →
      (report.scripts = []
        ∧ ∃ trouble, σ.disk.ensureFolders (Path.parse outputFolder) = (e, .error trouble))
      ∨ StoppedBehind options jmxPath outputFolder σ report.scripts problem e
  /-- The warnings of the listed scripts stand behind one of the run itself, which is given for a
  plan without thread groups once the output folder is made. -/
  warnings : ∃ opening, report.warnings = opening ++ report.scripts.flatMap GroupReport.warnings
    ∧ (opening = [] ∨ opening = [noGroupsWarning])
    ∧ (opening = [noGroupsWarning]
      ↔ (∃ root, ((Plan.load (Path.parse jmxPath).text).outcome σ).1 = .ok root
          ∧ Plan.groups root = [])
        ∧ (σ.disk.ensureFolders (Path.parse outputFolder)).2 = .ok ())

theorem success_mem_members_iff (report : Report) :
    ("success", Json.bool true) ∈ report.members ↔ ("error", Json.null) ∈ report.members := by
  cases hproblem : report.problem <;> simp [Report.members, Report.success, textToJson, hproblem]

theorem ending_of_stopped_early {options : Options} {jmxPath outputFolder : String} {σ τ : Session}
    {problem : Problem}
    (h : (prepare options (Path.parse jmxPath) (Path.parse outputFolder)).outcome σ
      = (.error problem, τ)) :
    Ending options jmxPath outputFolder σ
      { jmxPath, outputFolder, problem := some problem } τ.disk := by
  rcases prepare_eq_error h with ⟨hload, rfl⟩ | ⟨root, trouble, hload, hmade⟩
  · refine ⟨success_mem_members_iff _, fun other hother => ⟨rfl, rfl, rfl, ?_⟩, nofun,
      fun _ _ _ hroot => ?_, [], rfl, .inl rfl, by simp [hload]⟩
    · rw [hload] at hother
      cases hother
      rfl
    · rw [hload] at hroot
      cases hroot
  · refine ⟨success_mem_members_iff _, fun other hother => ?_, nofun,
      fun _ _ _ _ => .inl ⟨rfl, trouble, hmade⟩, [], rfl, .inl rfl, by simp [hmade]⟩
    rw [hload] at hother
    cases hother

theorem ending_of_runs {options : Options} {jmxPath outputFolder : String} {σ τ υ : Session}
    {groups : List Group} {setting : Setting} {warnings : List String}
    {scripts : List GroupReport} {problem : Option Problem}
    (hworking : ∀ name ∈ σ.disk.workingFolder, IsEntryName name)
    (hprepare : (prepare options (Path.parse jmxPath) (Path.parse outputFolder)).outcome σ
      = (.ok (groups, setting, warnings), τ))
    (hruns : Runs setting {} groups τ scripts problem υ) :
    Ending options jmxPath outputFolder σ
      { jmxPath, outputFolder, scripts, problem
        warnings := warnings ++ scripts.flatMap GroupReport.warnings } υ.disk := by
  obtain ⟨out, hbegun⟩ := begun_of_prepare hworking hprepare
  obtain ⟨root, hload, hgroups, hmade, -, hwarnings⟩ := prepare_eq_ok hprepare
  refine ⟨success_mem_members_iff _, fun other hother => ?_, fun hsuccess => ?_,
    fun stop _ hstop _ => .inr ?_, warnings, rfl, ?_, ?_⟩
  · rw [hload] at hother
    cases hother
  · obtain rfl : problem = none := Option.isNone_iff_eq_none.mp hsuccess
    have hheaded := hruns.headings
    rw [hruns.length_eq, List.take_of_length_le (Nat.le_of_eq (length_headings ..)),
      hbegun.options,
      hbegun.folder] at hheaded
    rw [hbegun.groups]
    exact hheaded
  · obtain rfl : problem = some stop := hstop
    exact hruns.stoppedBehind hprepare hbegun
  · rw [hwarnings]
    split
    · exact .inr rfl
    · exact .inl rfl
  · rw [hwarnings, hmade, hload, hgroups]
    simp

/-- A conversion that answers with a report ends as it tells, be it a success or not. -/
theorem convert_ending {options : Options} {jmxPath outputFolder : String} {σ : Session}
    {report : Report} (hworking : ∀ name ∈ σ.disk.workingFolder, IsEntryName name)
    (h : ((convert options jmxPath outputFolder).outcome σ).1 = .ok report) :
    Ending options jmxPath outputFolder σ report
      ((convert options jmxPath outputFolder).outcome σ).2.disk := by
  rcases convert_cases options jmxPath outputFolder σ with ⟨problem, τ, hprepare, hconvert⟩
    | ⟨groups, setting, warnings, τ, scripts, problem, υ, hprepare, hruns, hconvert⟩
  · rw [hconvert] at h
    rw [hconvert, finish_outcome_disk, finish_eq_ok h rfl]
    exact ending_of_stopped_early hprepare
  · rw [hconvert] at h
    rw [hconvert, finish_outcome_disk, finish_eq_ok h rfl]
    exact ending_of_runs hworking hprepare hruns

/-- The conversion of the plan whose second thread group cannot be converted ends so. -/
theorem convert_ending_planWithBlockedFolder : ∃ report,
    ((convert {} "plan.jmx" "out").outcome planWithBlockedFolder).1 = .ok report
      ∧ report.success = false
      ∧ Ending {} "plan.jmx" "out" planWithBlockedFolder report
        ((convert {} "plan.jmx" "out").outcome planWithBlockedFolder).2.disk := by
  obtain ⟨report, hreport, hstopped⟩ := Option.map_eq_some_iff.mp outcome_planWithBlockedFolder
  have hconverted := Job.eq_ok_of_toOption_eq_some hreport
  exact ⟨report, hconverted, congrArg Prod.snd hstopped, convert_ending nofun hconverted⟩

end VuserScript.Conversion
