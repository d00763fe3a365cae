/-
  VuserScript.Proofs.Conversion.Beginnings

  A conversion against conversions of the first thread groups of the same plan.
  A run over all thread groups starts with the run over the first of them: up to
  there the reports and the disk are the same, and the rest goes on from them.
-/
import VuserScript.Proofs.Conversion.Confinement

namespace VuserScript.Conversion

open Plan (Group)
open Storage (Disk IsEntryName Location Path)

/-! ## Runs in two parts -/

section

variable {s : Setting} {p : Progress} {groups : List Group} {σ τ : Session}
  {reports : List GroupReport} {problem : Option Problem} {k : Nat}

theorem scriptNames_take (scriptPrefix : String) (p : Progress) (groups : List Group) (k : Nat) :
    scriptNames scriptPrefix p (groups.take k) = (scriptNames scriptPrefix p groups).take k := by
  induction groups generalizing p k with
  | nil => simp [scriptNames, folderNames]
  | cons g groups ih =>
    cases k with
    | zero => rfl
    | succ k =>
      rw [List.take_succ_cons, scriptNames_cons, scriptNames_cons, List.take_succ_cons, ih]

theorem nodup_scriptNames (scriptPrefix : String) (p : Progress) (groups : List Group) :
    (scriptNames scriptPrefix p groups).Nodup :=
  (nodup_folderNames scriptPrefix p.taken _).1.of_map folded

/-- A name that is given to one of the first thread groups is given to no other one. -/
theorem not_mem_drop_scriptNames {scriptPrefix name : String}
    (h : name ∈ (scriptNames scriptPrefix p groups).take k) :
    name ∉ (scriptNames scriptPrefix p groups).drop k :=
  List.disjoint_take_drop (nodup_scriptNames scriptPrefix p groups) (Nat.le_refl k) h

/-- A run is one over as many of the first thread groups as one likes, if they were finished, and
then one over the others. -/
theorem Runs.split (h : Runs s p groups σ reports problem τ) (hk : k ≤ reports.length) :
    ∃ q υ, Runs s p (groups.take k) σ (reports.take k) none υ
      ∧ Runs s q (groups.drop k) υ (reports.drop k) problem τ
      ∧ scriptNames s.options.scriptPrefix q (groups.drop k)
        = (scriptNames s.options.scriptPrefix p groups).drop k := by
  induction k generalizing p groups σ reports with
  | zero => exact ⟨p, σ, .done, h, rfl⟩
  | succ k ih =>
    cases h with
    | done => simp at hk
    | stopped stop => simp at hk
    | next first others =>
      obtain ⟨q, υ, hfirst, hrest, hnames⟩ := ih others (Nat.le_of_succ_le_succ hk)
      obtain ⟨x, hx⟩ := converted_of_ok first
      rw [hx.scriptNames_cons]
      exact ⟨q, υ, .next first hfirst, hrest, hnames⟩

/-- A run that was not stopped finished all thread groups. -/
theorem Runs.length_eq (h : Runs s p groups σ reports none τ) :
    reports.length = groups.length := by
  generalize hnone : none = problem at h
  induction h with
  | done => rfl
  | stopped stop => cases hnone
  | next first others ih => simp [ih hnone]

/-- A run that was stopped does not get beyond the thread group that it was stopped at. -/
theorem Runs.stopped_at {stop : Problem} (h : Runs s p groups σ reports (some stop) τ) :
    reports.length < groups.length
      ∧ Runs s p (groups.take (reports.length + 1)) σ reports (some stop) τ := by
  generalize hsome : some stop = problem at h
  induction h with
  | done => cases hsome
  | stopped failed =>
    cases hsome
    exact ⟨by simp, .stopped failed⟩
  | next first others ih =>
    obtain ⟨hlength, hruns⟩ := ih hsome
    exact ⟨Nat.succ_lt_succ hlength, .next first hruns⟩

end

/-! ## Conversions of the first thread groups -/

/-- The thread groups of the plan in a file; none if it cannot be loaded. -/
def plannedGroups (jmxPath : String) (σ : Session) : List Group :=
  ((Plan.load (Path.parse jmxPath).text).outcome σ).1.toOption.elim [] Plan.groups

/-- The conversion of the first `k` thread groups of a plan, as if it had no others: the finished
reports, and the problem that stopped it if there is one. -/
def convertFirst (k : Nat) (options : Options) (jmxPath outputFolder : String) :
    Job (List GroupReport × Option Problem) := do
  let (groups, setting, _) ← prepare options (Path.parse jmxPath) (Path.parse outputFolder)
  ExceptT.lift (convertGroups setting {} (groups.take k))

variable {options : Options} {jmxPath outputFolder : String} {σ τ υ : Session}
  {groups : List Group} {setting : Setting} {warnings : List String} {out : Location}

theorem convertFirst_eq_ok {k : Nat} {reports : List GroupReport} {problem : Option Problem}
    (hprepare : (prepare options (Path.parse jmxPath) (Path.parse outputFolder)).outcome σ
      = (.ok (groups, setting, warnings), τ))
    (h : Runs setting {} (groups.take k) τ reports problem υ) :
    (convertFirst k options jmxPath outputFolder).outcome σ = (.ok (reports, problem), υ) := by
  rw [convertFirst, Job.outcome_bind, hprepare]
  simp only [Job.outcome_lift, h.run_eq]

/-- The beginning of a run: the thread groups are those of the plan, and the output folder is there,
at a location. -/
structure Begun (options : Options) (jmxPath outputFolder : String) (σ : Session)
    (groups : List Group) (s : Setting) (τ : Session) (out : Location) : Prop where
  groups : plannedGroups jmxPath σ = groups
  options : s.options = options
  folder : s.outputFolder = Path.parse outputFolder
  rooted : IsRooted s.source.folder
  made : (σ.disk.ensureFolders (Path.parse outputFolder)).1 = τ.disk
  leads : τ.disk.LeadsTo s.outputFolder out

theorem begun_of_prepare (hworking : ∀ name ∈ σ.disk.workingFolder, IsEntryName name)
    (h : (prepare options (Path.parse jmxPath) (Path.parse outputFolder)).outcome σ
      = (.ok (groups, setting, warnings), τ)) :
    ∃ out, Begun options jmxPath outputFolder σ groups setting τ out := by
  obtain ⟨root, hload, rfl, hmade, rfl, -⟩ := prepare_eq_ok h
  have hgrown := Disk.grownTo_of_ensureFolders σ.disk (Path.parse outputFolder)
  rw [hmade] at hgrown
  have hnames : ∀ name ∈ τ.disk.workingFolder, IsEntryName name :=
    hgrown.workingFolder ▸ hworking
  obtain ⟨out, hout⟩ := Disk.isFolder_iff.mp (Disk.isFolder_of_ensureFolders hmade)
  have hgroups : plannedGroups jmxPath σ = Plan.groups root := by
    rw [plannedGroups, hload, Except.toOption, Option.elim_some]
  exact ⟨out, hgroups, rfl, rfl, isRooted_settingOf hnames, congrArg Prod.fst hmade, hout⟩

/-! ## A conversion that is stopped -/

/-- A plan with two thread groups and a data file that is called like a file of a script. Where the
folder of the second script should be, there is a file. -/
def planWithBlockedFolder : Session where
  disk :=
    { tree := ⟨[(["data"], .folder), (["data", "Action.c"], .file "1".toUTF8), (["out"], .folder),
        (["out", "Script_B"], .file "".toUTF8),
        (["plan.jmx"], .file ("<jmeterTestPlan><hashTree><ThreadGroup testname=\"A\"/><hashTree>"
          ++ "<HTTPSamplerProxy testname=\"S\"/><hashTree/><CSVDataSet>"
          ++ "<stringProp name=\"filename\">data/Action.c</stringProp></CSVDataSet></hashTree>"
          ++ "<ThreadGroup testname=\"B\"/><hashTree/></hashTree></jmeterTestPlan>").toUTF8)]⟩
      workingFolder := [] }

/-- The first thread group is converted, the second one stops the run. -/
theorem outcome_planWithBlockedFolder :
    ((convert {} "plan.jmx" "out").outcome planWithBlockedFolder).1.toOption.map
        (fun report => (report.scripts.map GroupReport.name, report.success))
      = some (["A"], false) := by
  decide +kernel

end VuserScript.Conversion
