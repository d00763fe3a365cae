/-
  VuserScript.Proofs.Conversion.Accounts

  What becomes of each data set of a plan. Either a parameter set is recorded
  for it, with at most one warning for each copy of its file, or it is left out
  with a single warning; sets and warnings come in the order of the plan.
-/
import VuserScript.Inspection
import VuserScript.Proofs.Conversion.Agreement
import VuserScript.Proofs.Conversion.DataCopies
import VuserScript.Proofs.Storage.Looking

namespace VuserScript.Conversion

open Plan (DataSet)
open Script (ParameterSet)
open Storage (Disk Path Trouble)

/-! ## Accounts -/

/-- What becomes of a data set. -/
inductive Account where
  /-- A parameter set, with the warnings about copies of its file that failed. -/
  | recorded (set : ParameterSet) (failures : List String)
  /-- A warning in place of a parameter set. -/
  | leftOut (warning : String)

/-- The parameter set of an account. -/
def Account.set? : Account → Option ParameterSet
  | .recorded set _ => some set
  | .leftOut _ => none

/-- The warnings of an account. -/
def Account.warnings : Account → List String
  | .recorded _ failures => failures
  | .leftOut warning => [warning]

/-- A parameter set that agrees with the description of a data set. -/
structure AgreesWith (s : DataSource) (dataSet : DataSet) (set : ParameterSet) : Prop where
  variableNames : set.variableNames = dataSet.variableNames
  delimiter : set.delimiter = dataSet.delimiter
  /-- The structured values agree as well. -/
  members : ∀ name ∈ ["variable_names", "delimiter"],
    (parameterSetToJson set).member? name = (Inspection.dataSetToJson dataSet).member? name
  datFile : set.datFileName = none ↔ s.writeDatFiles = false

/-- Warnings about copies of a file that failed: at most one for each path that the file is copied
to, in the order of the copies. -/
def AreFailures (source : Path) (targets : List Path) (warnings : List String) : Prop :=
  ∃ failed : List (Path × Trouble), (failed.map Prod.fst).Sublist targets
    ∧ warnings = failed.map fun copy => copyWarning source copy.1 copy.2

/-- The account of a data set, if the disk is `d` before all data sets and `e` behind them. -/
inductive IsAccountOf (s : DataSource) (folder : Path) (d e : Disk) (dataSet : DataSet) :
    Account → Prop where
  /-- Its file is there, in the end at least. -/
  | recorded {source : Path} {set : ParameterSet} {failures : List String}
      (path : s.path? dataSet = some source) (present : e.exists? source = .ok true)
      (agrees : AgreesWith s dataSet set)
      (copies : AreFailures source (s.targets folder source dataSet) failures) :
      IsAccountOf s folder d e dataSet (.recorded set failures)
  /-- It has no file name, or a blank one. -/
  | unnamed (blank : ∀ name, dataSet.file = some name → Text.trim name = "") :
      IsAccountOf s folder d e dataSet (.leftOut (noFileWarning dataSet.name))
  /-- Its file was not there in the beginning. -/
  | missing {source : Path} (path : s.path? dataSet = some source)
      (absent : d.exists? source = .ok false) :
      IsAccountOf s folder d e dataSet
        (.leftOut (missingFileWarning (source.resolve d.workingFolder)))

/-- The paths that a file is copied to: one, and another if there are to be data files. -/
theorem length_targets (s : DataSource) (folder source : Path) (dataSet : DataSet) :
    (s.targets folder source dataSet).length = if s.writeDatFiles then 2 else 1 := by
  unfold DataSource.targets DataSource.parameterSet
  cases s.writeDatFiles <;> rfl

theorem path?_eq_none {s : DataSource} {dataSet : DataSet} (h : s.path? dataSet = none) :
    ∀ name, dataSet.file = some name → Text.trim name = "" := by
  intro name hname
  by_contra hne
  rw [DataSource.path?, hname, Option.map_some, Option.bind_some, if_neg hne] at h
  cases h

section

variable {s : DataSource} {folder source : Path} {d e : Disk} {dataSet : DataSet}

theorem agreesWith_parameterSet (s : DataSource) (folder source : Path) (dataSet : DataSet) :
    AgreesWith s dataSet (s.parameterSet folder source dataSet) where
  variableNames := rfl
  delimiter := rfl
  members := by
    intro name hname
    rcases List.mem_pair.mp hname with rfl | rfl <;> rfl
  datFile := by
    unfold DataSource.parameterSet
    cases s.writeDatFiles <;> simp

/-- What holds of a file from the beginning or to the end does so for shorter times, too. -/
theorem IsAccountOf.earlier {c : Disk} {account : Account}
    (h : IsAccountOf s folder d e dataSet account) (hcd : Disk.KeepsFolders c d) :
    IsAccountOf s folder c e dataSet account := by
  cases h with
  | recorded path present agrees copies => exact .recorded path present agrees copies
  | unnamed blank => exact .unnamed blank
  | missing path absent =>
    rw [hcd.workingFolder]
    exact .missing path (Disk.KeepsFolders.exists?_eq_false hcd absent)

/-! ## Copies -/

theorem Copied.keepsFolders {target : Path} {warnings : List String}
    (h : Copied source target d warnings e) : Disk.KeepsFolders d e := by
  rcases h with ⟨hcopy, -⟩ | ⟨trouble, -, rfl, -⟩
  · exact Disk.keepsFolders_of_copy hcopy
  · exact .refl _ _ _

theorem CopiedTo.keepsFolders {targets : List Path} {warnings : List String}
    (h : CopiedTo source targets d warnings e) : Disk.KeepsFolders d e := by
  induction targets generalizing d warnings with
  | nil =>
    obtain ⟨rfl, -⟩ := h
    exact .refl _ _ _
  | cons target targets ih =>
    obtain ⟨c, first, others, hfirst, hothers, -⟩ := h
    exact hfirst.keepsFolders.trans (ih hothers)

theorem CopiedTo.areFailures {targets : List Path} {warnings : List String}
    (h : CopiedTo source targets d warnings e) : AreFailures source targets warnings := by
  induction targets generalizing d warnings with
  | nil =>
    obtain ⟨-, rfl⟩ := h
    exact ⟨[], .slnil, rfl⟩
  | cons target targets ih =>
    obtain ⟨c, first, others, hfirst, hothers, rfl⟩ := h
    obtain ⟨failed, hsublist, rfl⟩ := ih hothers
    rcases hfirst with ⟨-, rfl⟩ | ⟨trouble, -, -, rfl⟩
    · exact ⟨failed, hsublist.cons target, rfl⟩
    · exact ⟨(target, trouble) :: failed, hsublist.cons_cons target, rfl⟩

theorem Placed.keepsFolders {dataSets : List DataSet} {sets : List ParameterSet}
    {warnings : List String} (h : Placed s folder dataSets d sets warnings e) :
    Disk.KeepsFolders d e := by
  induction h with
  | nil => exact .refl _ _ _
  | unnamed path others ih => exact ih
  | missing path absent others ih => exact ih
  | found path present copies others ih => exact copies.keepsFolders.trans ih

/-! ## All data sets -/

/-- Sets and warnings are those of the accounts, one for each data set. -/
theorem Placed.accounts {dataSets : List DataSet} {sets : List ParameterSet}
    {warnings : List String} (h : Placed s folder dataSets d sets warnings e) :
    ∃ accounts, List.Forall₂ (IsAccountOf s folder d e) dataSets accounts
      ∧ sets = accounts.filterMap Account.set? ∧ warnings = accounts.flatMap Account.warnings := by
  induction h with
  | nil => exact ⟨[], .nil, rfl, rfl⟩
  | @unnamed dataSet rest sets warnings d e path others ih =>
    obtain ⟨accounts, hall, rfl, rfl⟩ := ih
    exact ⟨_, .cons (.unnamed (path?_eq_none path)) hall, rfl, rfl⟩
  | @missing dataSet rest source sets warnings d e path absent others ih =>
    obtain ⟨accounts, hall, rfl, rfl⟩ := ih
    exact ⟨_, .cons (.missing path absent) hall, rfl, rfl⟩
  | @found dataSet rest source sets own warnings c d e path present copies others ih =>
    obtain ⟨accounts, hall, rfl, rfl⟩ := ih
    -- the file is found before it is copied, and so it is behind all copies
    have hgrown : Disk.KeepsFolders d e := copies.keepsFolders.trans others.keepsFolders
    have hown : IsAccountOf s folder d e dataSet
        (.recorded (s.parameterSet folder source dataSet) own) :=
      .recorded path (Disk.KeepsFolders.exists?_eq_true hgrown present)
        (agreesWith_parameterSet s folder source dataSet) copies.areFailures
    exact ⟨_, .cons hown (hall.imp fun _ _ h => h.earlier copies.keepsFolders), rfl, rfl⟩

/-! ## Counts -/

theorem not_isCopyWarning {w : String} (h : w.toList.head? = some 'C') : ¬ IsCopyWarning w := by
  rintro ⟨rest, hrest⟩
  rw [← hrest] at h
  exact absurd h (by simp)

theorem AreFailures.isCopyWarning {targets : List Path} {warnings : List String}
    (h : AreFailures source targets warnings) : ∀ w ∈ warnings, IsCopyWarning w := by
  intro w hw
  obtain ⟨failed, -, rfl⟩ := h
  obtain ⟨copy, -, rfl⟩ := List.mem_map.mp hw
  exact isCopyWarning_copyWarning source copy.1 copy.2

theorem AreFailures.length_le {targets : List Path} {warnings : List String}
    (h : AreFailures source targets warnings) : warnings.length ≤ targets.length := by
  obtain ⟨failed, hsublist, rfl⟩ := h
  have hlength := hsublist.length_le
  rwa [List.length_map] at hlength ⊢

/-- A warning about something else than a copy stands for a data set by itself. -/
theorem counts_leftOut {w : String} (h : w.toList.head? = some 'C') (bound : Nat) :
    (Account.leftOut w).set?.toList.length
        + (Account.leftOut w).warnings.countP (¬ IsCopyWarning ·) = 1
      ∧ (Account.leftOut w).warnings.countP (IsCopyWarning ·)
        ≤ bound * (Account.leftOut w).set?.toList.length := by
  have hno := not_isCopyWarning h
  simp [Account.set?, Account.warnings, hno]

/-- A data set has one account: a parameter set or a warning that is about no copy, and the
warnings about copies go with the parameter set. -/
theorem IsAccountOf.counts {account : Account} (h : IsAccountOf s folder d e dataSet account) :
    account.set?.toList.length + account.warnings.countP (¬ IsCopyWarning ·) = 1
      ∧ account.warnings.countP (IsCopyWarning ·)
        ≤ (if s.writeDatFiles then 2 else 1) * account.set?.toList.length := by
  cases h with
  | @recorded source set failures path present agrees copies =>
    have hcopy := copies.isCopyWarning
    have hnone : failures.countP (¬ IsCopyWarning ·) = 0 :=
      List.countP_eq_zero.mpr fun w hw => by simpa using hcopy w hw
    have hlength := copies.length_le
    rw [length_targets] at hlength
    simp only [Account.set?, Account.warnings, Option.toList_some, List.length_singleton, hnone,
      Nat.mul_one]
    exact ⟨trivial, List.countP_le_length.trans hlength⟩
  | unnamed blank =>
    have hhead : (noFileWarning dataSet.name).toList.head? = some 'C' :=
      head?_toList_append (head?_toList_append (by decide) dataSet.name) _
    exact counts_leftOut hhead _
  | @missing source path absent =>
    have hhead : (missingFileWarning (source.resolve d.workingFolder)).toList.head? = some 'C' :=
      head?_toList_append (by decide) _
    exact counts_leftOut hhead _

theorem counts_accounts {dataSets : List DataSet} {accounts : List Account}
    (h : List.Forall₂ (IsAccountOf s folder d e) dataSets accounts) :
    (accounts.filterMap Account.set?).length
        + (accounts.flatMap Account.warnings).countP (¬ IsCopyWarning ·) = dataSets.length
      ∧ (accounts.flatMap Account.warnings).countP (IsCopyWarning ·)
        ≤ (if s.writeDatFiles then 2 else 1) * (accounts.filterMap Account.set?).length := by
  induction h with
  | nil => simp
  | @cons dataSet account dataSets accounts hone hall ih =>
    obtain ⟨hsum, hbound⟩ := hone.counts
    obtain ⟨hsums, hbounds⟩ := ih
    have hsets : ((account :: accounts).filterMap Account.set?).length
        = account.set?.toList.length + (accounts.filterMap Account.set?).length := by
      cases hset : account.set? <;> simp [hset, Nat.add_comm]
    rw [hsets, List.flatMap_cons, List.countP_append, List.countP_append, List.length_cons,
      Nat.mul_add]
    omega

end

/-- Whatever a plan and the files are: if its data sets are brought into a folder, each of them has
one account, and these give all parameter sets and all warnings in document order. So the number of
data sets is that of the sets and of the warnings that are about no copy, and there are at most two
other warnings for each set, or one if no data files are written. -/
theorem accounts_placeAll {s : DataSource} {folder : Path} {root : Xml.Element}
    {sets : List ParameterSet} {warnings : List String} {σ τ : Session}
    (h : (s.placeAll folder (Plan.dataSets root)).outcome σ = (.ok (sets, warnings), τ)) :
    (∃ accounts,
        List.Forall₂ (IsAccountOf s folder σ.disk τ.disk) (Plan.dataSets root) accounts
          ∧ sets = accounts.filterMap Account.set?
          ∧ warnings = accounts.flatMap Account.warnings)
      ∧ sets.length + warnings.countP (¬ IsCopyWarning ·)
        = (Plan.sitesOf root Plan.csvDataSet).length
      ∧ warnings.countP (IsCopyWarning ·)
        ≤ (if s.writeDatFiles then 2 else 1) * sets.length := by
  obtain ⟨accounts, hall, hsets, hwarnings⟩ := (placed_placeAll h).accounts
  obtain ⟨hsum, hbound⟩ := counts_accounts hall
  have hlength : (Plan.dataSets root).length = (Plan.sitesOf root Plan.csvDataSet).length := by
    rw [Plan.dataSets, List.length_mapIdx]
  refine ⟨⟨accounts, hall, hsets, hwarnings⟩, ?_, ?_⟩
  · rw [hsets, hwarnings, hsum, hlength]
  · rw [hsets, hwarnings]
    exact hbound

/-! ## A plan with data sets of every kind -/

/-- A plan with data sets whose files are blank, missing, a folder and a file. -/
def planWithAllKinds : String :=
  "<jmeterTestPlan><hashTree>"
    ++ "<CSVDataSet testname=\"Blank\"><stringProp name=\"filename\"> </stringProp></CSVDataSet>"
    ++ "<CSVDataSet><stringProp name=\"filename\">gone.csv</stringProp></CSVDataSet>"
    ++ "<CSVDataSet><stringProp name=\"filename\">sub</stringProp></CSVDataSet>"
    ++ "<CSVDataSet><stringProp name=\"filename\">rows.csv</stringProp>"
    ++ "<stringProp name=\"variableNames\">a, b</stringProp>"
    ++ "<stringProp name=\"delimiter\">;</stringProp></CSVDataSet></hashTree></jmeterTestPlan>"

/-- Their files, and a folder for a script. -/
def filesOfAllKinds : Session where
  disk :=
    { tree := ⟨[(["rows.csv"], .file "1;2".toUTF8), (["sub"], .folder), (["out"], .folder)]⟩
      workingFolder := [] }

theorem outcome_planWithAllKinds :
    (Xml.Document.parse planWithAllKinds).toOption.map (fun root =>
        ((DataSource.placeAll ⟨⟨.absolute, []⟩, true⟩ ⟨.absolute, ["out"]⟩
          (Plan.dataSets root)).outcome filesOfAllKinds).1.toOption)
      = some (some
          ([⟨"sub", some "sub.dat", [], ","⟩, ⟨"rows.csv", some "rows.dat", ["a", "b"], ";"⟩],
            ["CSV Data Set 'Blank' has no filename, skipped.", "CSV file not found: /gone.csv",
              "Failed to copy /sub to /out/sub: [Errno 21] Is a directory: '/sub'",
              "Failed to copy /sub to /out/sub.dat: [Errno 21] Is a directory: '/sub'"])) := by
  decide +kernel

theorem accounts_planWithAllKinds : ∃ root sets warnings τ,
    (DataSource.placeAll ⟨⟨.absolute, []⟩, true⟩ ⟨.absolute, ["out"]⟩
        (Plan.dataSets root)).outcome filesOfAllKinds = (.ok (sets, warnings), τ)
      ∧ warnings.length = 4
      ∧ sets.length + warnings.countP (¬ IsCopyWarning ·)
        = (Plan.sitesOf root Plan.csvDataSet).length
      ∧ ∃ accounts, List.Forall₂
          (IsAccountOf ⟨⟨.absolute, []⟩, true⟩ ⟨.absolute, ["out"]⟩ filesOfAllKinds.disk τ.disk)
          (Plan.dataSets root) accounts
        ∧ sets = accounts.filterMap Account.set?
        ∧ warnings = accounts.flatMap Account.warnings := by
  obtain ⟨root, -, houtcome⟩ := Option.map_eq_some_iff.mp outcome_planWithAllKinds
  have hplaced := Job.eq_ok_of_toOption_eq_some houtcome
  obtain ⟨haccounts, hcount, -⟩ := accounts_placeAll (Prod.ext hplaced rfl)
  exact ⟨root, _, _, _, Prod.ext hplaced rfl, rfl, hcount, haccounts⟩

end VuserScript.Conversion
