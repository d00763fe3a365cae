/-
  VuserScript.Proofs.Conversion.Loading

  What comes of loading a plan, whatever is at its path. There is a plan, or a
  problem that conversions foresee, unless the system refuses to look for the
  path or the document in the file names an encoding that is refused.
  Conversions without a plan change no files, and report the problem if it is
  foreseen.
-/
import VuserScript.Proofs.Conversion.Steps
import VuserScript.Proofs.Storage.Looking
import VuserScript.Proofs.Xml.Declared

namespace VuserScript.Conversion

open Storage (Cause Disk Path Trouble)

/-! ## Loading -/

/-- The problems with what is at the path of a plan that conversions do not foresee: the system
refuses to look for the path, or the document names an encoding that is refused. -/
inductive Unforeseen (d : Disk) (p : Path) : Problem → Prop where
  | path {cause : Cause} (refuses : d.Refuses p cause) :
      Unforeseen d p (.storage (.system cause p.text))
  | encoding {bytes : ByteArray} {failure : Xml.Failure} (read : d.read p = .ok bytes)
      (refused : Xml.Document.NamesRefused bytes.data.toList failure) :
      Unforeseen d p (.encoding failure)

theorem Unforeseen.isForeseen {d : Disk} {p : Path} {problem : Problem}
    (h : Unforeseen d p problem) : problem.isForeseen = false := by
  cases h <;> rfl

/-- The root element of a plan, or a problem with the plan. -/
def IsPlanOrProblem : Except Problem Xml.Element → Prop
  | .ok root => root.tag = Plan.rootTag
  | .error problem => ∃ planProblem, problem = .plan planProblem

section

variable {path : String} {σ : Session} {bytes : ByteArray}

theorem load_of_refuses {cause : Cause} (h : σ.disk.Refuses (Path.parse path) cause) :
    (Plan.load path).outcome σ
      = (.error (.storage (.system cause (Path.parse path).text)), σ) := by
  have hthere := Disk.exists?_eq_error_iff.mpr ⟨cause, h, rfl⟩
  simp only [Plan.load, Job.outcome_bind, Job.outcome_disk, hthere]
  rfl

theorem load_of_missing (h : σ.disk.exists? (Path.parse path) = .ok false) :
    (Plan.load path).outcome σ = (.error (.plan (.missing path)), σ) := by
  simp only [Plan.load, Job.outcome_bind, Job.outcome_disk, h]
  rfl

theorem load_of_unreadable {trouble : Trouble} (h : σ.disk.exists? (Path.parse path) = .ok true)
    (hread : σ.disk.read (Path.parse path) = .error trouble) :
    (Plan.load path).outcome σ = (.error (.plan (.unreadable trouble)), σ) := by
  have hne : trouble ≠ .zeroCharacter := by
    rintro rfl
    exact Disk.read_ne_zeroCharacter (Disk.hasNoZero_of_exists h) hread
  simp only [Plan.load, Job.outcome_bind, Job.outcome_disk, h, Job.outcome_orTrouble_ok, hread]
  cases trouble with
  | zeroCharacter => exact absurd rfl hne
  | _ => rfl

theorem load_of_read (h : σ.disk.read (Path.parse path) = .ok bytes) :
    ((Plan.load path).outcome σ).1
      = match Xml.Document.read bytes with
        | .ok root =>
          if root.tag = Plan.rootTag then .ok root else .error (.plan (.wrongRoot root.tag))
        | .error (.malformed problem) => .error (.plan (.malformed problem))
        | .error failure => .error (.encoding failure) := by
  have hthere := Disk.exists?_of_read h
  simp only [Plan.load, Job.outcome_bind, Job.outcome_disk, hthere, Job.outcome_orTrouble_ok, h,
    if_true]
  cases Xml.Document.read bytes with
  | ok root => by_cases htag : root.tag = Plan.rootTag <;> simp [htag]
  | error failure => cases failure <;> rfl

/-- A problem that is not foreseen is what comes of loading, whatever else is the case. -/
theorem Unforeseen.load {problem : Problem} (h : Unforeseen σ.disk (Path.parse path) problem) :
    ((Plan.load path).outcome σ).1 = .error problem := by
  cases h with
  | path refuses => rw [load_of_refuses refuses]
  | @encoding bytes failure read refused =>
    obtain ⟨herror, hno⟩ := Xml.Document.ofBytes_eq_error_iff.mpr refused
    rw [load_of_read read, Xml.Document.read, herror]
    cases failure with
    | malformed problem => exact absurd trivial hno
    | _ => rfl

theorem isPlanOrProblem_of_read (h : σ.disk.read (Path.parse path) = .ok bytes)
    (haccepted : ∀ failure, ¬ Xml.Document.NamesRefused bytes.data.toList failure) :
    IsPlanOrProblem ((Plan.load path).outcome σ).1 := by
  rw [load_of_read h]
  cases hread : Xml.Document.read bytes with
  | ok root =>
    by_cases htag : root.tag = Plan.rootTag
    · simp only [htag, if_true]
      exact htag
    · simp only [htag, if_false]
      exact ⟨_, rfl⟩
  | error failure =>
    have hmalformed : failure.IsMalformed := by
      by_contra hno
      exact haccepted failure (Xml.Document.ofBytes_eq_error_iff.mp ⟨hread, hno⟩)
    cases failure with
    | malformed problem => exact ⟨_, rfl⟩
    | _ => exact hmalformed.elim

theorem isPlanOrProblem_of_foreseen
    (h : ∀ problem, ¬ Unforeseen σ.disk (Path.parse path) problem) :
    IsPlanOrProblem ((Plan.load path).outcome σ).1 := by
  cases hthere : σ.disk.exists? (Path.parse path) with
  | error trouble =>
    obtain ⟨cause, hrefuses, -⟩ := Disk.exists?_eq_error_iff.mp hthere
    exact absurd (.path hrefuses) (h _)
  | ok isThere =>
    cases hread : σ.disk.read (Path.parse path) with
    | ok bytes =>
      exact isPlanOrProblem_of_read hread fun failure hrefused =>
        h _ (.encoding hread hrefused)
    | error trouble =>
      cases isThere with
      | false =>
        rw [load_of_missing hthere]
        exact ⟨_, rfl⟩
      | true =>
        rw [load_of_unreadable hthere hread]
        exact ⟨_, rfl⟩

/-- Loading gives a plan or a problem with it if and only if no problem comes up that conversions do
not foresee. -/
theorem isPlanOrProblem_iff (path : String) (σ : Session) :
    IsPlanOrProblem ((Plan.load path).outcome σ).1
      ↔ ∀ problem, ¬ Unforeseen σ.disk (Path.parse path) problem := by
  refine ⟨fun h problem hproblem => ?_, isPlanOrProblem_of_foreseen⟩
  rw [hproblem.load] at h
  obtain ⟨planProblem, rfl⟩ := h
  cases hproblem

end

/-! ## Conversions -/

theorem parse_text_parse (s : String) : Path.parse (Path.parse s).text = Path.parse s :=
  Path.parse_text fun _ hpart => Path.isPart_of_mem_parse hpart

/-- Conversions load a plan from the normal form of its path, which makes no difference to whether
there is one. -/
theorem load_text_eq_ok_iff {path : String} {σ : Session} {root : Xml.Element} :
    ((Plan.load (Path.parse path).text).outcome σ).1 = .ok root
      ↔ ((Plan.load path).outcome σ).1 = .ok root := by
  have hwhole : ∀ p : String, ((Plan.load p).outcome σ).1 = .ok root
      ↔ (Plan.load p).outcome σ = (.ok root, σ) := by
    intro p
    refine ⟨fun h => Prod.ext h (load_outcome_snd p σ), fun h => ?_⟩
    rw [h]
  rw [hwhole, hwhole, load_eq_ok_iff, load_eq_ok_iff, parse_text_parse]

/-- A conversion without a plan changes no files. If the problem is foreseen, it is reported;
otherwise there is no report. -/
theorem convert_of_no_plan {jmxPath : String} {σ : Session} {problem : Problem}
    (options : Options) (outputFolder : String)
    (h : ((Plan.load (Path.parse jmxPath).text).outcome σ).1 = .error problem) :
    ((convert options jmxPath outputFolder).outcome σ).2.disk = σ.disk
      ∧ ((convert options jmxPath outputFolder).outcome σ).1
        = if problem.isForeseen then .ok { jmxPath, outputFolder, problem := some problem }
          else .error problem := by
  have hload : (Plan.load (Path.parse jmxPath).text).outcome σ = (.error problem, σ) :=
    Prod.ext h (load_outcome_snd _ σ)
  have hprepare : (prepare options (Path.parse jmxPath) (Path.parse outputFolder)).outcome σ
      = (.error problem, σ) := by
    simp only [prepare, Job.outcome_bind, hload]
  rw [Job.outcome] at hprepare
  simp only [convert, Job.outcome_bind, Job.outcome_lift, hprepare]
  refine ⟨finish_outcome_disk _ _ σ, ?_⟩
  cases hforeseen : problem.isForeseen <;> simp only [finish, hforeseen] <;> rfl

/-- Where no folder can be at the path of the output, there is a report only if there is no plan;
nothing has been changed then. -/
theorem convert_of_zero {o : Options} {jmxPath outputFolder : String} {σ : Session}
    {report : Report} (hzero : ¬ (Path.parse outputFolder).HasNoZero)
    (h : ((convert o jmxPath outputFolder).outcome σ).1 = .ok report) :
    ((convert o jmxPath outputFolder).outcome σ).2.disk = σ.disk ∧ report.success = false := by
  cases hload : ((Plan.load (Path.parse jmxPath).text).outcome σ).1 with
  | error problem =>
    obtain ⟨hdisk, hanswer⟩ := convert_of_no_plan o outputFolder hload
    refine ⟨hdisk, ?_⟩
    rw [hanswer] at h
    split at h <;> cases h
    rfl
  | ok root =>
    have hwhole : (Plan.load (Path.parse jmxPath).text).outcome σ = (.ok root, σ) :=
      Prod.ext hload (load_outcome_snd _ σ)
    have hprepare : (prepare o (Path.parse jmxPath) (Path.parse outputFolder)).outcome σ
        = (.error (.storage .zeroCharacter), σ) := by
      simp only [prepare, Job.outcome_bind, hwhole, makeFolders, Job.outcome_disk,
        Job.outcome_setDisk, Disk.ensureFolders_of_zero hzero]
      rfl
    -- the trouble with the folder is not foreseen, so that there is no report
    rw [Job.outcome] at hprepare
    simp only [convert, Job.outcome_bind, Job.outcome_lift, hprepare] at h
    cases h

/-- A conversion reports that there is no plan: it has failed, with no scripts. -/
def ReportsNoPlan : Except Problem Report → Prop
  | .ok report => report.success = false ∧ report.scripts = []
    ∧ ∃ problem, report.problem = some (.plan problem)
  | .error _ => False

/-- For every path and whatever files there are: loading the plan gives a root element with the tag
of a plan, or a problem with the plan, unless a problem comes up that conversions do not foresee;
this is what comes of loading then. Without a root element, a conversion changes nothing, and it
reports that there is no plan unless it is stopped by such a problem. -/
theorem load_foreseen_iff (options : Options) (jmxPath outputFolder : String) (σ : Session) :
    (IsPlanOrProblem ((Plan.load jmxPath).outcome σ).1
        ↔ ∀ problem, ¬ Unforeseen σ.disk (Path.parse jmxPath) problem)
      ∧ (∀ problem, Unforeseen σ.disk (Path.parse jmxPath) problem →
        ((Plan.load jmxPath).outcome σ).1 = .error problem)
      ∧ ((Plan.load jmxPath).outcome σ).2 = σ
      ∧ ((∀ root, ((Plan.load jmxPath).outcome σ).1 ≠ .ok root) →
        ((convert options jmxPath outputFolder).outcome σ).2.disk = σ.disk
          ∧ (ReportsNoPlan ((convert options jmxPath outputFolder).outcome σ).1
            ↔ ∀ problem, ¬ Unforeseen σ.disk (Path.parse jmxPath) problem)
          ∧ ∀ problem, Unforeseen σ.disk (Path.parse jmxPath) problem →
            ((convert options jmxPath outputFolder).outcome σ).1 = .error problem) := by
  refine ⟨isPlanOrProblem_iff jmxPath σ, fun problem h => h.load, load_outcome_snd jmxPath σ,
    fun hno => ?_⟩
  cases hload : ((Plan.load (Path.parse jmxPath).text).outcome σ).1 with
  | ok root => exact absurd (load_text_eq_ok_iff.mp hload) (hno root)
  | error problem =>
    obtain ⟨hdisk, hanswer⟩ := convert_of_no_plan options outputFolder hload
    have hescapes : ∀ other, Unforeseen σ.disk (Path.parse jmxPath) other →
        ((convert options jmxPath outputFolder).outcome σ).1 = .error other := by
      intro other hother
      rw [← parse_text_parse] at hother
      obtain rfl : problem = other := Except.error.inj (hload.symm.trans hother.load)
      rw [hanswer, hother.isForeseen]
      rfl
    refine ⟨hdisk, ⟨fun hreports other hother => ?_, fun hforeseen => ?_⟩, hescapes⟩
    · rw [hescapes other hother] at hreports
      exact hreports
    · have hproblem := isPlanOrProblem_iff (Path.parse jmxPath).text σ
      rw [parse_text_parse, hload] at hproblem
      obtain ⟨planProblem, rfl⟩ := hproblem.mpr hforeseen
      rw [hanswer]
      exact ⟨rfl, rfl, planProblem, rfl⟩

/-! ## An encoding that does not exist -/

/-- A plan whose declaration names an encoding that there is not. -/
def planInNoEncoding : Session where
  disk :=
    { tree := ⟨[(["plan.jmx"], .file
        "<?xml version=\"1.0\" encoding=\"koi-9\"?><jmeterTestPlan/>".toUTF8)]⟩
      workingFolder := [] }

theorem outcome_planInNoEncoding :
    ((Plan.load "plan.jmx").outcome planInNoEncoding).1.map (fun _ => ())
      = .error (.encoding (.noSuchEncoding "koi-9")) := by
  decide +kernel

theorem load_planInNoEncoding : ((Plan.load "plan.jmx").outcome planInNoEncoding).1
    = .error (.encoding (.noSuchEncoding "koi-9")) := by
  have houtcome := outcome_planInNoEncoding
  cases hload : ((Plan.load "plan.jmx").outcome planInNoEncoding).1 with
  | ok root =>
    rw [hload] at houtcome
    cases houtcome
  | error problem =>
    rw [hload] at houtcome
    cases houtcome
    rfl

/-- Its conversion is stopped by the same problem, and changes nothing. -/
theorem convert_planInNoEncoding :
    ((convert {} "plan.jmx" "out").outcome planInNoEncoding).1
        = .error (.encoding (.noSuchEncoding "koi-9"))
      ∧ ((convert {} "plan.jmx" "out").outcome planInNoEncoding).2.disk
        = planInNoEncoding.disk := by
  obtain ⟨hiff, hloaded, -, hconverted⟩ :=
    load_foreseen_iff {} "plan.jmx" "out" planInNoEncoding
  obtain ⟨hdisk, -, hescapes⟩ := hconverted fun root hroot => by
    rw [load_planInNoEncoding] at hroot
    cases hroot
  refine ⟨?_, hdisk⟩
  rw [load_planInNoEncoding] at hiff hloaded
  -- the problem is none with the plan, so there is one that is not foreseen, and it is this one
  obtain ⟨problem, hproblem⟩ : ∃ problem,
      Unforeseen planInNoEncoding.disk (Path.parse "plan.jmx") problem := by
    by_contra hnone
    obtain ⟨planProblem, hplan⟩ := hiff.mpr (not_exists.mp hnone)
    cases hplan
  rw [Except.error.inj (hloaded problem hproblem)]
  exact hescapes problem hproblem

/-- Not every file gives a plan or a problem with the plan. -/
theorem not_forall_isPlanOrProblem :
    ¬ ∀ (jmxPath : String) (σ : Session), IsPlanOrProblem ((Plan.load jmxPath).outcome σ).1 := by
  intro hall
  have hplan := hall "plan.jmx" planInNoEncoding
  rw [load_planInNoEncoding] at hplan
  obtain ⟨planProblem, hproblem⟩ := hplan
  cases hproblem

end VuserScript.Conversion
