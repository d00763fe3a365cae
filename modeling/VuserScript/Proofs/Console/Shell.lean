/-
  VuserScript.Proofs.Console.Shell

  What runs of the program show and how they end, step by step. A step sees the
  blocks that are shown already and the session; it goes on with an answer, or
  ends the run.
-/
import VuserScript.Console.Run
import VuserScript.Proofs.Session

namespace VuserScript.Console

open Storage (Entry Trouble)

/-- What is shown, and the session. -/
abbrev Scene := List Block × Session

namespace Shell

variable {α β : Type} {s t : Scene}

/-- What a step makes of a scene: its answer or the ending of the run, and the scene as it is
then. -/
def outcome (x : Shell α) (s : Scene) : Except Ending α × Scene :=
  let r := (x.run.run s.1).run s.2
  (r.1.1, r.1.2, r.2)

/-! ## Single steps -/

@[simp] theorem outcome_pure (a : α) (s : Scene) : (pure a : Shell α).outcome s = (.ok a, s) := rfl

@[simp] theorem outcome_stop (code : Nat) (s : Scene) :
    (stop code : Shell α).outcome s = (.error ⟨code, none⟩, s) := rfl

@[simp] theorem outcome_abandon (problem : Problem) (s : Scene) :
    (abandon problem : Shell α).outcome s = (.error ⟨1, some problem⟩, s) := rfl

@[simp] theorem outcome_put (b : Block) (s : Scene) :
    (put b).outcome s = (.ok (), s.1 ++ [b], s.2) := rfl

@[simp] theorem outcome_session (s : Scene) :
    (getThe Session : Shell Session).outcome s = (.ok s.2, s) := rfl

@[simp] theorem outcome_lift (x : StateM Session α) (s : Scene) :
    (liftM x : Shell α).outcome s = (.ok (x.run s.2).1, s.1, (x.run s.2).2) := rfl

theorem outcome_bind (x : Shell α) (f : α → Shell β) (s : Scene) :
    (x >>= f).outcome s
      = match x.outcome s with
        | (.ok a, t) => (f a).outcome t
        | (.error ending, t) => (.error ending, t) := by
  simp only [outcome, ExceptT.run_bind, StateT.run_bind]
  rcases (x.run.run s.1).run s.2 with ⟨⟨ending | a, blocks⟩, σ⟩ <;> rfl

/-! ## Lists of steps -/

/-- Steps that go on without an effect have none together. -/
theorem outcome_forM_of_same {l : List α} {f : α → Shell Unit}
    (h : ∀ a ∈ l, (f a).outcome s = (.ok (), s)) : (l.forM f).outcome s = (.ok (), s) := by
  induction l with
  | nil => rfl
  | cons a l ih =>
    have hfirst := h a (.head _)
    have hrest := ih fun b hb => h b (.tail _ hb)
    change (f a >>= fun _ => l.forM f).outcome s = _
    rw [outcome_bind, hfirst]
    exact hrest

/-- Steps of which one at least ends the run, and the others go on without an effect. -/
theorem outcome_forM_of_stop {l : List α} {f : α → Shell Unit} {ending : Ending}
    (h : ∀ a ∈ l, (f a).outcome s = (.ok (), s) ∨ (f a).outcome s = (.error ending, s))
    (hstop : ∃ a ∈ l, (f a).outcome s = (.error ending, s)) :
    (l.forM f).outcome s = (.error ending, s) := by
  induction l with
  | nil =>
    obtain ⟨a, hmem, -⟩ := hstop
    cases hmem
  | cons a l ih =>
    change (f a >>= fun _ => l.forM f).outcome s = _
    rw [outcome_bind]
    rcases h a (.head _) with hfirst | hfirst
    · -- the first step goes on, so that the one that ends the run is behind it
      rw [hfirst]
      obtain ⟨b, hmem, hb⟩ := hstop
      rcases List.mem_cons.mp hmem with rfl | hmem
      · rw [hfirst] at hb
        cases hb
      · exact ih (fun c hc => h c (.tail _ hc)) ⟨b, hmem, hb⟩
    · rw [hfirst]

theorem outcome_forM_put (l : List α) (f : α → Block) (s : Scene) :
    (l.forM fun a => put (f a)).outcome s = (.ok (), s.1 ++ l.map f, s.2) := by
  induction l generalizing s with
  | nil => simp
  | cons a l ih =>
    change (put (f a) >>= fun _ => l.forM fun a => put (f a)).outcome s = _
    rw [outcome_bind, outcome_put]
    simp only [ih, List.map_cons, List.append_assoc, List.singleton_append]

/-- A job goes on, whatever becomes of it, and its records are shown. -/
theorem outcome_perform (verbosity : Nat) (job : Job α) (s : Scene) :
    (perform verbosity job).outcome s
      = (.ok (job.outcome s.2).1,
        s.1 ++ (((job.outcome s.2).2.log.drop s.2.log.length).filter fun r =>
          isShown verbosity r.level).map Block.record,
        (job.outcome s.2).2) := by
  simp only [perform, outcome_bind, outcome_session, outcome_lift, outcome_forM_put, outcome_pure,
    Job.outcome]

/-- A job that changes nothing shows nothing. -/
theorem outcome_perform_of_same {job : Job α} {r : Except Problem α} (verbosity : Nat)
    (h : job.outcome s.2 = (r, s.2)) : (perform verbosity job).outcome s = (.ok r, s) := by
  rw [outcome_perform, h, List.drop_length]
  simp

/-! ## Texts with tags -/

/-- A text whose tags are at fault ends the run. -/
theorem outcome_plainText (markup : String) (s : Scene) :
    (plainText markup).outcome s
      = match Text.Markup.plainText markup with
        | .ok shown => (.ok shown, s)
        | .error fault => (.error ⟨1, some (.markup fault)⟩, s) := by
  unfold plainText
  cases Text.Markup.plainText markup with
  | ok shown => exact outcome_pure shown s
  | error fault => exact outcome_abandon (.markup fault) s

theorem outcome_say (markup : String) (s : Scene) :
    (say markup).outcome s
      = match Text.Markup.plainText markup with
        | .ok shown => (.ok (), s.1 ++ [.text shown], s.2)
        | .error fault => (.error ⟨1, some (.markup fault)⟩, s) := by
  unfold say
  rw [outcome_bind, outcome_plainText]
  cases Text.Markup.plainText markup with
  | ok shown => exact outcome_put (.text shown) s
  | error fault => rfl

theorem outcome_sayBoxed (title : Option String) (markup : String) (s : Scene) :
    (sayBoxed title markup).outcome s
      = match Text.Markup.plainText markup with
        | .ok shown => (.ok (), s.1 ++ [.panel title shown], s.2)
        | .error fault => (.error ⟨1, some (.markup fault)⟩, s) := by
  unfold sayBoxed
  rw [outcome_bind, outcome_plainText]
  cases Text.Markup.plainText markup with
  | ok shown => exact outcome_put (.panel title shown) s
  | error fault => rfl

/-! ## Problems -/

/-- The text with tags by which a problem is told. -/
def errorText (problem : Problem) : String :=
  "\n[bold red]Error:[/bold red] " ++ problem.message

/-- A problem that is told ends the run with code 1: with its text, or with a fault of the markup if
the text is not one that can be shown. -/
theorem outcome_fail (problem : Problem) (s : Scene) :
    (fail problem : Shell α).outcome s
      = match Text.Markup.plainText (errorText problem) with
        | .ok shown => (.error ⟨1, none⟩, s.1 ++ [.text shown], s.2)
        | .error fault => (.error ⟨1, some (.markup fault)⟩, s) := by
  have hsay := outcome_say (errorText problem) s
  unfold errorText at hsay ⊢
  unfold fail
  rw [outcome_bind, hsay]
  cases Text.Markup.plainText ("\n[bold red]Error:[/bold red] " ++ problem.message) with
  | ok shown => exact outcome_stop 1 _
  | error fault => rfl

end Shell

end VuserScript.Console
