/-
  VuserScript.Proofs.Session

  What operations make of a session, step by step. An operation that consists
  of two answers only if both do, and changes nothing but what they change.
-/
import VuserScript.Session

namespace VuserScript

open Storage (Disk Trouble)

namespace Job

variable {α β : Type}

/-- What an operation makes of a session: its answer or the problem that stops it, and the session
as it is then. -/
def outcome (x : Job α) (s : Session) : Except Problem α × Session :=
  x.run.run s

/-! ## Single operations -/

@[simp] theorem outcome_pure (a : α) (s : Session) : (pure a : Job α).outcome s = (.ok a, s) := rfl

@[simp] theorem outcome_throw (problem : Problem) (s : Session) :
    (throw problem : Job α).outcome s = (.error problem, s) := rfl

@[simp] theorem outcome_note (records : List Record) (s : Session) :
    (note records).outcome s = (.ok (), { s with log := s.log ++ records }) := rfl

@[simp] theorem outcome_warn (message : String) (s : Session) :
    (warn message).outcome s = (.ok (), { s with log := s.log ++ [.ofWarning message] }) := rfl

@[simp] theorem outcome_disk (s : Session) : disk.outcome s = (.ok s.disk, s) := rfl

@[simp] theorem outcome_setDisk (d : Disk) (s : Session) :
    (setDisk d).outcome s = (.ok (), { s with disk := d }) := rfl

@[simp] theorem outcome_lift (x : StateM Session α) (s : Session) :
    outcome (ExceptT.lift x) s = (.ok (x.run s).1, (x.run s).2) := rfl

@[simp] theorem outcome_orTrouble_ok (problem : Trouble → Problem) (a : α) (s : Session) :
    (orTrouble problem (.ok a)).outcome s = (.ok a, s) := rfl

/-- A trouble with files stops an operation and changes nothing. -/
theorem outcome_orTrouble_error (problem : Trouble → Problem) (trouble : Trouble) (s : Session) :
    ∃ p, (orTrouble problem (.error trouble) : Job α).outcome s = (.error p, s) := by
  cases trouble <;> exact ⟨_, rfl⟩

theorem outcome_orTrouble_snd (problem : Trouble → Problem) (r : Except Trouble α) (s : Session) :
    ((orTrouble problem r).outcome s).2 = s := by
  cases r with
  | ok a => rfl
  | error trouble =>
    obtain ⟨p, hp⟩ := outcome_orTrouble_error (α := α) problem trouble s
    rw [hp]

/-- The files make no difference to the answer. -/
theorem outcome_orTrouble_fst (problem : Trouble → Problem) (r : Except Trouble α)
    (s t : Session) :
    ((orTrouble problem r).outcome s).1 = ((orTrouble problem r).outcome t).1 := by
  rcases r with trouble | a
  · cases trouble <;> rfl
  · rfl

theorem orTrouble_eq_ok {problem : Trouble → Problem} {r : Except Trouble α} {s t : Session}
    {a : α} (h : (orTrouble problem r).outcome s = (.ok a, t)) : r = .ok a ∧ t = s := by
  cases r with
  | ok b => cases h; exact ⟨rfl, rfl⟩
  | error trouble =>
    obtain ⟨p, hp⟩ := outcome_orTrouble_error (α := α) problem trouble s
    rw [hp] at h
    cases h

theorem eq_ok_of_toOption_eq_some {ε : Type} {x : Except ε α} {a : α}
    (h : x.toOption = some a) : x = .ok a := by
  cases x <;> cases h
  rfl

/-! ## One operation behind another -/

theorem outcome_bind (x : Job α) (f : α → Job β) (s : Session) :
    (x >>= f).outcome s
      = match x.outcome s with
        | (.ok a, t) => (f a).outcome t
        | (.error problem, t) => (.error problem, t) := by
  simp only [outcome, ExceptT.run_bind, StateT.run_bind]
  change (match x.run.run s with | (r, t) => _) = _
  rcases x.run.run s with ⟨a | a, t⟩ <;> rfl

theorem outcome_bind_snd {x : Job α} {f : α → Job β} {s : Session} (hx : (x.outcome s).2 = s)
    (hf : ∀ a, ((f a).outcome s).2 = s) : ((x >>= f).outcome s).2 = s := by
  rw [outcome_bind]
  rcases h : x.outcome s with ⟨problem | a, t⟩ <;> rw [h] at hx <;> cases hx
  · rfl
  · exact hf a

/-- Two operations answer if the first answers and then the second. -/
theorem bind_eq_ok {x : Job α} {f : α → Job β} {s u : Session} {b : β} :
    (x >>= f).outcome s = (.ok b, u)
      ↔ ∃ a t, x.outcome s = (.ok a, t) ∧ (f a).outcome t = (.ok b, u) := by
  rw [outcome_bind]
  rcases x.outcome s with ⟨problem | a, t⟩
  · simp
  · constructor
    · intro h
      exact ⟨a, t, rfl, h⟩
    · rintro ⟨a', t', hx, hf⟩
      cases hx
      exact hf

/-- Two operations are stopped if the first is, or if the second is behind it. -/
theorem bind_eq_error {x : Job α} {f : α → Job β} {s u : Session} {problem : Problem} :
    (x >>= f).outcome s = (.error problem, u)
      ↔ x.outcome s = (.error problem, u)
        ∨ ∃ a t, x.outcome s = (.ok a, t) ∧ (f a).outcome t = (.error problem, u) := by
  rw [outcome_bind]
  rcases x.outcome s with ⟨stop | a, t⟩
  · simp
  · constructor
    · intro h
      exact .inr ⟨a, t, rfl, h⟩
    · rintro (h | ⟨a', t', hx, hf⟩)
      · cases h
      · cases hx
        exact hf

/-! ## What comes of an operation in any case -/

/-- On files with `P` an operation makes no change but `R`, whether it answers or is stopped; if
it answers, the files have `Q` then. -/
def Ensures (P : Disk → Prop) (R : Disk → Disk → Prop) (x : Job α) (Q : Disk → Prop) : Prop :=
  ∀ s, P s.disk →
    R s.disk (x.outcome s).2.disk ∧ ∀ a, (x.outcome s).1 = .ok a → Q (x.outcome s).2.disk

namespace Ensures

variable {P Q S : Disk → Prop} {R : Disk → Disk → Prop} {x : Job α} {f : α → Job β}

/-- An operation that leaves the files alone. -/
theorem of_same (hrefl : ∀ d, R d d) (h : ∀ s, (x.outcome s).2.disk = s.disk) :
    Ensures P R x P := by
  intro s hs
  rw [h]
  exact ⟨hrefl s.disk, fun _ _ => hs⟩

theorem orTrouble (hrefl : ∀ d, R d d) (problem : Trouble → Problem) (r : Except Trouble α) :
    Ensures P R (Job.orTrouble problem r) P :=
  .of_same hrefl fun _ => congrArg Session.disk (outcome_orTrouble_snd ..)

theorem bind (htrans : ∀ {c d e}, R c d → R d e → R c e) (hx : Ensures P R x Q)
    (hf : ∀ a, Ensures Q R (f a) S) : Ensures P R (x >>= f) S := by
  intro s hs
  obtain ⟨hgrown, hq⟩ := hx s hs
  rw [outcome_bind]
  rcases hout : x.outcome s with ⟨problem | a, t⟩ <;> rw [hout] at hgrown hq
  · exact ⟨hgrown, nofun⟩
  · obtain ⟨hnext, hs'⟩ := hf a t (hq a rfl)
    exact ⟨htrans hgrown hnext, hs'⟩

theorem mono {P' Q' : Disk → Prop} {R' : Disk → Disk → Prop} (h : Ensures P R x Q)
    (hp : ∀ d, P' d → P d) (hr : ∀ d e, R d e → R' d e) (hq : ∀ d, Q d → Q' d) :
    Ensures P' R' x Q' := fun s hs =>
  ⟨hr _ _ (h s (hp _ hs)).1, fun a ha => hq _ ((h s (hp _ hs)).2 a ha)⟩

end Ensures

end Job

end VuserScript
