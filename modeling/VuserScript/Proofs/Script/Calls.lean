/-
  VuserScript.Proofs.Script.Calls

  Generators that are called one after another, on containers of one plan. What
  a call meets is said with the places of the document alone (`meetings`), and
  what it returns is an outcome that depends on the number of names made up
  before it and on nothing else of what came before; all that a generator tells
  is then put together from the outcomes of its own calls.
-/
import Mathlib.Data.List.Induction
import VuserScript.Proofs.Script.Naming

namespace VuserScript.Script

open Plan (Item Site Visit itemsOf metSites siteAt? visitsOf)
open Xml (Element)

/-! ## What a call meets -/

/-- A sampler or controller that is met from the container at a place. -/
structure Meeting where
  container : List Nat
  site : Site

namespace Meeting

/-- The element that is met. -/
def element (m : Meeting) : Element :=
  m.site.element

/-- Whether a sampler is met, and not a controller. -/
def isSampler (m : Meeting) : Bool :=
  m.site.element.tag == Plan.httpSampler

/-- The stem of the name that is made up if there is none. -/
def stem (m : Meeting) : String :=
  if m.isSampler then "Request" else "Txn"

/-- Whether what is met gets a transaction: each controller, and a sampler that is a child of the
container itself. -/
def ownsScope (m : Meeting) : Bool :=
  !m.isSampler || m.site.place.length == m.container.length + 1

/-- Whether a controller is met that has no container. -/
def isBare (m : Meeting) : Bool :=
  m.site.element.tag == Plan.transactionController && m.site.container.isNone

end Meeting

/-- What is met from a container, in document order; nothing if there is no container. -/
noncomputable def meetings (root : Element) : Option (List Nat) → List Meeting
  | some place => (metSites root place).map fun s => ⟨place, s⟩
  | none => []

/-- The items of a container, if there is one. -/
def itemsAt (root : Element) (container : Option (List Nat)) : Option (List Item) :=
  container.bind fun place => (siteAt? root place).map fun s => itemsOf s.element

/-- What is met, with the names that are shown when `given` names have been made up before. -/
abbrev named (given : Nat) (met : List Meeting) : List (Meeting × String) :=
  withNames Meeting.stem Meeting.element given met

/-- A visit is what is met. -/
structure IsMeeting (v : Visit) (m : Meeting) : Prop where
  element : v.element = m.element
  isSampler : v.isSampler = m.isSampler
  ownsScope : Script.ownsScope false v = m.ownsScope
  isBare : v.isBare = m.isBare

theorem IsMeeting.stem {v : Visit} {m : Meeting} (h : IsMeeting v m) : stemOf v = m.stem := by
  rw [stemOf, Meeting.stem, h.isSampler]

theorem isMeeting_of_isTo {root : Element} {place : List Nat} {v : Visit} {s : Site}
    (h : v.IsTo root place s) : IsMeeting v ⟨place, s⟩ := by
  have hsampler : v.isSampler = (s.element.tag == Plan.httpSampler) := by
    rw [Bool.eq_iff_iff, h.isSampler, beq_iff_eq]
  refine ⟨h.element, hsampler, ?_, ?_⟩
  · have halone : v.above.isEmpty = (s.place.length == place.length + 1) := by
      rw [Bool.eq_iff_iff, List.isEmpty_iff, beq_iff_eq, h.isAlone_iff]
    simp [Script.ownsScope, Meeting.ownsScope, Meeting.isSampler, hsampler, halone]
  · rw [Bool.eq_iff_iff, h.isBare]
    simp [Meeting.isBare]

/-- The items of a container lead to what is met from it. -/
theorem forall₂_isMeeting (root : Element) (container : Option (List Nat)) :
    List.Forall₂ IsMeeting (visitsOf ((itemsAt root container).getD []))
      (meetings root container) := by
  cases container with
  | none => exact .nil
  | some place =>
    rw [meetings, List.forall₂_map_right_iff]
    exact (Plan.visits_isTo_metSites_siteAt? root place).imp fun _ _ => isMeeting_of_isTo

theorem unnamedIn_visits (root : Element) (container : Option (List Nat)) :
    unnamedIn Visit.element (visitsOf ((itemsAt root container).getD []))
      = unnamedIn Meeting.element (meetings root container) := by
  have hmatch := forall₂_isMeeting root container
  generalize visitsOf ((itemsAt root container).getD []) = visits at hmatch ⊢
  generalize meetings root container = met at hmatch ⊢
  induction hmatch with
  | nil => rfl
  | cons h _ ih =>
    rw [unnamedIn_cons, unnamedIn_cons Meeting.element, ih]
    simp [unnamedIn, h.element]

/-- What is met gets the names that the visits get. -/
theorem forall₂_namedVisits (given : Nat) {visits : List Visit} {met : List Meeting}
    (h : List.Forall₂ IsMeeting visits met) :
    List.Forall₂ (fun x y => IsMeeting x.1 y.1 ∧ x.2 = y.2) (namedVisits given visits)
      (named given met) :=
  forall₂_withNames (fun _ _ hmatch => ⟨hmatch.stem, hmatch.element⟩) h given

/-! ## What lines show -/

/-- What is selected among matched lists, and made out of it, is the same. -/
theorem map_filter_of_forall₂ {α β γ : Type} {r : α → β → Prop} {p : α → Bool} {q : β → Bool}
    {f : α → γ} {g : β → γ} {as : List α} {bs : List β} (h : List.Forall₂ r as bs)
    (hp : ∀ a b, r a b → p a = q b) (hf : ∀ a b, r a b → f a = g b) :
    (as.filter p).map f = (bs.filter q).map g := by
  induction h with
  | nil => rfl
  | @cons a b as bs hab _ ih =>
    rw [List.filter_cons, List.filter_cons, hp a b hab]
    cases q b
    · exact ih
    · simp only [if_true, List.map_cons, hf a b hab, ih]

/-- Lines show what is met under the names it has: a request for each sampler, which opens with its
name, and the start and the end of a transaction for each that gets one. -/
structure Shown (met : List (Meeting × String)) (lines : List String) : Prop where
  requests : List.Forall₂
    (fun x line => ∃ f ∈ Kind.request.functions,
      line = "    " ++ f ++ "(\"" ++ Text.escape x.2 ++ "\",")
    (met.filter fun x => x.1.isSampler) (lines.filter Kind.request.opens)
  starts : lines.filter Kind.start.opens
    = (met.filter fun x => x.1.ownsScope).map fun x => startLine x.2
  finishes : (lines.filter Kind.finish.opens).Perm
    ((met.filter fun x => x.1.ownsScope).map fun x => finishLine x.2)

theorem Shown.append {met others : List (Meeting × String)} {lines more : List String}
    (h : Shown met lines) (hmore : Shown others more) :
    Shown (met ++ others) (lines ++ more) where
  requests := by
    rw [List.filter_append, List.filter_append]
    exact List.rel_append h.requests hmore.requests
  starts := by
    rw [List.filter_append, List.filter_append, List.map_append, h.starts, hmore.starts]
  finishes := by
    rw [List.filter_append, List.filter_append, List.map_append]
    exact h.finishes.append hmore.finishes

/-- The warnings about the controllers without a container, under the names they are shown with. -/
def bareWarnings (met : List (Meeting × String)) : List String :=
  (met.filter fun x => x.1.isBare).map fun x => bareTransactionWarning x.2

/-! ## Calls on a plan -/

/-- A call on a plan: which generator makes the action, and of which container, if there is one. -/
structure PlanCall where
  generator : String
  container : Option (List Nat)

namespace PlanCall

variable (root : Element)

/-- What is met by a call. -/
noncomputable def met (c : PlanCall) : List Meeting :=
  meetings root c.container

/-- The call on the items of the container. -/
def call (c : PlanCall) : Call :=
  ⟨c.generator, itemsAt root c.container⟩

/-- The outcome of a call when `given` names have been made up before. -/
def outcome (correlate : Bool) (given : Nat) (c : PlanCall) : Outcome :=
  (actionOf correlate (itemsAt root c.container) ⟨given⟩).1

theorem shown_outcome (correlate : Bool) (given : Nat) (c : PlanCall) :
    Shown (named given (c.met root)) (c.outcome root correlate given).lines := by
  have hshows := shows_actionOf correlate (itemsAt root c.container) ⟨given⟩
  have hmatch := forall₂_namedVisits given (forall₂_isMeeting root c.container)
  have hrequests : (c.outcome root correlate given).statements.filterMap Statement.request?
      = ((named given (c.met root)).filter fun x => x.1.isSampler).map
        fun x => Plan.requestOf x.1.element x.2 :=
    hshows.requests.trans (map_filter_of_forall₂ hmatch (fun _ _ h => h.1.isSampler)
      fun _ _ h => by rw [h.1.element, h.2])
  have hstarts : (c.outcome root correlate given).statements.filterMap Statement.started?
      = ((named given (c.met root)).filter fun x => x.1.ownsScope).map Prod.snd :=
    hshows.starts.trans (map_filter_of_forall₂ hmatch (fun _ _ h => h.1.ownsScope) fun _ _ h => h.2)
  constructor
  · rw [Outcome.lines, filter_request, hrequests, List.map_map, List.forall₂_map_right_iff]
    refine List.forall₂_same.mpr fun x _ => ?_
    exact ⟨requestFunction (Plan.requestOf x.1.element x.2), requestFunction_mem _, rfl⟩
  · rw [Outcome.lines, filter_start, hstarts, List.map_map]
    rfl
  · have hperm := (started_perm_finished_actionOf correlate (itemsAt root c.container) ⟨given⟩).symm
    have hlines := hperm.map finishLine
    rw [Outcome.lines, filter_finish]
    refine hlines.trans (List.Perm.of_eq ?_)
    exact (congrArg (List.map finishLine) hstarts).trans (List.map_map ..)

theorem warnings_outcome (correlate : Bool) (given : Nat) (c : PlanCall) :
    Record.warnings (c.outcome root correlate given).log
      = bareWarnings (named given (c.met root)) := by
  have hmatch := forall₂_namedVisits given (forall₂_isMeeting root c.container)
  refine (shows_actionOf correlate (itemsAt root c.container) ⟨given⟩).warnings.trans ?_
  exact map_filter_of_forall₂ hmatch (fun _ _ h => h.1.isBare) fun _ _ h => by rw [h.2]

theorem names_outcome (correlate : Bool) (given : Nat) (c : PlanCall) :
    (actionOf correlate (itemsAt root c.container) ⟨given⟩).2
      = ⟨given + unnamedIn Meeting.element (c.met root)⟩ := by
  rw [names_actionOf, unnamedIn_visits]
  rfl

end PlanCall

/-! ## Calls one after another -/

/-- What a call gives: the generator that was called, the lines it returned, and what it tells of
itself behind the call. -/
structure Answer where
  generator : String
  lines : List String
  told : Generator

namespace Workshop

/-- The answer to a call, and the workshop behind it. -/
def answer (w : Workshop) (correlate : Bool) (c : Call) : Answer × Workshop :=
  let (lines, told, w) := w.call correlate c
  (⟨c.generator, lines, told⟩, w)

/-- The answers to requests of some kind one after another, and the workshop behind them. -/
def serve {β : Type} (step : Workshop → β → Answer × Workshop) (w : Workshop) :
    List β → List Answer × Workshop
  | [] => ([], w)
  | b :: rest =>
    let (a, w) := step w b
    let (others, w) := serve step w rest
    (a :: others, w)

theorem serve_concat {β : Type} (step : Workshop → β → Answer × Workshop) (w : Workshop)
    (bs : List β) (b : β) :
    serve step w (bs ++ [b])
      = ((serve step w bs).1 ++ [(step (serve step w bs).2 b).1],
        (step (serve step w bs).2 b).2) := by
  induction bs generalizing w with
  | nil => rfl
  | cons c rest ih =>
    have hfirst : serve step w (c :: (rest ++ [b]))
        = ((step w c).1 :: (serve step (step w c).2 (rest ++ [b])).1,
          (serve step (step w c).2 (rest ++ [b])).2) := rfl
    rw [List.cons_append, hfirst, ih]
    rfl

/-- The generator that is called counts the outcome, and no other one changes. -/
theorem generator_answer (w : Workshop) (correlate : Bool) (c : Call) (id : String) :
    (w.answer correlate c).2.generator id
      = if id = c.generator then (w.generator id).count (actionOf correlate c.items w.names).1
        else w.generator id := by
  by_cases h : id = c.generator
  · subst h
    simp [answer, call, generator]
  · have hne : (id == c.generator) = false := by simpa using h
    simp [answer, call, generator, List.lookup_cons, hne, h]

end Workshop

/-! ## One counter for all generators -/

/-- Calls on generators that share one counter, each generator with its own switch for
correlations. -/
def answersSharing (root : Element) (correlate : String → Bool) (calls : List PlanCall) :
    List Answer × Workshop :=
  Workshop.serve (fun w c => w.answer (correlate c.generator) (c.call root)) {} calls

/-- With one switch for all generators these are the calls of a workshop. -/
theorem calls_eq_answersSharing (root : Element) (correlate : Bool) (calls : List PlanCall) :
    ({} : Workshop).calls correlate (calls.map (PlanCall.call root))
      = (answersSharing root (fun _ => correlate) calls).1.map fun a => (a.lines, a.told) := by
  unfold answersSharing
  generalize ({} : Workshop) = w
  induction calls generalizing w with
  | nil => rfl
  | cons c rest ih =>
    exact congrArg (List.cons _) (ih (w.call correlate (c.call root)).2.2)

/-- The counter has given as many names as elements without one have been met. -/
theorem names_answersSharing (root : Element) (correlate : String → Bool)
    (calls : List PlanCall) :
    (answersSharing root correlate calls).2.names
      = ⟨unnamedIn Meeting.element (calls.flatMap (PlanCall.met root))⟩ := by
  induction calls using List.reverseRecOn with
  | nil => rfl
  | append_singleton calls c ih =>
    have hstep : (answersSharing root correlate (calls ++ [c])).2.names
        = (actionOf (correlate c.generator) (itemsAt root c.container)
            (answersSharing root correlate calls).2.names).2 :=
      congrArg (fun r => r.2.names) (Workshop.serve_concat _ _ calls c)
    rw [hstep, ih, PlanCall.names_outcome, List.flatMap_append, unnamedIn_append,
      List.flatMap_singleton]

/-- What one more call returns, and what its generator tells then, depends on the calls before it
through the number of elements without a name that they have met. -/
theorem answersSharing_concat (root : Element) (correlate : String → Bool) (calls : List PlanCall)
    (c : PlanCall) :
    (answersSharing root correlate (calls ++ [c])).1
      = (answersSharing root correlate calls).1
        ++ [⟨c.generator,
          (c.outcome root (correlate c.generator)
            (unnamedIn Meeting.element (calls.flatMap (PlanCall.met root)))).lines,
          ((answersSharing root correlate calls).2.generator c.generator).count
            (c.outcome root (correlate c.generator)
              (unnamedIn Meeting.element (calls.flatMap (PlanCall.met root))))⟩] := by
  have hstep := congrArg Prod.fst (Workshop.serve_concat
    (fun w c => w.answer (correlate c.generator) (PlanCall.call root c)) {} calls c)
  refine hstep.trans (congrArg (fun a => (answersSharing root correlate calls).1 ++ [a]) ?_)
  rw [PlanCall.outcome, ← names_answersSharing root correlate calls]
  rfl

theorem shown_answersSharing (root : Element) (correlate : String → Bool)
    (calls : List PlanCall) :
    Shown (named 0 (calls.flatMap (PlanCall.met root)))
      ((answersSharing root correlate calls).1.flatMap Answer.lines) := by
  induction calls using List.reverseRecOn with
  | nil => exact ⟨.nil, rfl, .nil⟩
  | append_singleton calls c ih =>
    rw [answersSharing_concat, List.flatMap_append, List.flatMap_append, named, withNames_append,
      Nat.zero_add, List.flatMap_singleton, List.flatMap_singleton]
    exact ih.append (c.shown_outcome root _ _)

/-- A made-up name tells its number. -/
theorem number_eq_of_name_eq {m m' : Meeting} {k k' : Nat}
    (h : m.stem ++ "_" ++ toString k = m'.stem ++ "_" ++ toString k') : k = k' := by
  have hstem : ∀ m : Meeting, m.stem = "Request" ∨ m.stem = "Txn" := by
    intro m
    unfold Meeting.stem
    cases m.isSampler
    · exact .inr rfl
    · exact .inl rfl
  have hlist := congrArg String.toList h
  have hdigits : Nat.toDigits 10 k = Nat.toDigits 10 k' := by
    rcases hstem m with hm | hm <;> rcases hstem m' with hm' | hm' <;> rw [hm, hm'] at hlist
    · simpa using hlist
    · simp at hlist
    · simp at hlist
    · simpa using hlist
  simpa using congrArg (fun ds => Nat.ofDigitChars 10 ds 0) hdigits

/-- Calls on generators that share a counter, whatever their options and whatever is called in which
order, on containers of one plan or on none: the k-th element without a name among all that are met
is named by its stem and k. So the made-up names are pairwise different, and no number is left out.
They are the names that the lines of all calls show. One more call adds lines, counts and warnings
that depend on the earlier calls only through the number of elements without a name met by them. -/
theorem made_up_names_numbered (root : Element) (correlate : String → Bool)
    (calls : List PlanCall) :
    (((named 0 (calls.flatMap (PlanCall.met root))).filter fun x => isUnnamed x.1.element).map
        Prod.snd
      = ((calls.flatMap (PlanCall.met root)).filter fun m => isUnnamed m.element).mapIdx
        fun k m => m.stem ++ "_" ++ toString (k + 1))
    ∧ (((named 0 (calls.flatMap (PlanCall.met root))).filter fun x => isUnnamed x.1.element).map
        Prod.snd).Nodup
    ∧ Shown (named 0 (calls.flatMap (PlanCall.met root)))
        ((answersSharing root correlate calls).1.flatMap Answer.lines)
    ∧ ∀ c, ∃ o, o = c.outcome root (correlate c.generator)
          (unnamedIn Meeting.element (calls.flatMap (PlanCall.met root)))
        ∧ (answersSharing root correlate (calls ++ [c])).1
          = (answersSharing root correlate calls).1
            ++ [⟨c.generator, o.lines,
              ((answersSharing root correlate calls).2.generator c.generator).count o⟩] := by
  have hnumbered := filter_isUnnamed_withNames Meeting.stem Meeting.element 0
    (calls.flatMap (PlanCall.met root))
  simp only [Nat.zero_add] at hnumbered
  refine ⟨hnumbered, ?_, shown_answersSharing root correlate calls,
    fun c => ⟨_, rfl, answersSharing_concat root correlate calls c⟩⟩
  rw [hnumbered, List.nodup_iff_pairwise_ne, List.pairwise_iff_getElem]
  intro i j hi hj hij heq
  rw [List.getElem_mapIdx, List.getElem_mapIdx] at heq
  have := number_eq_of_name_eq heq
  omega

/-! ## Any counter for each call -/

/-- A call as it is made: with the switch of its generator, and with the number of names that the
counter of the generator has given before, whichever counter that is. -/
structure Turn extends PlanCall where
  correlate : Bool
  given : Nat

/-- Calls one after another, each with the names given before it. -/
def answersTo (root : Element) (turns : List Turn) : List Answer × Workshop :=
  Workshop.serve (fun w t => { w with names := ⟨t.given⟩ }.answer t.correlate (t.call root)) {}
    turns

namespace Turn

/-- The outcome of a call. -/
def result (root : Element) (t : Turn) : Outcome :=
  t.outcome root t.correlate t.given

/-- What is met by a call, with the names that are shown. -/
noncomputable def named (root : Element) (t : Turn) : List (Meeting × String) :=
  Script.named t.given (t.met root)

end Turn

theorem answersTo_concat (root : Element) (turns : List Turn) (t : Turn) :
    (answersTo root (turns ++ [t])).1
      = (answersTo root turns).1
        ++ [⟨t.generator, (t.result root).lines,
          ((answersTo root turns).2.generator t.generator).count (t.result root)⟩] :=
  congrArg Prod.fst (Workshop.serve_concat _ _ turns t)

theorem generator_answersTo_concat (root : Element) (turns : List Turn) (t : Turn)
    (id : String) :
    (answersTo root (turns ++ [t])).2.generator id
      = if id = t.generator then ((answersTo root turns).2.generator id).count (t.result root)
        else (answersTo root turns).2.generator id := by
  have hstep := congrArg (fun r => r.2.generator id) (Workshop.serve_concat
    (fun w t => { w with names := ⟨t.given⟩ }.answer t.correlate (PlanCall.call root t.toPlanCall))
    {} turns t)
  exact hstep.trans (Workshop.generator_answer _ t.correlate (t.call root) id)

/-- Calls on generators that share a counter, as they are made: the names given before a call are
those of the elements without a name that the earlier calls have met. -/
noncomputable def turnsSharing (root : Element) (correlate : String → Bool) :
    Nat → List PlanCall → List Turn
  | _, [] => []
  | given, c :: rest => ⟨c, correlate c.generator, given⟩
    :: turnsSharing root correlate (given + unnamedIn Meeting.element (c.met root)) rest

/-- Generators that share a counter answer as they do when each call is told the names given before
it. -/
theorem answersSharing_eq_answersTo (root : Element) (correlate : String → Bool)
    (calls : List PlanCall) :
    (answersSharing root correlate calls).1
      = (answersTo root (turnsSharing root correlate 0 calls)).1 := by
  -- the workshops differ in the counter only, which one of them sets anew before each call
  suffices hall : ∀ (given : Nat) (generators : List (String × Generator)) (other : Names),
      (Workshop.serve (fun w c => w.answer (correlate c.generator) (PlanCall.call root c))
          ⟨generators, ⟨given⟩⟩ calls).1
        = (Workshop.serve (fun w t => { w with names := ⟨t.given⟩ }.answer t.correlate
            (PlanCall.call root t.toPlanCall)) ⟨generators, other⟩
            (turnsSharing root correlate given calls)).1 from hall 0 [] {}
  induction calls with
  | nil => exact fun _ _ _ => rfl
  | cons c rest ih =>
    intro given generators other
    have hbehind : (Workshop.answer ⟨generators, ⟨given⟩⟩ (correlate c.generator) (c.call root)).2
        = ⟨(Workshop.answer ⟨generators, ⟨given⟩⟩ (correlate c.generator) (c.call root)).2.generators,
          ⟨given + unnamedIn Meeting.element (c.met root)⟩⟩ := by
      rw [← c.names_outcome root (correlate c.generator) given]
      rfl
    have hrest := ih (given + unnamedIn Meeting.element (c.met root))
      (Workshop.answer ⟨generators, ⟨given⟩⟩ (correlate c.generator) (c.call root)).2.generators
      (Workshop.answer ⟨generators, ⟨given⟩⟩ (correlate c.generator) (c.call root)).2.names
    rw [← hbehind] at hrest
    exact congrArg (List.cons _) hrest

/-- What a generator has counted agrees with the lines that it has returned. -/
structure Accounts (g : Generator) (lines : List String) : Prop where
  requests : g.tally.requests = lines.countP Kind.request.opens
  starts : g.tally.transactions = lines.countP Kind.start.opens
  finishes : g.tally.transactions = lines.countP Kind.finish.opens
  registrations : g.tally.correlations = lines.countP Kind.registration.opens

theorem Accounts.count {g : Generator} {lines : List String} (h : Accounts g lines) (root : Element)
    (t : Turn) : Accounts (g.count (t.result root)) (lines ++ (t.result root).lines) := by
  have htally : (t.result root).tally = Tally.ofStatements (t.result root).statements :=
    isTallied_actionOf t.correlate (itemsAt root t.container) ⟨t.given⟩
  have hperm := (started_perm_finished_actionOf t.correlate (itemsAt root t.container)
    ⟨t.given⟩).length_eq
  have hadded : ∀ k : Kind, (t.result root).lines.countP k.opens
      = ((t.result root).lines.filter k.opens).length := fun k => List.countP_eq_length_filter
  constructor <;> rw [List.countP_append, hadded, Outcome.lines]
  · rw [filter_request, List.length_map, ← h.requests]
    exact congrArg (g.tally.requests + ·.requests) htally
  · rw [filter_start, List.length_map, ← h.starts]
    exact congrArg (g.tally.transactions + ·.transactions) htally
  · rw [filter_finish, List.length_map, ← h.finishes]
    exact (congrArg (g.tally.transactions + ·.transactions) htally).trans
      (congrArg (g.tally.transactions + ·) hperm)
  · rw [filter_registration, List.length_map, ← h.registrations]
    exact congrArg (g.tally.correlations + ·.correlations) htally

/-- The lines of the answers that a generator has given. -/
def returnedBy (id : String) (answers : List Answer) : List String :=
  (answers.filter (·.generator = id)).flatMap Answer.lines

theorem returnedBy_concat (id : String) (answers : List Answer) (a : Answer) :
    returnedBy id (answers ++ [a])
      = returnedBy id answers ++ if id = a.generator then a.lines else [] := by
  rw [returnedBy, List.filter_append, List.flatMap_append, ← returnedBy]
  by_cases h : id = a.generator
  · simp [h]
  · simp [h, Ne.symm h]

theorem accounts_answersTo (root : Element) (turns : List Turn) (id : String) :
    Accounts ((answersTo root turns).2.generator id) (returnedBy id (answersTo root turns).1) := by
  induction turns using List.reverseRecOn with
  | nil => exact ⟨rfl, rfl, rfl, rfl⟩
  | append_singleton turns t ih =>
    rw [answersTo_concat, returnedBy_concat, generator_answersTo_concat]
    by_cases h : id = t.generator
    · rw [if_pos h, if_pos h]
      exact ih.count root t
    · rw [if_neg h, if_neg h, List.append_nil]
      exact ih

theorem warnings_answersTo (root : Element) (turns : List Turn) (id : String) :
    ((answersTo root turns).2.generator id).warnings
      = (turns.filter (·.generator = id)).flatMap fun t => bareWarnings (t.named root) := by
  induction turns using List.reverseRecOn with
  | nil => rfl
  | append_singleton turns t ih =>
    rw [generator_answersTo_concat, List.filter_append, List.flatMap_append, ← ih]
    by_cases h : id = t.generator
    · have hadded := t.warnings_outcome root t.correlate t.given
      simp only [h, decide_true, List.filter_cons_of_pos, List.filter_nil, List.flatMap_singleton,
        if_pos]
      exact congrArg (((answersTo root turns).2.generator t.generator).warnings ++ ·) hadded
    · simp [h, Ne.symm h]

theorem shown_answersTo (root : Element) (turns : List Turn) :
    List.Forall₂ (fun t a => a.generator = t.generator ∧ Shown (t.named root) a.lines) turns
      (answersTo root turns).1 := by
  induction turns using List.reverseRecOn with
  | nil => exact .nil
  | append_singleton turns t ih =>
    rw [answersTo_concat]
    exact List.rel_append ih (.cons ⟨rfl, t.shown_outcome root t.correlate t.given⟩ .nil)

/-- What a call tells is its generator as it is behind the call. -/
theorem told_answersTo (root : Element) (turns : List Turn) :
    (answersTo root turns).1.getLast?.map Answer.told
      = turns.getLast?.map fun t => (answersTo root turns).2.generator t.generator := by
  induction turns using List.reverseRecOn with
  | nil => rfl
  | append_singleton turns t _ =>
    rw [List.getLast?_concat, Option.map_some, generator_answersTo_concat, if_pos rfl,
      answersTo_concat, List.getLast?_concat]
    rfl

/-- Calls one after another on any generators, each with its own switch and its own counter or one
that is shared. Behind the calls, hence behind each of them, a generator has counted the requests,
the starts, the ends and the registrations in all lines that it has returned; it has warned of each
controller without a container that it has met, in document order and under the name in the lines;
and a call on another generator changes nothing of it. What a call tells is its generator as it is
behind the call. -/
theorem generators_account (root : Element) (turns : List Turn) (id : String) :
    Accounts ((answersTo root turns).2.generator id) (returnedBy id (answersTo root turns).1)
    ∧ ((answersTo root turns).2.generator id).warnings
        = (turns.filter (·.generator = id)).flatMap (fun t => bareWarnings (t.named root))
    ∧ List.Forall₂ (fun t a => a.generator = t.generator ∧ Shown (t.named root) a.lines) turns
        (answersTo root turns).1
    ∧ ((answersTo root turns).1.getLast?.map Answer.told
        = turns.getLast?.map fun t => (answersTo root turns).2.generator t.generator)
    ∧ ∀ t, t.generator ≠ id →
        (answersTo root (turns ++ [t])).2.generator id
          = (answersTo root turns).2.generator id := by
  refine ⟨accounts_answersTo root turns id, warnings_answersTo root turns id,
    shown_answersTo root turns, told_answersTo root turns, fun t hother => ?_⟩
  rw [generator_answersTo_concat, if_neg (Ne.symm hother)]

end VuserScript.Script
