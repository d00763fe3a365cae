/-
  VuserScript.Proofs.Script.Scopes

  Transactions of an action as a stack. `openAfter` follows statements and keeps
  the transactions that are open; it stops at an end whose start is not the
  innermost open one. Each statement is looked at together with those before
  and behind it (`Mark`), so that where it stands can be said of the list of
  statements alone.

  `Scoped` says of statements and of the visits they come from what holds at
  every depth, and it is kept by the three ways in which following items puts
  statements together: one behind another, within a controller, and a request.
-/
import VuserScript.Options
import VuserScript.Script.Action
import VuserScript.Proofs.Plan.Reach

namespace VuserScript.Script

open Plan (Item Reached Site Visit reachedSamplers scopeOwners visitsOf visitsOfItem)
open Xml (Element)

/-! ## Open transactions -/

/-- The open transactions behind a statement, the innermost first. A transaction can only be
ended while it is the innermost one. -/
def Statement.step (scopes : List String) : Statement → Option (List String)
  | .start name => some (name :: scopes)
  | .finish name =>
    match scopes with
    | innermost :: outer => if innermost = name then some outer else none
    | [] => none
  | .register _ | .request _ => some scopes

/-- The open transactions behind statements, if no end stands where it must not. -/
def openAfter (scopes : List String) (statements : List Statement) : Option (List String) :=
  statements.foldlM Statement.step scopes

@[simp] theorem openAfter_nil (scopes : List String) : openAfter scopes [] = some scopes := rfl

@[simp] theorem openAfter_cons (scopes : List String) (s : Statement) (rest : List Statement) :
    openAfter scopes (s :: rest) = (s.step scopes).bind fun scopes => openAfter scopes rest := rfl

theorem openAfter_append (scopes : List String) (a b : List Statement) :
    openAfter scopes (a ++ b) = (openAfter scopes a).bind fun scopes => openAfter scopes b := by
  simp only [openAfter, List.foldlM_append, Option.bind_eq_bind]

/-- Transactions that were open before stay open underneath. -/
theorem openAfter_under {scopes scopes' : List String} {statements : List Statement}
    (h : openAfter scopes statements = some scopes') (outer : List String) :
    openAfter (scopes ++ outer) statements = some (scopes' ++ outer) := by
  induction statements generalizing scopes with
  | nil => simpa using h
  | cons s rest ih =>
    rw [openAfter_cons, Option.bind_eq_some_iff] at h ⊢
    obtain ⟨next, hstep, hrest⟩ := h
    refine ⟨next ++ outer, ?_, ih hrest⟩
    cases s with
    | start name =>
      obtain rfl : name :: scopes = next := by simpa [Statement.step] using hstep
      rfl
    | finish name =>
      cases scopes with
      | nil => simp [Statement.step] at hstep
      | cons innermost others =>
        by_cases hname : innermost = name
        · simpa [Statement.step, hname] using hstep
        · simp [Statement.step, hname] at hstep
    | register c =>
      obtain rfl : scopes = next := by simpa [Statement.step] using hstep
      rfl
    | request r =>
      obtain rfl : scopes = next := by simpa [Statement.step] using hstep
      rfl

/-- Statements that leave nothing open can stand anywhere. -/
theorem openAfter_of_balanced {statements : List Statement}
    (h : openAfter [] statements = some []) (scopes : List String) :
    openAfter scopes statements = some scopes := by
  simpa using openAfter_under h scopes

/-! ## Statements with those around them -/

/-- A statement with those before and those behind it. -/
structure Mark where
  before : List Statement
  statement : Statement
  behind : List Statement

/-- The statement with more behind those behind it. -/
def Mark.extend (behind : List Statement) (m : Mark) : Mark :=
  { m with behind := m.behind ++ behind }

/-- The statement with more before those before it. -/
def Mark.shift (before : List Statement) (m : Mark) : Mark :=
  { m with before := before ++ m.before }

/-- All statements of a list with those around them, in order. -/
def marks : List Statement → List Mark
  | [] => []
  | s :: rest => ⟨[], s, rest⟩ :: (marks rest).map (Mark.shift [s])

@[simp] theorem Mark.statement_extend (behind : List Statement) (m : Mark) :
    (m.extend behind).statement = m.statement := rfl

@[simp] theorem Mark.statement_shift (before : List Statement) (m : Mark) :
    (m.shift before).statement = m.statement := rfl

theorem marks_append (a b : List Statement) :
    marks (a ++ b) = (marks a).map (Mark.extend b) ++ (marks b).map (Mark.shift a) := by
  induction a with
  | nil =>
    have : Mark.shift [] = id := rfl
    simp [marks, this]
  | cons s rest ih =>
    simp only [List.cons_append, marks, ih, List.map_cons, List.map_append, List.map_map]
    rfl

/-- The statements of a kind with those around them. -/
def marksOf (kind : Statement → Bool) (statements : List Statement) : List Mark :=
  (marks statements).filter fun m => kind m.statement

theorem marksOf_append (kind : Statement → Bool) (a b : List Statement) :
    marksOf kind (a ++ b)
      = (marksOf kind a).map (Mark.extend b) ++ (marksOf kind b).map (Mark.shift a) := by
  simp only [marksOf, marks_append, List.filter_append, List.filter_map]
  rfl

/-- Whether a statement is a request. -/
def Statement.isRequest : Statement → Bool
  | .request _ => true
  | _ => false

/-- Whether a statement starts a transaction. -/
def Statement.isStart : Statement → Bool
  | .start _ => true
  | _ => false

/-! ## Where requests and transactions stand -/

/-- A name for an element: the one it is displayed with, or one made up from a stem. -/
def IsNameFor (stem : String) (e : Element) (name : String) : Prop :=
  Plan.testName? e = some name
    ∨ Plan.testName? e = none ∧ ∃ k : Nat, name = stem ++ "_" ++ toString k

theorem Names.isNameFor_nameOf (n : Names) (e : Element) (stem : String) :
    IsNameFor stem e (n.nameOf e stem).1 := by
  unfold Names.nameOf
  cases h : Plan.testName? e with
  | some name => exact .inl h
  | none => exact .inr ⟨h, n.given + 1, rfl⟩

/-- The open transactions behind statements are those of controllers, given the outermost first,
and no others. -/
def OpensScopes (controllers : List Element) (statements : List Statement) : Prop :=
  ∃ scopes, openAfter [] statements = some scopes
    ∧ List.Forall₂ (IsNameFor "Txn") controllers scopes.reverse

/-- A request stands where one for a sampler has to: under controllers exactly in their
transactions; under none in a transaction of its own that holds nothing else. `inside` tells that
a controller is above all of the statements. -/
def RequestStands (inside : Bool) (controllers : List Element) (sampler : Element) (m : Mark) :
    Prop :=
  ∃ name, IsNameFor "Request" sampler name
    ∧ m.statement = .request (Plan.requestOf sampler name)
    ∧ if inside = true ∨ controllers ≠ [] then OpensScopes controllers m.before
      else openAfter [] m.before = some [name]
        ∧ ∃ before behind, m.before = before ++ [.start name] ∧ m.behind = .finish name :: behind

/-- A transaction for an element, a controller or a sampler under none, starts in the
transactions of the controllers above it, and its end follows behind statements that leave nothing
open. -/
def ScopeStands (stem : String) (controllers : List Element) (e : Element) (m : Mark) : Prop :=
  ∃ name inner behind, IsNameFor stem e name ∧ m.statement = .start name
    ∧ OpensScopes controllers m.before
    ∧ m.behind = inner ++ .finish name :: behind ∧ openAfter [] inner = some []

theorem OpensScopes.shift {controllers : List Element} {statements before : List Statement}
    (h : OpensScopes controllers statements) (hb : openAfter [] before = some []) :
    OpensScopes controllers (before ++ statements) := by
  obtain ⟨scopes, hopen, hnames⟩ := h
  exact ⟨scopes, by rw [openAfter_append, hb]; exact hopen, hnames⟩

theorem OpensScopes.within {controllers : List Element} {statements : List Statement}
    (h : OpensScopes controllers statements) {c : Element} {name : String}
    (hname : IsNameFor "Txn" c name) :
    OpensScopes (c :: controllers) ([.start name] ++ statements) := by
  obtain ⟨scopes, hopen, hnames⟩ := h
  refine ⟨scopes ++ [name], ?_, by simpa using ⟨hname, hnames⟩⟩
  simpa [Statement.step] using openAfter_under hopen [name]

theorem RequestStands.extend {inside : Bool} {controllers : List Element} {sampler : Element}
    {m : Mark} (h : RequestStands inside controllers sampler m) (more : List Statement) :
    RequestStands inside controllers sampler (m.extend more) := by
  obtain ⟨name, hname, hrequest, hplace⟩ := h
  refine ⟨name, hname, hrequest, ?_⟩
  split at hplace
  · next hc => rw [if_pos hc]; exact hplace
  · next hc =>
    obtain ⟨hopen, before, behind, hbefore, hbehind⟩ := hplace
    rw [if_neg hc]
    exact ⟨hopen, before, behind ++ more, hbefore, by simp [Mark.extend, hbehind]⟩

theorem RequestStands.shift {inside : Bool} {controllers : List Element} {sampler : Element}
    {m : Mark} (h : RequestStands inside controllers sampler m) {more : List Statement}
    (hm : openAfter [] more = some []) :
    RequestStands inside controllers sampler (m.shift more) := by
  obtain ⟨name, hname, hrequest, hplace⟩ := h
  refine ⟨name, hname, hrequest, ?_⟩
  split at hplace
  · next hc => rw [if_pos hc]; exact hplace.shift hm
  · next hc =>
    obtain ⟨hopen, before, behind, hbefore, hbehind⟩ := hplace
    rw [if_neg hc]
    refine ⟨?_, more ++ before, behind, by simp [Mark.shift, hbefore], hbehind⟩
    rw [Mark.shift, openAfter_append, hm]
    exact hopen

theorem RequestStands.within {inside : Bool} {controllers : List Element} {sampler c : Element}
    {m : Mark} {name : String} (h : RequestStands true controllers sampler m)
    (hname : IsNameFor "Txn" c name) (behind : List Statement) :
    RequestStands inside (c :: controllers) sampler ((m.extend behind).shift [.start name]) := by
  obtain ⟨own, hown, hrequest, hplace⟩ := h
  rw [if_pos (.inl rfl)] at hplace
  refine ⟨own, hown, hrequest, ?_⟩
  rw [if_pos (.inr (List.cons_ne_nil _ _))]
  exact hplace.within hname

theorem ScopeStands.extend {stem : String} {controllers : List Element} {e : Element} {m : Mark}
    (h : ScopeStands stem controllers e m) (more : List Statement) :
    ScopeStands stem controllers e (m.extend more) := by
  obtain ⟨name, inner, behind, hname, hstart, hopen, hbehind, hinner⟩ := h
  exact ⟨name, inner, behind ++ more, hname, hstart, hopen, by simp [Mark.extend, hbehind], hinner⟩

theorem ScopeStands.shift {stem : String} {controllers : List Element} {e : Element} {m : Mark}
    (h : ScopeStands stem controllers e m) {more : List Statement}
    (hm : openAfter [] more = some []) : ScopeStands stem controllers e (m.shift more) := by
  obtain ⟨name, inner, behind, hname, hstart, hopen, hbehind, hinner⟩ := h
  exact ⟨name, inner, behind, hname, hstart, hopen.shift hm, hbehind, hinner⟩

theorem ScopeStands.within {stem : String} {controllers : List Element} {e c : Element} {m : Mark}
    {name : String} (h : ScopeStands stem controllers e m) (hname : IsNameFor "Txn" c name)
    (more : List Statement) :
    ScopeStands stem (c :: controllers) e ((m.extend more).shift [.start name]) := by
  obtain ⟨own, inner, behind, hown, hstart, hopen, hbehind, hinner⟩ := h
  exact ⟨own, inner, behind ++ more, hown, hstart, hopen.within hname,
    by simp [Mark.extend, Mark.shift, hbehind], hinner⟩

/-! ## Statements and the visits they come from -/

/-- The stem of the name that is made up for what a visit is to. -/
def stemOf (v : Visit) : String :=
  if v.isSampler then "Request" else "Txn"

/-- Whether what a visit is to gets a transaction: each controller, and a sampler under none. -/
def ownsScope (inside : Bool) (v : Visit) : Bool :=
  !v.isSampler || (!inside && v.above.isEmpty)

/-- Statements have the requests and the transactions of visits, in order, each where it has to
stand, and leave nothing open. -/
structure Scoped (inside : Bool) (visits : List Visit) (statements : List Statement) : Prop where
  balanced : openAfter [] statements = some []
  requests : List.Forall₂ (fun v m => RequestStands inside v.above v.element m)
    (visits.filter (·.isSampler)) (marksOf Statement.isRequest statements)
  scopes : List.Forall₂ (fun v m => ScopeStands (stemOf v) v.above v.element m)
    (visits.filter (ownsScope inside)) (marksOf Statement.isStart statements)

namespace Scoped

theorem nil (inside : Bool) : Scoped inside [] [] :=
  ⟨rfl, .nil, .nil⟩

theorem append {inside : Bool} {v w : List Visit} {a b : List Statement} (ha : Scoped inside v a)
    (hb : Scoped inside w b) : Scoped inside (v ++ w) (a ++ b) where
  balanced := by rw [openAfter_append, ha.balanced]; exact hb.balanced
  requests := by
    rw [List.filter_append, marksOf_append]
    refine List.rel_append ?_ ?_ <;> rw [List.forall₂_map_right_iff]
    · exact ha.requests.imp fun _ _ h => h.extend b
    · exact hb.requests.imp fun _ _ h => h.shift ha.balanced
  scopes := by
    rw [List.filter_append, marksOf_append]
    refine List.rel_append ?_ ?_ <;> rw [List.forall₂_map_right_iff]
    · exact ha.scopes.imp fun _ _ h => h.extend b
    · exact hb.scopes.imp fun _ _ h => h.shift ha.balanced

/-- Registrations stand for no visit. -/
theorem registrations (inside : Bool) (found : List Plan.Correlation) :
    Scoped inside [] (found.map Statement.register) := by
  induction found with
  | nil => exact nil inside
  | cons c rest ih =>
    have hone : Scoped inside [] [.register c] := ⟨rfl, .nil, .nil⟩
    exact hone.append ih

/-- A request under a controller. -/
theorem request_inside {sampler : Element} {name : String} (parts : List Element)
    (hname : IsNameFor "Request" sampler name) :
    Scoped true [⟨[], sampler, true, parts, false⟩] [.request (Plan.requestOf sampler name)] where
  balanced := rfl
  requests := .cons ⟨name, hname, rfl, [], rfl, .nil⟩ .nil
  scopes := .nil

/-- A request under no controller, in the transaction of its own. -/
theorem request_alone {sampler : Element} {name : String} (parts : List Element)
    (hname : IsNameFor "Request" sampler name) :
    Scoped false [⟨[], sampler, true, parts, false⟩]
      [.start name, .request (Plan.requestOf sampler name), .finish name] where
  balanced := by simp [Statement.step]
  requests := .cons ⟨name, hname, rfl, rfl, [], [], rfl, rfl⟩ .nil
  scopes := .cons ⟨name, [.request (Plan.requestOf sampler name)], [], hname, rfl,
    ⟨[], rfl, .nil⟩, rfl, rfl⟩ .nil

theorem request (correlate inside : Bool) {sampler : Element} (parts : List Element)
    {name : String} (hname : IsNameFor "Request" sampler name) :
    Scoped inside [⟨[], sampler, true, parts, false⟩]
      (requestOutcome correlate inside sampler parts name).statements := by
  refine append (v := []) (registrations inside _) ?_
  cases inside with
  | true => exact request_inside parts hname
  | false => exact request_alone parts hname

theorem marksOf_within (kind : Statement → Bool) (name : String) (statements : List Statement)
    (hfinish : kind (.finish name) = false) :
    marksOf kind (.start name :: statements ++ [.finish name])
      = (if kind (.start name) then [⟨[], .start name, statements ++ [.finish name]⟩] else [])
        ++ (marksOf kind statements).map
          fun m => (m.extend [.finish name]).shift [.start name] := by
  -- three parts: the start, the statements between, and the end, which is not asked for
  have hend : marksOf kind [.finish name] = [] := by simp [marksOf, marks, hfinish]
  change marksOf kind ([.start name] ++ (statements ++ [.finish name])) = _
  rw [marksOf_append, marksOf_append, hend]
  congr 1
  · cases h : kind (.start name) <;> simp [marksOf, marks, h, Mark.extend]
  · simp [Function.comp_def]

/-- What is below a controller, within the transaction of the controller. -/
theorem within (inside bare : Bool) {visits : List Visit} {statements : List Statement}
    {c : Element} {name : String} (hname : IsNameFor "Txn" c name)
    (h : Scoped true visits statements) :
    Scoped inside (⟨[], c, false, [], bare⟩ :: visits.map (Visit.under c))
      (.start name :: statements ++ [.finish name]) where
  balanced := by
    rw [openAfter_append, openAfter_cons]
    simp [Statement.step, openAfter_of_balanced h.balanced]
  requests := by
    rw [marksOf_within _ _ _ rfl, List.filter_cons_of_neg (by simp), List.filter_map]
    simp only [Statement.isRequest, Bool.false_eq_true, if_false, List.nil_append]
    rw [List.forall₂_map_left_iff, List.forall₂_map_right_iff]
    exact h.requests.imp fun _ _ hm => hm.within hname [.finish name]
  scopes := by
    -- below a controller only controllers have a transaction, whatever is above it
    have hkept : (ownsScope inside ∘ Visit.under c) = ownsScope true := by
      funext v
      simp [ownsScope, Visit.under]
    rw [marksOf_within _ _ _ rfl, List.filter_cons_of_pos (by simp [ownsScope]), List.filter_map,
      hkept]
    simp only [Statement.isStart, if_true, List.cons_append, List.nil_append]
    refine .cons ⟨name, statements, [], hname, rfl, ⟨[], rfl, .nil⟩, rfl, h.balanced⟩ ?_
    rw [List.forall₂_map_left_iff, List.forall₂_map_right_iff]
    exact h.scopes.imp fun _ _ hm => hm.within hname [.finish name]

end Scoped

/-! ## Following items -/

/-- Something that holds of the visits of items and of the outcome of following them, because the
ways in which outcomes are put together keep it. -/
structure KeptByFollowing (correlate : Bool) (holds : Bool → List Visit → Outcome → Prop) :
    Prop where
  noticed (inside : Bool) (log : List Record) : holds inside [] { log := log }
  append {inside : Bool} {v w : List Visit} {a b : Outcome} (ha : holds inside v a)
    (hb : holds inside w b) : holds inside (v ++ w) (a.append b)
  request (inside : Bool) {sampler : Element} (parts : List Element) {name : String}
    (hname : IsNameFor "Request" sampler name) :
    holds inside [⟨[], sampler, true, parts, false⟩]
      (requestOutcome correlate inside sampler parts name)
  within (inside bare : Bool) {visits : List Visit} {o : Outcome} {c : Element} {name : String}
    (hname : IsNameFor "Txn" c name) (h : holds true visits o) :
    holds inside (⟨[], c, false, [], bare⟩ :: visits.map (Visit.under c)) (o.within name)

namespace KeptByFollowing

variable {correlate : Bool} {holds : Bool → List Visit → Outcome → Prop}

mutual

theorem followItem (h : KeptByFollowing correlate holds) (inside : Bool) :
    ∀ (item : Item) (n : Names),
      holds inside (visitsOfItem item) (Script.followItem correlate inside item n).1
  | .request sampler parts, n => h.request inside parts (n.isNameFor_nameOf sampler "Request")
  | .transaction controller items, n =>
    h.within inside false (n.isNameFor_nameOf controller "Txn")
      (h.followItems true items (n.nameOf controller "Txn").2)
  | .bareTransaction controller, n =>
    h.within inside true (n.isNameFor_nameOf controller "Txn") (h.noticed true _)
  | .unsupported _, _ => h.noticed inside _

theorem followItems (h : KeptByFollowing correlate holds) (inside : Bool) :
    ∀ (items : List Item) (n : Names),
      holds inside (visitsOf items) (Script.followItems correlate inside items n).1
  | [], _ => h.noticed inside []
  | item :: items, n =>
    h.append (h.followItem inside item n)
      (h.followItems inside items (Script.followItem correlate inside item n).2)

end

theorem actionOf (h : KeptByFollowing correlate holds) (items : Option (List Item)) (n : Names) :
    holds false (visitsOf (items.getD [])) (Script.actionOf correlate items n).1 := by
  cases items with
  | none => exact h.noticed false []
  | some items => exact h.followItems false items n

end KeptByFollowing

/-- Following items gives the requests and the transactions of what the items lead to. -/
theorem scoped_actionOf (correlate : Bool) (items : Option (List Item)) (n : Names) :
    Scoped false (visitsOf (items.getD [])) (actionOf correlate items n).1.statements := by
  have hkept : KeptByFollowing correlate fun inside visits o =>
      Scoped inside visits o.statements :=
    { noticed := fun inside _ => Scoped.nil inside
      append := Scoped.append
      request := fun inside => Scoped.request correlate inside
      within := fun inside bare _ _ _ _ hname h => h.within inside bare hname }
  exact hkept.actionOf items n

/-! ## The action of a container -/

/-- Two lists that match one and the same list match each other through it. -/
theorem forall₂_through {α β γ : Type} {r : α → β → Prop} {t : α → γ → Prop} {as : List α}
    {bs : List β} {cs : List γ} (hr : List.Forall₂ r as bs) (ht : List.Forall₂ t as cs) :
    List.Forall₂ (fun b c => ∃ a, r a b ∧ t a c) bs cs := by
  induction hr generalizing cs with
  | nil => cases ht; exact .nil
  | cons h _ ih =>
    cases ht with
    | cons h' ht => exact .cons ⟨_, h, h'⟩ (ih ht)

/-- The request of a sampler reached from the container at a place stands where it has to. -/
def SamplerStands (root : Element) (place : List Nat) (s : Site) (m : Mark) : Prop :=
  ∃ above, Reached root place above s
    ∧ RequestStands false (above.map Site.element) s.element m

/-- The transaction of a controller or sampler reached from the container at a place stands where
it has to. -/
def OwnerStands (root : Element) (place : List Nat) (s : Site) (m : Mark) : Prop :=
  ∃ above, Reached root place above s
    ∧ ScopeStands (if s.element.tag = Plan.httpSampler then "Request" else "Txn")
      (above.map Site.element) s.element m

/-- The lines made for a container, whatever the options and the names given before, are those of
statements in which every end of a transaction meets its start and nothing is left open. Their
requests are those of the samplers reached from the container, and their transactions those of the
controllers reached from it and of the samplers below none of these, all in document order: a
request below controllers stands in exactly their transactions, any other alone in its own. -/
theorem action_scoped (root : Element) (place : List Nat) (options : Options) (names : Names) :
    ∃ statements : List Statement,
      (actionOf options.enableCorrelation
          ((Plan.siteAt? root place).map fun s => Plan.itemsOf s.element) names).1.lines
        = statements.flatMap Statement.lines
      ∧ openAfter [] statements = some []
      ∧ List.Forall₂ (SamplerStands root place) (reachedSamplers root place)
          (marksOf Statement.isRequest statements)
      ∧ List.Forall₂ (OwnerStands root place) (scopeOwners root place)
          (marksOf Statement.isStart statements) := by
  have hscoped := scoped_actionOf options.enableCorrelation
    ((Plan.siteAt? root place).map fun s => Plan.itemsOf s.element) names
  have hmet := Plan.visits_isTo_metSites_siteAt? root place
  refine ⟨_, rfl, hscoped.balanced, ?_, ?_⟩
  · have hsamplers := List.rel_filter (p := (·.isSampler)) (q := (·.element.tag = Plan.httpSampler))
      (fun v s h => by simpa using h.isSampler) hmet
    rw [Plan.metSites_filter_sampler] at hsamplers
    refine (forall₂_through hsamplers hscoped.requests).imp ?_
    rintro s m ⟨v, hto, hstands⟩
    obtain ⟨above, hreached, habove⟩ := hto.reached
    exact ⟨above, hreached, habove ▸ hto.element ▸ hstands⟩
  · have howners := List.rel_filter (p := ownsScope false)
      (q := fun s => s.element.tag = Plan.httpSampler → s.place.length = place.length + 1)
      (fun v s h => by
        obtain ⟨above, hreached, habove⟩ := h.reached
        have hnil : v.above = [] ↔ above = [] := by rw [habove, List.map_eq_nil_iff]
        simp only [ownsScope, Bool.or_eq_true, Bool.not_eq_true', Bool.not_false, Bool.true_and,
          List.isEmpty_iff, decide_eq_true_eq, hnil, hreached.above_eq_nil_iff, ← h.isSampler]
        cases v.isSampler <;> simp) hmet
    rw [Plan.metSites_filter_owner] at howners
    refine (forall₂_through howners hscoped.scopes).imp ?_
    rintro s m ⟨v, hto, hstands⟩
    obtain ⟨above, hreached, habove⟩ := hto.reached
    have hstem : stemOf v = if s.element.tag = Plan.httpSampler then "Request" else "Txn" := by
      simp only [stemOf, ← hto.isSampler]
    exact ⟨above, hreached, hstem ▸ habove ▸ hto.element ▸ hstands⟩

end VuserScript.Script
