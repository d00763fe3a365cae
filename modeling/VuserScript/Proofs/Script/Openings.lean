/-
  VuserScript.Proofs.Script.Openings

  The lines that open the calls of an action. A statement is one call, spread
  over lines: only the first of them is indented by a single step, all others
  are empty or indented further. So the calls of each kind are found, in order,
  among the lines alone, whatever texts of the plan stand in them.
-/
import VuserScript.Script.Statement
import Mathlib.Data.List.SplitBy

namespace VuserScript.Script

open Plan (Correlation Request)

/-! ## Statements by kind -/

/-- The kinds of statements. -/
inductive Kind where
  | registration
  | start
  | request
  | finish
  deriving DecidableEq, Repr

namespace Kind

/-- All kinds. -/
def all : List Kind := [registration, start, request, finish]

/-- The functions that statements of a kind call. -/
def functions : Kind → List String
  | registration => ["web_reg_save_param_ex", "web_reg_save_param_json"]
  | start => ["lr_start_transaction"]
  | request => ["web_url", "web_custom_request", "web_submit_data"]
  | finish => ["lr_end_transaction"]

theorem mem_all (k : Kind) : k ∈ all := by
  cases k <;> decide

end Kind

namespace Statement

/-- The kind of a statement. -/
def kind : Statement → Kind
  | .register _ => .registration
  | .start _ => .start
  | .request _ => .request
  | .finish _ => .finish

/-- The request of a statement that sends one. -/
def request? : Statement → Option Request
  | .request r => some r
  | _ => none

/-- The name of the transaction that a statement starts. -/
def started? : Statement → Option String
  | .start name => some name
  | _ => none

/-- The name of the transaction that a statement ends. -/
def finished? : Statement → Option String
  | .finish name => some name
  | _ => none

/-- The correlation that a statement registers. -/
def registered? : Statement → Option Correlation
  | .register c => some c
  | _ => none

end Statement

/-! ## Lines that open calls -/

/-- Whether a line opens a call of a function: it is indented by one step, and the name and a
parenthesis follow. -/
def opens (function line : String) : Bool :=
  ("    " ++ function ++ "(").toList.isPrefixOf line.toList

/-- Whether a line opens a call of a kind. -/
def Kind.opens (k : Kind) (line : String) : Bool :=
  k.functions.any fun function => Script.opens function line

/-- The function that a request calls. -/
def requestFunction (r : Request) : String :=
  if r.isGet then "web_url"
  else if r.rawBody || r.arguments.isEmpty then "web_custom_request"
  else "web_submit_data"

/-- The function that registers a correlation. -/
def registrationFunction (c : Correlation) : String :=
  match c.kind with
  | .regex => "web_reg_save_param_ex"
  | .json => "web_reg_save_param_json"

/-- The function that a statement calls. -/
def Statement.function : Statement → String
  | .register c => registrationFunction c
  | .start _ => "lr_start_transaction"
  | .request r => requestFunction r
  | .finish _ => "lr_end_transaction"

/-- The line that opens a request. -/
def requestLine (r : Request) : String :=
  "    " ++ requestFunction r ++ "(\"" ++ Text.escape r.name ++ "\","

/-- The line that starts a transaction. -/
def startLine (name : String) : String :=
  "    lr_start_transaction(\"" ++ Text.escape name ++ "\");"

/-- The line that ends a transaction. -/
def finishLine (name : String) : String :=
  "    lr_end_transaction(\"" ++ Text.escape name ++ "\", LR_AUTO);"

/-- The line that opens a registration. -/
def registrationLine (c : Correlation) : String :=
  "    " ++ registrationFunction c ++ "("

/-- The line that opens a statement. -/
def Statement.openingLine : Statement → String
  | .register c => registrationLine c
  | .start name => startLine name
  | .request r => requestLine r
  | .finish name => finishLine name

theorem requestFunction_mem (r : Request) : requestFunction r ∈ Kind.request.functions := by
  unfold requestFunction
  split
  · decide
  · split <;> decide

theorem Statement.function_mem (s : Statement) : s.function ∈ s.kind.functions := by
  cases s with
  | register c =>
    obtain ⟨kind, parameter, expression⟩ := c
    cases kind with
    | regex => exact .head _
    | json => exact .tail _ (.head _)
  | start name => exact .head _
  | request r => exact requestFunction_mem r
  | finish name => exact .head _

theorem Statement.exists_openingLine_eq (s : Statement) :
    ∃ rest, s.openingLine.toList = ("    " ++ s.function ++ "(").toList ++ rest := by
  cases s with
  | register c => exact ⟨[], (List.append_nil _).symm⟩
  | start name =>
    change ∃ rest, (startLine name).toList = "    lr_start_transaction(".toList ++ rest
    unfold startLine
    exact ⟨'"' :: (Text.escapeList name.toList ++ "\");".toList), by simp⟩
  | request r =>
    change ∃ rest, (requestLine r).toList = ("    " ++ requestFunction r ++ "(").toList ++ rest
    unfold requestLine
    exact ⟨'"' :: (Text.escapeList r.name.toList ++ "\",".toList), by simp⟩
  | finish name =>
    change ∃ rest, (finishLine name).toList = "    lr_end_transaction(".toList ++ rest
    unfold finishLine
    exact ⟨'"' :: (Text.escapeList name.toList ++ "\", LR_AUTO);".toList), by simp⟩

/-- No call begins with the beginning of a call of another function. -/
theorem functions_apart : ∀ f ∈ Kind.all.flatMap Kind.functions,
    ∀ g ∈ Kind.all.flatMap Kind.functions,
      ("    " ++ f ++ "(").toList.isPrefixOf ("    " ++ g ++ "(").toList = true → f = g := by
  decide

/-- No function is called by statements of two kinds. -/
theorem kinds_apart : ∀ k ∈ Kind.all, ∀ k' ∈ Kind.all, ∀ f ∈ k.functions, f ∈ k'.functions →
    k = k' := by
  decide

theorem mem_functions_of_mem {k : Kind} {f : String} (h : f ∈ k.functions) :
    f ∈ Kind.all.flatMap Kind.functions :=
  List.mem_flatMap.mpr ⟨k, k.mem_all, h⟩

/-- A statement is opened by a line that opens a call of its own function and of no other. -/
theorem opens_openingLine_iff {k : Kind} {f : String} (hf : f ∈ k.functions) (s : Statement) :
    opens f s.openingLine = true ↔ f = s.function := by
  obtain ⟨rest, hline⟩ := s.exists_openingLine_eq
  unfold opens
  rw [hline, List.isPrefixOf_iff_prefix]
  constructor
  · intro hlong
    have hown := mem_functions_of_mem s.function_mem
    rcases List.prefix_or_prefix_of_prefix hlong (List.prefix_append _ rest) with h | h
    · exact functions_apart f (mem_functions_of_mem hf) s.function hown
        (List.isPrefixOf_iff_prefix.mpr h)
    · exact (functions_apart s.function hown f (mem_functions_of_mem hf)
        (List.isPrefixOf_iff_prefix.mpr h)).symm
  · rintro rfl
    exact List.prefix_append _ rest

/-- A statement is opened by a line that opens a call of its own kind and of no other. -/
theorem Kind.opens_openingLine (k : Kind) (s : Statement) :
    k.opens s.openingLine = decide (s.kind = k) := by
  rw [Bool.eq_iff_iff, decide_eq_true_iff, Kind.opens, List.any_eq_true]
  constructor
  · rintro ⟨f, hf, hopens⟩
    rw [opens_openingLine_iff hf] at hopens
    exact kinds_apart _ s.kind.mem_all k k.mem_all _ s.function_mem (hopens ▸ hf)
  · rintro rfl
    exact ⟨s.function, s.function_mem, (opens_openingLine_iff s.function_mem s).mpr rfl⟩

/-! ## Lines that go on with a call -/

/-- A line that goes on with a call: it is empty, or indented by two steps. -/
def GoesOn (line : String) : Prop :=
  line = "" ∨ "        ".toList <+: line.toList

@[simp] theorem goesOn_fieldLine (key value : String) : GoesOn (fieldLine key value) := by
  unfold fieldLine
  exact .inr (by simp)

theorem goesOn_itemLine (a : Plan.Argument) : GoesOn (itemLine a) := by
  unfold itemLine
  exact .inr (by simp)

theorem goesOn_of_mem_lastLines : ∀ line ∈ lastLines, GoesOn line := by
  simp only [lastLines, List.forall_mem_cons, List.not_mem_nil, false_imp_iff, implies_true,
    and_true]
  exact ⟨.inr (by decide), .inl rfl⟩

/-- Nothing is opened by a line that goes on, since the name of a function does not begin with a
blank. -/
theorem GoesOn.opens_eq_false {line : String} (h : GoesOn line) {f : String}
    (hf : f.toList.head? ≠ some ' ') (hne : f ≠ "") : opens f line = false := by
  obtain ⟨c, rest, hfunction⟩ : ∃ c rest, f.toList = c :: rest :=
    List.exists_cons_of_ne_nil fun hnil => hne (String.toList_inj.mp hnil)
  rw [hfunction, List.head?_cons, Ne, Option.some_inj] at hf
  rcases h with rfl | ⟨more, hline⟩
  · simp [opens]
  · simp [opens, ← hline, hfunction, List.isPrefixOf, hf]

theorem GoesOn.kind_opens_eq_false {line : String} (h : GoesOn line) (k : Kind) :
    k.opens line = false := by
  have hnames : ∀ k ∈ Kind.all, ∀ f ∈ k.functions, f.toList.head? ≠ some ' ' ∧ f ≠ "" := by decide
  rw [Kind.opens, List.any_eq_false]
  intro f hf
  obtain ⟨hblank, hne⟩ := hnames k k.mem_all f hf
  simp [h.opens_eq_false hblank hne]

/-- Lines of one call: the first opens it, and all others go on with it. -/
def OpensWith (first : String) (lines : List String) : Prop :=
  ∃ inner, lines = first :: inner ∧ ∀ line ∈ inner, GoesOn line

theorem opensWith_append {first : String} {inner more : List String}
    (hinner : ∀ line ∈ inner, GoesOn line) (hmore : ∀ line ∈ more, GoesOn line) :
    OpensWith first (first :: inner ++ more) :=
  ⟨inner ++ more, rfl, fun line h => (List.mem_append.mp h).elim (hinner line) (hmore line)⟩

theorem opensWith_singleLine (first : String) : OpensWith first [first, ""] :=
  ⟨[""], rfl, by simp [GoesOn]⟩

theorem opensWith_registrationLines (c : Correlation) :
    OpensWith (registrationLine c) (registrationLines c) := by
  obtain ⟨kind, parameter, expression⟩ := c
  cases kind <;> exact opensWith_append (by simp) goesOn_of_mem_lastLines

theorem opensWith_customLines (r : Request) (body : Option String) :
    OpensWith ("    web_custom_request(\"" ++ Text.escape r.name ++ "\",")
      (customLines r body) := by
  unfold customLines
  rw [List.append_assoc]
  refine opensWith_append (by simp) fun line h => ?_
  rcases List.mem_append.mp h with h | h
  · obtain ⟨text, -, rfl⟩ := Option.map_eq_some_iff.mp (Option.mem_toList.mp h)
    exact goesOn_fieldLine _ _
  · exact goesOn_of_mem_lastLines line h

theorem opensWith_formLines (r : Request) :
    OpensWith ("    web_submit_data(\"" ++ Text.escape r.name ++ "\",") (formLines r) := by
  unfold formLines
  rw [List.append_assoc]
  refine opensWith_append ?_ fun line h => ?_
  · have hitems : GoesOn "        ITEMDATA," := .inr (by decide)
    simp [hitems]
  rcases List.mem_append.mp h with h | h
  · obtain ⟨a, -, rfl⟩ := List.mem_map.mp h
    exact goesOn_itemLine a
  · exact goesOn_of_mem_lastLines line h

theorem opensWith_requestLines (r : Request) : OpensWith (requestLine r) (requestLines r) := by
  unfold requestLines requestLine requestFunction
  by_cases hget : r.isGet = true
  · rw [if_pos hget, if_pos hget]
    exact opensWith_append (by simp) goesOn_of_mem_lastLines
  rw [if_neg hget, if_neg hget]
  by_cases hraw : r.rawBody = true
  · rw [if_pos hraw, if_pos (by rw [hraw, Bool.true_or])]
    exact opensWith_customLines r _
  rw [if_neg hraw]
  by_cases hempty : r.arguments.isEmpty = true
  · rw [if_pos hempty, if_pos (by rw [hempty, Bool.or_true])]
    exact opensWith_customLines r none
  · rw [if_neg hempty, if_neg (by simp_all)]
    exact opensWith_formLines r

/-- The lines of a statement are one call. -/
theorem opensWith_lines (s : Statement) : OpensWith s.openingLine s.lines := by
  cases s with
  | register c => exact opensWith_registrationLines c
  | start name => exact opensWith_singleLine _
  | request r => exact opensWith_requestLines r
  | finish name => exact opensWith_singleLine _

/-! ## Calls of a kind among lines -/

theorem filter_lines (k : Kind) (s : Statement) :
    s.lines.filter k.opens = if s.kind = k then [s.openingLine] else [] := by
  obtain ⟨inner, hlines, hinner⟩ := opensWith_lines s
  have hnone : inner.filter k.opens = [] := by
    rw [List.filter_eq_nil_iff]
    intro line h
    simp [(hinner line h).kind_opens_eq_false k]
  rw [hlines, List.filter_cons, hnone, k.opens_openingLine]
  simp only [decide_eq_true_eq]

/-- The lines that open calls of a kind are, in order, those of the statements of this kind. -/
theorem filter_flatMap_lines {α : Type} {k : Kind} {part : Statement → Option α}
    {line : α → String}
    (hpart : ∀ s, (if s.kind = k then [s.openingLine] else []) = (part s).toList.map line)
    (statements : List Statement) :
    (statements.flatMap Statement.lines).filter k.opens = (statements.filterMap part).map line := by
  induction statements with
  | nil => rfl
  | cons s rest ih =>
    rw [List.flatMap_cons, List.filter_append, ih, filter_lines, hpart, List.filterMap_cons]
    cases part s <;> rfl

theorem filter_request (statements : List Statement) :
    (statements.flatMap Statement.lines).filter Kind.request.opens
      = (statements.filterMap Statement.request?).map requestLine :=
  filter_flatMap_lines (fun s => by cases s <;> rfl) statements

theorem filter_start (statements : List Statement) :
    (statements.flatMap Statement.lines).filter Kind.start.opens
      = (statements.filterMap Statement.started?).map startLine :=
  filter_flatMap_lines (fun s => by cases s <;> rfl) statements

theorem filter_finish (statements : List Statement) :
    (statements.flatMap Statement.lines).filter Kind.finish.opens
      = (statements.filterMap Statement.finished?).map finishLine :=
  filter_flatMap_lines (fun s => by cases s <;> rfl) statements

theorem filter_registration (statements : List Statement) :
    (statements.flatMap Statement.lines).filter Kind.registration.opens
      = (statements.filterMap Statement.registered?).map registrationLine :=
  filter_flatMap_lines (fun s => by cases s <;> rfl) statements

/-! ## Lines parted into calls -/

instance : DecidablePred GoesOn := fun line =>
  inferInstanceAs (Decidable (line = "" ∨ "        ".toList <+: line.toList))

/-- Lines parted into calls: a call ends where a line does not go on with it. -/
def callsAmong (lines : List String) : List (List String) :=
  lines.splitBy fun _ next => decide (GoesOn next)

/-- The opening of a statement goes on with nothing. -/
theorem not_goesOn_openingLine (s : Statement) : ¬ GoesOn s.openingLine := by
  intro h
  have hopens : s.kind.opens s.openingLine = true := by
    rw [Kind.opens_openingLine, decide_eq_true rfl]
  rw [h.kind_opens_eq_false] at hopens
  cases hopens

/-- Lines that go on with a call are not parted from it. -/
theorem callsAmong_cons {inner : List String} (h : ∀ line ∈ inner, GoesOn line) (first : String) :
    callsAmong (first :: inner) = [first :: inner] := by
  have hchain : (first :: inner).IsChain fun _ next => decide (GoesOn next) = true := by
    induction inner generalizing first with
    | nil => exact .singleton first
    | cons line inner ih =>
      rw [List.forall_mem_cons] at h
      exact .cons_cons (decide_eq_true h.1) (ih h.2 line)
  exact List.splitBy_of_isChain (List.cons_ne_nil first inner) hchain

/-- The calls among the lines of statements are those of the statements. -/
theorem callsAmong_flatMap_lines (statements : List Statement) :
    callsAmong (statements.flatMap Statement.lines) = statements.map Statement.lines := by
  induction statements with
  | nil => rfl
  | cons s rest ih =>
    -- what follows the lines of a statement is nothing, or the opening of the next one
    have hnext : ∀ line ∈ (rest.flatMap Statement.lines).head?, decide (GoesOn line) = false := by
      intro line hline
      cases rest with
      | nil => cases hline
      | cons s' rest =>
        obtain ⟨inner, hlines, -⟩ := opensWith_lines s'
        rw [List.flatMap_cons, hlines, List.cons_append, List.head?_cons] at hline
        cases hline
        exact decide_eq_false (not_goesOn_openingLine s')
    obtain ⟨inner, hlines, hinner⟩ := opensWith_lines s
    have hown : callsAmong s.lines = [s.lines] := by
      rw [hlines]
      exact callsAmong_cons hinner s.openingLine
    have happend : callsAmong (s.lines ++ rest.flatMap Statement.lines)
        = callsAmong s.lines ++ callsAmong (rest.flatMap Statement.lines) :=
      List.splitBy_append fun _ _ line hline => hnext line hline
    rw [List.flatMap_cons, happend, hown, ih]
    rfl

end VuserScript.Script
