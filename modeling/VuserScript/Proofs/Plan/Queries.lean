/-
  VuserScript.Proofs.Plan.Queries

  The query of a URL and its parts. Arguments that are appended to a URL become
  parts of its query, behind those that are there already, and nothing before
  the query is touched. Only where the query ends with a question mark of its
  own the first argument runs into the last part.
-/
import VuserScript.Plan.Request
import Mathlib.Data.List.TakeWhile

namespace VuserScript.Plan

open Text (scriptForm)

variable {url query s t : List Char}

/-! ## Queries -/

/-- What stands before the first question mark of a URL. -/
def beforeQuery (url : List Char) : List Char :=
  url.takeWhile (· ≠ '?')

/-- What stands behind the first question mark of a URL. -/
def queryOf (url : List Char) : List Char :=
  (url.dropWhile (· ≠ '?')).tail

/-- The parts of a query between ampersands, without empty ones. -/
def queryParts (query : List Char) : List (List Char) :=
  (query.splitOn '&').filter (· ≠ [])

@[simp] theorem queryParts_nil : queryParts [] = [] := by
  decide

/-- Either there is no query, or a URL is what stands before it, the question mark and the query. -/
theorem url_cases (url : List Char) :
    ('?' ∉ url ∧ beforeQuery url = url ∧ queryOf url = [])
      ∨ ('?' ∉ beforeQuery url ∧ url = beforeQuery url ++ '?' :: queryOf url) := by
  have hparts := List.takeWhile_append_dropWhile (p := (· ≠ '?')) (l := url)
  have hbefore : '?' ∉ beforeQuery url := fun hmem => by
    simpa using List.mem_takeWhile_imp hmem
  cases hrest : url.dropWhile (· ≠ '?') with
  | nil =>
    have hself : beforeQuery url = url := by
      rwa [hrest, List.append_nil] at hparts
    exact .inl ⟨hself ▸ hbefore, hself, by rw [queryOf, hrest]; rfl⟩
  | cons c rest =>
    have hc : c = '?' := by
      have hhead := List.head?_dropWhile_not (· ≠ '?') url
      rw [hrest] at hhead
      simpa using hhead
    refine .inr ⟨hbefore, ?_⟩
    rw [queryOf, hrest, ← hc]
    exact (hrest ▸ hparts).symm

theorem beforeQuery_append (h : '?' ∉ s) (query : List Char) :
    beforeQuery (s ++ '?' :: query) = s := by
  have hkept : ∀ c ∈ s, decide (c ≠ '?') = true := by
    intro c hc
    simpa using fun heq : c = '?' => h (heq ▸ hc)
  rw [beforeQuery, List.takeWhile_append_of_pos hkept]
  simp

theorem queryOf_append (h : '?' ∉ s) (query : List Char) :
    queryOf (s ++ '?' :: query) = query := by
  have hkept : ∀ c ∈ s, decide (c ≠ '?') = true := by
    intro c hc
    simpa using fun heq : c = '?' => h (heq ▸ hc)
  rw [queryOf, List.dropWhile_append_of_pos hkept]
  simp

/-! ## Parts of texts that are put together -/

/-- What follows a text goes on with its last part. -/
theorem exists_splitOn_append (sep : Char) (s : List Char) : ∃ init last,
    ∀ t first rest, t.splitOn sep = first :: rest →
      (s ++ t).splitOn sep = init ++ (last ++ first) :: rest := by
  induction s with
  | nil => exact ⟨[], [], fun t first rest h => h⟩
  | cons c s ih =>
    obtain ⟨init, last, hsplit⟩ := ih
    by_cases hc : c = sep
    · refine ⟨[] :: init, last, fun t first rest h => ?_⟩
      simp [List.splitOn_cons_eq_if_modifyHead, hc, hsplit t first rest h]
    · cases init with
      | nil =>
        refine ⟨[], c :: last, fun t first rest h => ?_⟩
        simp [List.splitOn_cons_eq_if_modifyHead, hc, hsplit t first rest h]
      | cons part init =>
        refine ⟨(c :: part) :: init, last, fun t first rest h => ?_⟩
        simp [List.splitOn_cons_eq_if_modifyHead, hc, hsplit t first rest h]

theorem queryParts_append_ampersand (s t : List Char) :
    queryParts (s ++ '&' :: t) = queryParts s ++ queryParts t := by
  rw [queryParts, List.splitOn_append_cons_self, List.filter_append]
  rfl

/-! ## Arguments -/

/-- The texts that arguments have in a query. -/
def argumentTexts (arguments : List Argument) : List (List Char) :=
  arguments.map fun a => a.query.toList

/-- Arguments in which no ampersand is written. -/
def AmpersandFree (arguments : List Argument) : Prop :=
  ∀ a ∈ arguments, '&' ∉ (scriptForm a.name).toList ∧ '&' ∉ (scriptForm a.value).toList

variable {arguments : List Argument}

instance : Decidable (AmpersandFree arguments) :=
  inferInstanceAs (Decidable (∀ a ∈ arguments, _ ∧ _))

theorem argumentTexts_ne_nil (h : arguments ≠ []) : argumentTexts arguments ≠ [] := by
  simpa [argumentTexts] using h

theorem filter_argumentTexts (arguments : List Argument) :
    (argumentTexts arguments).filter (· ≠ []) = argumentTexts arguments := by
  refine List.filter_eq_self.mpr fun text htext => ?_
  obtain ⟨a, -, rfl⟩ := List.mem_map.mp htext
  simp [Argument.query]

/-- The arguments with ampersands between them. -/
def joinedArguments (arguments : List Argument) : List Char :=
  ['&'].intercalate (argumentTexts arguments)

theorem splitOn_joinedArguments (hne : arguments ≠ []) (h : AmpersandFree arguments) :
    (joinedArguments arguments).splitOn '&' = argumentTexts arguments := by
  refine List.splitOn_intercalate '&' (fun text htext => ?_) (argumentTexts_ne_nil hne)
  obtain ⟨a, ha, rfl⟩ := List.mem_map.mp htext
  obtain ⟨hname, hvalue⟩ := h a ha
  simp only [Argument.query, String.toList_append, List.mem_append, not_or]
  exact ⟨⟨hname, by decide⟩, hvalue⟩

theorem toList_appendQuery (url : String) (hne : arguments ≠ []) :
    (appendQuery url arguments).toList
      = url.toList ++ (querySeparator url).toList ++ joinedArguments arguments := by
  rw [appendQuery, if_neg (by simpa using hne)]
  simp [joinedArguments, argumentTexts, String.toList_intercalate, Function.comp_def]

theorem queryParts_joinedArguments (hne : arguments ≠ []) (h : AmpersandFree arguments) :
    queryParts (joinedArguments arguments) = argumentTexts arguments := by
  rw [queryParts, splitOn_joinedArguments hne h, filter_argumentTexts]

/-! ## Appended arguments -/

/-- Behind a query the ampersand is left out only if the query is empty or ends with an ampersand or
a question mark. -/
theorem querySeparator_eq {url : String} (hurl : url.toList = s ++ '?' :: query) :
    querySeparator url
      = if query.getLast? = some '&' ∨ query.getLast? = some '?' ∨ query = [] then "" else "&" := by
  have hlast : url.toList.getLast? = some (query.getLast?.getD '?') := by
    rw [hurl, List.getLast?_append, List.getLast?_cons]
    rfl
  have hmem : '?' ∈ url.toList := by simp [hurl]
  rw [querySeparator, if_neg (not_not.mpr hmem), hlast]
  cases hquery : query.getLast? with
  | none => simp [List.getLast?_eq_none_iff.mp hquery]
  | some c =>
    have hne : query ≠ [] := by
      rintro rfl
      simp at hquery
    simp [hne]

/-- Behind a question mark that ends a query the first argument is no part of its own. -/
theorem queryParts_behind_question_mark (hne : arguments ≠ []) (hfree : AmpersandFree arguments)
    (query : List Char) :
    queryParts (query ++ '?' :: joinedArguments arguments)
      ≠ queryParts (query ++ ['?']) ++ argumentTexts arguments := by
  obtain ⟨init, last, hsplit⟩ := exists_splitOn_append '&' query
  obtain ⟨first, rest, htexts⟩ := List.exists_cons_of_ne_nil (argumentTexts_ne_nil hne)
  have hjoined : ('?' :: joinedArguments arguments).splitOn '&' = ('?' :: first) :: rest := by
    simp [List.splitOn_cons_eq_if_modifyHead, splitOn_joinedArguments hne hfree, htexts]
  have hmark : ['?'].splitOn '&' = [['?']] := by decide
  have hrest : rest.filter (· ≠ []) = rest := by
    have hall := filter_argumentTexts arguments
    rw [htexts, List.filter_eq_self] at hall
    exact List.filter_eq_self.mpr fun text htext => hall text (List.mem_cons_of_mem _ htext)
  rw [queryParts, queryParts, hsplit _ _ _ hjoined, hsplit _ _ _ hmark, htexts]
  simp only [List.filter_append, List.filter_cons, hrest]
  intro heq
  have hlength := congrArg List.length heq
  simp at hlength

/-- Behind a query the arguments are parts of their own, unless it ends with a question mark. -/
theorem queryParts_behind (hne : arguments ≠ []) (hfree : AmpersandFree arguments)
    (query : List Char) :
    queryParts (query ++ ((if query.getLast? = some '&' ∨ query.getLast? = some '?' ∨ query = []
          then "" else "&").toList ++ joinedArguments arguments))
        = queryParts query ++ argumentTexts arguments
      ↔ query.getLast? ≠ some '?' := by
  cases hlast : query.getLast? with
  | none =>
    obtain rfl := List.getLast?_eq_none_iff.mp hlast
    simpa using queryParts_joinedArguments hne hfree
  | some c =>
    obtain ⟨init, rfl⟩ := List.getLast?_eq_some_iff.mp hlast
    by_cases hmark : c = '?'
    · -- The first argument runs into the last part.
      simpa [hmark] using queryParts_behind_question_mark hne hfree init
    · by_cases hampersand : c = '&'
      · have hparts : queryParts (init ++ '&' :: joinedArguments arguments)
            = queryParts (init ++ ['&']) ++ argumentTexts arguments := by
          rw [queryParts_append_ampersand, queryParts_append_ampersand, queryParts_nil,
            List.append_nil, queryParts_joinedArguments hne hfree]
        simpa [hampersand] using hparts
      · have hparts : queryParts (init ++ [c] ++ '&' :: joinedArguments arguments)
            = queryParts (init ++ [c]) ++ argumentTexts arguments := by
          rw [queryParts_append_ampersand, queryParts_joinedArguments hne hfree]
        simpa [hmark, hampersand] using hparts

end VuserScript.Plan
