/-
  VuserScript.Proofs.Console.Showing

  Steps that show something and go on. What a command shows is a text of its own
  with names in it; the tags of the text are closed, so that the command is not
  stopped unless there are tags in the names.
-/
import VuserScript.Proofs.Console.Shell
import VuserScript.Proofs.Text.Markup

namespace VuserScript.Console

open Text.Markup (CanShow Closes HasNoTag canShow_styled exists_plainText isStyleName styled)

/-! ## Texts with names -/

/-- A text in which no tag stands. -/
def IsPlain (s : String) : Prop :=
  HasNoTag s.toList

/-- A report in whose names and warnings no tag stands. -/
structure IsPlainReport (r : Conversion.Report) : Prop where
  names : ∀ script ∈ r.scripts, IsPlain script.name
  folders : ∀ script ∈ r.scripts, IsPlain script.folder
  warnings : ∀ warning ∈ r.warnings, IsPlain warning

/-- A text without opening brackets and backslashes. -/
def IsBare (s : String) : Prop :=
  ∀ c ∈ s.toList, c ≠ '[' ∧ c ≠ '\\'

-- named, since characters are a finite type as well, and one with too many members
instance (s : String) : Decidable (IsBare s) :=
  List.decidableBAll (fun c => c ≠ '[' ∧ c ≠ '\\') s.toList

section

variable {s t before label style : String}

theorem isBare_toString (n : Nat) : IsBare (toString n) := by
  intro c hc
  rw [Nat.toString_eq_repr, Nat.toList_repr] at hc
  have hdigit : c.isDigit = true := Nat.isDigit_of_mem_toDigits (by decide) (by decide) hc
  constructor <;> rintro rfl <;> exact absurd hdigit (by decide)

theorem IsBare.append (hs : IsBare s) (ht : IsBare t) : IsBare (s ++ t) := by
  intro c hc
  rw [String.toList_append, List.mem_append] at hc
  exact hc.elim (hs c) (ht c)

/-- A number within a text. -/
theorem IsBare.number (hs : IsBare s) (n : Nat) (ht : IsBare t) : IsBare (s ++ toString n ++ t) :=
  (hs.append (isBare_toString n)).append ht

theorem IsBare.isPlain (h : IsBare s) : IsPlain s :=
  Text.Markup.hasNoTag_of_not_mem fun hmem => (h '[' hmem).1 rfl

theorem IsBare.canShow (hs : IsBare s) (h : CanShow 0 [] t.toList) :
    CanShow 0 [] (s ++ t).toList := by
  rw [String.toList_append]
  exact h.text hs

theorem IsPlain.canShow (h : IsPlain s) : CanShow 0 [] s.toList :=
  .of_hasNoTag h 0

/-- A name, and a new line behind it. -/
theorem IsPlain.canShow_newLine (hs : IsPlain s) (h : CanShow 0 [] t.toList)
    (ht : ¬ Closes t.toList) : CanShow 0 [] (s ++ "\n" ++ t).toList := by
  rw [String.toList_append, String.toList_append, List.append_assoc]
  refine CanShow.append (fun slashes => ?_) hs (fun hcloses => ht ?_) 0
  · exact h.cons (by decide) (Text.Markup.bracketed?_of_ne (by decide) _)
  · exact hcloses

/-- A text in a style, and what stands before and behind it. -/
theorem canShow_labelled (hbefore : IsBare before) (hstyle : isStyleName style.toList = true)
    (hlabel : IsBare label) (h : CanShow 0 [] t.toList) :
    CanShow 0 [] (before ++ styled style label ++ t).toList := by
  rw [String.append_assoc]
  exact hbefore.canShow (canShow_styled h hstyle hlabel)

end

namespace Shell

variable {α β : Type}

/-! ## Going on -/

/-- A step that goes on, whatever is shown already, and leaves the session as it is. -/
def GoesOn (x : Shell α) : Prop :=
  ∀ s : Scene, ∃ a blocks, x.outcome s = (.ok a, blocks, s.2)

namespace GoesOn

theorem pure (a : α) : GoesOn (Pure.pure a : Shell α) := fun s => ⟨a, s.1, rfl⟩

theorem put (b : Block) : GoesOn (put b) := fun s => ⟨(), s.1 ++ [b], rfl⟩

theorem bind {x : Shell α} {f : α → Shell β} (hx : GoesOn x) (hf : ∀ a, GoesOn (f a)) :
    GoesOn (x >>= f) := by
  intro s
  obtain ⟨a, blocks, hout⟩ := hx s
  rw [outcome_bind, hout]
  exact hf a (blocks, s.2)

/-- A step that may be left out, and what follows in either case. -/
theorem optional {b : Bool} {x : Shell Unit} {f : Unit → Shell α} (hx : GoesOn x)
    (hf : ∀ u, GoesOn (f u)) : GoesOn (if b then f () else x >>= f) := by
  cases b with
  | true => exact hf ()
  | false => exact bind hx hf

theorem forM {l : List α} {f : α → Shell Unit} (h : ∀ a ∈ l, GoesOn (f a)) :
    GoesOn (l.forM f) := by
  induction l with
  | nil => exact pure ()
  | cons a l ih =>
    have hrest := ih fun b hb => h b (.tail _ hb)
    exact bind (h a (.head _)) fun _ => hrest

theorem mapM {l : List α} {f : α → Shell β} (h : ∀ a ∈ l, GoesOn (f a)) :
    GoesOn (l.mapM f) := by
  induction l with
  | nil =>
    rw [List.mapM_nil]
    exact pure []
  | cons a l ih =>
    have hrest := ih fun b hb => h b (.tail _ hb)
    rw [List.mapM_cons]
    exact bind (h a (.head _)) fun b => bind hrest fun bs => pure (b :: bs)

end GoesOn

/-! ## Showing -/

section

variable {markup : String}

theorem goesOn_plainText (h : CanShow 0 [] markup.toList) : GoesOn (plainText markup) := by
  obtain ⟨out, hout⟩ := exists_plainText h
  intro s
  exact ⟨out, s.1, by rw [outcome_plainText, hout]⟩

theorem goesOn_say (h : CanShow 0 [] markup.toList) : GoesOn (say markup) :=
  (goesOn_plainText h).bind fun _ => .put _

theorem goesOn_sayBoxed (title : Option String) (h : CanShow 0 [] markup.toList) :
    GoesOn (sayBoxed title markup) :=
  (goesOn_plainText h).bind fun _ => .put _

theorem goesOn_sayTable {title : String} {columns : List Column} {rows : List (List String)}
    (h : ∀ row ∈ rows, ∀ cell ∈ row, IsPlain cell) : GoesOn (sayTable title columns rows) := by
  have hcell : ∀ row ∈ rows, ∀ cell ∈ row, GoesOn (plainText cell) := fun row hrow cell hmem =>
    goesOn_plainText (h row hrow cell hmem).canShow
  have hcolumn : ∀ row ∈ rows, ∀ n, GoesOn (plainText (row.getD n "")) := by
    intro row hrow n
    rw [List.getD_eq_getElem?_getD]
    cases hn : row[n]? with
    | none => exact goesOn_plainText (.nil 0 [])
    | some cell => exact hcell row hrow cell (List.mem_of_getElem? hn)
  -- all cells are read by columns before the rows are put together
  have hread : GoesOn ((List.range columns.length).forM fun n => rows.forM fun row => do
      let _ ← plainText (row.getD n "")) :=
    .forM fun n _ => .forM fun row hrow => (hcolumn row hrow n).bind fun _ => .pure ()
  have hshown : GoesOn (rows.mapM fun row => row.mapM plainText) :=
    .mapM fun row hrow => .mapM fun cell hmem => hcell row hrow cell hmem
  exact hread.bind fun _ => hshown.bind fun _ => .put _

end

/-! ## The report of a conversion -/

theorem isPlain_scriptRow {script : Conversion.GroupReport} (number : Nat)
    (hname : IsPlain script.name) (hfolder : IsPlain script.folder) :
    ∀ cell ∈ scriptRow number script, IsPlain cell := by
  have hnumber : ∀ n : Nat, IsPlain (toString n) := fun n => (isBare_toString n).isPlain
  simp only [scriptRow, List.forall_mem_cons, List.not_mem_nil, false_imp_iff, imp_true_iff,
    and_true]
  exact ⟨hnumber _, hname, hfolder, hnumber _, hnumber _, hnumber _, hnumber _⟩

/-- The text above the warnings. -/
theorem canShow_warningsHeading (n : Nat) :
    CanShow 0 [] ("\n[bold yellow]Warnings (" ++ toString n ++ "):[/bold yellow]").toList := by
  have hparts : "\n[bold yellow]Warnings (" ++ toString n ++ "):[/bold yellow]"
      = "\n" ++ styled "bold yellow" ("Warnings (" ++ toString n ++ "):") ++ "" := by
    rw [← String.toList_inj]
    simp [styled]
  have hlabel : IsBare ("Warnings (" ++ toString n ++ "):") :=
    IsBare.number (by decide +kernel) n (by decide +kernel)
  rw [hparts]
  exact canShow_labelled (by decide +kernel) (by decide +kernel) hlabel (.nil 0 [])

/-- The text below the warnings. -/
theorem canShow_warningsClosing : CanShow 0 []
    "[dim]Warnings are also written to each script's conversion.log[/dim]".toList := by
  have hparts : "[dim]Warnings are also written to each script's conversion.log[/dim]"
      = "" ++ styled "dim" "Warnings are also written to each script's conversion.log" ++ "" := by
    rfl
  rw [hparts]
  exact canShow_labelled (by decide +kernel) (by decide +kernel) (by decide +kernel) (.nil 0 [])

theorem goesOn_showReport {r : Conversion.Report} (h : IsPlainReport r) :
    GoesOn (showReport r) := by
  have hrows : ∀ row ∈ r.scripts.mapIdx fun n script => scriptRow (n + 1) script,
      ∀ cell ∈ row, IsPlain cell := by
    intro row hrow
    obtain ⟨n, hn, rfl⟩ := List.mem_mapIdx.mp hrow
    have hmem : r.scripts[n] ∈ r.scripts := List.getElem_mem hn
    exact isPlain_scriptRow (n + 1) (h.names _ hmem) (h.folders _ hmem)
  have hwarning : ∀ entry ∈ r.warnings.mapIdx fun n warning => (n + 1, warning),
      GoesOn (say ("  " ++ toString entry.1 ++ ". " ++ entry.2)) := by
    intro entry hentry
    obtain ⟨n, hn, rfl⟩ := List.mem_mapIdx.mp hentry
    have hplain : IsPlain r.warnings[n] := h.warnings _ (List.getElem_mem hn)
    have hnumber : IsBare ("  " ++ toString (n + 1) ++ ". ") :=
      IsBare.number (by decide +kernel) (n + 1) (by decide +kernel)
    exact goesOn_say (hnumber.canShow hplain.canShow)
  refine GoesOn.optional (goesOn_sayTable hrows) fun _ => ?_
  split
  · exact .pure ()
  · exact (goesOn_say (canShow_warningsHeading _)).bind fun _ => (GoesOn.forM hwarning).bind
      fun _ => goesOn_say canShow_warningsClosing

/-! ## The texts around a report -/

section

variable {jmxPath folder : String}

/-- The text that tells which plan is converted. -/
theorem canShow_planLine (h : IsPlain jmxPath) :
    CanShow 0 [] ("\n[bold]Converting JMX file:[/bold] " ++ jmxPath).toList := by
  have hparts : "\n[bold]Converting JMX file:[/bold] " ++ jmxPath
      = "\n" ++ styled "bold" "Converting JMX file:" ++ (" " ++ jmxPath) := by
    rw [← String.append_assoc]
    rfl
  have hpath : CanShow 0 [] (" " ++ jmxPath).toList :=
    IsBare.canShow (by decide +kernel) h.canShow
  rw [hparts]
  exact canShow_labelled (by decide +kernel) (by decide +kernel) (by decide +kernel) hpath

/-- The text that tells where the scripts are written. -/
theorem canShow_folderLine (h : IsPlain folder) :
    CanShow 0 [] ("[bold]Output folder:[/bold] " ++ folder).toList := by
  have hparts : "[bold]Output folder:[/bold] " ++ folder
      = "" ++ styled "bold" "Output folder:" ++ (" " ++ folder) := by
    rw [← String.append_assoc]
    rfl
  have hfolder : CanShow 0 [] (" " ++ folder).toList :=
    IsBare.canShow (by decide +kernel) h.canShow
  rw [hparts]
  exact canShow_labelled (by decide +kernel) (by decide +kernel) (by decide +kernel) hfolder

/-- The text below the report of a conversion that nothing has stopped. -/
theorem canShow_completed (h : IsPlain folder) :
    CanShow 0 [] ("[bold green]✓ Conversion completed![/bold green]\n\n"
      ++ "Script folders written to: " ++ folder
      ++ "\n[dim]Open them in VuGen and review parameters & correlations.[/dim]").toList := by
  have hdone : "[bold green]✓ Conversion completed![/bold green]\n\n"
      = styled "bold green" "✓ Conversion completed!" ++ "\n\n" := rfl
  have hlast : "\n[dim]Open them in VuGen and review parameters & correlations.[/dim]"
      = "\n" ++ (styled "dim" "Open them in VuGen and review parameters & correlations." ++ "") :=
    rfl
  have hbare : IsBare "Open them in VuGen and review parameters & correlations."
      ∧ IsBare "✓ Conversion completed!" := by
    decide +kernel
  have hadvice : CanShow 0 []
      (styled "dim" "Open them in VuGen and review parameters & correlations." ++ "").toList :=
    canShow_styled (.nil 0 []) (by decide +kernel) hbare.1
  have hfolder : CanShow 0 [] ("\n\n" ++ "Script folders written to: " ++ (folder ++ "\n"
      ++ (styled "dim" "Open them in VuGen and review parameters & correlations." ++ ""))).toList :=
    IsBare.canShow (by decide +kernel) (h.canShow_newLine hadvice (by decide +kernel))
  have hshown : CanShow 0 [] (styled "bold green" "✓ Conversion completed!" ++ _).toList :=
    canShow_styled hfolder (by decide +kernel) hbare.2
  rw [hdone, hlast]
  simpa only [String.append_assoc] using hshown

end

end Shell

end VuserScript.Console
