/-
  VuserScript.Proofs.OptionsFile

  What comes of a file of options, whatever its bytes are. Either there are
  options, each with the value that the file gives it last or with its default,
  or a problem that names the file, or one of the troubles that are passed on:
  bytes that make no text, scalars that are no values, and keys that are no
  names.
-/
import VuserScript.OptionsFile
import VuserScript.Proofs.Options
import VuserScript.Proofs.Session
import VuserScript.Proofs.Storage.Operations

namespace VuserScript

namespace OptionsFile

open Storage (Disk Path)
open Yaml (Document Failure Value)

/-! ## Keys that are names -/

/-- The name that a key is, if it is a text. -/
def nameOf? : Value → Option String
  | .text name => some name
  | _ => none

/-- The value that a mapping gives to a name: the last one counts. -/
def given? (entries : List (Value × Value)) (name : String) : Option OptionValue :=
  entries.reverse.findSome? fun entry =>
    if nameOf? entry.1 = some name then some (optionValue entry.2) else none

section

variable {entries : List (String × OptionValue)} {name other : String} {v w : OptionValue}

theorem mem_put_self : (name, w) ∈ put entries name v ↔ w = v := by
  unfold put
  split
  · next hthere =>
    obtain ⟨entry, hentry, hname⟩ := List.any_eq_true.mp hthere
    rw [List.mem_map]
    constructor
    · rintro ⟨e, -, he⟩
      split at he
      · exact (congrArg Prod.snd he).symm
      · next hsame =>
        rw [he] at hsame
        exact absurd (beq_self_eq_true name) hsame
    · rintro rfl
      exact ⟨entry, hentry, if_pos hname⟩
  · next hthere =>
    have hno : (name, w) ∉ entries := fun hmem =>
      hthere (List.any_eq_true.mpr ⟨_, hmem, beq_self_eq_true name⟩)
    simp [hno]

theorem mem_put_of_ne (h : other ≠ name) :
    (other, w) ∈ put entries name v ↔ (other, w) ∈ entries := by
  unfold put
  split
  · rw [List.mem_map]
    constructor
    · rintro ⟨e, he, heq⟩
      split at heq
      · exact absurd (congrArg Prod.fst heq).symm h
      · rwa [← heq]
    · intro hmem
      refine ⟨(other, w), hmem, if_neg ?_⟩
      simpa using h
  · simp [h]

end

theorem mem_named_iff {entries : List (Value × Value)} {name : String} {v : OptionValue} :
    (name, v) ∈ named entries ↔ given? entries name = some v := by
  induction entries using List.reverseRecOn generalizing v with
  | nil => simp [named, given?]
  | append_singleton entries entry ih =>
    obtain ⟨key, value⟩ := entry
    have hnamed : named (entries ++ [(key, value)]) = match key with
        | .text other => put (named entries) other (optionValue value)
        | _ => named entries := by
      rw [named, List.foldl_append]
      rfl
    have hgiven : given? (entries ++ [(key, value)]) name
        = if nameOf? key = some name then some (optionValue value) else given? entries name := by
      rw [given?, List.reverse_append, List.reverse_singleton, List.singleton_append,
        List.findSome?_cons]
      by_cases hkey : nameOf? key = some name
      · simp only [hkey, if_true]
      · simp only [hkey, if_false]
        rfl
    rw [hnamed, hgiven]
    cases key with
    | text other =>
      by_cases hname : name = other
      · subst hname
        rw [mem_put_self]
        simp [nameOf?, eq_comm]
      · rw [mem_put_of_ne hname, ih]
        simp [nameOf?, Ne.symm hname]
    | _ => simpa [nameOf?] using ih

theorem lookup_named (entries : List (Value × Value)) (name : String) :
    (named entries).reverse.lookup name = given? entries name :=
  lookup_eq_of_mem_iff fun _ => List.mem_reverse.trans mem_named_iff

/-! ## Mappings -/

/-- A mapping of names of options to values that they can have; only the last value of each
counts. -/
structure IsOptions (entries : List (Value × Value)) : Prop where
  keys : ∀ entry ∈ entries, ∃ name ∈ Options.names, nameOf? entry.1 = some name
  values : ∀ name value, given? entries name = some value → Options.IsValueFor name value

/-- Each option has the value that a mapping gives it, or its default. -/
def HasValues (o : Options) (entries : List (Value × Value)) : Prop :=
  ∀ name ∈ Options.names, o.entries.lookup name
    = (given? entries name).or (({} : Options).entries.lookup name)

section

variable {entries : List (Value × Value)} {path : String} {o : Options}

theorem isText_iff {key : Value} : isText key = true ↔ ∃ name, nameOf? key = some name := by
  cases key <;> simp [isText, nameOf?]

theorem nameOf?_of_isNull {key : Value} (h : isNull key = true) : nameOf? key = none := by
  cases key <;> first | rfl | cases h

theorem exists_of_mem_unknownKeys {key : Value} (h : key ∈ unknownKeys entries) :
    ∃ entry ∈ entries, entry.1 = key := by
  unfold unknownKeys at h
  rcases List.mem_append.mp h with hnull | hother
  · have hkey := (List.mem_filter.mp (List.mem_of_mem_take hnull)).1
    exact List.mem_map.mp (List.mem_filter.mp hkey).1
  · have hkey := (List.mem_filter.mp hother).1
    exact List.mem_map.mp (List.mem_filter.mp hkey).1

/-- One key at least is told of those that are no texts, though not every null is. -/
theorem exists_mem_unknownKeys {entry : Value × Value} (hentry : entry ∈ entries)
    (hno : nameOf? entry.1 = none) : ∃ key ∈ unknownKeys entries, nameOf? key = none := by
  have hoption : (!isOption entry.1) = true := by
    generalize entry.1 = key at hno
    cases key with
    | text name => cases hno
    | _ => rfl
  unfold unknownKeys
  generalize hkeys : (entries.map (·.1)).filter (fun key => !isOption key) = keys
  have hkey : entry.1 ∈ keys := by
    rw [← hkeys]
    exact List.mem_filter.mpr ⟨List.mem_map_of_mem hentry, hoption⟩
  by_cases hnull : isNull entry.1 = true
  · -- the null that is kept need not be this one
    have hthere : entry.1 ∈ keys.filter isNull := List.mem_filter.mpr ⟨hkey, hnull⟩
    obtain ⟨first, rest, hfirst⟩ := List.exists_cons_of_ne_nil (List.ne_nil_of_mem hthere)
    have hkept : first ∈ keys.filter isNull := by
      rw [hfirst]
      exact .head _
    refine ⟨first, List.mem_append_left _ ?_, nameOf?_of_isNull (List.mem_filter.mp hkept).2⟩
    rw [hfirst]
    exact .head _
  · refine ⟨entry.1, List.mem_append_right _ (List.mem_filter.mpr ⟨hkey, ?_⟩), hno⟩
    simpa using hnull

/-- The keys that are told are all texts if and only if all keys of the mapping are. -/
theorem unknownKeys_all_isText : (unknownKeys entries).all isText = true
    ↔ ∀ entry ∈ entries, ∃ name, nameOf? entry.1 = some name := by
  rw [List.all_eq_true]
  constructor
  · intro h entry hentry
    cases hname : nameOf? entry.1 with
    | some name => exact ⟨name, rfl⟩
    | none =>
      obtain ⟨key, hkey, hno⟩ := exists_mem_unknownKeys hentry hname
      obtain ⟨name, hkeyName⟩ := isText_iff.mp (h key hkey)
      rw [hno] at hkeyName
      cases hkeyName
  · intro h key hkey
    obtain ⟨entry, hentry, rfl⟩ := exists_of_mem_unknownKeys hkey
    exact isText_iff.mpr (h entry hentry)

theorem exists_given {entry : Value × Value} {name : String} (hentry : entry ∈ entries)
    (hname : nameOf? entry.1 = some name) : ∃ value, given? entries name = some value := by
  refine Option.isSome_iff_exists.mp (List.findSome?_isSome_iff.mpr ?_)
  refine ⟨entry, List.mem_reverse.mpr hentry, ?_⟩
  rw [if_pos hname]
  rfl

theorem exists_of_given {name : String} {value : OptionValue}
    (h : given? entries name = some value) :
    ∃ entry ∈ entries, nameOf? entry.1 = some name := by
  obtain ⟨entry, hentry, hvalue⟩ := List.exists_of_findSome?_eq_some h
  refine ⟨entry, List.mem_reverse.mp hentry, ?_⟩
  by_contra hno
  rw [if_neg hno] at hvalue
  cases hvalue

/-- The names that a mapping gives values to are those of options if and only if its keys are. -/
theorem named_mem_names_iff
    (htexts : ∀ entry ∈ entries, ∃ name, nameOf? entry.1 = some name) :
    (∀ entry ∈ named entries, entry.1 ∈ Options.names)
      ↔ ∀ entry ∈ entries, ∃ name ∈ Options.names, nameOf? entry.1 = some name := by
  constructor
  · intro h entry hentry
    obtain ⟨name, hname⟩ := htexts entry hentry
    obtain ⟨value, hvalue⟩ := exists_given hentry hname
    exact ⟨name, h (name, value) (mem_named_iff.mpr hvalue), hname⟩
  · rintro h ⟨name, value⟩ hvalue
    obtain ⟨entry, hentry, hkey⟩ := exists_of_given (mem_named_iff.mp hvalue)
    obtain ⟨option, hoption, hname⟩ := h entry hentry
    rw [hkey] at hname
    cases hname
    exact hoption

/-- A mapping whose keys are texts gives options if and only if it is one of options, and then those
with its values. -/
theorem ofEntries_named_eq_ok_iff
    (htexts : ∀ entry ∈ entries, ∃ name, nameOf? entry.1 = some name) :
    Options.ofEntries path (named entries) = .ok o ↔ IsOptions entries ∧ HasValues o entries := by
  have hvalid : (∃ o', Options.setAll path {} (named entries) = .ok o')
      ↔ ∀ name value, given? entries name = some value → Options.IsValueFor name value := by
    simp only [Options.setAll_eq_ok_iff, Prod.forall, mem_named_iff]
  have hvalues : ∀ o', Options.setAll path {} (named entries) = .ok o' → HasValues o' entries := by
    intro o' ho' name _
    rw [Options.lookup_of_setAll ho', lookup_named]
  rw [Options.ofEntries_eq_ok_iff, named_mem_names_iff htexts]
  constructor
  · rintro ⟨hkeys, hset⟩
    exact ⟨⟨hkeys, hvalid.mp ⟨o, hset⟩⟩, hvalues o hset⟩
  · rintro ⟨⟨hkeys, htypes⟩, hgiven⟩
    obtain ⟨o', ho'⟩ := hvalid.mpr htypes
    -- each option has the value that the mapping gives it, in both
    obtain rfl : o' = o := Options.eq_of_lookup_eq fun name hname =>
      (hvalues o' ho' name hname).trans (hgiven name hname).symm
    exact ⟨hkeys, ho'⟩

end

/-! ## Documents -/

/-- The options that a document gives: the defaults if there is nothing in it, and those of a
mapping. -/
def Gives (d : Document) (o : Options) : Prop :=
  (d.rootValue = .null ∧ o = {})
    ∨ (d.rootValue = .mapping ∧ IsOptions d.entries ∧ HasValues o d.entries)

/-- The problems with a text that have nothing to do with options: the text cannot be read to its
end, or there is a key that is no text. -/
inductive PassedOn (source : Yaml.Source) : Problem → Prop where
  | undecodable {fault : Text.Utf8Fault}
      (read : Document.read source = .error (.undecodable fault)) :
      PassedOn source (.undecodable fault)
  | misfit {m : Yaml.Misfit} (read : Document.read source = .error (.misfit m)) :
      PassedOn source (.misfit m)
  | key {d : Document} {entry : Value × Value} (read : Document.read source = .ok d)
      (mapping : d.rootValue = .mapping) (mem : entry ∈ d.entries)
      (unnamed : nameOf? entry.1 = none) : PassedOn source (keyProblem (unknownKeys d.entries))

section

variable {d : Document} {path : String} {o : Options} {source : Yaml.Source} {problem : Problem}

/-- A problem with options, or with the file that they are in. -/
def IsConfigProblem : Problem → Prop
  | .options _ | .optionsFile _ => True
  | _ => False

theorem IsConfigProblem.kind (h : IsConfigProblem problem) : problem.kind = "ConfigException" := by
  cases problem <;> first | rfl | exact h.elim

theorem IsConfigProblem.isForeseen (h : IsConfigProblem problem) : problem.isForeseen = true := by
  cases problem <;> first | rfl | exact h.elim

theorem exists_keyProblem (keys : List Value) : ∃ message, keyProblem keys = .type message := by
  unfold keyProblem
  split <;> exact ⟨_, rfl⟩

theorem PassedOn.isForeseen (h : PassedOn source problem) : problem.isForeseen = false := by
  cases h with
  | undecodable read => rfl
  | misfit read => rfl
  | @key d entry read mapping mem unnamed =>
    obtain ⟨message, hproblem⟩ := exists_keyProblem (unknownKeys d.entries)
    rw [hproblem]
    rfl

theorem PassedOn.kind_ne (h : PassedOn source problem) : problem.kind ≠ "ConfigException" := by
  cases h with
  | undecodable read => simp [Problem.kind]
  | @misfit m read =>
    intro hkind
    cases m with
    | codePoint fits => cases fits <;> simp [Problem.kind, Yaml.Misfit.kind] at hkind
    | _ => simp [Problem.kind, Yaml.Misfit.kind] at hkind
  | @key d entry read mapping mem unnamed =>
    obtain ⟨message, hproblem⟩ := exists_keyProblem (unknownKeys d.entries)
    simp [hproblem, Problem.kind]

/-- A mapping whose keys are not all texts gives no options, nor a problem with them. -/
theorem ofDocument_of_unnamed {entry : Value × Value} (hmapping : d.rootValue = .mapping)
    (hentry : entry ∈ d.entries) (hno : nameOf? entry.1 = none) :
    ofDocument path d = .error (keyProblem (unknownKeys d.entries)) := by
  have hsome : (unknownKeys d.entries).all isText ≠ true := by
    intro hall
    obtain ⟨name, hname⟩ := unknownKeys_all_isText.mp hall entry hentry
    rw [hno] at hname
    cases hname
  simp only [ofDocument, hmapping, if_neg hsome]

theorem ofDocument_of_texts (hmapping : d.rootValue = .mapping)
    (htexts : ∀ entry ∈ d.entries, ∃ name, nameOf? entry.1 = some name) :
    ofDocument path d = match Options.ofEntries path (named d.entries) with
      | .ok o => .ok o
      | .error problem => .error (.options problem) := by
  have hall : (unknownKeys d.entries).all isText = true := unknownKeys_all_isText.mpr htexts
  unfold ofDocument
  rw [hmapping]
  cases Options.ofEntries path (named d.entries) <;> exact if_pos hall

theorem ofDocument_eq_ok_iff : ofDocument path d = .ok o ↔ Gives d o := by
  by_cases hmapping : d.rootValue = .mapping
  · by_cases htexts : ∀ entry ∈ d.entries, ∃ name, nameOf? entry.1 = some name
    · have hentries : Options.ofEntries path (named d.entries) = .ok o
          ↔ IsOptions d.entries ∧ HasValues o d.entries := ofEntries_named_eq_ok_iff htexts
      rw [ofDocument_of_texts hmapping htexts, Gives, hmapping]
      simp only [reduceCtorEq, false_and, false_or, true_and, ← hentries]
      cases Options.ofEntries path (named d.entries) <;> simp
    · obtain ⟨entry, hentry, hno⟩ : ∃ entry ∈ d.entries, nameOf? entry.1 = none := by
        simpa [Option.eq_none_iff_forall_ne_some] using htexts
      rw [ofDocument_of_unnamed hmapping hentry hno, Gives, hmapping]
      refine iff_of_false nofun ?_
      rintro (⟨hnull, -⟩ | ⟨-, hoptions, -⟩)
      · cases hnull
      · obtain ⟨name, -, hname⟩ := hoptions.keys entry hentry
        rw [hno] at hname
        cases hname
  · unfold ofDocument Gives
    generalize d.rootValue = root at hmapping ⊢
    cases root with
    | null => simp [eq_comm]
    | mapping => exact absurd rfl hmapping
    | _ => simp

theorem ofDocument_eq_error (h : ofDocument path d = .error problem) :
    IsConfigProblem problem
      ∨ d.rootValue = .mapping ∧ ∃ entry ∈ d.entries, nameOf? entry.1 = none := by
  by_cases hmapping : d.rootValue = .mapping
  · by_cases htexts : ∀ entry ∈ d.entries, ∃ name, nameOf? entry.1 = some name
    · rw [ofDocument_of_texts hmapping htexts] at h
      split at h
      · cases h
      · cases h
        exact .inl trivial
    · exact .inr ⟨hmapping, by simpa [Option.eq_none_iff_forall_ne_some] using htexts⟩
  · unfold ofDocument at h
    split at h
    · cases h
    · next hroot => exact absurd hroot hmapping
    · cases h
      exact .inl trivial

/-! ## Texts -/

theorem ofSource_eq_ok_iff :
    ofSource path source = .ok o ↔ ∃ d, Document.read source = .ok d ∧ Gives d o := by
  unfold ofSource
  cases hread : Document.read source with
  | ok d =>
    simp only [Except.ok.injEq, exists_eq_left']
    exact ofDocument_eq_ok_iff
  | error failure => cases failure <;> simp

theorem PassedOn.ofSource (h : PassedOn source problem) (path : String) :
    ofSource path source = .error problem := by
  unfold OptionsFile.ofSource
  cases h with
  | undecodable read => rw [read]
  | misfit read => rw [read]
  | key read mapping mem unnamed =>
    rw [read]
    exact ofDocument_of_unnamed mapping mem unnamed

/-- There is a problem with options only where no trouble is passed on. -/
theorem IsConfigProblem.not_passedOn (h : IsConfigProblem problem)
    (hsource : OptionsFile.ofSource path source = .error problem) (other : Problem) :
    ¬ PassedOn source other := by
  intro hother
  have herror := hother.ofSource path
  rw [hsource] at herror
  cases herror
  have hforeseen := h.isForeseen
  rw [hother.isForeseen] at hforeseen
  cases hforeseen

/-- What a text is otherwise: options, or a problem with them. -/
theorem ofSource_eq_error (h : ofSource path source = .error problem) :
    IsConfigProblem problem ∨ PassedOn source problem := by
  have hpassed : ∀ other, PassedOn source other → PassedOn source problem := by
    intro other hother
    have herror := hother.ofSource path
    rw [h] at herror
    cases herror
    exact hother
  unfold ofSource at h
  cases hread : Document.read source with
  | ok d =>
    rw [hread] at h
    rcases ofDocument_eq_error h with hconfig | ⟨hmapping, entry, hentry, hno⟩
    · exact .inl hconfig
    · exact .inr (hpassed _ (.key hread hmapping hentry hno))
  | error failure =>
    rw [hread] at h
    cases failure with
    | undecodable fault =>
      cases h
      exact .inr (.undecodable hread)
    | misfit m =>
      cases h
      exact .inr (.misfit hread)
    | _ =>
      cases h
      exact .inl trivial

/-! ## Files -/

theorem load_of_read {σ : Session} {bytes : ByteArray}
    (h : σ.disk.read (Path.parse path) = .ok bytes) :
    (load path).outcome σ = (ofSource path (.ofBytes bytes.toList), σ) := by
  have hthere := Disk.exists?_of_read h
  simp only [load, Job.outcome_bind, Job.outcome_disk, hthere, Job.outcome_orTrouble_ok, h,
    if_true]
  cases ofSource path (.ofBytes bytes.toList) <;> rfl

end

end OptionsFile

end VuserScript
