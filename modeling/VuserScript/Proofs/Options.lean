/-
  VuserScript.Proofs.Options

  What comes of values that are given to options by name. Names that are no
  options are refused first, all of them at once; then the first value that its
  option cannot have. If nothing is refused, each option has the last value given
  to it, or its default. So a mapping, where each name has one value, gives the
  same options in whatever order its members stand, and options that are written
  as a mapping are read back.
-/
import VuserScript.Problem
import Mathlib.Data.List.Perm.Basic

namespace VuserScript

/-! ## Giving values to options -/

/-- Where a name has one value at most, looking it up gives this one. -/
theorem lookup_eq_of_mem_iff {β : Type} {entries : List (String × β)} {name : String}
    {r : Option β} (h : ∀ v, (name, v) ∈ entries ↔ r = some v) : entries.lookup name = r := by
  cases r with
  | none =>
    refine List.lookup_eq_none_iff.mpr fun entry hentry => ?_
    rw [bne_iff_ne]
    rintro rfl
    cases (h entry.2).mp hentry
  | some v =>
    have hmem : (name, v) ∈ entries := (h v).mpr rfl
    obtain ⟨w, hw⟩ := Option.isSome_iff_exists.mp
      (List.lookup_isSome_iff.mpr ⟨_, hmem, beq_self_eq_true name⟩)
    obtain ⟨before, behind, hsplit, -⟩ := List.lookup_eq_some_iff.mp hw
    have hthere : (name, w) ∈ entries := by
      rw [hsplit]
      exact List.mem_append_right _ (.head _)
    rw [hw, ← (h w).mp hthere]

theorem lookup_cons_ite {β : Type} (entries : List (String × β)) (name : String) (value : β)
    (other : String) : ((name, value) :: entries).lookup other
      = if other = name then some value else entries.lookup other := by
  rw [List.lookup_cons]
  by_cases h : other = name
  · rw [beq_iff_eq.mpr h, if_pos h]
  · rw [beq_eq_false_iff_ne.mpr h, if_neg h]

namespace Options

/-- A value that an option with a name can have. -/
def IsValueFor (name : String) : OptionValue → Prop
  | .bool _ => name = "enable_correlation" ∨ name = "write_dat_files"
  | .text _ => name = "script_prefix"
  | .other _ => False

variable {source name : String} {o o' : Options} {value : OptionValue}
  {values : List (String × OptionValue)}

/-- An option takes the values that it can have, and no other option takes notice. -/
theorem set_of_isValueFor (h : IsValueFor name value) : ∃ o', o.set source name value = .ok o'
    ∧ ∀ other, o'.entries.lookup other
      = if other = name then some value else o.entries.lookup other := by
  cases value with
  | bool b =>
    rcases h with rfl | rfl
    · refine ⟨{ o with enableCorrelation := b }, rfl, fun other => ?_⟩
      simp only [entries, lookup_cons_ite]
      by_cases hother : other = "enable_correlation" <;> simp [hother]
    · refine ⟨{ o with writeDatFiles := b }, rfl, fun other => ?_⟩
      simp only [entries, lookup_cons_ite]
      by_cases hother : other = "write_dat_files" <;> simp [hother]
  | text s =>
    obtain rfl := h
    refine ⟨{ o with scriptPrefix := s }, rfl, fun other => ?_⟩
    simp only [entries, lookup_cons_ite]
    by_cases hother : other = "script_prefix" <;> simp [hother]
  | other typeName => exact h.elim

/-- The word for the type of the values of an option. -/
def typeWord (name : String) : String :=
  if name = "script_prefix" then "str" else "bool"

/-- An option refuses all other values, and the problem tells both types. -/
theorem set_of_not_isValueFor (h : ¬ IsValueFor name value) :
    o.set source name value
      = .error (.wrongType source name (typeWord name) value.typeName) := by
  unfold set
  split
  · exact absurd (.inl rfl) h
  · exact absurd (.inr rfl) h
  · exact absurd rfl h
  · rfl
  · next hname _ _ _ =>
    rw [typeWord, if_neg hname]

/-- All values are given, or there is one that its option cannot have. Each option has the last
value then that is given to it. -/
theorem setAll_eq_ok_iff : (∃ o', setAll source o values = .ok o')
    ↔ ∀ entry ∈ values, IsValueFor entry.1 entry.2 := by
  induction values generalizing o with
  | nil => exact iff_of_true ⟨o, rfl⟩ nofun
  | cons entry rest ih =>
    obtain ⟨name, value⟩ := entry
    rw [List.forall_mem_cons]
    by_cases hvalue : IsValueFor name value
    · obtain ⟨first, hset, -⟩ : ∃ first, o.set source name value = .ok first ∧ _ :=
        set_of_isValueFor hvalue
      rw [setAll, hset]
      exact ih.trans (and_iff_right hvalue).symm
    · refine iff_of_false ?_ fun h => hvalue h.1
      rintro ⟨o', ho'⟩
      rw [setAll, set_of_not_isValueFor hvalue] at ho'
      cases ho'

theorem lookup_of_setAll (h : setAll source o values = .ok o') (other : String) :
    o'.entries.lookup other = (values.reverse.lookup other).or (o.entries.lookup other) := by
  induction values generalizing o with
  | nil =>
    cases h
    rfl
  | cons entry rest ih =>
    obtain ⟨name, value⟩ := entry
    have hvalue : IsValueFor name value := by
      have hall := setAll_eq_ok_iff.mp ⟨o', h⟩
      exact hall (name, value) (.head _)
    obtain ⟨first, hset, hfirst⟩ : ∃ first, o.set source name value = .ok first ∧ _ :=
      set_of_isValueFor hvalue
    rw [setAll, hset] at h
    rw [ih h, hfirst, List.reverse_cons, List.lookup_append, lookup_cons_ite, Option.or_assoc]
    by_cases hother : other = name
    · simp [hother]
    · simp [hother]

/-- Options are the same if each has the same value. -/
theorem eq_of_lookup_eq (h : ∀ name ∈ names, o.entries.lookup name = o'.entries.lookup name) :
    o = o' := by
  have hcorrelation := h "enable_correlation" (by decide)
  have hprefix := h "script_prefix" (by decide)
  have hdat := h "write_dat_files" (by decide)
  simp only [entries, lookup_cons_ite] at hcorrelation hprefix hdat
  obtain ⟨a, b, c⟩ := o
  obtain ⟨a', b', c'⟩ := o'
  simp_all

/-- Options are made of values for options only. -/
theorem ofEntries_eq_ok_iff : ofEntries source values = .ok o
    ↔ (∀ entry ∈ values, entry.1 ∈ names) ∧ setAll source {} values = .ok o := by
  have hknown : ((values.map (·.1)).filter fun name => !names.contains name) = []
      ↔ ∀ entry ∈ values, entry.1 ∈ names := by
    simp [List.filter_eq_nil_iff]
  unfold ofEntries
  rw [← hknown]
  by_cases hnone : ((values.map (·.1)).filter fun name => !names.contains name) = []
  · simp only [hnone, List.isEmpty_nil, if_true, true_and]
  · simp only [List.isEmpty_iff, hnone, if_false, false_and, reduceCtorEq]

/-- The first value that its option cannot have is refused. -/
theorem setAll_eq_error {problem : OptionsProblem} (h : setAll source o values = .error problem) :
    ∃ before name value behind, values = before ++ (name, value) :: behind
      ∧ (∀ entry ∈ before, IsValueFor entry.1 entry.2) ∧ ¬ IsValueFor name value
      ∧ problem = .wrongType source name (typeWord name) value.typeName := by
  induction values generalizing o with
  | nil => cases h
  | cons entry rest ih =>
    obtain ⟨name, value⟩ := entry
    rw [setAll] at h
    by_cases hvalue : IsValueFor name value
    · obtain ⟨first, hset, -⟩ : ∃ first, o.set source name value = .ok first ∧ _ :=
        set_of_isValueFor hvalue
      rw [hset] at h
      obtain ⟨before, other, refused, behind, hrest, hbefore, hrefused, hproblem⟩ := ih h
      refine ⟨(name, value) :: before, other, refused, behind, ?_, ?_, hrefused, hproblem⟩
      · rw [hrest, List.cons_append]
      · exact List.forall_mem_cons.mpr ⟨hvalue, hbefore⟩
    · rw [set_of_not_isValueFor hvalue] at h
      cases h
      exact ⟨[], name, value, rest, rfl, nofun, hvalue, rfl⟩

/-- Names that are no options are refused before any value is. -/
theorem ofEntries_eq_error {problem : OptionsProblem}
    (h : ofEntries source values = .error problem) :
    (∃ unknown, problem = .unknownNames source unknown ∧ unknown ≠ []
        ∧ unknown.Perm ((values.map (·.1)).filter fun name => !names.contains name)
        ∧ unknown.Pairwise (· ≤ ·))
      ∨ (∀ entry ∈ values, entry.1 ∈ names) ∧ setAll source {} values = .error problem := by
  unfold ofEntries at h
  generalize hunknown : (values.map (·.1)).filter (fun name => !names.contains name) = unknown
    at h ⊢
  cases unknown with
  | nil =>
    refine .inr ⟨fun entry hentry => ?_, h⟩
    have hno := List.filter_eq_nil_iff.mp hunknown entry.1 (List.mem_map_of_mem hentry)
    simpa using hno
  | cons name rest =>
    cases h
    have hordered : ((name :: rest).mergeSort fun a b => decide (a ≤ b)).Pairwise
        fun a b => decide (a ≤ b) = true :=
      List.pairwise_mergeSort (by simpa using fun a b c => String.le_trans)
        (by simpa using String.le_total) (name :: rest)
    have hperm := List.mergeSort_perm (name :: rest) fun a b : String => decide (a ≤ b)
    refine .inl ⟨_, rfl, fun hnil => ?_, hperm, by simpa using hordered⟩
    rw [hnil] at hperm
    cases hperm.nil_eq

/-! ## Mappings -/

/-- Structured values by name. Each name has one value, and the members keep their order. -/
structure Mapping where
  members : List (String × Json)
  nodup : (members.map (·.1)).Nodup

/-- The names of a mapping, in the order of its members. -/
def Mapping.names (m : Mapping) : List String :=
  m.members.map (·.1)

/-- The members of a mapping overwritten with another one: names that are there already keep their
places, and further ones follow. -/
def Mapping.overwrittenWith (m other : Mapping) : List (String × Json) :=
  (m.members.map fun member => (member.1, (other.members.lookup member.1).getD member.2))
    ++ other.members.filter fun member => !m.names.contains member.1

/-- The options as a mapping. -/
def toMapping (o : Options) : Mapping where
  members := [("enable_correlation", .bool o.enableCorrelation),
    ("script_prefix", .string o.scriptPrefix), ("write_dat_files", .bool o.writeDatFiles)]
  nodup := by simp

/-- The options that a mapping gives; `source` is where it comes from. -/
def ofMapping (source : String) (m : Mapping) : Except OptionsProblem Options :=
  ofEntries source (m.members.map fun member => (member.1, OptionValue.ofJson member.2))

/-- The values that options can have: a truth value, which no number is, for the two switches, and a
text for the prefix. -/
inductive Fits : String → Json → Prop where
  | correlation (b : Bool) : Fits "enable_correlation" (.bool b)
  | scriptPrefix (s : String) : Fits "script_prefix" (.string s)
  | datFiles (b : Bool) : Fits "write_dat_files" (.bool b)

/-- What is told of a mapping that gives no options: all names that are no options, each once and in
the order of code points; and only if there are none, the first member whose value does not fit. -/
inductive Tells (source : String) (m : Mapping) : String → Prop where
  | unknown (unknown : List String) (nonempty : unknown ≠ []) (ordered : unknown.Pairwise (· < ·))
      (all : ∀ name, name ∈ unknown ↔ name ∈ m.names ∧ name ∉ Options.names) :
      Tells source m ("Unknown option(s) in " ++ source ++ ": " ++ ", ".intercalate unknown)
  | wrongType (before behind : List (String × Json)) (name : String) (value : Json)
      (known : ∀ name ∈ m.names, name ∈ Options.names)
      (split : m.members = before ++ (name, value) :: behind)
      (fit : ∀ member ∈ before, Fits member.1 member.2) (misfit : ¬ Fits name value) :
      Tells source m ("Invalid value for '" ++ name ++ "' in " ++ source ++ ": expected "
        ++ typeWord name ++ ", got " ++ value.typeName)

section

variable {m other : Mapping} {v : Json}

theorem typeName_ofJson (v : Json) : (OptionValue.ofJson v).typeName = v.typeName := by
  cases v <;> rfl

theorem ofJson_eq_bool_iff {b : Bool} : OptionValue.ofJson v = .bool b ↔ v = .bool b := by
  cases v <;> simp [OptionValue.ofJson]

theorem ofJson_eq_text_iff {s : String} : OptionValue.ofJson v = .text s ↔ v = .string s := by
  cases v <;> simp [OptionValue.ofJson]

theorem fits_iff : Fits name v ↔ IsValueFor name (OptionValue.ofJson v) := by
  constructor
  · intro h
    cases h with
    | correlation b => exact .inl rfl
    | scriptPrefix s => exact rfl
    | datFiles b => exact .inr rfl
  · intro h
    cases v with
    | bool b =>
      rcases h with rfl | rfl
      · exact .correlation b
      · exact .datFiles b
    | string s =>
      obtain rfl := h
      exact .scriptPrefix s
    | _ => exact h.elim

/-- Only options have values that fit. -/
theorem Fits.mem_names (h : Fits name v) : name ∈ names := by
  cases h <;> decide

/-- Looking a name up finds its one value. -/
theorem Mapping.mem_members_iff (m : Mapping) :
    (name, v) ∈ m.members ↔ m.members.lookup name = some v := by
  obtain ⟨members, hnodup⟩ := m
  induction members with
  | nil => simp
  | cons member rest ih =>
    obtain ⟨first, value⟩ := member
    obtain ⟨hfirst, hrest⟩ := List.nodup_cons.mp hnodup
    have ih : (name, v) ∈ rest ↔ rest.lookup name = some v := ih hrest
    rw [List.mem_cons, lookup_cons_ite, Prod.mk.injEq]
    by_cases hname : name = first
    · subst hname
      -- the name does not come again behind its first member
      have hno : (name, v) ∉ rest := fun hmem => hfirst (List.mem_map.mpr ⟨_, hmem, rfl⟩)
      simp [hno, eq_comm]
    · simp [hname, ih]

theorem lookup_of_perm (h : m.members.Perm other.members) (name : String) :
    other.members.lookup name = m.members.lookup name :=
  lookup_eq_of_mem_iff fun _ => h.symm.mem_iff.trans m.mem_members_iff

theorem lookup_values (m : Mapping) (name : String) :
    (m.members.map fun member => (member.1, OptionValue.ofJson member.2)).reverse.lookup name
      = (m.members.lookup name).map OptionValue.ofJson := by
  refine lookup_eq_of_mem_iff fun w => ?_
  simp only [List.mem_reverse, List.mem_map, Prod.mk.injEq, Option.map_eq_some_iff,
    ← m.mem_members_iff]
  constructor
  · rintro ⟨⟨first, value⟩, hmem, rfl, hvalue⟩
    exact ⟨value, hmem, hvalue⟩
  · rintro ⟨value, hmem, hvalue⟩
    exact ⟨(name, value), hmem, rfl, hvalue⟩

/-! ## Options of a mapping -/

theorem toJson_inj (h : o.toJson = o'.toJson) : o = o' := by
  obtain ⟨a, b, c⟩ := o
  obtain ⟨a', b', c'⟩ := o'
  simpa [toJson] using h

theorem exists_ofMapping (source : String) (h : ∀ member ∈ m.members, Fits member.1 member.2) :
    ∃ o, ofMapping source m = .ok o := by
  have hvalues : ∀ entry ∈ m.members.map fun member => (member.1, OptionValue.ofJson member.2),
      entry.1 ∈ names ∧ IsValueFor entry.1 entry.2 := by
    rw [List.forall_mem_map]
    exact fun member hmember => ⟨(h member hmember).mem_names, fits_iff.mp (h member hmember)⟩
  obtain ⟨o, ho⟩ : ∃ o, setAll source {} _ = .ok o :=
    setAll_eq_ok_iff.mpr fun entry hentry => (hvalues entry hentry).2
  exact ⟨o, ofEntries_eq_ok_iff.mpr ⟨fun entry hentry => (hvalues entry hentry).1, ho⟩⟩

theorem fits_of_ofMapping (h : ofMapping source m = .ok o) :
    ∀ member ∈ m.members, Fits member.1 member.2 := by
  have hall := setAll_eq_ok_iff.mp ⟨o, (ofEntries_eq_ok_iff.mp h).2⟩
  rw [List.forall_mem_map] at hall
  exact fun member hmember => fits_iff.mpr (hall member hmember)

/-- Where all values fit, the defaults get them, and nothing follows. -/
theorem overwrittenWith_of_fits (h : ∀ member ∈ m.members, Fits member.1 member.2) :
    (toMapping {}).overwrittenWith m = (toMapping {}).members.map fun member =>
      (member.1, (m.members.lookup member.1).getD member.2) := by
  have hnone : m.members.filter (fun member => !(toMapping {}).names.contains member.1) = [] := by
    refine List.filter_eq_nil_iff.mpr fun member hmember => ?_
    have hname : member.1 ∈ (toMapping {}).names := (h member hmember).mem_names
    simpa using hname
  rw [Mapping.overwrittenWith, hnone, List.append_nil]

/-- Each option has the value that the mapping gives it, or its default. -/
theorem toJson_of_ofMapping (h : ofMapping source m = .ok o) :
    o.toJson = .object ((toMapping {}).overwrittenWith m) := by
  have hlookup : ∀ name, o.entries.lookup name = ((m.members.lookup name).map OptionValue.ofJson).or
      (({} : Options).entries.lookup name) := by
    intro name
    rw [lookup_of_setAll (ofEntries_eq_ok_iff.mp h).2, lookup_values]
  have hvalue : ∀ {name d given}, o.entries.lookup name = some given →
      ({} : Options).entries.lookup name = some (OptionValue.ofJson d) →
      OptionValue.ofJson ((m.members.lookup name).getD d) = given := by
    intro name d given hgiven hdefault
    rw [hlookup, hdefault] at hgiven
    cases hmember : m.members.lookup name <;> rw [hmember] at hgiven <;> simpa using hgiven
  -- truth values and texts stand for one structured value each
  have hcorrelation : (m.members.lookup "enable_correlation").getD (.bool true)
      = .bool o.enableCorrelation := ofJson_eq_bool_iff.mp (hvalue rfl rfl)
  have hprefix : (m.members.lookup "script_prefix").getD (.string "Script_")
      = .string o.scriptPrefix := ofJson_eq_text_iff.mp (hvalue rfl rfl)
  have hdat : (m.members.lookup "write_dat_files").getD (.bool true)
      = .bool o.writeDatFiles := ofJson_eq_bool_iff.mp (hvalue rfl rfl)
  rw [overwrittenWith_of_fits (fits_of_ofMapping h)]
  simp only [toJson, toMapping, List.map_cons, List.map_nil, hcorrelation, hprefix, hdat]

theorem ofMapping_eq_ok_iff : ofMapping source m = .ok o
    ↔ (∀ member ∈ m.members, Fits member.1 member.2)
      ∧ o.toJson = .object ((toMapping {}).overwrittenWith m) := by
  constructor
  · exact fun h => ⟨fits_of_ofMapping h, toJson_of_ofMapping h⟩
  · rintro ⟨hfits, hjson⟩
    obtain ⟨o', ho'⟩ := exists_ofMapping source hfits
    obtain rfl : o' = o := toJson_inj ((toJson_of_ofMapping ho').trans hjson.symm)
    exact ho'

/-- The order of the members has no part in the options that they give. -/
theorem ofMapping_of_perm (h : m.members.Perm other.members) :
    ofMapping source other = .ok o ↔ ofMapping source m = .ok o := by
  have hfits : (∀ member ∈ other.members, Fits member.1 member.2)
      ↔ ∀ member ∈ m.members, Fits member.1 member.2 := by
    simp only [h.mem_iff]
  rw [ofMapping_eq_ok_iff, ofMapping_eq_ok_iff, hfits]
  refine and_congr_right fun hall => ?_
  rw [overwrittenWith_of_fits hall, overwrittenWith_of_fits (hfits.mpr hall)]
  simp only [lookup_of_perm h]

/-- Options written as a mapping are read back. -/
theorem ofMapping_toMapping (source : String) (o : Options) :
    ofMapping source (toMapping o) = .ok o := rfl

/-! ## Mappings that give no options -/

theorem exists_ofMapping_eq_error_iff : (∃ problem, ofMapping source m = .error problem)
    ↔ ∃ member ∈ m.members, ¬ Fits member.1 member.2 := by
  cases h : ofMapping source m with
  | ok o =>
    refine iff_of_false nofun ?_
    rintro ⟨member, hmember, hmisfit⟩
    exact hmisfit (fits_of_ofMapping h member hmember)
  | error problem =>
    refine iff_of_true ⟨problem, rfl⟩ ?_
    by_contra hall
    push Not at hall
    obtain ⟨o, ho⟩ := exists_ofMapping source hall
    rw [h] at ho
    cases ho

theorem tells_of_ofMapping {problem : OptionsProblem} (h : ofMapping source m = .error problem) :
    Tells source m problem.message := by
  have hnames : (m.members.map fun member => (member.1, OptionValue.ofJson member.2)).map (·.1)
      = m.names := by
    simp [Mapping.names, Function.comp_def]
  rcases ofEntries_eq_error h with ⟨unknown, rfl, hne, hperm, hle⟩ | ⟨hknown, hset⟩
  · rw [hnames] at hperm
    have hnodup : unknown.Nodup := hperm.nodup_iff.mpr (m.nodup.filter _)
    have hordered : unknown.Pairwise (· < ·) := (hle.and hnodup).imp fun ⟨hab, hne⟩ =>
      String.not_le.mp fun hba => hne (String.le_antisymm hab hba)
    have hall : ∀ name, name ∈ unknown ↔ name ∈ m.names ∧ name ∉ names := by
      intro name
      rw [hperm.mem_iff, List.mem_filter]
      simp
    exact Tells.unknown unknown hne hordered hall
  · obtain ⟨before, name, value, behind, hsplit, hbefore, hvalue, rfl⟩ := setAll_eq_error hset
    -- the list that is refused is split where the members are
    obtain ⟨front, back, hmembers, rfl, hback⟩ := List.map_eq_append_iff.mp hsplit
    obtain ⟨⟨first, v⟩, rest, rfl, hfirst, -⟩ := List.map_eq_cons_iff.mp hback
    obtain ⟨rfl, rfl⟩ := Prod.mk.inj hfirst
    have hnames : ∀ name ∈ m.names, name ∈ names := by
      intro name hname
      rw [← hnames, List.mem_map] at hname
      obtain ⟨entry, hentry, rfl⟩ := hname
      exact hknown entry hentry
    have hfits : ∀ member ∈ front, Fits member.1 member.2 := by
      rw [List.forall_mem_map] at hbefore
      exact fun member hmember => fits_iff.mpr (hbefore member hmember)
    have hmisfit : ¬ Fits first v := fun h => hvalue (fits_iff.mp h)
    rw [typeName_ofJson]
    exact Tells.wrongType front rest first v hnames hmembers hfits hmisfit

/-- Whatever a mapping from names to structured values holds: it gives no options if and only if a
name is no option or the value of an option does not fit it, and then it is told which. Otherwise
the options, written as a mapping, are the defaults overwritten with it. So options that are written
are read back, and the order of the members has no part in the options. -/
theorem ofMapping_given_or_told (source : String) (m : Mapping) :
    ((∃ problem, ofMapping source m = .error problem)
        ↔ (∃ name ∈ m.names, name ∉ names)
          ∨ ∃ member ∈ m.members, member.1 ∈ names ∧ ¬ Fits member.1 member.2)
      ∧ (∀ problem, ofMapping source m = .error problem →
          (Problem.options problem).kind = "ConfigException"
            ∧ Tells source m (Problem.options problem).message)
      ∧ (∀ o, ofMapping source m = .ok o →
          o.toJson = .object ((toMapping {}).overwrittenWith m))
      ∧ (∀ o : Options, ∃ written : Mapping, o.toJson = .object written.members
          ∧ ofMapping source written = .ok o)
      ∧ ∀ other : Mapping, m.members.Perm other.members →
          ∀ o, ofMapping source other = .ok o ↔ ofMapping source m = .ok o := by
  have hrefused : (∃ problem, ofMapping source m = .error problem)
      ↔ (∃ name ∈ m.names, name ∉ names)
        ∨ ∃ member ∈ m.members, member.1 ∈ names ∧ ¬ Fits member.1 member.2 := by
    rw [exists_ofMapping_eq_error_iff, Mapping.names]
    constructor
    · rintro ⟨member, hmember, hmisfit⟩
      by_cases hname : member.1 ∈ names
      · exact .inr ⟨member, hmember, hname, hmisfit⟩
      · exact .inl ⟨member.1, List.mem_map_of_mem hmember, hname⟩
    · rintro (⟨name, hname, hno⟩ | ⟨member, hmember, -, hmisfit⟩)
      · obtain ⟨member, hmember, rfl⟩ := List.mem_map.mp hname
        exact ⟨member, hmember, fun hfits => hno hfits.mem_names⟩
      · exact ⟨member, hmember, hmisfit⟩
  refine ⟨hrefused, fun problem h => ⟨rfl, tells_of_ofMapping h⟩, fun o h => toJson_of_ofMapping h,
    fun o => ⟨toMapping o, rfl, ofMapping_toMapping source o⟩, ?_⟩
  exact fun other hperm o => ofMapping_of_perm hperm

/-- A number is no truth value, and what follows a value that does not fit is not looked at. -/
example : ofEntries "o.yaml"
    [("write_dat_files", .ofJson (.int 1)), ("script_prefix", .ofJson .null)]
    = .error (.wrongType "o.yaml" "write_dat_files" "bool" "int") := by
  decide

end

end Options

end VuserScript
