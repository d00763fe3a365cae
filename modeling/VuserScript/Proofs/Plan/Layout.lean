/-
  VuserScript.Proofs.Plan.Layout

  The request of a sampler, and how the sampler is laid out. What is read of it
  are texts and a switch by their names, and the arguments of its lists three
  levels below. Nothing else matters: not the order in which properties of
  different names stand, and not what else stands between those that are read.
-/
import VuserScript.Plan.Request
import VuserScript.Proofs.Plan.Containers
import Mathlib.Logic.Relation

namespace VuserScript.Plan

open Xml (Element)

/-! ## Changes among children -/

/-- An element with one more child somewhere among its own. -/
inductive Inserted (fits : Element → Prop) (e : Element) : Element → Prop where
  | among (before after : List Element) (x : Element) (children : e.children = before ++ after)
      (fitting : fits x) : Inserted fits e { e with children := before ++ x :: after }

/-- An element with a change made to one of its children of a kind. -/
inductive Within (kind : Element → Bool) (change : Element → Element → Prop) (e : Element) :
    Element → Prop where
  | child (before after : List Element) (c c' : Element)
      (children : e.children = before ++ c :: after) (hkind : kind c = true)
      (changed : change c c') : Within kind change e { e with children := before ++ c' :: after }

/-- Elements with the same tag and the same attributes. -/
structure SameHead (e e' : Element) : Prop where
  tag : e'.tag = e.tag
  attributes : e'.attributes = e.attributes

variable {fits : Element → Prop} {kind : Element → Bool} {change : Element → Element → Prop}
  {e e' : Element}

theorem Inserted.sameHead (h : Inserted fits e e') : SameHead e e' := by
  cases h
  exact ⟨rfl, rfl⟩

theorem Within.sameHead (h : Within kind change e e') : SameHead e e' := by
  cases h
  exact ⟨rfl, rfl⟩

theorem SameHead.attribute? (h : SameHead e e') (name : String) :
    e'.attribute? name = e.attribute? name := by
  rw [Element.attribute?, Element.attribute?, h.attributes]

theorem SameHead.isArgumentList (h : SameHead e e') : isArgumentList e' = isArgumentList e := by
  rw [Plan.isArgumentList, Plan.isArgumentList, h.tag, h.attribute?, h.attribute?]

theorem SameHead.isArgumentCollection (h : SameHead e e') :
    isArgumentCollection e' = isArgumentCollection e := by
  rw [Plan.isArgumentCollection, Plan.isArgumentCollection, h.tag, h.attribute?]

theorem SameHead.isArgument (h : SameHead e e') : isArgument e' = isArgument e := by
  rw [Plan.isArgument, Plan.isArgument, h.tag, h.attribute?]

/-! ## Properties -/

/-- Whether an element is a property of a kind with a name. -/
def isProperty (kind name : String) (p : Element) : Bool :=
  p.tag == kind && p.attribute? "name" == some name

theorem property?_eq_head? (e : Element) (kind name : String) :
    property? e kind name = (e.children.filter (isProperty kind name)).head? :=
  (List.head?_filter ..).symm

theorem property?_of_inserted {kind name : String} (h : Inserted fits e e')
    (hfits : ∀ x, fits x → isProperty kind name x = false) :
    property? e' kind name = property? e kind name := by
  cases h with
  | among before after x children fitting =>
    simp only [property?_eq_head?, children, List.filter_append, List.filter_cons, hfits x fitting,
      Bool.false_eq_true, if_false]

/-- A change within a child that is no such property leaves the property as it is. -/
theorem property?_of_within {tag name : String} (h : Within kind change e e')
    (hkind : ∀ c, kind c = true → isProperty tag name c = false)
    (hchange : ∀ c c', change c c' → SameHead c c') :
    property? e' tag name = property? e tag name := by
  cases h with
  | child before after c c' children hc changed =>
    have hsame := hchange c c' changed
    have hother : isProperty tag name c' = false := by
      rw [← hkind c hc, isProperty, isProperty, hsame.tag, hsame.attribute?]
    simp only [property?_eq_head?, children, List.filter_append, List.filter_cons, hkind c hc,
      hother, Bool.false_eq_true, if_false]

/-! ## What is gathered from children -/

section

variable {α : Type} {what : Element → List α}

/-- What there is in the children of a kind, in their order. -/
def gather (kind : Element → Bool) (what : Element → List α) (e : Element) : List α :=
  (e.children.filter kind).flatMap what

theorem gather_of_inserted (h : Inserted fits e e')
    (hfits : ∀ x, fits x → kind x = false ∨ what x = []) :
    gather kind what e' = gather kind what e := by
  cases h with
  | among before after x children fitting =>
    simp only [gather, children, List.filter_append, List.flatMap_append,
      List.append_cancel_left_eq]
    rcases hfits x fitting with hkind | hnothing
    · rw [List.filter_cons_of_neg (by rw [hkind]; exact Bool.false_ne_true)]
    · rw [List.filter_cons]
      split
      · rw [List.flatMap_cons, hnothing, List.nil_append]
      · rfl

theorem gather_of_within (h : Within kind change e e')
    (hchange : ∀ c c', change c c' → kind c' = kind c ∧ what c' = what c) :
    gather kind what e' = gather kind what e := by
  cases h with
  | child before after c c' children hc changed =>
    obtain ⟨hkind, hwhat⟩ := hchange c c' changed
    rw [hc] at hkind
    simp only [gather, children, List.filter_append, List.flatMap_append, List.filter_cons, hc,
      hkind, if_true, List.flatMap_cons, hwhat]

end

/-- The arguments of a sampler are gathered on three levels. -/
theorem argumentsOf_eq_gather (sampler : Element) :
    argumentsOf sampler = gather isArgumentList (gather isArgumentCollection
      (gather isArgument fun x => (argument? x).toList)) sampler := by
  simp only [argumentsOf, gather, List.filterMap_eq_flatMap_toList]
  rfl

/-! ## The layout of a sampler -/

/-- The text properties that are read of a sampler. -/
def textsRead : List String :=
  ["HTTPSampler.protocol", "HTTPSampler.domain", "HTTPSampler.port", "HTTPSampler.path",
    "HTTPSampler.method"]

/-- Whether a child of a sampler is one of those that are looked up. -/
def isReadOfSampler (x : Element) : Bool :=
  textsRead.any (fun name => isProperty "stringProp" name x)
    || isProperty "boolProp" "HTTPSampler.postBodyRaw" x || isArgumentList x

/-- Whether a child of an argument is its name or its value. -/
def isReadOfArgument (x : Element) : Bool :=
  isProperty "stringProp" "Argument.name" x || isProperty "stringProp" "Argument.value" x

/-- One change to the layout of a sampler. -/
inductive Relayout (sampler : Element) : Element → Prop where
  /-- Its children in another order, in which text properties of one name, switches of one name, and
  the elements that hold others keep theirs. -/
  | reordered (children : List Element) (perm : children.Perm sampler.children)
      (texts : ∀ name, children.filter (isProperty "stringProp" name)
        = sampler.children.filter (isProperty "stringProp" name))
      (switches : ∀ name, children.filter (isProperty "boolProp" name)
        = sampler.children.filter (isProperty "boolProp" name))
      (holders : children.filter (fun x => x.tag == "elementProp")
        = sampler.children.filter (fun x => x.tag == "elementProp")) :
      Relayout sampler { sampler with children }
  /-- Another child that is not looked up. -/
  | inSampler {other : Element}
      (change : Inserted (fun x => isReadOfSampler x = false) sampler other) :
      Relayout sampler other
  /-- In a list of arguments, another child that is no collection of them. -/
  | inList {other : Element}
      (change : Within isArgumentList (Inserted fun x => isArgumentCollection x = false)
        sampler other) : Relayout sampler other
  /-- In a collection, another child that is no argument, or one with neither a name nor a value. -/
  | inCollection {other : Element}
      (change : Within isArgumentList (Within isArgumentCollection
        (Inserted fun x => isArgument x = false ∨ argument? x = none)) sampler other) :
      Relayout sampler other
  /-- In an argument, another child that is neither its name nor its value. -/
  | inArgument {other : Element}
      (change : Within isArgumentList (Within isArgumentCollection (Within isArgument
        (Inserted fun x => isReadOfArgument x = false))) sampler other) : Relayout sampler other

/-- Samplers that differ in their layout alone: one comes from the other by changes to the layout,
made or taken back, in any number. -/
def SameLayout : Element → Element → Prop :=
  Relation.EqvGen Relayout

theorem isProperty_of_not_read {name : String} (hname : name ∈ textsRead) {x : Element}
    (h : isReadOfSampler x = false) : isProperty "stringProp" name x = false := by
  simp only [isReadOfSampler, Bool.or_eq_false_iff, List.any_eq_false] at h
  exact Bool.eq_false_iff.mpr (h.1.1 name hname)

/-- A property is no list of arguments. -/
theorem isProperty_of_isArgumentList {tag name : String} (htag : tag ≠ "elementProp") {c : Element}
    (h : isArgumentList c = true) : isProperty tag name c = false := by
  simp only [isArgumentList, Bool.and_eq_true, beq_iff_eq] at h
  rw [isProperty, h.1.1]
  simp [htag.symm]

theorem argument?_of_inserted {e e' : Element}
    (h : Inserted (fun x => isReadOfArgument x = false) e e') : argument? e' = argument? e := by
  have hread : ∀ name ∈ ["Argument.name", "Argument.value"],
      stringProperty? e' name = stringProperty? e name := by
    intro name hname
    refine congrArg _ (property?_of_inserted h fun x hx => ?_)
    simp only [isReadOfArgument, Bool.or_eq_false_iff] at hx
    simp only [List.mem_cons, List.not_mem_nil, or_false] at hname
    rcases hname with rfl | rfl
    · exact hx.1
    · exact hx.2
  rw [argument?, argument?, hread _ (.head _), hread _ (.tail _ (.head _))]

/-! ## One change -/

section

variable {sampler other : Element}

/-- A request is what is read of its sampler. -/
theorem requestOf_congr (texts : ∀ name ∈ textsRead,
      property? other "stringProp" name = property? sampler "stringProp" name)
    (switch : property? other "boolProp" "HTTPSampler.postBodyRaw"
      = property? sampler "boolProp" "HTTPSampler.postBodyRaw")
    (arguments : argumentsOf other = argumentsOf sampler) (name : String) :
    requestOf other name = requestOf sampler name := by
  have hread : ∀ part ∈ textsRead, stringProperty? other part = stringProperty? sampler part :=
    fun part hpart => congrArg _ (texts part hpart)
  have hprotocol := hread "HTTPSampler.protocol" (by decide)
  have hdomain := hread "HTTPSampler.domain" (by decide)
  have hport := hread "HTTPSampler.port" (by decide)
  have hpath := hread "HTTPSampler.path" (by decide)
  have hmethod := hread "HTTPSampler.method" (by decide)
  have hurl : baseUrlOf other = baseUrlOf sampler := by
    simp only [baseUrlOf, String.reduceAppend, hprotocol, hdomain, hport, hpath]
  rw [requestOf, requestOf, hurl, hmethod, arguments, flag, flag, switch]

/-- Below the lists of arguments, a change that leaves the arguments of each list as they are leaves
the request as it is. -/
theorem requestOf_of_within {change : Element → Element → Prop}
    (h : Within isArgumentList change sampler other)
    (hsame : ∀ c c', change c c' → SameHead c c')
    (hchange : ∀ c c', change c c' →
      gather isArgumentCollection (gather isArgument fun x => (argument? x).toList) c'
        = gather isArgumentCollection (gather isArgument fun x => (argument? x).toList) c)
    (name : String) : requestOf other name = requestOf sampler name := by
  refine requestOf_congr (fun part _ => ?_) ?_ ?_ name
  · exact property?_of_within h (fun c => isProperty_of_isArgumentList (by decide)) hsame
  · exact property?_of_within h (fun c => isProperty_of_isArgumentList (by decide)) hsame
  · rw [argumentsOf_eq_gather, argumentsOf_eq_gather]
    exact gather_of_within h fun c c' hc => ⟨(hsame c c' hc).isArgumentList, hchange c c' hc⟩

/-- A change to the layout of a sampler leaves its request as it is. -/
theorem requestOf_of_relayout (h : Relayout sampler other) (name : String) :
    requestOf other name = requestOf sampler name := by
  cases h with
  | reordered children perm texts switches holders =>
    refine requestOf_congr (fun part _ => ?_) ?_ ?_ name
    · rw [property?_eq_head?, property?_eq_head?, texts]
    · rw [property?_eq_head?, property?_eq_head?, switches]
    · have hlists : ∀ l : List Element, l.filter isArgumentList
          = (l.filter fun x => x.tag == "elementProp").filter isArgumentList := by
        intro l
        rw [List.filter_filter]
        refine List.filter_congr fun x _ => ?_
        cases htag : x.tag == "elementProp" <;> simp [isArgumentList, htag]
      rw [argumentsOf, argumentsOf, hlists, holders, ← hlists]
  | inSampler change =>
    refine requestOf_congr (fun part hpart => ?_) ?_ ?_ name
    · exact property?_of_inserted change fun x => isProperty_of_not_read hpart
    · refine property?_of_inserted change fun x hx => ?_
      simp only [isReadOfSampler, Bool.or_eq_false_iff] at hx
      exact hx.1.2
    · rw [argumentsOf_eq_gather, argumentsOf_eq_gather]
      refine gather_of_inserted change fun x hx => .inl ?_
      simp only [isReadOfSampler, Bool.or_eq_false_iff] at hx
      exact hx.2
  | inList change =>
    refine requestOf_of_within change (fun _ _ => Inserted.sameHead) (fun c c' hc => ?_) name
    exact gather_of_inserted hc fun x => .inl
  | inCollection change =>
    refine requestOf_of_within change (fun _ _ => Within.sameHead) (fun c c' hc => ?_) name
    refine gather_of_within hc fun d d' hd => ⟨hd.sameHead.isArgumentCollection, ?_⟩
    refine gather_of_inserted hd fun x hx => hx.imp_right fun hnone => ?_
    rw [hnone, Option.toList_none]
  | inArgument change =>
    refine requestOf_of_within change (fun _ _ => Within.sameHead) (fun c c' hc => ?_) name
    refine gather_of_within hc fun d d' hd => ⟨hd.sameHead.isArgumentCollection, ?_⟩
    refine gather_of_within hd fun x x' hx => ⟨hx.sameHead.isArgument, ?_⟩
    rw [argument?_of_inserted hx]

end

/-! ## Document order -/

/-- The argument that a site below a sampler defines: an element with the kind of an argument, in a
collection of a list of arguments. -/
def argumentAt? (sampler : Element) (s : Site) : Option Argument :=
  match s.place with
  | [i, j, _] =>
    if (elementAt? sampler [i]).any isArgumentList
        && (elementAt? sampler [i, j]).any isArgumentCollection && isArgument s.element
      then argument? s.element
    else none
  | _ => none

/-- What there is at the sites among siblings and below them, if it is known for each sibling. -/
theorem flatMap_sitesAmong {α : Type} {f : Site → List α} {kind : Element → Bool}
    {what : Element → List α} {parent : List Nat} {n : Nat} {l : List Element}
    (h : ∀ k c container, l[k]? = some c →
      f ⟨parent ++ [n + k], c, container⟩ ++ (sitesBelow (parent ++ [n + k]) c).flatMap f
        = if kind c then what c else []) :
    (sitesAmong parent n l).flatMap f = (l.filter kind).flatMap what := by
  induction l generalizing n with
  | nil => rfl
  | cons c l ih =>
    have hfirst := h 0 c (containerAmong c l) rfl
    have hrest : (sitesAmong parent (n + 1) l).flatMap f = (l.filter kind).flatMap what := by
      refine ih fun k d container hk => ?_
      have hnext := h (k + 1) d container hk
      rwa [Nat.add_comm k, ← Nat.add_assoc] at hnext
    rw [sitesAmong, List.flatMap_append, List.flatMap_cons, hrest]
    rw [Nat.add_zero] at hfirst
    rw [hfirst, List.filter_cons]
    cases kind c <;> rfl

/-- What there is below an element, if it is known for each of its children. -/
theorem flatMap_sitesBelow {α : Type} {f : Site → List α} {kind : Element → Bool}
    {what : Element → List α} {place : List Nat} {e : Element}
    (h : ∀ k c container, e.children[k]? = some c →
      f ⟨place ++ [k], c, container⟩ ++ (sitesBelow (place ++ [k]) c).flatMap f
        = if kind c then what c else []) :
    (sitesBelow place e).flatMap f = gather kind what e := by
  rw [sitesBelow_eq, gather]
  refine flatMap_sitesAmong fun k c container hk => ?_
  rw [Nat.zero_add]
  exact h k c container hk

theorem argumentAt?_eq_none {sampler : Element} {s : Site} (h : s.place.length ≠ 3) :
    argumentAt? sampler s = none := by
  unfold argumentAt?
  split
  · next hplace =>
    rw [hplace] at h
    exact absurd rfl h
  · rfl

/-- No argument is defined below an argument. -/
theorem arguments_below_argument (sampler : Element) {place : List Nat} (h : place.length = 3)
    (e : Element) :
    (sitesBelow place e).flatMap (fun s => (argumentAt? sampler s).toList) = [] := by
  refine List.flatMap_eq_nil_iff.mpr fun s hs => ?_
  have hlength := (isBelow_of_mem_sitesBelow hs).length_lt
  rw [argumentAt?_eq_none (by omega), Option.toList_none]

theorem gather_guard {α : Type} (guard : Bool) (kind : Element → Bool)
    (what : Element → List α) (e : Element) :
    gather (fun c => guard && kind c) what e = if guard then gather kind what e else [] := by
  cases guard <;> simp [gather]

theorem arguments_below_collection {sampler list collection : Element} {i j : Nat}
    (hlist : elementAt? sampler [i] = some list)
    (hcollection : elementAt? sampler [i, j] = some collection) :
    (sitesBelow [i, j] collection).flatMap (fun s => (argumentAt? sampler s).toList)
      = if isArgumentList list && isArgumentCollection collection
        then gather isArgument (fun x => (argument? x).toList) collection else [] := by
  refine (flatMap_sitesBelow fun k c container _ => ?_).trans (gather_guard ..)
  have hhere : argumentAt? sampler ⟨[i, j] ++ [k], c, container⟩
      = if isArgumentList list && isArgumentCollection collection && isArgument c
        then argument? c else none := by
    simp only [argumentAt?, List.cons_append, List.nil_append, hlist, hcollection, Option.any_some]
  rw [arguments_below_argument sampler rfl, List.append_nil, hhere]
  split <;> rfl

theorem arguments_below_list {sampler list : Element} {i : Nat}
    (hlist : elementAt? sampler [i] = some list) :
    (sitesBelow [i] list).flatMap (fun s => (argumentAt? sampler s).toList)
      = if isArgumentList list
        then gather isArgumentCollection (gather isArgument fun x => (argument? x).toList) list
        else [] := by
  refine (flatMap_sitesBelow fun j c container hj => ?_).trans (gather_guard ..)
  have hcollection : elementAt? sampler [i, j] = some c := by
    have hchild := elementAt?_child sampler [i] j
    rwa [hlist, Option.bind_some, hj] at hchild
  rw [argumentAt?_eq_none (by simp), Option.toList_none, List.nil_append]
  exact arguments_below_collection hlist hcollection

/-- The arguments of a sampler are those that the sites below it define, in document order; none is
left out, and none is put together with another one. -/
theorem argumentsOf_eq_sites (sampler : Element) :
    argumentsOf sampler = (sitesBelow [] sampler).filterMap (argumentAt? sampler) := by
  rw [argumentsOf_eq_gather, List.filterMap_eq_flatMap_toList]
  refine (flatMap_sitesBelow fun i c container hi => ?_).symm
  have hlist : elementAt? sampler [i] = some c := by
    rw [elementAt?_cons, hi]
    rfl
  rw [argumentAt?_eq_none (by simp), Option.toList_none, List.nil_append]
  exact arguments_below_list hlist

/-! ## Requests -/

/-- Samplers that differ in their layout alone have one request, by whatever name it goes, and its
arguments are those of the sites below the sampler, in document order. -/
theorem requestOf_of_sameLayout {sampler other : Element} (h : SameLayout sampler other)
    (name : String) :
    requestOf other name = requestOf sampler name
      ∧ (requestOf other name).arguments
        = (sitesBelow [] sampler).filterMap (argumentAt? sampler) := by
  have hsame : requestOf other name = requestOf sampler name := by
    induction h with
    | rel sampler other change => exact requestOf_of_relayout change name
    | refl sampler => rfl
    | symm sampler other _ ih => exact ih.symm
    | trans a b c _ _ hab hbc => exact hbc.trans hab
  refine ⟨hsame, ?_⟩
  rw [hsame, ← argumentsOf_eq_sites]
  rfl

/-! ## A sampler in two layouts -/

/-- A text property. -/
def textProperty (name value : String) : Element :=
  { tag := "stringProp", attributes := [("name", name)], text := some value }

/-- An argument with a name alone. -/
def bareArgument (children : List Element) : Element :=
  { tag := "elementProp", attributes := [("name", "a"), ("elementType", "HTTPArgument")], children }

/-- A list with one collection of arguments. -/
def argumentList (arguments : List Element) : Element :=
  { tag := "elementProp"
    attributes := [("name", "HTTPsampler.Arguments"), ("elementType", "Arguments")]
    children := [{ tag := "collectionProp", attributes := [("name", "Arguments.arguments")]
                   children := arguments }] }

/-- A sampler with a domain that is given twice, a path, and one argument that is given twice. -/
def plainSampler : Element :=
  { tag := "HTTPSamplerProxy"
    children := [textProperty "HTTPSampler.domain" "h", textProperty "HTTPSampler.domain" "other",
      textProperty "HTTPSampler.path" "p",
      argumentList [bareArgument [textProperty "Argument.name" "x"],
        bareArgument [textProperty "Argument.name" "x"]]] }

/-- The same with the list of arguments in front, the path between the domains, and a property of
another name in the first argument. -/
def shuffledSampler : Element :=
  { tag := "HTTPSamplerProxy"
    children := [argumentList [bareArgument [textProperty "Argument.desc" "y",
          textProperty "Argument.name" "x"], bareArgument [textProperty "Argument.name" "x"]],
      textProperty "HTTPSampler.domain" "h", textProperty "HTTPSampler.path" "p",
      textProperty "HTTPSampler.domain" "other"] }

theorem isProperty_textProperty (kind name other value : String) :
    isProperty kind name (textProperty other value) = ("stringProp" == kind && other == name) := by
  simp [isProperty, textProperty, Element.attribute?]

theorem isProperty_argumentList {kind : String} (h : kind ≠ "elementProp") (name : String)
    (arguments : List Element) : isProperty kind name (argumentList arguments) = false := by
  simp [isProperty, argumentList, h.symm]

/-- The children in their other order, before the first argument gets its property. -/
theorem relayout_plainSampler : Relayout plainSampler { plainSampler with
    children := [argumentList [bareArgument [textProperty "Argument.name" "x"],
        bareArgument [textProperty "Argument.name" "x"]],
      textProperty "HTTPSampler.domain" "h", textProperty "HTTPSampler.path" "p",
      textProperty "HTTPSampler.domain" "other"] } := by
  refine .reordered _ ?_ (fun name => ?_) (fun name => ?_) rfl
  · exact (List.perm_append_singleton _ [_, _, _]).symm.trans (.cons _ (.swap _ _ _))
  · by_cases hdomain : "HTTPSampler.domain" = name
    · subst hdomain
      rfl
    · simp [plainSampler, List.filter_cons, isProperty_textProperty, isProperty_argumentList,
        hdomain]
  · rfl

theorem sameLayout_shuffledSampler : SameLayout plainSampler shuffledSampler := by
  refine (Relation.EqvGen.rel _ _ relayout_plainSampler).trans _ _ _ (.rel _ _ (.inArgument ?_))
  refine .child [] _ (argumentList _) _ rfl rfl ?_
  refine .child [] [] _ _ rfl rfl ?_
  refine .child [] _ _ _ rfl rfl ?_
  exact .among [] _ _ rfl (by decide)

/-- Both have one request, with both arguments. -/
theorem requestOf_of_sameLayout_shuffledSampler :
    requestOf shuffledSampler "S" = requestOf plainSampler "S"
      ∧ (requestOf shuffledSampler "S").arguments = [⟨"x", ""⟩, ⟨"x", ""⟩] := by
  obtain ⟨hsame, harguments⟩ := requestOf_of_sameLayout sameLayout_shuffledSampler "S"
  refine ⟨hsame, harguments.trans ?_⟩
  decide +kernel

end VuserScript.Plan
