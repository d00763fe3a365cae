/-
  VuserScript.Proofs.Xml.Declared

  Why a document cannot be read. Mostly its text is not well-formed; otherwise
  its declaration names an encoding that is refused before the text is looked at,
  and then nothing else in the document counts.
-/
import VuserScript.Xml.Document

namespace VuserScript.Xml

/-- A failure for which the text of the document is to blame. -/
def Failure.IsMalformed : Failure → Prop
  | .malformed _ => True
  | _ => False

namespace Document

/-- Why the encoding with a name cannot be used for any text, by what is known of it. -/
def refusal? (name : String) : Option Encoding.Known → Option Failure
  | none => some (.noSuchEncoding name)
  | some .multiByte => some .multiByteEncoding
  | some .notText => some (.notTextEncoding name)
  | some (.refusing reason) => some (.refusingEncoding name reason)
  | some .asciiOnly => some .asciiOnlyEncoding
  | some .incompatible | some (.encoding _) => none

/-- The declaration of a document names an encoding; `found` is that of the first bytes. -/
def NamesEncoding (bytes : List UInt8) (found : Encoding) (name : String) : Prop :=
  ∃ mark declaration after place, detect bytes = some (found, mark)
    ∧ declaration? (decode found mark bytes) = .ok (some (declaration, after))
    ∧ declaration.encoding = some (name, place)

/-- The declaration of a document names an encoding that is refused. -/
def NamesRefused (bytes : List UInt8) (failure : Failure) : Prop :=
  ∃ found name, NamesEncoding bytes found name ∧ native? found name = none
    ∧ refusal? name (Encoding.known? name) = some failure

theorem wellFormed_eq_error {α : Type} {x : Except Malformed α} {failure : Failure}
    (h : wellFormed x = .error failure) : failure.IsMalformed := by
  cases x <;> cases h
  trivial

theorem not_isMalformed_of_refusal? {name : String} {known : Option Encoding.Known}
    {failure : Failure} (h : refusal? name known = some failure) : ¬ failure.IsMalformed := by
  rcases known with _ | known
  · cases h
    exact not_false
  · cases known <;> cases h <;> exact not_false

theorem declaredEncoding_eq_error_iff {found : Encoding} {name : String} {place : Position}
    {failure : Failure} (hfailure : ¬ failure.IsMalformed) :
    declaredEncoding found name place = .error failure
      ↔ native? found name = none ∧ refusal? name (Encoding.known? name) = some failure := by
  unfold declaredEncoding
  cases hnative : native? found name with
  | some e =>
    simp only [reduceCtorEq, false_and, iff_false]
    split
    · nofun
    · rintro ⟨⟩
      exact hfailure trivial
  | none =>
    -- what is left is one case for each kind of encoding that is known
    rcases Encoding.known? name with _ | known
    · simp [refusal?]
    · cases known with
      | incompatible =>
        simp only [refusal?, reduceCtorEq, and_false, iff_false]
        rintro ⟨⟩
        exact hfailure trivial
      | _ => simp [refusal?]

section

variable {bytes : List UInt8} {failure : Failure}

/-- Only the encoding that the declaration names is a reason other than the text. -/
theorem namesEncoding_of_error (h : ofBytes false bytes = .error failure)
    (hfailure : ¬ failure.IsMalformed) :
    ∃ found name place, NamesEncoding bytes found name
      ∧ declaredEncoding found name place = .error failure := by
  unfold ofBytes at h
  cases hdetect : detect bytes with
  | none =>
    rw [hdetect] at h
    cases h
    exact absurd trivial hfailure
  | some guess =>
    obtain ⟨found, mark⟩ := guess
    rw [hdetect] at h
    cases hdeclaration : declaration? (decode found mark bytes) with
    | error problem =>
      simp only [hdeclaration] at h
      cases h
      exact absurd trivial hfailure
    | ok answer =>
      simp only [hdeclaration, wellFormed, bind, Except.bind] at h
      rcases answer with _ | ⟨declaration, after⟩
      · exact absurd (wellFormed_eq_error h) hfailure
      · cases hencoding : declaration.encoding with
        | none =>
          simp only [hencoding] at h
          exact absurd (wellFormed_eq_error h) hfailure
        | some named =>
          obtain ⟨name, place⟩ := named
          simp only [hencoding] at h
          refine ⟨found, name, place, ⟨mark, declaration, after, place, hdetect, hdeclaration,
            hencoding⟩, ?_⟩
          cases hdeclared : declaredEncoding found name place with
          | ok e =>
            simp only [hdeclared] at h
            exact absurd (wellFormed_eq_error h) hfailure
          | error other =>
            simp only [hdeclared] at h
            cases h
            rfl

/-- Nothing that follows the declaration counts if its encoding is refused. -/
theorem ofBytes_of_refused {found : Encoding} {name : String}
    (hnames : NamesEncoding bytes found name)
    (hrefused : ∀ place, declaredEncoding found name place = .error failure) :
    ofBytes false bytes = .error failure := by
  obtain ⟨mark, declaration, after, place, hdetect, hdeclaration, hencoding⟩ := hnames
  unfold ofBytes
  rw [hdetect]
  simp only [hdeclaration, wellFormed, bind, Except.bind, hencoding, hrefused place]
  rfl

/-- A document is not read for a reason other than its text if and only if its declaration names an
encoding that is refused. -/
theorem ofBytes_eq_error_iff :
    ofBytes false bytes = .error failure ∧ ¬ failure.IsMalformed ↔ NamesRefused bytes failure := by
  constructor
  · rintro ⟨h, hfailure⟩
    obtain ⟨found, name, place, hnames, hdeclared⟩ := namesEncoding_of_error h hfailure
    exact ⟨found, name, hnames, (declaredEncoding_eq_error_iff hfailure).mp hdeclared⟩
  · rintro ⟨found, name, hnames, hrefused⟩
    have hfailure := not_isMalformed_of_refusal? hrefused.2
    have hdeclared : ∀ place, declaredEncoding found name place = .error failure := fun place =>
      (declaredEncoding_eq_error_iff hfailure).mpr hrefused
    exact ⟨ofBytes_of_refused hnames hdeclared, hfailure⟩

end

end Document

end VuserScript.Xml
