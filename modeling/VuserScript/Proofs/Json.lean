/-
  VuserScript.Proofs.Json

  Written answers as texts in the notation of JSON. The notation is given as a
  relation between values and texts, with white space wherever it is allowed;
  what is written for a value is one of its texts.
-/
import VuserScript.Json
import Mathlib.Algebra.Group.Nat.Defs

namespace VuserScript.Json

/-! ## Characters -/

/-- The value of a hexadecimal digit. -/
def hexValue? (c : Char) : Option Nat :=
  if c.isDigit then some (c.toNat - 0x30)
  else if 'a' ≤ c ∧ c ≤ 'f' then some (c.toNat - 0x57)
  else if 'A' ≤ c ∧ c ≤ 'F' then some (c.toNat - 0x37)
  else none

/-- Hexadecimal digits of a number. -/
inductive AreDigits : List Char → Nat → Prop where
  | none : AreDigits [] 0
  | more {digits : List Char} {n d : Nat} {c : Char} (before : AreDigits digits n)
      (digit : hexValue? c = some d) : AreDigits (digits ++ [c]) (16 * n + d)

/-- The four digits of a UTF-16 unit. -/
structure IsUnit (digits : List Char) (n : Nat) : Prop where
  length : digits.length = 4
  digits : AreDigits digits n

/-- The letters behind a backslash, and the characters that they stand for. -/
def shortEscapes : List (Char × Char) :=
  [('"', '"'), ('\\', '\\'), ('/', '/'), ('b', '\x08'), ('f', '\x0c'), ('n', '\n'), ('r', '\r'),
    ('t', '\t')]

/-- How a character may be written in a string: as it is, with a letter behind a backslash, as one
UTF-16 unit, or as a pair of them. -/
inductive WritesChar (c : Char) : List Char → Prop where
  | plain (printable : 0x20 ≤ c.toNat) (quote : c ≠ '"') (backslash : c ≠ '\\') : WritesChar c [c]
  | short {letter : Char} (escape : (letter, c) ∈ shortEscapes) : WritesChar c ['\\', letter]
  | unit {digits : List Char} (single : IsUnit digits c.toNat) :
      WritesChar c ('\\' :: 'u' :: digits)
  | pair {first second : List Char} {high low : Nat} (isFirst : IsUnit first (0xD800 + high))
      (isSecond : IsUnit second (0xDC00 + low)) (bounds : high < 0x400 ∧ low < 0x400)
      (value : c.toNat = 0x10000 + high * 0x400 + low) :
      WritesChar c ('\\' :: 'u' :: first ++ '\\' :: 'u' :: second)

/-- What stands between the quotes of a string. -/
inductive WritesChars : List Char → List Char → Prop where
  | nil : WritesChars [] []
  | cons {c : Char} {cs written rest : List Char} (first : WritesChar c written)
      (others : WritesChars cs rest) : WritesChars (c :: cs) (written ++ rest)

/-! ## Values -/

/-- White space. -/
def IsSpace (s : String) : Prop :=
  ∀ c ∈ s.toList, c ∈ [' ', '\t', '\n', '\r']

-- named, since characters are a finite type as well, and one with too many members
instance (s : String) : Decidable (IsSpace s) :=
  List.decidableBAll (fun c => c ∈ [' ', '\t', '\n', '\r']) s.toList

/-- A string, between its quotes. -/
def WritesString (s text : String) : Prop :=
  ∃ inner, WritesChars s.toList inner ∧ text = String.ofList ('"' :: inner ++ ['"'])

mutual

/-- The texts of a value in the notation of JSON. -/
inductive Writes : Json → String → Prop where
  | null : Writes .null "null"
  | yes : Writes (.bool true) "true"
  | no : Writes (.bool false) "false"
  | int (n : Int) : Writes (.int n) (toString n)
  | decimal (literal : String) : Writes (.decimal literal) literal
  | string {s text : String} (written : WritesString s text) : Writes (.string s) text
  | noItems {space : String} (blank : IsSpace space) : Writes (.array []) ("[" ++ space ++ "]")
  | items {items : List Json} {inner : String} (written : WritesItems items inner) :
      Writes (.array items) ("[" ++ inner ++ "]")
  | noMembers {space : String} (blank : IsSpace space) :
      Writes (.object []) ("\x7b" ++ space ++ "\x7d")
  | members {members : List (String × Json)} {inner : String}
      (written : WritesMembers members inner) :
      Writes (.object members) ("\x7b" ++ inner ++ "\x7d")

/-- The texts of items, at least one, with commas between them. -/
inductive WritesItems : List Json → String → Prop where
  | last {item : Json} {a text b : String} (blank : IsSpace a ∧ IsSpace b)
      (written : Writes item text) : WritesItems [item] (a ++ text ++ b)
  | next {item : Json} {items : List Json} {a text b rest : String}
      (blank : IsSpace a ∧ IsSpace b) (written : Writes item text)
      (others : WritesItems items rest) :
      WritesItems (item :: items) (a ++ text ++ b ++ "," ++ rest)

/-- The texts of members, at least one, with commas between them. -/
inductive WritesMembers : List (String × Json) → String → Prop where
  | last {name key text a b c d : String} {value : Json}
      (blank : IsSpace a ∧ IsSpace b ∧ IsSpace c ∧ IsSpace d) (named : WritesString name key)
      (written : Writes value text) :
      WritesMembers [(name, value)] (a ++ key ++ b ++ ":" ++ c ++ text ++ d)
  | next {name key text a b c d rest : String} {value : Json} {members : List (String × Json)}
      (blank : IsSpace a ∧ IsSpace b ∧ IsSpace c ∧ IsSpace d) (named : WritesString name key)
      (written : Writes value text) (others : WritesMembers members rest) :
      WritesMembers ((name, value) :: members)
        (a ++ key ++ b ++ ":" ++ c ++ text ++ d ++ "," ++ rest)

end

/-! ## What is written -/

theorem hexValue?_hexDigit : ∀ d < 16, hexValue? (Text.hexDigit d) = some d := by
  decide

theorem areDigits_hexDigits {width n : Nat} (h : n < 16 ^ width) :
    AreDigits (Text.hexDigits width n) n := by
  induction width generalizing n with
  | zero =>
    obtain rfl : n = 0 := by simpa using h
    exact .none
  | succ width ih =>
    have hbefore : n / 16 < 16 ^ width := by
      rw [Nat.pow_succ] at h
      omega
    have hdigit := hexValue?_hexDigit (n % 16) (Nat.mod_lt n (by decide))
    have hall := AreDigits.more (ih hbefore) hdigit
    rwa [Nat.div_add_mod] at hall

theorem length_hexDigits (width n : Nat) : (Text.hexDigits width n).length = width := by
  induction width generalizing n with
  | zero => rfl
  | succ width ih => rw [Text.hexDigits, List.length_append, ih, List.length_singleton]

theorem isUnit_hexDigits {n : Nat} (h : n < 0x10000) : IsUnit (Text.hexDigits 4 n) n :=
  ⟨length_hexDigits 4 n, areDigits_hexDigits h⟩

/-- A character is written so that it can be read back. -/
theorem writesChar_escapedChar (c : Char) : WritesChar c (escapedChar c) := by
  unfold escapedChar
  split
  · exact .short (by decide)
  · exact .short (by decide)
  · exact .short (by decide)
  · exact .short (by decide)
  · exact .short (by decide)
  · exact .short (by decide)
  · exact .short (by decide)
  · next hquote hbackslash _ _ _ _ _ =>
    dsimp only
    split
    · next hprintable => exact .plain hprintable.1 hquote hbackslash
    · split
      · next hsingle => exact .unit (isUnit_hexDigits hsingle)
      · next hpair =>
        have hbound : c.toNat < 0x110000 := by
          have hvalid := c.valid
          simp only [UInt32.isValidChar, Nat.isValidChar] at hvalid
          change c.val.toNat < _
          omega
        refine .pair (isUnit_hexDigits (by omega)) (isUnit_hexDigits (by omega)) ⟨?_, ?_⟩ ?_
        · omega
        · omega
        · omega

theorem writesChars_escaped (cs : List Char) : WritesChars cs (cs.flatMap escapedChar) := by
  induction cs with
  | nil => exact .nil
  | cons c cs ih => exact .cons (writesChar_escapedChar c) ih

theorem writesString_quote (s : String) : WritesString s (quote s) :=
  ⟨s.toList.flatMap escapedChar, writesChars_escaped s.toList, rfl⟩

theorem isSpace_newLine (level : Nat) : IsSpace (newLine level) := by
  have hbreak : IsSpace "\n" := by decide
  intro c hc
  rw [newLine, String.toList_append, List.mem_append] at hc
  rcases hc with hc | hc
  · exact hbreak c hc
  · rw [String.toList_ofList] at hc
    obtain rfl := List.eq_of_mem_replicate hc
    decide

theorem isSpace_empty : IsSpace "" := by decide

theorem isSpace_blank : IsSpace " " := by decide

/-- Behind the colon of a member there is a blank. -/
theorem colon_blank : ": " = ":" ++ " " := by
  decide

mutual

/-- What is written for a value, at any depth, is a text of the value. -/
theorem writes_renderAt (level : Nat) : ∀ value : Json, Writes value (renderAt level value)
  | .null => .null
  | .bool true => .yes
  | .bool false => .no
  | .int n => .int n
  | .decimal literal => .decimal literal
  | .string s => .string (writesString_quote s)
  | .array [] => .noItems isSpace_empty
  | .array (item :: items) => by
    have hfirst := writes_renderAt (level + 1) item
    have htext := Writes.items (writesItems_render level (level + 1) items item hfirst)
    simpa only [renderAt, String.append_assoc] using htext
  | .object [] => .noMembers isSpace_empty
  | .object ((name, value) :: members) => by
    have hfirst := writes_renderAt (level + 1) value
    have htext := Writes.members (writesMembers_render level (level + 1) members name value hfirst)
    simpa only [renderAt, String.append_assoc] using htext

/-- The items behind one that is written are written behind it. -/
theorem writesItems_render (outer level : Nat) : ∀ (items : List Json) (item : Json),
    Writes item (renderAt level item) → WritesItems (item :: items)
      (newLine level ++ renderAt level item ++ renderItems level items ++ newLine outer)
  | [], item, h => by
    have hlast := WritesItems.last ⟨isSpace_newLine level, isSpace_newLine outer⟩ h
    simpa only [renderItems, String.append_empty] using hlast
  | next :: items, item, h => by
    have hrest := writesItems_render outer level items next (writes_renderAt level next)
    have hnext := WritesItems.next ⟨isSpace_newLine level, isSpace_empty⟩ h hrest
    simpa only [renderItems, String.append_empty, String.append_assoc] using hnext

/-- The members behind one that is written are written behind it. -/
theorem writesMembers_render (outer level : Nat) :
    ∀ (members : List (String × Json)) (name : String) (value : Json),
      Writes value (renderAt level value) → WritesMembers ((name, value) :: members)
        (newLine level ++ quote name ++ ": " ++ renderAt level value
          ++ renderMembers level members ++ newLine outer)
  | [], name, value, h => by
    have hlast := WritesMembers.last
      ⟨isSpace_newLine level, isSpace_empty, isSpace_blank, isSpace_newLine outer⟩
      (writesString_quote name) h
    simpa only [renderMembers, colon_blank, String.append_empty, String.append_assoc] using hlast
  | (nextName, nextValue) :: members, name, value, h => by
    have hrest := writesMembers_render outer level members nextName nextValue
      (writes_renderAt level nextValue)
    have hnext := WritesMembers.next
      ⟨isSpace_newLine level, isSpace_empty, isSpace_blank, isSpace_empty⟩
      (writesString_quote name) h hrest
    simpa only [renderMembers, colon_blank, String.append_empty, String.append_assoc] using hnext

end

/-- What is written for a value is a text of the value. -/
theorem writes_render (value : Json) : Writes value value.render :=
  writes_renderAt 0 value

end VuserScript.Json
