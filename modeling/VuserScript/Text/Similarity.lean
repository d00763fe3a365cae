/-
  VuserScript.Text.Similarity

  How much of two texts is alike, to suggest a word for one that is not known.
  The longest common block is matched first, then what stands before it and
  what stands behind it on their own.
-/

namespace VuserScript.Text

/-! ## Common blocks -/

/-- The length of the longest common start of two lists. -/
def commonStart : List Char → List Char → Nat
  | a :: as, b :: bs => if a = b then commonStart as bs + 1 else 0
  | _, _ => 0

/-- A block that two lists share: where it starts in each, and its length. -/
structure Block where
  first : Nat
  second : Nat
  size : Nat
  deriving DecidableEq, Repr

/-- The longest block that two lists share; of several the first one. -/
def longestBlock (a b : List Char) : Block :=
  let starts := (List.range a.length).flatMap fun i => (List.range b.length).map fun j => (i, j)
  starts.foldl (fun best (i, j) =>
    let size := commonStart (a.drop i) (b.drop j)
    if best.size < size then ⟨i, j, size⟩ else best) ⟨0, 0, 0⟩

/-- How many characters of two lists are matched; `fuel` bounds the blocks within each other. -/
def matchedFrom : (fuel : Nat) → List Char → List Char → Nat
  | 0, _, _ => 0
  | fuel + 1, a, b =>
    let block := longestBlock a b
    if block.size = 0 then 0
    else
      matchedFrom fuel (a.take block.first) (b.take block.second) + block.size
        + matchedFrom fuel (a.drop (block.first + block.size)) (b.drop (block.second + block.size))

/-- How many characters of two lists are matched. -/
def matched (a b : List Char) : Nat :=
  matchedFrom (a.length + 1) a b

/-! ## Suggestions -/

/-- A known word, how many of its characters are matched, and out of how many in both words. -/
structure Likeness where
  known : String
  matched : Nat
  total : Nat

/-- How much a known word is like a word. -/
def likeness (word known : String) : Likeness :=
  ⟨known, matched known.toList word.toList, known.length + word.length⟩

/-- Whether a word comes before another one: it is more alike, or as much and later in the order
of texts. -/
def Likeness.isBefore (a b : Likeness) : Bool :=
  if a.matched * b.total = b.matched * a.total then decide (b.known ≤ a.known)
  else decide (b.matched * a.total < a.matched * b.total)

/-- The known words that are at least three fifths like a word, at most three, in order. -/
def suggestions (word : String) (known : List String) : List String :=
  let close := (known.map (likeness word)).filter fun l => decide (3 * l.total ≤ 10 * l.matched)
  (((close.mergeSort Likeness.isBefore).take 3).map (·.known)).mergeSort fun a b => decide (a ≤ b)

end VuserScript.Text
