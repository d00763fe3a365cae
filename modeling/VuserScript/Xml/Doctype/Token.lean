/-
  VuserScript.Xml.Doctype.Token

  The tokens before and behind the document element, which are those of the
  document type declaration. `<` before a letter is not taken: it is the sign
  that the document element starts.
-/
import VuserScript.Xml.Scan

namespace VuserScript.Xml

open Scan

/-- A token outside the document element. -/
inductive PrologToken where
  | space
  /-- A comment. -/
  | comment
  /-- A processing instruction. -/
  | instruction
  /-- `<?xml … ?>`. -/
  | declaration
  /-- `<!` and a keyword. -/
  | opening (keyword : List Char)
  | close
  | name (cs : List Char)
  /-- A name with one colon inside. -/
  | prefixedName (cs : List Char)
  /-- A name with `?`, `*` or `+` behind it. -/
  | markedName (cs : List Char)
  /-- Name characters that are not a name. -/
  | nameToken (cs : List Char)
  /-- `#` and a name. -/
  | keyword (cs : List Char)
  /-- What stands between two equal quotes. -/
  | literal (content : List Symbol)
  | percent
  | parameterReference
  | openBracket
  | closeBracket
  | openParen
  /-- A closing parenthesis, and the mark behind it. -/
  | closeParen (mark : Option Char)
  | comma
  | bar
  /-- The opening or the end of a conditional section. -/
  | conditional
  /-- The document element starts here. -/
  | element
  /-- The end of the symbols. -/
  | finish
  | fault (problem : Malformed)

namespace Scan

/-! ## Parts of tokens -/

/-- Symbols up to a quote, which is taken as well. A stray byte behind it makes the quote itself a
part of what it encloses, and no character of it. -/
def untilQuote (quote : Char) : List Symbol → Except Stop (List Symbol × List Symbol)
  | .char c place width :: rest =>
    if c = quote then
      match rest with
      | .stray _ :: _ => .ok ([.stray place], [])
      | _ => .ok ([], rest)
    else do
      let (symbols, rest) ← untilQuote quote rest
      pure (.char c place width :: symbols, rest)
  | [] | .stray _ :: _ => .error .cut
  | .malformed place _ :: _ => .error (.invalid place)
  | .truncated _ _ :: _ => .error .cutCharacter

/-- A literal behind its opening quote; only some characters may follow the closing one. -/
def literal (quote : Char) : Scanner PrologToken := do
  let (content, rest) ← untilQuote quote (← get)
  set rest
  unless rest.isEmpty do
    let after ← get
    let _ ← accept fun c => isSpace c || c == '>' || c == '%' || c == '['
    set after
  pure (.literal content)

/-- What begins with `<!`. A keyword consists of simple letters. -/
def opening : Scanner PrologToken := do
  let a ← read
  let isLetter := fun c => a.isSimple c && a.isNameStart c
  let first ← accept fun c => c == '-' || c == '[' || isLetter c
  if first = '-' then
    comment
    pure .comment
  else if first = '[' then
    pure .conditional
  else
    let others ← run isLetter
    let symbols ← get
    match symbols with
    | .char '%' place _ :: rest =>
      match rest with
      | [] | .stray _ :: _ => throw .cut
      | .char c _ _ :: _ => if isSpace c || c = '%' then refuse place
      | _ => pure ()
    | [] | .stray _ :: _ => throw .cut
    | .char c place _ :: _ => unless isSpace c do refuse place
    | s :: _ => refuse s.place
    pure (.opening (first :: others))

/-- What begins with `<`. The document element starts at a simple letter or at what is not simple,
whichever character that is. -/
def angle (start : List Symbol) : Scanner PrologToken := do
  match ← get with
  | .char '!' _ _ :: rest =>
    set rest
    opening
  | .char '?' _ _ :: rest =>
    set rest
    pure (if ← instruction then .declaration else .instruction)
  | .char c place _ :: _ =>
    let a ← read
    if a.isNameStart c || !a.isSimple c then
      set start
      pure .element
    else refuse place
  | .truncated _ _ :: _ | .malformed _ true :: _ =>
    set start
    pure .element
  | .malformed place false :: _ => refuse place
  | _ => throw .cut

/-- What begins with `%`. -/
def percent : Scanner PrologToken := do
  let symbols ← get
  let (c, place) ← next
  set symbols
  if isSpace c || c = '%' then
    pure .percent
  else if (← read).isNameStart c then
    let _ ← name
    let (semicolon, place) ← next
    if semicolon = ';' then pure .parameterReference else refuse place
  else
    refuse place

/-- What may stand behind a name. -/
def endsName (c : Char) : Bool :=
  isSpace c || c == '>' || c == ')' || c == ',' || c == '|' || c == '[' || c == '%'

/-- What begins with `#`. -/
def keyword : Scanner PrologToken := do
  let cs ← name
  match ← get with
  | [] => pure (.keyword cs)
  | .stray _ :: _ =>
    set ([] : List Symbol)
    pure (.keyword (cs ++ ['\uFFFD']))
  | _ =>
    let rest ← get
    let (c, place) ← next
    if isSpace c || c = ')' || c = '>' || c = '%' || c = '|' then set rest else refuse place
    pure (.keyword cs)

/-- The kinds of words. -/
inductive WordKind where
  | name
  | prefixed
  | token
  deriving DecidableEq

/-- The token of a word. -/
def WordKind.token' (cs : List Char) : WordKind → PrologToken
  | .name => .name cs
  | .prefixed => .prefixedName cs
  | .token => .nameToken cs

/-- The rest of a word, with the characters read so far in reverse. The first colon of a name
makes it a prefixed name if a name character follows, and a name token otherwise. -/
def wordRest (kind : WordKind) (taken : List Char) : (fuel : Nat) → Scanner PrologToken
  | 0 => throw .cut
  | fuel + 1 => do
    let others ← nameRest
    let taken := others.reverse ++ taken
    let symbols ← get
    match symbols with
    | [] => pure (kind.token' taken.reverse)
    | .stray _ :: _ =>
      set ([] : List Symbol)
      pure (kind.token' ('\uFFFD' :: taken).reverse)
    | _ =>
      let (c, place) ← next
      if endsName c then
        set symbols
        pure (kind.token' taken.reverse)
      else if c = ':' then
        match kind with
        | .name =>
          let after ← get
          let (d, place) ← next
          if (← read).isNameChar d then wordRest .prefixed (d :: ':' :: taken) fuel
          else if 0x80 ≤ d.toNat then refuse place
          else
            set after
            wordRest .token (':' :: taken) fuel
        | _ => wordRest .token (':' :: taken) fuel
      else if c = '+' || c = '*' || c = '?' then
        if kind = .token then refuse place else pure (.markedName taken.reverse)
      else
        refuse place

/-- What begins with `)`. -/
def closeParen : Scanner PrologToken := do
  match ← get with
  | .char c place _ :: rest =>
    if c = '*' || c = '?' || c = '+' then
      set rest
      pure (.closeParen (some c))
    else if isSpace c || c = '>' || c = ',' || c = '|' || c = ')' then
      pure (.closeParen none)
    else refuse place
  | [] => pure (.closeParen none)
  | .stray _ :: _ =>
    set ([] : List Symbol)
    pure (.closeParen none)
  | s :: _ => refuse s.place

/-- What begins with `]`. -/
def closeBracket : Scanner PrologToken := do
  match ← get with
  | .char ']' _ _ :: .char '>' _ _ :: rest =>
    set rest
    pure .conditional
  | [.char ']' _ _] | [.char ']' _ _, .stray _] => throw .cut
  | [.stray _] =>
    set ([] : List Symbol)
    pure .closeBracket
  | _ => pure .closeBracket

end Scan

/-! ## Tokens -/

/-- The token at the start of symbols that are not empty. `bound` is at least their number. -/
def PrologToken.scan (bound : Nat) : Scanner PrologToken := do
  let a ← read
  let start ← get
  let (c, place) ← next
  if c = '<' then angle start
  else if isSpace c then
    let _ ← run isSpace
    pure .space
  else if c = '"' || c = '\'' then Scan.literal c
  else if c = '%' then Scan.percent
  else if c = ',' then pure .comma
  else if c = '[' then pure .openBracket
  else if c = ']' then Scan.closeBracket
  else if c = '(' then pure .openParen
  else if c = ')' then Scan.closeParen
  else if c = '|' then pure .bar
  else if c = '>' then pure .close
  else if c = '#' then Scan.keyword
  else if a.isNameStart c then wordRest .name [c] bound
  else if a.isNameChar c || c = ':' then wordRest .token [c] bound
  else refuse place

/-- The tokens of symbols, up to the document element, the end or a fault. `fuel` is at least the
number of symbols, and one more at the start. -/
def PrologToken.lex (a : Alphabet) (finish : Position) :
    (fuel : Nat) → List Symbol → List (Lexeme PrologToken)
  | 0, rest => [⟨.finish, finish, rest⟩]
  | _ + 1, [] => [⟨.finish, finish, []⟩]
  | fuel + 1, s :: symbols =>
    match (PrologToken.scan (fuel + 1)).start a (s :: symbols) with
    | .error stop => [⟨.fault (stop.malformed s.place), s.place, []⟩]
    | .ok (.element, rest) => [⟨.element, s.place, rest⟩]
    | .ok (token, rest) => ⟨token, s.place, rest⟩ :: PrologToken.lex a finish fuel rest

/-- The tokens outside the document element. -/
def Source.prologTokens (source : Source) : List (Lexeme PrologToken) :=
  PrologToken.lex source.alphabet source.finish (source.symbols.length + 1) source.symbols

end VuserScript.Xml
