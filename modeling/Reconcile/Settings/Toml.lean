import Reconcile.Json.Reader

/-! # Settings files in TOML

    A settings file is a list of lines, each of which is a comment, opens a table, or gives a
    name a value.  The reader takes tables, dotted and quoted names, texts of all four kinds,
    whole numbers in four bases, floating-point numbers, truth values, lists and inline tables.
    Dates, the special floating-point numbers and lists of tables are refused, for no setting is
    one.  A name that is given twice makes the file unreadable, and so do whole numbers that 64
    bits do not hold, control characters, and values that are nested too deep. -/

namespace Reconcile.Toml

/-! ## Section 1: Blanks and names -/

def isGap (c : Char) : Bool := c == ' ' || c == '\t'

def skipGap (s : List Char) : List Char := s.dropWhile isGap

/-- A character that may stand as it is in a comment or a text of one line: no control character
    but the tab. -/
def isPlain (c : Char) : Bool := c == '\t' || (32 ≤ c.toNat && c.toNat != 127)

/-- What follows the characters of a comment, if there is one. -/
def skipComment : List Char → List Char
  | '#' :: s => s.dropWhile isPlain
  | s => s

/-- What follows the end of a line; the text may end there too. -/
def lineEnd? (s : List Char) : Option (List Char) :=
  match skipComment (skipGap s) with
  | [] => some []
  | '\n' :: rest => some rest
  | '\r' :: '\n' :: rest => some rest
  | _ => none

/-- What follows gaps, comments and line ends; each round takes up at least one line. -/
def skipLines : (fuel : Nat) → List Char → List Char
  | 0, s => s
  | fuel + 1, s =>
    match skipComment (skipGap s) with
    | '\n' :: rest => skipLines fuel rest
    | '\r' :: '\n' :: rest => skipLines fuel rest
    | rest => rest

def isBare (c : Char) : Bool := c.isAlpha || c.isDigit || c == '_' || c == '-'

/-- The character with this number, if there is one. -/
def charOf? (n : Nat) : Option Char := if n.isValidChar then some (Char.ofNat n) else none

/-- The character that some hexadecimal digits stand for. -/
def hexChar? (ds : List Char) : Option Char :=
  (ds.foldlM (fun n d => (Json.hexDigit? d).map (n * 16 + ·)) 0).bind charOf?

/-- The text starts with the end of a line. -/
def startsLine : List Char → Bool
  | '\n' :: _ => true
  | '\r' :: '\n' :: _ => true
  | _ => false

/-- The rest of a text with escapes up to its closing quotes, with what was read of it so far,
    last first. -/
def basicTail? (manyLines : Bool) :
    (fuel : Nat) → (done : List Char) → List Char → Option (List Char × List Char)
  | 0, _, _ => none
  | fuel + 1, done, s =>
    match s with
    | [] => none
    | '"' :: rest =>
      if !manyLines then some (done.reverse, rest)
      else
        match rest with
        | '"' :: '"' :: '"' :: '"' :: rest => some (('"' :: '"' :: done).reverse, rest)
        | '"' :: '"' :: '"' :: rest => some (('"' :: done).reverse, rest)
        | '"' :: '"' :: rest => some (done.reverse, rest)
        | _ => basicTail? manyLines fuel ('"' :: done) rest
    | '\\' :: 'u' :: a :: b :: c :: d :: rest =>
      (hexChar? [a, b, c, d]).bind fun x => basicTail? manyLines fuel (x :: done) rest
    | '\\' :: 'U' :: a :: b :: c :: d :: e :: f :: g :: h :: rest =>
      (hexChar? [a, b, c, d, e, f, g, h]).bind fun x => basicTail? manyLines fuel (x :: done) rest
    | '\\' :: c :: rest =>
      if manyLines && (isGap c || c == '\n' || c == '\r') then
        if (skipGap (c :: rest)).head?.any fun e => e == '\n' || e == '\r' then
          basicTail? manyLines fuel done (rest.dropWhile Json.isSpace)
        else none
      else if c == '/' then none
      else (Json.simpleEscape? c).bind fun x => basicTail? manyLines fuel (x :: done) rest
    | c :: rest =>
      if isPlain c || (manyLines && startsLine s) then basicTail? manyLines fuel (c :: done) rest
      else none

/-- A text without escapes, after its opening quote. -/
def literalTail? (s : List Char) : Option (List Char × List Char) :=
  let body := s.takeWhile fun c => c != '\'' && isPlain c
  match s.drop body.length with
  | '\'' :: rest => some (body, rest)
  | _ => none

/-- A text without escapes over many lines, after its opening quotes. -/
def literalLinesTail? : (done : List Char) → List Char → Option (List Char × List Char)
  | done, '\'' :: '\'' :: '\'' :: rest =>
    let extra := (rest.takeWhile (· == '\'')).take 2
    some (done.reverse ++ extra, rest.drop extra.length)
  | done, c :: rest =>
    if isPlain c || startsLine (c :: rest) then literalLinesTail? (c :: done) rest else none
  | _, [] => none

/-- The line end right after opening quotes does not count. -/
def dropFirstLineEnd : List Char → List Char
  | '\n' :: s => s
  | '\r' :: '\n' :: s => s
  | s => s

/-- A text of any kind and what follows it. -/
def text? (s : List Char) : Option (List Char × List Char) :=
  match s with
  | '"' :: '"' :: '"' :: t => basicTail? true (t.length + 1) [] (dropFirstLineEnd t)
  | '"' :: t => basicTail? false (t.length + 1) [] t
  | '\'' :: '\'' :: '\'' :: t => literalLinesTail? [] (dropFirstLineEnd t)
  | '\'' :: t => literalTail? t
  | _ => none

/-- One name, bare or in quotes, and what follows it. -/
def name? (s : List Char) : Option (String × List Char) :=
  match s with
  | '"' :: t =>
    (basicTail? false (t.length + 1) [] t).map fun (cs, rest) => (String.ofList cs, rest)
  | '\'' :: t => (literalTail? t).map fun (cs, rest) => (String.ofList cs, rest)
  | s =>
    let cs := s.takeWhile isBare
    if cs.isEmpty then none else some (String.ofList cs, s.drop cs.length)

/-- Names with full stops between them, and what follows them. -/
def names? : (fuel : Nat) → List Char → Option (List String × List Char)
  | 0, _ => none
  | fuel + 1, s =>
    (name? (skipGap s)).bind fun (n, rest) =>
      match skipGap rest with
      | '.' :: t => (names? fuel t).map fun (ns, rest) => (n :: ns, rest)
      | t => some ([n], t)

/-! ## Section 2: Numbers and words -/

/-- Characters of a number or a bare word. -/
def isWordChar (c : Char) : Bool := isBare c || c == '+' || c == '.'

/-- Digits in which single underscores stand between digits. -/
def grouped? (isDigit : Char → Bool) (s : List Char) : Option (List Char) :=
  let okay := (s.zip (s.drop 1)).all fun (a, b) => !(a == '_' && b == '_')
  let ends := s.head?.any isDigit && s.getLast?.any isDigit
  if okay && ends && s.all fun c => isDigit c || c == '_' then some (s.filter (· != '_')) else none

/-- Digits without a leading zero, unless it is the only one. -/
def wholeDigits? (s : List Char) : Option (List Char) :=
  (grouped? Char.isDigit s).filter fun ds => ds.length = 1 || ds.head? != some '0'

/-- A whole number, if 64 bits hold it. -/
def integer? (n : Int) : Option Json := if Decimal.isWord64 n then some (.integer n) else none

/-- A number in a base other than ten. -/
def based? (base : Nat) (s : List Char) : Option Json := do
  let value (c : Char) : Option Nat := (Json.hexDigit? c).filter (· < base)
  let ds ← grouped? (fun c => (value c).isSome) s
  let n ← ds.foldlM (fun n c => (value c).map (n * base + ·)) 0
  integer? n

/-- A floating-point number from the digits before and behind its point, and its exponent. -/
def float? (negative : Bool) (whole frac : List Char) (exponent : Int) : Option Json :=
  let digits := Nat.ofDigitChars 10 (whole ++ frac) 0
  (Binary64.ofDigits? digits (exponent - frac.length)).map fun x =>
    .float (if negative then x.neg else x)

/-- A number in base ten with its sign taken off. -/
def decimal? (negative : Bool) (s : List Char) : Option Json := do
  let mark (c : Char) : Bool := c == 'e' || c == 'E'
  let base := s.takeWhile (!mark ·)
  let tail := s.dropWhile (!mark ·)
  let whole ← wholeDigits? (base.takeWhile (· != '.'))
  let hasPoint := base.contains '.'
  let behind := (base.dropWhile (· != '.')).drop 1
  let frac ← if hasPoint then grouped? Char.isDigit behind else some []
  match tail with
  | [] =>
    if hasPoint then float? negative whole frac 0
    else integer? (Decimal.withSign negative (Nat.ofDigitChars 10 whole 0))
  | _ :: e =>
    let (negativeExponent, e) := Decimal.splitSign e
    let ds ← grouped? Char.isDigit e
    float? negative whole frac (Decimal.withSign negativeExponent (Nat.ofDigitChars 10 ds 0))

/-- A bare word of the format: a truth value or a number. -/
def word? (s : List Char) : Option Json :=
  match s with
  | ['t', 'r', 'u', 'e'] => some (.bool true)
  | ['f', 'a', 'l', 's', 'e'] => some (.bool false)
  | '0' :: 'x' :: t => based? 16 t
  | '0' :: 'o' :: t => based? 8 t
  | '0' :: 'b' :: t => based? 2 t
  | '-' :: t => decimal? true t
  | '+' :: t => decimal? false t
  | t => decimal? false t

/-! ## Section 3: Tables -/

/-- The table with a value under names from the outside in; none if a name on the way is no
    table, or the last one is taken. -/
def define? : (names : List String) → (value table : Json) → Option Json
  | [], _, _ => none
  | [n], value, .object ms =>
    if (ms.lookup n).isSome then none else some (.object (Json.insertMember n value ms))
  | n :: ns, value, .object ms =>
    (define? ns value ((ms.lookup n).getD (.object []))).map fun v =>
      .object (Json.insertMember n v ms)
  | _, _, _ => none

/-- So many lists and inline tables may be nested in one value. -/
def maxDepth : Nat := 79

mutual

/-- A value and what follows it; `room` is the number of lists and inline tables that may still
    be nested in it. -/
def value? : (fuel room : Nat) → List Char → Option (Json × List Char)
  | 0, _, _ => none
  | fuel + 1, room, s =>
    match s with
    | '"' :: _ => (text? s).map fun (cs, rest) => (.text (String.ofList cs), rest)
    | '\'' :: _ => (text? s).map fun (cs, rest) => (.text (String.ofList cs), rest)
    | '[' :: t =>
      if room = 0 then none
      else (items? fuel (room - 1) (skipLines t.length t)).map fun (vs, rest) => (.array vs, rest)
    | '{' :: t =>
      if room = 0 then none
      else
        match skipGap t with
        | '}' :: rest => some (.object [], rest)
        | t => inline? fuel (room - 1) (.object []) t
    | _ =>
      let w := s.takeWhile isWordChar
      (word? w).map fun v => (v, s.drop w.length)

/-- The values of a list from the next one on, and what follows the list. -/
def items? : (fuel room : Nat) → List Char → Option (List Json × List Char)
  | 0, _, _ => none
  | _ + 1, _, ']' :: rest => some ([], rest)
  | fuel + 1, room, s =>
    match value? fuel room s with
    | none => none
    | some (v, rest) =>
      match skipLines rest.length rest with
      | ']' :: rest => some ([v], rest)
      | ',' :: t =>
        (items? fuel room (skipLines t.length t)).map fun (vs, rest) => (v :: vs, rest)
      | _ => none

/-- The entries of an inline table from the next one on, put into a table; and what follows. -/
def inline? : (fuel room : Nat) → (table : Json) → List Char → Option (Json × List Char)
  | 0, _, _, _ => none
  | fuel + 1, room, table, s =>
    match names? (s.length + 1) s with
    | some (ns, '=' :: t) =>
      match value? fuel room (skipGap t) with
      | none => none
      | some (v, rest) =>
        match define? ns v table with
        | none => none
        | some table =>
          match skipGap rest with
          | '}' :: rest => some (table, rest)
          | ',' :: t => inline? fuel room table t
          | _ => none
    | _ => none

end

/-! ## Section 4: Files -/

/-- What was read of a file: all its values, the table that the next lines belong to, and the
    tables that were opened by a line of their own. -/
structure Sheet where
  root : Json
  current : List String
  opened : List (List String)

/-- The sheet with a table opened, which must not have been opened before. -/
def Sheet.openTable? (sheet : Sheet) (names : List String) : Option Sheet :=
  if sheet.opened.contains names then none
  else
    let place := names.foldl (fun v n => v.bind (Json.member? n)) (some sheet.root)
    match place with
    | none => (define? names (.object []) sheet.root).map fun root =>
        ⟨root, names, names :: sheet.opened⟩
    | some (.object _) => some ⟨sheet.root, names, names :: sheet.opened⟩
    | some _ => none

/-- A line that opens a table, after its bracket. -/
def header? (sheet : Sheet) (s : List Char) : Option (Sheet × List Char) :=
  match names? (s.length + 1) s with
  | some (ns, ']' :: rest) => do
    let sheet ← sheet.openTable? ns
    return (sheet, ← lineEnd? rest)
  | _ => none

/-- A line that gives a name a value. -/
def binding? (sheet : Sheet) (s : List Char) : Option (Sheet × List Char) :=
  match names? (s.length + 1) s with
  | some (ns, '=' :: t) => do
    let (v, rest) ← value? (t.length + 1) maxDepth (skipGap t)
    let root ← define? (sheet.current ++ ns) v sheet.root
    return ({ sheet with root := root }, ← lineEnd? rest)
  | _ => none

/-- The lines of a file one after another. -/
def lines? : (fuel : Nat) → Sheet → List Char → Option Json
  | 0, _, _ => none
  | fuel + 1, sheet, s =>
    match skipLines s.length s with
    | [] => some sheet.root
    | '[' :: t => (header? sheet t).bind fun (sheet, rest) => lines? fuel sheet rest
    | t => (binding? sheet t).bind fun (sheet, rest) => lines? fuel sheet rest

/-- Reads a settings file. -/
def read? (s : String) : Option Json :=
  let cs := s.toList
  lines? (cs.length + 1) ⟨.object [], [], []⟩ cs

end Reconcile.Toml
