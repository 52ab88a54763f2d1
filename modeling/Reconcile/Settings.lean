import Reconcile.Settings.Path

/-! # Settings

    Settings come in layers: defaults, a file, the environment.  A layer is laid over those below
    it, value by value.  Names do not depend on case.  What is asked of a setting at the end is a
    text, a number or a yes or no, and each of them has several ways of writing. -/

namespace Reconcile.Settings

/-! ## Section 1: Layers -/

/-- A name in lower case. -/
def lowered (name : String) : List Char := Text.lower name.toList

mutual

/-- A value with all names in lower case. -/
def lowerNames : Json → Json
  | .object ms => .ofMembers (lowerMembers ms)
  | .array vs => .array (lowerItems vs)
  | v => v

def lowerMembers : List (String × Json) → List (String × Json)
  | [] => []
  | (name, v) :: ms => (String.ofList (lowered name), lowerNames v) :: lowerMembers ms

def lowerItems : List Json → List Json
  | [] => []
  | v :: vs => lowerNames v :: lowerItems vs

end

/-- The settings of a file laid over others; its outermost names may be paths. -/
def addFile (file root : Json) : Json :=
  (entries file).foldl
    (fun root (name, v) => assign (Path.ofName (lowered name)) (lowerNames v) root) root

/-- A text with every double underscore replaced by a full stop. -/
def dotted : List Char → List Char
  | '_' :: '_' :: s => '.' :: dotted s
  | c :: s => c :: dotted s
  | [] => []

/-- The path of a setting that a variable of the environment gives; its name begins with the
    words of `start` and two underscores. -/
def variablePath? (start : String) (name : String) : Option Path :=
  let s := lowered name
  let front := (start ++ "__").toList
  if front.isPrefixOf s then some (Path.ofName (dotted (s.drop front.length))) else none

/-- The settings of an environment laid over others. -/
def addEnvironment (start : String) (env : List (String × String)) (root : Json) : Json :=
  env.foldl (fun root (name, value) =>
    match variablePath? start name with
    | some path => assign path (.text value) root
    | none => root) root

/-! ## Section 2: Reading values -/

/-- A value of any simple kind as text. -/
def text? : Json → Option String
  | .text s => some s
  | .integer n => some (toString n)
  | .float x => some x.wholeText
  | .bool b => some (if b then "true" else "false")
  | _ => none

/-- A number rounded to a whole one, a half away from zero; numbers below zero become zero. -/
def rounded (x : Binary64) : Nat :=
  if x.isNegative then 0
  else
    let m := x.magnitude
    (2 * m.num + m.den) / (2 * m.den)

def yesWords : List String := ["TRUE", "ON", "YES"]

def noWords : List String := ["FALSE", "OFF", "NO"]

/-- Digits with an optional plus sign. -/
def digits? (s : String) : Option Nat :=
  match s.toList with
  | '+' :: t => Decimal.natural? t
  | t => Decimal.natural? t

/-- A number written as text; words of consent and refusal are one and zero. -/
def numberWord? (s : String) : Option Nat :=
  let word := Text.asciiUpper s
  if word ∈ yesWords then some 1
  else if word ∈ noWords then some 0
  else digits? s

/-- A number that 32 bits hold. -/
def count? (v : Json) : Option Nat :=
  (match v with
    | .integer n => if 0 ≤ n then some n.toNat else none
    | .float x => some (rounded x)
    | .bool b => some (if b then 1 else 0)
    | .text s => numberWord? s
    | _ => none).filter (· < Nat.pow 2 32)

/-- A yes or no. -/
def boolean? : Json → Option Bool
  | .bool b => some b
  | .integer n => some (n ≠ 0)
  | .float x => some (!x.isZero)
  | .text s =>
    let word := Text.asciiUpper s
    if word ∈ "1" :: yesWords then some true
    else if word ∈ "0" :: noWords then some false
    else none
  | _ => none

/-- The value of a field of a section: by its name in a table, by its place in a list. -/
def fieldOf? (names : List String) (name : String) : Json → Option Json
  | .object ms => ms.lookup name
  | .array vs => if names.contains name then vs[names.idxOf name]? else none
  | _ => none

end Reconcile.Settings
