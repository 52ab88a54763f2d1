import Reconcile.Text.Blank
import Reconcile.Text.Digit
import Reconcile.Text.Word

/-! # Patterns

    A pattern is read at a place of a text and answers with all places where it can end, the
    preferred one first.  Repetition prefers to be long, alternatives are preferred in the order
    they are written, and a sequence tries every end of its first part in turn.  So the first
    end of a pattern is the one that a backtracking search finds, and a pattern occurs at a
    place exactly when its list of ends is not empty. -/

namespace Reconcile.Text

/-! ## Section 1: Places -/

/-- A place in a text: what stands before it, nearest first, and what stands after it. -/
structure Place where
  before : List Char
  after : List Char
deriving DecidableEq, Repr

namespace Place

/-- The places of a text that begins with `s` after the characters `before`. -/
def allFrom : (before s : List Char) → List Place
  | before, [] => [⟨before, []⟩]
  | before, c :: s => ⟨before, c :: s⟩ :: allFrom (c :: before) s

/-- All places of a text, from its start to its end. -/
def all (s : List Char) : List Place := allFrom [] s

/-- The characters between this place and a later one. -/
def upTo (p q : Place) : List Char :=
  p.after.take (p.after.length - q.after.length)

end Place

/-! ## Section 2: Patterns -/

/-- The places where a pattern that begins at a given place can end, preferred ones first. -/
abbrev Pattern := Place → List Place

namespace Pattern

/-- One character of a class. -/
def one (p : Char → Bool) : Pattern := fun q =>
  match q.after with
  | [] => []
  | c :: s => if p c then [⟨c :: q.before, s⟩] else []

/-- Any number of characters of a class, after the characters `before`. -/
def manyFrom (p : Char → Bool) : (before s : List Char) → List Place
  | before, [] => [⟨before, []⟩]
  | before, c :: s =>
    if p c then manyFrom p (c :: before) s ++ [⟨before, c :: s⟩] else [⟨before, c :: s⟩]

/-- Any number of characters of a class, rather more than fewer. -/
def many (p : Char → Bool) : Pattern := fun q => manyFrom p q.before q.after

/-- One pattern and then another. -/
def andThen (a b : Pattern) : Pattern := fun q => (a q).flatMap b

/-- One pattern, or else another. -/
def orElse (a b : Pattern) : Pattern := fun q => a q ++ b q

/-- Nothing at all. -/
def empty : Pattern := fun q => [q]

/-- A pattern, or else nothing. -/
def optional (a : Pattern) : Pattern := orElse a empty

/-- At least one character of a class, rather more than fewer. -/
def run (p : Char → Bool) : Pattern := andThen (one p) (many p)

/-- The start of the text. -/
def start : Pattern := fun q => if q.before.isEmpty then [q] else []

/-- A word begins or ends here: of the two neighbouring characters exactly one is a word
    character. -/
def wordEdge : Pattern := fun q =>
  if q.before.head?.any isWordChar != q.after.head?.any isWordChar then [q] else []

/-- The characters of a word one by one, each up to `same`. -/
def spelled (same : Char → Char → Bool) : List Char → Pattern
  | [] => empty
  | c :: w => andThen (one (same c)) (spelled same w)

/-- The first of several patterns that can be read. -/
def anyOf : List Pattern → Pattern
  | [] => fun _ => []
  | a :: as => orElse a (anyOf as)

/-! ## Section 3: Searching -/

/-- The pattern can be read at this place. -/
def occursAt (a : Pattern) (q : Place) : Bool := !(a q).isEmpty

/-- The pattern can be read at some place of the text. -/
def occursIn (a : Pattern) (s : List Char) : Bool := (Place.all s).any a.occursAt

/-- At this place: what the middle one of three consecutive patterns reads, for the preferred
    way to read all three. -/
def captureAt (a b c : Pattern) (q : Place) : Option (List Char) :=
  (a q).findSome? fun m => (b m).findSome? fun e => if c.occursAt e then some (m.upTo e) else none

/-- What the middle one of three consecutive patterns reads at the first place of the text where
    all three can be read. -/
def capture? (a b c : Pattern) (s : List Char) : Option (List Char) :=
  (Place.all s).findSome? (captureAt a b c)

end Pattern

end Reconcile.Text
