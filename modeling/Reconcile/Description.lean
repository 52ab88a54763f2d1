import Reconcile.Text.Blank
import Reconcile.Text.Case

/-! # Descriptions in normal form

    Descriptions are compared in a normal form: lower case, without light punctuation, the words
    one space apart. -/

namespace Reconcile.Description

open Reconcile.Text

/-- The punctuation that does not count. -/
def isLight (c : Char) : Bool :=
  c ∈ ['.', ',', ';', ':', '(', ')', '{', '}', '[', ']', '<', '>', '|']

/-- The normal form of a description.  Punctuation goes before white space is squeezed, so that
    what it leaves behind is squeezed too. -/
def normalize (raw : String) : String :=
  let lowered := lower (trim raw.toList)
  String.ofList (squeeze (lowered.filter (!isLight ·)))

end Reconcile.Description
