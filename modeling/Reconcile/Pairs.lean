/-! # Lists of pairs

    A list of pairs is looked up by the first halves; the first pair that fits counts. -/

namespace Reconcile.Pairs

variable {κ α : Type} [DecidableEq κ]

/-- The first pair is taken or passed over. -/
theorem lookup_cons_ite (l k : κ) (a : α) (es : List (κ × α)) :
    ((k, a) :: es).lookup l = if l = k then some a else es.lookup l := by
  by_cases h : l = k
  · simp [h]
  · have : (l == k) = false := by simpa using h
    simp [List.lookup_cons, this, h]

end Reconcile.Pairs
