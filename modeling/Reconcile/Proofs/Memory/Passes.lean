import Mathlib.Data.List.Forall2
import Reconcile.Proofs.Invoice.Sources
import Reconcile.Proofs.Memory.History
import Reconcile.Proofs.Memory.Settled

/-! # The passes over an invoice

    In a history an invoice is written any number of times, each time as its legacy invoice is
    just then.  These passes are all that an entry is made of: the first one settles the currency
    of the header for good, and the last one leaves its lines.  A line that names no currency has
    the one of the pass that wrote it, which need not be the one of the header.

    Main statements: `get?_replay`, an entry is what its passes made of it, and
    `currencies_of_replay`, where the currencies of headers and lines come from. -/

namespace Reconcile

open Backfill

/-! ## Section 1: What a pass does to an entry -/

/-- The entry after a legacy invoice was written over the old one, if it can be written. -/
def Entry.afterPass (old : Option Entry) (i : LegacyInvoice) : Option Entry :=
  match plan (some i) with
  | .ok (.write d lines) => some (replaced old d lines)
  | _ => old

/-- The invoice can be written. -/
def LegacyInvoice.Writable (i : LegacyInvoice) : Prop :=
  ∃ d lines, plan (some i) = .ok (.write d lines)

/-- A pass that writes leaves the lines of its transcription, and a header with the currency of
    the old one, or of the transcription if there was none. -/
theorem Entry.afterPass_of_writable {i : LegacyInvoice} (h : i.Writable) (old : Option Entry) :
    ∃ e t, afterPass old i = some e ∧ transcribe i = .ok t ∧
      e.header.currency = (old.map (·.header.currency)).getD t.currency ∧
      e.lines = t.lines.map e.header.storedLine := by
  obtain ⟨d, lines, hplan⟩ := h
  obtain ⟨_, location, t, link, ⟨⟩, -, ht, -, -, rfl, rfl⟩ := plan_eq_write_iff.mp hplan
  refine ⟨_, t, by rw [afterPass, hplan], ht, ?_, rfl⟩
  rcases old with _ | e
  · rfl
  · rfl

/-- Of passes over an invoice that was not there the first gives the currency of the header, and
    the last the lines. -/
theorem Entry.foldl_afterPass {is : List LegacyInvoice} (hne : is ≠ [])
    (hw : ∀ i ∈ is, i.Writable) :
    ∃ e first last t u, is.foldl afterPass none = some e ∧
      is.head? = some first ∧ transcribe first = .ok t ∧
      is.getLast? = some last ∧ transcribe last = .ok u ∧
      e.header.currency = t.currency ∧ e.lines = u.lines.map e.header.storedLine := by
  induction is using List.reverseRecOn with
  | nil => exact absurd rfl hne
  | append_singleton is i ih =>
    have hi : i.Writable := hw i (by simp)
    rw [List.foldl_append, List.foldl_cons, List.foldl_nil]
    by_cases hnil : is = []
    · -- the first pass is the last one too
      subst hnil
      obtain ⟨e, t, he, ht, hcurrency, hlines⟩ := afterPass_of_writable hi none
      exact ⟨e, i, i, t, t, he, rfl, ht, rfl, ht, hcurrency, hlines⟩
    · obtain ⟨old, first, -, t, -, hold, hfirst, ht, -, -, hcurrency, -⟩ :=
        ih hnil fun j hj => hw j (List.mem_append_left _ hj)
      obtain ⟨e, u, he, hu, hkept, hlines⟩ := afterPass_of_writable hi (some old)
      refine ⟨e, first, i, t, u, by rw [hold, he], ?_, ht, by simp, hu, ?_, hlines⟩
      · rw [List.head?_append, hfirst]
        rfl
      · rw [hkept, ← hcurrency]
        rfl

namespace MemoryStore

/-! ## Section 2: The passes of a history -/

/-- The candidates that an operation processes, in order. -/
def processedBy (s : MemoryStore) : Operation → List Candidate
  | .process c => [c]
  | .run r cancel => (s.runQueue r).take (attempts cancel 0 (s.runQueue r).length)
  | _ => []

theorem get?_apply (s : MemoryStore) (op : Operation) (link : Link) :
    (s.apply op).canonical.get? link =
      if link ∈ (s.processedBy op).map Candidate.link then s.settled link
      else s.canonical.get? link := by
  cases op with
  | addScanned i => rfl
  | addBooked i => rfl
  | failWrites other message => rfl
  | process c =>
    show (s.processed c).canonical.get? link = _
    rw [get?_processed, processedBy, List.map_singleton]
    simp only [List.mem_singleton]
  | run r cancel =>
    rw [apply, exec_run_memory]
    exact s.get?_foldl_processed _ link

/-- The legacy invoice that an operation writes under a link, if it writes there at all. -/
def pass? (s : MemoryStore) (op : Operation) (link : Link) : Option LegacyInvoice :=
  if link ∈ (s.processedBy op).map Candidate.link ∧ (s.writing? link).isSome then
    s.load link.feed link.id
  else none

/-- The legacy invoices that a history writes under a link, each as it was when it was written,
    in the order of writing. -/
def passes (s : MemoryStore) : List Operation → Link → List LegacyInvoice
  | [], _ => []
  | op :: ops, link => (s.pass? op link).toList ++ (s.apply op).passes ops link

variable {s : MemoryStore}

/-- Only invoices that can be written are. -/
theorem writable_of_pass? {op : Operation} {link : Link} {i : LegacyInvoice}
    (h : s.pass? op link = some i) : i.Writable := by
  unfold pass? at h
  split at h
  · next hwrites =>
    obtain ⟨w, hw⟩ := Option.isSome_iff_exists.mp hwrites.2
    have hplan := (writing?_eq_some_iff.mp hw).1
    rw [h] at hplan
    exact ⟨w.1, w.2, hplan⟩
  · cases h

theorem writable_of_mem_passes {ops : List Operation} {link : Link} :
    ∀ i ∈ s.passes ops link, i.Writable := by
  induction ops generalizing s with
  | nil =>
    intro i hi
    cases hi
  | cons op ops ih =>
    intro i hi
    rcases List.mem_append.mp hi with hnow | hlater
    · exact writable_of_pass? (Option.mem_toList.mp hnow)
    · exact ih i hlater

/-- An operation changes the entry under a link by its pass over the invoice, and if it makes
    none, not at all. -/
theorem get?_apply_eq_foldl (s : MemoryStore) (op : Operation) (link : Link) :
    (s.apply op).canonical.get? link =
      (s.pass? op link).toList.foldl Entry.afterPass (s.canonical.get? link) := by
  rw [get?_apply]
  by_cases hmem : link ∈ (s.processedBy op).map Candidate.link
  · rw [if_pos hmem]
    -- a candidate that cannot be written leaves the entry and is no pass
    rcases hw : s.writing? link with _ | ⟨d, lines⟩
    · simp [pass?, settled, hw]
    · have hplan := (writing?_eq_some_iff.mp hw).1
      obtain ⟨i, -, -, -, hload, -⟩ := plan_eq_write_iff.mp hplan
      have hpass : s.pass? op link = some i := by
        simp [pass?, hmem, hw, hload]
      have hwrite : plan (some i) = .ok (.write d lines) := hload ▸ hplan
      rw [hpass, settled, hw]
      simp [Entry.afterPass, hwrite]
  · have hnone : s.pass? op link = none := by
      simp [pass?, hmem]
    rw [if_neg hmem, hnone]
    rfl

/-- After a history an entry is what the passes over its invoice made of it, one after another. -/
theorem get?_replay (s : MemoryStore) (ops : List Operation) (link : Link) :
    (s.replay ops).canonical.get? link =
      (s.passes ops link).foldl Entry.afterPass (s.canonical.get? link) := by
  induction ops generalizing s with
  | nil => rfl
  | cons op ops ih =>
    show ((s.apply op).replay ops).canonical.get? link = _
    rw [ih, get?_apply_eq_foldl, passes, List.foldl_append]

/-- An entry that was not there at first has been passed over. -/
theorem exists_passes_of_replay (hempty : s.canonical = .empty) {ops : List Operation}
    {link : Link} {e : Entry} (he : (s.replay ops).canonical.get? link = some e) :
    ∃ first last t u, (s.passes ops link).head? = some first ∧ transcribe first = .ok t ∧
      (s.passes ops link).getLast? = some last ∧ transcribe last = .ok u ∧
      e.header.currency = t.currency ∧ e.lines = u.lines.map e.header.storedLine := by
  rw [get?_replay, hempty, Table.get?_empty] at he
  have hne : s.passes ops link ≠ [] := by
    intro hnil
    rw [hnil] at he
    cases he
  obtain ⟨e', first, last, t, u, he', hrest⟩ := Entry.foldl_afterPass hne writable_of_mem_passes
  obtain rfl : e' = e := Option.some.inj (he'.symm.trans he)
  exact ⟨first, last, t, u, hrest⟩

/-! ## Section 3: Currencies -/

/-- A stored header has the currency of the first pass over its invoice.  Its lines are those of
    the last pass, each in the place of its source line, and a line that names no currency has the
    currency of that pass.  So the two agree exactly if the invoice had one currency at both. -/
theorem currencies_of_replay (hempty : s.canonical = .empty) {ops : List Operation} {link : Link}
    {e : Entry} (he : (s.replay ops).canonical.get? link = some e) :
    ∃ first last t u, (s.passes ops link).head? = some first ∧ transcribe first = .ok t ∧
      (s.passes ops link).getLast? = some last ∧ transcribe last = .ok u ∧
      e.header.currency = t.currency ∧
      List.Forall₂ (fun (source : SourceLine) (stored : StoredLine) =>
        stored.line = source.toLine u.currency ∧
        (Currency.IsMissing source.currency → stored.line.currency = u.currency ∧
          (stored.line.currency = e.header.currency ↔ t.currency = u.currency)))
        last.sourceLines e.lines := by
  obtain ⟨first, last, t, u, hfirst, ht, hlast, hu, hheader, hlines⟩ :=
    exists_passes_of_replay hempty he
  refine ⟨first, last, t, u, hfirst, ht, hlast, hu, hheader, ?_⟩
  rw [hlines, lines_of_transcribe hu, List.map_map, List.forall₂_map_right_iff,
    List.forall₂_same]
  intro source _
  refine ⟨rfl, fun hmissing => ?_⟩
  have hcurrency : (source.toLine u.currency).currency = u.currency :=
    currency_toLine_of_missing hu hmissing
  refine ⟨hcurrency, ?_⟩
  show (source.toLine u.currency).currency = e.header.currency ↔ t.currency = u.currency
  rw [hcurrency, hheader, eq_comm]

/-- The only invoice, in a currency of its own. -/
def bookingIn (currency : String) : BookedInvoice := { firstBooking with currency := some currency }

/-- The invoice is written, changes its currency and is written again. -/
def recurrenced : List Operation :=
  [.addBooked (bookingIn "aud"), .process bookedCandidate, .addBooked (bookingIn "eur"),
    .process bookedCandidate]

theorem passes_recurrenced : empty.passes recurrenced (.xero "inv-1") =
    [.xero (bookingIn "aud"), .xero (bookingIn "eur")] := rfl

theorem get?_recurrenced : ∃ e, (empty.replay recurrenced).canonical.get? (.xero "inv-1") = some e ∧
    e.header.currency = some "AUD" ∧ e.lines.map (·.line.currency) = [some "EUR"] := by
  have hentry : ((empty.replay recurrenced).canonical.get? (.xero "inv-1")).map
      (fun e => (e.header.currency, e.lines.map (·.line.currency))) =
        some (some "AUD", [some "EUR"]) := by
    decide +kernel
  obtain ⟨e, he, hcurrencies⟩ := Option.map_eq_some_iff.mp hentry
  exact ⟨e, he, congrArg Prod.fst hcurrencies, congrArg Prod.snd hcurrencies⟩

/-- The header keeps the currency of the first pass, and the line has the one of the second. -/
theorem currencies_of_replay_recurrenced :
    ∃ e t u, (empty.replay recurrenced).canonical.get? (.xero "inv-1") = some e ∧
      transcribe (.xero (bookingIn "aud")) = .ok t ∧ transcribe (.xero (bookingIn "eur")) = .ok u ∧
      e.header.currency = t.currency ∧ t.currency = some "AUD" ∧ u.currency = some "EUR" ∧
      e.lines.map (·.line.currency) = [u.currency] := by
  obtain ⟨e, he, hheader, hcurrencies⟩ := get?_recurrenced
  obtain ⟨first, last, t, u, hfirst, ht, hlast, hu, hcurrency, hlines⟩ :=
    currencies_of_replay (s := empty) rfl he
  rw [passes_recurrenced] at hfirst hlast
  obtain rfl : LegacyInvoice.xero (bookingIn "aud") = first := Option.some.inj hfirst
  obtain rfl : LegacyInvoice.xero (bookingIn "eur") = last := Option.some.inj hlast
  -- there is one source line, and it names no currency
  obtain ⟨stored, rest, hstored, hrest, hone⟩ := List.forall₂_cons_left_iff.mp hlines
  obtain rfl : rest = [] := List.forall₂_nil_left_iff.mp hrest
  have hmissing : Currency.IsMissing none := by
    intro raw hraw
    cases hraw
  have hline : stored.line.currency = u.currency := (hstored.2 hmissing).1
  rw [hone, List.map_singleton, hline] at hcurrencies
  rw [hcurrency] at hheader
  refine ⟨e, t, u, he, ht, hu, hcurrency, hheader, ?_, by rw [hone, List.map_singleton, hline]⟩
  exact (List.cons.inj hcurrencies).1

/-- So a line that names no currency can have another one than its header. -/
theorem currencies_part :
    ∃ e, (empty.replay recurrenced).canonical.get? (.xero "inv-1") = some e ∧
      (∀ source ∈ (LegacyInvoice.xero (bookingIn "eur")).sourceLines,
        Currency.IsMissing source.currency) ∧
      e.header.currency = some "AUD" ∧ e.lines.map (·.line.currency) = [some "EUR"] := by
  obtain ⟨e, he, hheader, hlines⟩ := get?_recurrenced
  refine ⟨e, he, ?_, hheader, hlines⟩
  intro source hsource raw hraw
  obtain ⟨k, _, rfl⟩ := List.mem_mapIdx.mp hsource
  cases hraw

end MemoryStore

end Reconcile
