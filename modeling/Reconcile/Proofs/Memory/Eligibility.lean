import Reconcile.Proofs.Memory.Backlog

/-! # What a scan finds and what is written of it

    A scan leaves an invoice out if it has no lines, and so does the processing of a candidate;
    the one looks at the invoice as it is kept, the other at its transcription.  They have to
    agree: an invoice that only the scan takes for one with lines would be found ever after, and
    one that only the transcription does would never be found.

    Main statement: `written_or_failed_of_scanned`. -/

namespace Reconcile.MemoryStore

open Backfill

theorem mem_pending_of_mem_scan {s : MemoryStore} {scope : Scope} {feed : Feed} {limit : Nat}
    {cs : List Candidate} (hscan : ((scan scope feed limit).exec answer s).1 = .ok cs)
    {c : Candidate} (hc : c ∈ cs) : c ∈ s.pending scope feed := by
  rw [exec_scan_memory] at hscan
  cases hscan
  exact List.mem_of_mem_take hc

/-- An invoice of either feed counts as one without lines exactly if it is transcribed into none.
    So a candidate that a scan gave is never skipped while its legacy invoice stays what it was,
    whatever else has become of the store: it is written, or it fails. -/
theorem written_or_failed_of_scanned :
    (∀ i : ScannedInvoice, i.hasLines = false ↔ ∃ t, i.transcribe = .ok t ∧ t.lines = []) ∧
    (∀ i : BookedInvoice, i.hasLines = false ↔ i.transcribe.lines = []) ∧
    ∀ (s t : MemoryStore) (scope : Scope) (feed : Feed) (limit : Nat) (cs : List Candidate),
      ((scan scope feed limit).exec answer s).1 = .ok cs →
      ∀ c ∈ cs, t.load c.feed c.id = s.load c.feed c.id →
        (∃ lines, ((process c).exec answer t).1 = .ok (.written lines)) ∨
          ∃ e, ((process c).exec answer t).1 = .error e := by
  refine ⟨ScannedInvoice.hasLines_eq_false_iff, BookedInvoice.hasLines_eq_false_iff, ?_⟩
  intro s t scope feed limit cs hscan c hc hsame
  have hpending : c ∈ s.pending scope feed := mem_pending_of_mem_scan hscan hc
  rcases ho : t.outcome c with e | (lines | why)
  · exact .inr ⟨e, ho⟩
  · exact .inl ⟨lines, ho⟩
  · exact absurd ho (outcome_ne_skipped hpending hsame why)

/-- A candidate of a scan whose invoice can no longer be written by the time it is processed. -/
theorem written_or_failed_of_scanned_booked :
    let t := bookedStore.failWrites (.xero "inv-1") "down"
    (bookedCandidate ∈ [bookedCandidate] ∧
        ((scan bookingRequest.scope .xero 200).exec answer bookedStore).1 = .ok [bookedCandidate] ∧
        t.load .xero "inv-1" = bookedStore.load .xero "inv-1") ∧
      ((∃ lines, ((process bookedCandidate).exec answer t).1 = .ok (.written lines)) ∨
        ∃ e, ((process bookedCandidate).exec answer t).1 = .error e) := by
  intro t
  have hscan : ((scan bookingRequest.scope .xero 200).exec answer bookedStore).1 =
      .ok [bookedCandidate] := by
    rw [exec_scan_memory, pending_eq]
    have hone : bookedStore.candidates bookingRequest.scope .xero = [bookedCandidate] := rfl
    rw [hone, List.mergeSort_singleton]
    rfl
  have hmem : bookedCandidate ∈ [bookedCandidate] := List.mem_singleton_self _
  have hsame : t.load .xero "inv-1" = bookedStore.load .xero "inv-1" := rfl
  exact ⟨⟨hmem, hscan, hsame⟩, written_or_failed_of_scanned.2.2 bookedStore t bookingRequest.scope
    .xero 200 [bookedCandidate] hscan bookedCandidate hmem hsame⟩

end Reconcile.MemoryStore
