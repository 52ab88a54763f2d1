import Reconcile.Proofs.Memory.Queue

/-! # What processing leaves in a store in memory

    A link decides what is written under it: the legacy invoice it names, and whether writes to
    it fail.  To write an invoice a second time leaves what the first time left, because a
    header that was refreshed is not changed by the same refreshment and the lines are made
    from that header; and writes under different links do not meet.  So after some candidates
    were processed every entry is known from the start: it is settled if its link was among
    those of the candidates, and as it was if not.

    Main statements: `get?_foldl_processed`, the entries after a batch in closed form, and
    `entries_eq_of_same_invoices`, a batch is no more than the invoices it names. -/

namespace Reconcile

open Backfill

/-! ## Section 1: Entries that are written -/

/-- What is written a second time is there already. -/
theorem Entry.replaced_replaced (old : Option Entry) (d : HeaderDraft) (lines : List Line) :
    replaced (some (replaced old d lines)) d lines = replaced old d lines := rfl

/-- The lines of an entry say what was written. -/
theorem Entry.map_line_replaced (old : Option Entry) (d : HeaderDraft) (lines : List Line) :
    (replaced old d lines).lines.map (·.line) = lines := by
  have hlines : (replaced old d lines).lines =
      lines.map (replaced old d lines).header.storedLine := rfl
  rw [hlines, List.map_map]
  exact List.map_id lines

namespace MemoryStore

variable {s : MemoryStore} {link : Link} {d : HeaderDraft} {lines : List Line}

/-! ## Section 2: What is written under a link -/

/-- What processing the invoice behind a link writes, unless it is left out or fails. -/
def writing? (s : MemoryStore) (link : Link) : Option (HeaderDraft × List Line) :=
  match plan (s.load link.feed link.id), s.failingWrites.get? link with
  | .ok (.write d lines), none => some (d, lines)
  | _, _ => none

theorem writing?_eq_some_iff :
    s.writing? link = some (d, lines) ↔
      plan (s.load link.feed link.id) = .ok (.write d lines) ∧
        s.failingWrites.get? link = none := by
  unfold writing?
  rcases plan (s.load link.feed link.id) with e | (⟨d', lines'⟩ | why)
  · simp
  · rcases s.failingWrites.get? link with _ | m <;> simp
  · simp

theorem writing?_eq_none_of_failing {m : String} (h : s.failingWrites.get? link = some m) :
    s.writing? link = none := by
  cases hw : s.writing? link with
  | none => rfl
  | some w =>
    obtain ⟨-, hnone⟩ := writing?_eq_some_iff.mp hw
    rw [h] at hnone
    cases hnone

theorem SameSource.writing?_eq {t : MemoryStore} (h : SameSource s t) (link : Link) :
    t.writing? link = s.writing? link := by
  simp only [writing?, h.load_eq, h.failingWrites]

variable (s)

/-- Processing a candidate writes what there is to write under its link, and nothing else. -/
theorem processed_eq (c : Candidate) :
    s.processed c =
      match s.writing? c.link with
      | some (d, lines) => s.written d lines
      | none => s := by
  have hload : s.load c.feed c.id = s.load c.link.feed c.link.id := by simp [Candidate.link]
  rw [processed, exec_process_memory, hload]
  cases hw : s.writing? c.link with
  | some w =>
    obtain ⟨hplan, hfail⟩ := writing?_eq_some_iff.mp hw
    have hlink := (link_of_plan_load hplan).trans (Link.ofFeed_feed_id _)
    simp [hplan, hlink, hfail]
  | none =>
    rcases hplan : plan (s.load c.link.feed c.link.id) with e | (⟨d, lines⟩ | why)
    · rfl
    · -- there is something to write, so it must be the write that fails
      have hlink := (link_of_plan_load hplan).trans (Link.ofFeed_feed_id _)
      rcases hfail : s.failingWrites.get? c.link with _ | m
      · have hsome := writing?_eq_some_iff.mpr ⟨hplan, hfail⟩
        rw [hw] at hsome
        cases hsome
      · simp [hlink, hfail]
    · rfl

/-! ## Section 3: Settled entries -/

/-- The entry under a link once its invoice has been processed. -/
def settled (link : Link) : Option Entry :=
  match s.writing? link with
  | some (d, lines) => some (Entry.replaced (s.canonical.get? link) d lines)
  | none => s.canonical.get? link

/-- An entry is settled by staying what it was, or by being replaced as a whole. -/
theorem settled_cases (link : Link) :
    s.settled link = s.canonical.get? link ∨ ∃ d lines,
      plan (s.load link.feed link.id) = .ok (.write d lines) ∧
        s.settled link = some (Entry.replaced (s.canonical.get? link) d lines) := by
  cases hw : s.writing? link with
  | none => exact .inl (by rw [settled, hw])
  | some w =>
    obtain ⟨hplan, -⟩ := writing?_eq_some_iff.mp hw
    exact .inr ⟨w.1, w.2, hplan, by rw [settled, hw]⟩

theorem get?_processed (c : Candidate) (link : Link) :
    (s.processed c).canonical.get? link =
      if link = c.link then s.settled link else s.canonical.get? link := by
  rw [processed_eq]
  cases hw : s.writing? c.link with
  | none =>
    by_cases hl : link = c.link
    · subst hl
      simp [settled, hw]
    · simp [hl]
  | some w =>
    obtain ⟨hplan, -⟩ := writing?_eq_some_iff.mp hw
    have hlink := (link_of_plan_load hplan).trans (Link.ofFeed_feed_id _)
    by_cases hl : link = c.link
    · subst hl
      simp [written, Table.get?_insert, settled, hw, hlink]
    · simp [written, Table.get?_insert, hlink, hl]

/-- Processing a candidate settles no entry anew: neither its own nor another. -/
theorem settled_processed (c : Candidate) (link : Link) :
    (s.processed c).settled link = s.settled link := by
  have hsource : SameSource s (s.processed c) := s.sameSource_processed c
  rw [settled, hsource.writing?_eq, get?_processed]
  by_cases hl : link = c.link
  · rw [if_pos hl]
    cases hw : s.writing? link with
    | none => simp [settled, hw]
    | some w =>
      have hsettled : s.settled link =
          some (Entry.replaced (s.canonical.get? link) w.1 w.2) := by
        simp [settled, hw]
      rw [hsettled]
      exact congrArg some (Entry.replaced_replaced _ w.1 w.2)
  · rw [if_neg hl]
    rfl

/-- After a batch the entries under the links of its candidates are settled, and the others are
    as they were. -/
theorem get?_foldl_processed (cs : List Candidate) (link : Link) :
    (cs.foldl processed s).canonical.get? link =
      if link ∈ cs.map Candidate.link then s.settled link else s.canonical.get? link := by
  induction cs generalizing s with
  | nil => simp
  | cons c cs ih =>
    rw [List.foldl_cons, ih, settled_processed, get?_processed]
    by_cases hrest : link ∈ cs.map Candidate.link
    · simp [hrest]
    · by_cases hl : link = c.link
      · simp [hl]
      · simp [hrest, hl]

/-! ## Section 4: Batches -/

variable {s}

/-- Two batches that name the same invoices leave the same entries, in whatever order and how
    often each of them names an invoice, and whatever else it says of it. -/
theorem entries_eq_of_same_invoices {cs ds : List Candidate}
    (h : ∀ feed id, (∃ c ∈ cs, c.feed = feed ∧ c.id = id) ↔ ∃ d ∈ ds, d.feed = feed ∧ d.id = id)
    (link : Link) :
    (processAll answer cs s).2.canonical.get? link =
      (processAll answer ds s).2.canonical.get? link := by
  have hmem : ∀ es : List Candidate, link ∈ es.map Candidate.link ↔
      ∃ e ∈ es, e.feed = link.feed ∧ e.id = link.id := by
    intro es
    have hlink : ∀ e : Candidate, e.link = link ↔ e.feed = link.feed ∧ e.id = link.id := by
      intro e
      rw [← Link.ofFeed_inj, Link.ofFeed_feed_id, Candidate.link]
    simp [List.mem_map, hlink]
  simp only [processAll_memory, get?_foldl_processed, hmem, h]

/-- A batch that names the only invoice once, and one that names it twice and differently, next
    to an invoice that is not there. -/
theorem entries_eq_booked :
    let missing : Candidate := ⟨.ocr, "inv-1", .repair, ⟨9, 0⟩⟩
    let late : Candidate := { bookedCandidate with need := .rebuild, createdAt := ⟨7, 0⟩ }
    (processAll answer [bookedCandidate, missing] bookedStore).2.canonical.get? (.xero "inv-1") =
      (processAll answer [late, missing, bookedCandidate] bookedStore).2.canonical.get?
        (.xero "inv-1") ∧
    (processAll answer [bookedCandidate, missing] bookedStore).2.canonical.get? (.xero "inv-1") =
      some (Entry.replaced none bookedDraft firstBooking.transcribe.lines) := by
  intro missing late
  constructor
  · apply entries_eq_of_same_invoices
    intro feed id
    simp only [List.mem_cons, List.not_mem_nil, or_false, exists_eq_or_imp, exists_eq_left]
    constructor
    · rintro (hbooked | hmissing)
      · exact .inl hbooked
      · exact .inr (.inl hmissing)
    · rintro (hlate | hmissing | hbooked)
      · exact .inl hlate
      · exact .inr hmissing
      · exact .inl hbooked
  · have hwriting : bookedStore.writing? (.xero "inv-1") =
        some (bookedDraft, firstBooking.transcribe.lines) :=
      writing?_eq_some_iff.mpr ⟨plan_booked, rfl⟩
    rw [processAll_memory, get?_foldl_processed, if_pos (by simp [bookedCandidate, Candidate.link,
      Link.ofFeed]), settled, hwriting]
    rfl

end MemoryStore

end Reconcile
