import Reconcile.Proofs.Memory.History

/-! # What a canonical invoice keeps

    A legacy invoice can change between two passes: its location, its currency, its lines, even
    who keyed them.  The header that was made from it first keeps its identity all the same, and
    takes over what may drift; its lines are made anew and nothing is left of those before.

    Invariant: `MemoryStore.Keeps`, every header that was there is there and is the same invoice.

    Main statement: `identity_kept`. -/

namespace Reconcile

open Backfill

/-! ## Section 1: Headers before and after -/

/-- The headers agree in what is settled once and for all when an invoice is first written. -/
structure Header.SameIdentity (h h' : Header) : Prop where
  id : h'.id = h.id
  organisation : h'.organisation = h.organisation
  location : h'.location = h.location
  link : h'.link = h.link
  sourceRef : h'.sourceRef = h.sourceRef
  currency : h'.currency = h.currency

theorem Header.SameIdentity.refl (h : Header) : h.SameIdentity h := ⟨rfl, rfl, rfl, rfl, rfl, rfl⟩

theorem Header.SameIdentity.trans {h h' h'' : Header} (a : h.SameIdentity h')
    (b : h'.SameIdentity h'') : h.SameIdentity h'' where
  id := b.id.trans a.id
  organisation := b.organisation.trans a.organisation
  location := b.location.trans a.location
  link := b.link.trans a.link
  sourceRef := b.sourceRef.trans a.sourceRef
  currency := b.currency.trans a.currency

theorem HeaderDraft.sameIdentity_refresh (d : HeaderDraft) (h : Header) :
    h.SameIdentity (d.refresh h) := ⟨rfl, rfl, rfl, rfl, rfl, rfl⟩

namespace LegacyInvoice

def supplier : LegacyInvoice → Option String
  | .ocr i => i.supplier
  | .xero i => i.supplier

def date : LegacyInvoice → Option Date
  | .ocr i => i.date
  | .xero i => i.date

def deletedAt : LegacyInvoice → Option Instant
  | .ocr i => i.deletedAt
  | .xero i => i.deletedAt

/-- Where the lines come from that count now. -/
def origin : LegacyInvoice → Origin
  | .ocr i => if i.keyedLines = [] then .ocr else .manual
  | .xero _ => .xero

end LegacyInvoice

/-- The header says what the legacy invoice says now, as far as this may drift. -/
structure Header.Follows (i : LegacyInvoice) (h : Header) : Prop where
  supplier : h.supplier = i.supplier
  origin : h.origin = i.origin
  date : h.date = i.date
  deletedAt : h.deletedAt = i.deletedAt

theorem Backfill.follows_refresh {i : LegacyInvoice} {t : Transcription}
    (ht : transcribe i = .ok t) (location : String) (link : Link) (h : Header) :
    ((draft t location link).refresh h).Follows i := by
  cases i with
  | ocr i =>
    rcases hi : i.transcribe with e | u
    · simp [transcribe, hi] at ht
    · simp only [transcribe, hi, Except.ok.injEq] at ht
      subst ht
      obtain ⟨document, -, rfl⟩ := ScannedInvoice.transcribe_eq_ok_iff.mp hi
      refine ⟨rfl, ?_, rfl, rfl⟩
      by_cases hkeyed : i.keyedLines = [] <;>
        simp [HeaderDraft.refresh, draft, LegacyInvoice.origin, ScannedInvoice.isKeyed, hkeyed]
  | xero i =>
    cases ht
    exact ⟨rfl, rfl, rfl, rfl⟩

namespace MemoryStore

variable {s : MemoryStore}

/-! ## Section 2: One pass -/

/-- An invoice is written if it is worth writing, and then the entry under its link is the old
    header refreshed, with the lines of its transcription. -/
theorem exists_of_written {c : Candidate} {lines : List Line}
    (h : s.outcome c = .ok (.written lines)) :
    ∃ i t d, s.load c.feed c.id = some i ∧ transcribe i = .ok t ∧ lines = t.lines ∧
      (∀ h, (HeaderDraft.refresh d h).Follows i) ∧ d.link = c.link ∧
      s.processed c = s.written d t.lines := by
  rcases s.processed_cases c with ⟨e, ho, -⟩ | ⟨why, -, ho, -⟩ |
    ⟨i, d, lines', hload, hplan, hlink, ho, hs⟩
  · rw [ho] at h
    cases h
  · rw [ho] at h
    cases h
  · rw [ho] at h
    cases h
    obtain ⟨_, location, t, m, ⟨⟩, -, ht, -, -, rfl, rfl⟩ := plan_eq_write_iff.mp hplan
    exact ⟨i, t, _, hload, ht, rfl, fun _ => follows_refresh ht location m _, hlink, hs⟩

/-! ## Section 3: Histories -/

/-- Every header of the one store is in the other one too, and is of the same invoice. -/
def Keeps (s t : MemoryStore) : Prop :=
  ∀ link h, s.header? link = some h → ∃ h', t.header? link = some h' ∧ h.SameIdentity h'

namespace Keeps

theorem refl (s : MemoryStore) : Keeps s s := fun _ h hs => ⟨h, hs, .refl h⟩

theorem trans {t u : MemoryStore} (h : Keeps s t) (h' : Keeps t u) : Keeps s u := by
  intro link a ha
  obtain ⟨b, hb, hab⟩ := h link a ha
  obtain ⟨c, hc, hbc⟩ := h' link b hb
  exact ⟨c, hc, hab.trans hbc⟩

theorem written (s : MemoryStore) (d : HeaderDraft) (lines : List Line) :
    Keeps s (s.written d lines) := by
  intro link h hs
  rw [header?_written]
  by_cases hl : link = d.link
  · subst hl
    refine ⟨s.refreshed d, if_pos rfl, ?_⟩
    rw [refreshed, hs]
    exact d.sameIdentity_refresh h
  · exact ⟨h, by rw [if_neg hl, hs], .refl h⟩

theorem processed (s : MemoryStore) (c : Candidate) : Keeps s (s.processed c) := by
  rcases s.processed_cases c with ⟨_, -, hs⟩ | ⟨_, -, -, hs⟩ | ⟨_, d, lines, -, -, -, -, hs⟩
  · rw [hs]
    exact .refl s
  · rw [hs]
    exact .refl s
  · rw [hs]
    exact .written s d lines

theorem foldl_processed (s : MemoryStore) (cs : List Candidate) :
    Keeps s (cs.foldl MemoryStore.processed s) := by
  induction cs generalizing s with
  | nil => exact .refl s
  | cons c cs ih => exact (processed s c).trans (ih (s.processed c))

theorem apply (s : MemoryStore) (op : Operation) : Keeps s (s.apply op) := by
  cases op with
  | addScanned i => exact .refl s
  | addBooked i => exact .refl s
  | failWrites link message => exact .refl s
  | process c => exact processed s c
  | run r cancel =>
    rw [MemoryStore.apply, exec_run_memory]
    exact foldl_processed s _

theorem replay (s : MemoryStore) (ops : List Operation) : Keeps s (s.replay ops) := by
  induction ops generalizing s with
  | nil => exact .refl s
  | cons op ops ih => exact (apply s op).trans (ih (s.apply op))

end Keeps

/-! ## Section 4: The lines that are left -/

theorem map_line_lines_of_written {c : Candidate} {lines : List Line}
    (h : s.outcome c = .ok (.written lines)) :
    ((s.processed c).lines c.link).map (·.line) = lines := by
  obtain ⟨-, t, d, -, -, rfl, -, hlink, hs⟩ := exists_of_written h
  rw [hs, lines_written, if_pos hlink.symm, List.map_map]
  exact List.map_id t.lines

/-- Processing a candidate once more keeps the identity of its header, follows the legacy invoice
    in all else, and leaves the lines of its transcription and no others; or it leaves the store
    as it was.  What becomes of the candidate, and what its lines say, does not depend on what was
    there before.  Over a history of any length no header loses its identity. -/
theorem identity_kept :
    (∀ (s : MemoryStore) (c : Candidate),
      let ended := (process c).exec answer s
      (∀ h lines, s.header? c.link = some h → ended.1 = .ok (.written lines) →
        ∃ i t h', s.load c.feed c.id = some i ∧ transcribe i = .ok t ∧ lines = t.lines ∧
          ended.2.header? c.link = some h' ∧ h.SameIdentity h' ∧ h'.Follows i ∧
          ended.2.lines c.link = t.lines.map h'.storedLine ∧
          (ended.2.lines c.link).map (·.line) = t.lines) ∧
      ((∀ lines, ended.1 ≠ .ok (.written lines)) → ended.2 = s)) ∧
    (∀ (s t : MemoryStore) (c : Candidate),
      let ended := (process c).exec answer s
      let ended' := (process c).exec answer t
      t.load c.feed c.id = s.load c.feed c.id →
      t.failingWrites.get? c.link = s.failingWrites.get? c.link →
      ended'.1 = ended.1 ∧ ∀ lines, ended.1 = .ok (.written lines) →
        (ended'.2.lines c.link).map (·.line) = (ended.2.lines c.link).map (·.line)) ∧
    ∀ (s : MemoryStore) (ops : List Operation), Keeps s (s.replay ops) := by
  refine ⟨fun s c => ⟨?rewritten, ?untouched⟩, ?determined, Keeps.replay⟩
  case rewritten =>
    intro h lines hs hwritten
    obtain ⟨i, t, d, hload, ht, rfl, hfollows, hlink, hprocessed⟩ := exists_of_written hwritten
    have hlines : (s.processed c).lines c.link = t.lines.map (s.refreshed d).storedLine := by
      rw [hprocessed, lines_written, if_pos hlink.symm]
    have hheader : (s.processed c).header? c.link = some (s.refreshed d) := by
      rw [hprocessed, header?_written, if_pos hlink.symm]
    have hrefreshed : s.refreshed d = d.refresh h := by rw [refreshed, hlink, hs, Option.getD_some]
    refine ⟨i, t, s.refreshed d, hload, ht, rfl, hheader, ?_, ?_, hlines,
      map_line_lines_of_written hwritten⟩
    · rw [hrefreshed]
      exact d.sameIdentity_refresh h
    · exact hfollows _
  case untouched =>
    intro hnot
    rcases s.processed_cases c with ⟨_, -, hs⟩ | ⟨_, -, -, hs⟩ | ⟨_, _, lines, -, -, -, ho, -⟩
    · exact hs
    · exact hs
    · exact absurd ho (hnot lines)
  case determined =>
    intro s t c _ _ hload hfail
    have houtcome : t.outcome c = s.outcome c := outcome_congr hload hfail
    refine ⟨houtcome, fun lines hwritten => ?_⟩
    exact (map_line_lines_of_written (houtcome.trans hwritten)).trans
      (map_line_lines_of_written hwritten).symm

/-- The invoice has moved to another location, is paid in another currency and has one line
    more. -/
def movedBooking : BookedInvoice :=
  { laterBooking with location := some "elsewhere", currency := some "EUR" }

/-- The invoice is in the store as it is now, with what was made of it before. -/
def movedStore : MemoryStore := (bookedStore.processed bookedCandidate).addBooked movedBooking

/-- Processed again, the invoice stays where it was first booked and says what it says now; its
    lines are those of a store in which it is new. -/
theorem identity_kept_moved :
    let again := (process bookedCandidate).exec answer movedStore
    let fresh := (process bookedCandidate).exec answer (empty.addBooked movedBooking)
    ∃ h h', movedStore.header? (.xero "inv-1") = some h ∧ h.location = "loc" ∧
      again.2.header? (.xero "inv-1") = some h' ∧ h.SameIdentity h' ∧
      h'.Follows (.xero movedBooking) ∧ (again.2.lines (.xero "inv-1")).length = 2 ∧
      (fresh.2.lines (.xero "inv-1")).map (·.line) =
        (again.2.lines (.xero "inv-1")).map (·.line) ∧
      Keeps movedStore (movedStore.replay rebooked) := by
  intro again fresh
  have hplan : plan (some (.xero movedBooking)) =
      .ok (.write (draft movedBooking.transcribe "elsewhere" (.xero "inv-1"))
        movedBooking.transcribe.lines) :=
    plan_xero rfl (by simp [movedBooking, laterBooking]) (by decide)
  have hthere : movedStore.load .xero "inv-1" = some (.xero movedBooking) := by
    simp [movedStore, load, addBooked, Table.get?_insert, movedBooking, laterBooking, firstBooking]
  have hwritten : movedStore.outcome bookedCandidate =
      .ok (.written movedBooking.transcribe.lines) :=
    (processed_eq_written ((congrArg plan hthere).trans hplan) rfl).1
  have hheader : movedStore.header? (.xero "inv-1") =
      some (bookedStore.refreshed bookedDraft) := by
    have hlink : (.xero "inv-1") = bookedDraft.link := rfl
    show (bookedStore.processed bookedCandidate).header? (.xero "inv-1") = _
    rw [processed_booked.2, header?_written, if_pos hlink]
  obtain ⟨hkept, hdetermined, hhistory⟩ := identity_kept
  obtain ⟨i, t, h', hload, ht, hlines, hh', hsame, hfollows, -, hdrafts⟩ :=
    (hkept movedStore bookedCandidate).1 _ _ hheader hwritten
  obtain rfl : LegacyInvoice.xero movedBooking = i :=
    Option.some.inj (hthere.symm.trans hload)
  have hcount : movedBooking.transcribe.lines.length = 2 := by
    simp [BookedInvoice.transcribe, movedBooking, laterBooking, firstBooking]
  have htwo : (again.2.lines (.xero "inv-1")).length = 2 := by
    rw [← hcount, hlines, ← hdrafts, List.length_map]
    rfl
  exact ⟨_, h', hheader, rfl, hh', hsame, hfollows, htwo,
    (hdetermined movedStore (empty.addBooked movedBooking) bookedCandidate rfl rfl).2 _ hwritten,
    hhistory movedStore rebooked⟩

end MemoryStore

end Reconcile
