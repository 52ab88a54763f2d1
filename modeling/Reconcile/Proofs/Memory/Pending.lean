import Mathlib.Data.List.Basic
import Reconcile.Backfill
import Reconcile.Proofs.Candidate.Order
import Reconcile.Store.Memory

/-! # What is pending in a store in memory

    The candidates of a feed are in order and each has an identifier of its own, because legacy
    invoices stand under theirs.  An entry that was written with lines needs nothing: it has
    lines, and all of them were made under the present rules.

    Main statement: `pending_written`, writing an invoice takes its candidate out of what is
    pending, for every scope and feed, and changes nothing else there. -/

namespace Reconcile

/-- The link to the invoice of a candidate. -/
def Candidate.link (c : Candidate) : Link := .ofFeed c.feed c.id

namespace Entry

theorem lineCount_replaced (old : Option Entry) (d : HeaderDraft) (lines : List Line) :
    (replaced old d lines).state.lineCount = lines.length := by
  simp [replaced, state]

theorem not_isStale_storedLine (h : Header) (l : Line) : isStale (h.storedLine l) = false := by
  simp [isStale, Header.storedLine]

theorem hasStaleUnknownUnit_replaced (old : Option Entry) (d : HeaderDraft) (lines : List Line) :
    (replaced old d lines).state.hasStaleUnknownUnit = false := by
  simp [replaced, state, List.any_map, Function.comp_def, not_isStale_storedLine]

theorem need_replaced (old : Option Entry) (d : HeaderDraft) {lines : List Line}
    (h : lines ≠ []) : Need.ofState? (some (replaced old d lines).state) = none := by
  have hlen : lines.length ≠ 0 := fun h0 => h (List.length_eq_zero_iff.mp h0)
  simp [Need.ofState?, lineCount_replaced, hasStaleUnknownUnit_replaced, hlen]

end Entry

namespace MemoryStore

variable (s : MemoryStore) (scope : Scope) (feed : Feed)

/-! ## Section 1: Eligible invoices and candidates -/

theorem nodup_id_eligible : ((s.eligible scope feed).map (·.id)).Nodup := by
  cases feed with
  | ocr =>
    have hids : (s.scanned.values.map (·.id)).Nodup := by
      rw [Table.map_values_eq_keys s.scanned_id]
      exact s.scanned.nodup_keys
    simp only [eligible, List.map_map]
    exact hids.sublist (List.filter_sublist.map _)
  | xero =>
    have hids : (s.booked.values.map (·.id)).Nodup := by
      rw [Table.map_values_eq_keys s.booked_id]
      exact s.booked.nodup_keys
    simp only [eligible, List.map_map]
    exact hids.sublist (List.filter_sublist.map _)

/-- The candidates of a feed, in no order. -/
def candidates : List Candidate := (s.eligible scope feed).filterMap (s.candidate? feed)

theorem pending_eq : s.pending scope feed = (s.candidates scope feed).mergeSort Candidate.le := rfl

variable {s scope feed}

theorem candidate?_eq_some_iff {e : Eligible} {c : Candidate} :
    s.candidate? feed e = some c ↔
      c.feed = feed ∧ c.id = e.id ∧ c.createdAt = e.createdAt ∧
        Need.ofState? ((s.canonical.get? (.ofFeed feed e.id)).map Entry.state) = some c.need := by
  obtain ⟨f, i, need, at'⟩ := c
  simp only [candidate?, Option.map_eq_some_iff, Candidate.mk.injEq]
  constructor
  · rintro ⟨n, hn, rfl, rfl, rfl, rfl⟩
    exact ⟨rfl, rfl, rfl, hn⟩
  · rintro ⟨rfl, rfl, rfl, hn⟩
    exact ⟨need, hn, rfl, rfl, rfl, rfl⟩

theorem mem_pending {c : Candidate} :
    c ∈ s.pending scope feed ↔
      ∃ e ∈ s.eligible scope feed, s.candidate? feed e = some c := by
  simp [pending_eq, candidates]

theorem feed_of_mem_pending {c : Candidate} (h : c ∈ s.pending scope feed) : c.feed = feed := by
  obtain ⟨e, -, he⟩ := mem_pending.mp h
  exact (candidate?_eq_some_iff.mp he).1

variable (s scope feed)

theorem nodup_id_candidates : ((s.candidates scope feed).map (·.id)).Nodup := by
  have hids : ∀ es : List Eligible,
      ((es.filterMap (s.candidate? feed)).map (·.id)).Sublist (es.map (·.id)) := by
    -- an eligible invoice gives no candidate, or one under its own identifier
    intro es
    induction es with
    | nil => exact .slnil
    | cons e es ih =>
      rcases hc : s.candidate? feed e with _ | c
      · simpa [List.filterMap_cons, hc] using ih.cons e.id
      · have : c.id = e.id := (candidate?_eq_some_iff.mp hc).2.1
        simpa [List.filterMap_cons, hc, this] using ih.cons_cons e.id
  exact (s.nodup_id_eligible scope feed).sublist (hids _)

theorem nodup_id_pending : ((s.pending scope feed).map (·.id)).Nodup := by
  have hperm : (s.pending scope feed).Perm (s.candidates scope feed) := List.mergeSort_perm _ _
  exact (hperm.map _).nodup_iff.mpr (s.nodup_id_candidates scope feed)

theorem pairwise_le_pending :
    (s.pending scope feed).Pairwise fun a b => Candidate.le a b = true :=
  Candidate.pairwise_mergeSort_le _

variable {s scope feed} in
/-- A scan goes by the legacy invoices and by the entries of those it may find. -/
theorem pending_congr {t : MemoryStore} (hscanned : t.scanned = s.scanned)
    (hbooked : t.booked = s.booked)
    (hentry : ∀ e ∈ s.eligible scope feed,
      t.canonical.get? (.ofFeed feed e.id) = s.canonical.get? (.ofFeed feed e.id)) :
    t.pending scope feed = s.pending scope feed := by
  have heligible : t.eligible scope feed = s.eligible scope feed := by
    cases feed <;> simp only [eligible, hscanned, hbooked]
  have hcandidates : t.candidates scope feed = s.candidates scope feed := by
    rw [candidates, candidates, heligible]
    apply List.filterMap_congr
    intro e he
    rw [candidate?, candidate?, hentry e he]
  rw [pending_eq, pending_eq, hcandidates]

/-! ## Section 2: After a write -/

/-- The store after an invoice was written. -/
def written (d : HeaderDraft) (lines : List Line) : MemoryStore :=
  { s with canonical :=
      s.canonical.insert d.link (Entry.replaced (s.canonical.get? d.link) d lines) }

theorem replace_eq (d : HeaderDraft) (lines : List Line) :
    s.replace d lines =
      match s.failingWrites.get? d.link with
      | some message => (.error (.protocol message), s)
      | none => (.ok (Entry.replaced (s.canonical.get? d.link) d lines).header,
          s.written d lines) := rfl

/-- The header of an invoice once it is written. -/
def refreshed (d : HeaderDraft) : Header :=
  d.refresh ((s.header? d.link).getD (d.toHeader d.link.headerId))

theorem entry_replaced (d : HeaderDraft) (lines : List Line) :
    Entry.replaced (s.canonical.get? d.link) d lines =
      ⟨s.refreshed d, lines.map (s.refreshed d).storedLine⟩ := by
  unfold Entry.replaced refreshed header?
  rcases s.canonical.get? d.link with _ | e <;> rfl

theorem get?_written (d : HeaderDraft) (lines : List Line) (link : Link) :
    (s.written d lines).canonical.get? link =
      if link = d.link then some ⟨s.refreshed d, lines.map (s.refreshed d).storedLine⟩
      else s.canonical.get? link := by
  rw [← entry_replaced]
  exact Table.get?_insert _ _ _ _

theorem header?_written (d : HeaderDraft) (lines : List Line) (link : Link) :
    (s.written d lines).header? link =
      if link = d.link then some (s.refreshed d) else s.header? link := by
  unfold header?
  rw [get?_written]
  by_cases h : link = d.link
  · rw [if_pos h, if_pos h, Option.map_some]
  · rw [if_neg h, if_neg h]

theorem lines_written (d : HeaderDraft) (lines : List Line) (link : Link) :
    (s.written d lines).lines link =
      if link = d.link then lines.map (s.refreshed d).storedLine else s.lines link := by
  unfold MemoryStore.lines
  rw [get?_written]
  by_cases h : link = d.link
  · rw [if_pos h, if_pos h]
    rfl
  · rw [if_neg h, if_neg h]

theorem eligible_written (d : HeaderDraft) (lines : List Line) :
    (s.written d lines).eligible scope feed = s.eligible scope feed := rfl

theorem candidate?_written (d : HeaderDraft) {lines : List Line} (h : lines ≠ []) (e : Eligible) :
    (s.written d lines).candidate? feed e = (s.candidate? feed e).filter (·.link ≠ d.link) := by
  have hget : (s.written d lines).canonical.get? (.ofFeed feed e.id) =
      if Link.ofFeed feed e.id = d.link then
        some (Entry.replaced (s.canonical.get? d.link) d lines)
      else s.canonical.get? (.ofFeed feed e.id) := Table.get?_insert _ _ _ _
  have hlink : ∀ c, s.candidate? feed e = some c → c.link = .ofFeed feed e.id := by
    intro c hc
    obtain ⟨hfeed, hid, -⟩ := candidate?_eq_some_iff.mp hc
    rw [Candidate.link, hfeed, hid]
  by_cases hl : Link.ofFeed feed e.id = d.link
  · -- the entry has just been written, so nothing needs to be done about it
    have hnone : (s.written d lines).candidate? feed e = none := by
      rw [candidate?, hget, if_pos hl, Option.map_some, Entry.need_replaced _ d h, Option.map_none]
    rcases hc : s.candidate? feed e with _ | c
    · exact hnone
    · simp [hnone, Option.filter, hlink c hc, hl]
  · -- another entry, which the write does not touch
    have hsame : (s.written d lines).candidate? feed e = s.candidate? feed e := by
      rw [candidate?, candidate?, hget, if_neg hl]
    rcases hc : s.candidate? feed e with _ | c
    · exact hsame.trans hc
    · simp [hsame, hc, Option.filter, hlink c hc, hl]

theorem pending_written (d : HeaderDraft) {lines : List Line} (h : lines ≠ []) :
    (s.written d lines).pending scope feed =
      (s.pending scope feed).filter (·.link ≠ d.link) := by
  have hcandidates : (s.written d lines).candidates scope feed =
      (s.candidates scope feed).filter (·.link ≠ d.link) := by
    simp only [candidates, eligible_written, List.filter_filterMap]
    congr 1
    funext e
    exact s.candidate?_written feed d h e
  rw [pending_eq, pending_eq, hcandidates,
    Candidate.filter_mergeSort (s.nodup_id_candidates scope feed)]

end MemoryStore

end Reconcile
