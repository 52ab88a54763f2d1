import Reconcile.Proofs.Memory.Scan
import Reconcile.Store.Faulty

/-! # What is selected from the rows of a store

    A store may give any rows to a scan: in no order, of the other feed too, the same identifier
    several times with another need or another age, and more than were asked for.  Of the rows
    of the feed the first one with each identifier counts.  These are put in order, and the
    oldest of them are the candidates.

    Main statement: `scan_first_occurrences`. -/

namespace Reconcile

open Backfill

/-! ## Section 1: First occurrences -/

namespace Candidate

/-- The row is of the feed, and no row of the feed before it has its identifier. -/
def IsFirst (feed : Feed) (rows : List Candidate) (c : Candidate) : Prop :=
  c.feed = feed ∧ ∃ before after, rows = before ++ c :: after ∧
    ∀ d ∈ before, d.feed = feed → d.id ≠ c.id

theorem IsFirst.mem {feed : Feed} {rows : List Candidate} {c : Candidate}
    (h : IsFirst feed rows c) : c ∈ rows := by
  obtain ⟨-, before, after, rfl, -⟩ := h
  exact List.mem_append_right before List.mem_cons_self

/-- The search for an identifier among the rows of a feed ends at the first one. -/
theorem isFirst_iff_find? {feed : Feed} {rows : List Candidate} {c : Candidate} :
    IsFirst feed rows c ↔ (rows.filter (·.feed = feed)).find? (·.id = c.id) = some c := by
  rw [List.find?_filter, List.find?_eq_some_iff_append]
  constructor
  · rintro ⟨hfeed, before, after, rfl, hbefore⟩
    refine ⟨by simpa using hfeed, before, after, rfl, ?_⟩
    intro d hd
    simpa [imp_iff_not_or] using hbefore d hd
  · rintro ⟨hc, before, after, rfl, hbefore⟩
    refine ⟨by simpa using hc, before, after, rfl, ?_⟩
    intro d hd
    simpa [imp_iff_not_or] using hbefore d hd

theorem mem_firstById_iff {cs : List Candidate} {c : Candidate} :
    c ∈ firstById cs ↔ cs.find? (·.id = c.id) = some c := by
  induction cs with
  | nil => simp [firstById]
  | cons d cs ih =>
    rw [firstById, List.mem_cons, List.mem_filter, ih]
    by_cases hid : d.id = c.id
    · -- the search ends here, and no later row of this identifier was kept
      simp [hid, eq_comm]
    · have hne : c ≠ d := fun h => hid (h ▸ rfl)
      simp [hid, hne, Ne.symm hid]

theorem mem_firstById_filter_iff {feed : Feed} {rows : List Candidate} {c : Candidate} :
    c ∈ firstById (rows.filter (·.feed = feed)) ↔ IsFirst feed rows c := by
  rw [mem_firstById_iff, isFirst_iff_find?]

theorem nodup_id_firstById (cs : List Candidate) : ((firstById cs).map (·.id)).Nodup := by
  induction cs with
  | nil => exact List.nodup_nil
  | cons c cs ih =>
    rw [firstById, List.map_cons, List.nodup_cons]
    constructor
    · simp
    · exact ih.sublist (List.filter_sublist.map _)

/-! ## Section 2: The selection -/

/-- The first rows of a feed in the order of candidates. -/
def ordered (feed : Feed) (rows : List Candidate) : List Candidate :=
  (firstById (rows.filter (·.feed = feed))).mergeSort le

theorem mem_ordered_iff {feed : Feed} {rows : List Candidate} {c : Candidate} :
    c ∈ ordered feed rows ↔ IsFirst feed rows c := by
  rw [ordered, List.mem_mergeSort, mem_firstById_filter_iff]

theorem nodup_id_ordered (feed : Feed) (rows : List Candidate) :
    ((ordered feed rows).map (·.id)).Nodup := by
  have hperm : (ordered feed rows).Perm (firstById (rows.filter (·.feed = feed))) :=
    List.mergeSort_perm _ _
  exact (hperm.map _).nodup_iff.mpr (nodup_id_firstById _)

theorem pairwise_before_ordered (feed : Feed) (rows : List Candidate) :
    (ordered feed rows).Pairwise Before :=
  pairwise_before (nodup_id_ordered feed rows) (pairwise_mergeSort_le _)

end Candidate

/-! ## Section 3: The scan -/

namespace Backfill

section Scan

variable {σ : Type} (answer : Dialogue.Answerer Store.Call.Answer σ) (s : σ) (scope : Scope)
  (feed : Feed) (limit : Nat)

/-- A scan finds something if the store gave rows, and then the oldest of the first ones. -/
theorem exec_scan_eq_ok_iff {found : List Candidate} :
    ((scan scope feed limit).exec answer s).1 = .ok found ↔
      ∃ rows : List Candidate, (answer (.scan scope feed limit) s).1 = .ok rows ∧
        found = (Candidate.ordered feed rows).take limit := by
  rw [exec_scan]
  rcases answer (.scan scope feed limit) s with ⟨e | rows, t⟩
  · constructor
    · intro h
      cases h
    · rintro ⟨rows, h, -⟩
      cases h
  · constructor
    · rintro ⟨⟩
      exact ⟨rows, rfl, rfl⟩
    · rintro ⟨_, ⟨⟩, rfl⟩
      rfl

/-- Whatever rows a store gives to a scan, there is one list of the first rows of the feed in the
    strict order of age and identifier, and the scan finds its first `limit` members.  So there
    are not too many of them, they increase, each identifier is there once, and each of them is
    a row of the feed as the store gave it.  What a store in memory gives is found as it is. -/
theorem scan_first_occurrences :
    (∀ rows : List Candidate, (answer (.scan scope feed limit) s).1 = .ok rows →
      ∃ firsts : List Candidate,
        ((∀ c, c ∈ firsts ↔ Candidate.IsFirst feed rows c) ∧ firsts.Pairwise Candidate.Before) ∧
        (∀ cs : List Candidate, (∀ c, c ∈ cs ↔ Candidate.IsFirst feed rows c) →
          cs.Pairwise Candidate.Before → cs = firsts) ∧
        ((scan scope feed limit).exec answer s).1 = .ok (firsts.take limit)) ∧
    (∀ found, ((scan scope feed limit).exec answer s).1 = .ok found →
      found.length ≤ limit ∧ found.Pairwise Candidate.Before ∧ (found.map (·.id)).Nodup ∧
        ∃ rows : List Candidate, (answer (.scan scope feed limit) s).1 = .ok rows ∧
          ∀ c ∈ found, c ∈ rows ∧ c.feed = feed) ∧
    ∀ m : MemoryStore, (scan scope feed limit).exec MemoryStore.answer m =
      MemoryStore.answer (.scan scope feed limit) m := by
  refine ⟨?_, ?_, fun m => m.exec_scan_memory scope feed limit⟩
  · intro rows hrows
    have hsorted := Candidate.pairwise_before_ordered feed rows
    refine ⟨Candidate.ordered feed rows, ⟨fun _ => Candidate.mem_ordered_iff, hsorted⟩, ?_, ?_⟩
    · intro cs hcs hbefore
      exact Candidate.eq_of_before hbefore hsorted fun c =>
        (hcs c).trans Candidate.mem_ordered_iff.symm
    · exact (exec_scan_eq_ok_iff answer s scope feed limit).mpr ⟨rows, hrows, rfl⟩
  · intro found hfound
    obtain ⟨rows, hrows, rfl⟩ := (exec_scan_eq_ok_iff answer s scope feed limit).mp hfound
    have htake := List.take_sublist limit (Candidate.ordered feed rows)
    refine ⟨List.length_take_le _ _, (Candidate.pairwise_before_ordered feed rows).sublist htake,
      (Candidate.nodup_id_ordered feed rows).sublist (htake.map _), rows, hrows, ?_⟩
    intro c hc
    have hfirst := Candidate.mem_ordered_iff.mp (htake.subset hc)
    exact ⟨hfirst.mem, hfirst.1⟩

end Scan

/-- Rows in no order: an identifier that comes again with an older age and another need, a row of
    the other feed with the identifier of one of this feed, and two rows of one age. -/
def unrulyRows : List Candidate := [
  ⟨.ocr, "inv-2", .new, ⟨30, 0⟩⟩, ⟨.xero, "inv-1", .repair, ⟨0, 0⟩⟩,
  ⟨.ocr, "inv-2", .repair, ⟨10, 0⟩⟩, ⟨.ocr, "inv-0", .new, ⟨30, 0⟩⟩,
  ⟨.ocr, "inv-1", .rebuild, ⟨20, 0⟩⟩]

/-- With room for two of three, the one that comes again is left out: it counts with the age it
    has where it comes first. -/
theorem scan_first_occurrences_unruly :
    let s := FaultyStore.empty.scriptScan .ocr (some (.candidates unrulyRows))
    let scope : Scope := ⟨"org", "loc"⟩
    (FaultyStore.answer (.scan scope .ocr 2) s).1 = .ok unrulyRows ∧
      ∃ found, ((scan scope .ocr 2).exec FaultyStore.answer s).1 = .ok found ∧
        found = [⟨.ocr, "inv-1", .rebuild, ⟨20, 0⟩⟩, ⟨.ocr, "inv-0", .new, ⟨30, 0⟩⟩] ∧
        found.length ≤ 2 ∧ found.Pairwise Candidate.Before ∧ (found.map (·.id)).Nodup := by
  intro s scope
  have hrows : (FaultyStore.answer (.scan scope .ocr 2) s).1 = .ok unrulyRows := rfl
  obtain ⟨hfirsts, hfound, -⟩ := scan_first_occurrences FaultyStore.answer s scope .ocr 2
  obtain ⟨firsts, -, hunique, hscan⟩ := hfirsts unrulyRows hrows
  let ordered : List Candidate := [⟨.ocr, "inv-1", .rebuild, ⟨20, 0⟩⟩,
    ⟨.ocr, "inv-0", .new, ⟨30, 0⟩⟩, ⟨.ocr, "inv-2", .new, ⟨30, 0⟩⟩]
  have hmem : ∀ c, c ∈ ordered ↔ Candidate.IsFirst .ocr unrulyRows c := by
    intro c
    have hby : Candidate.firstById (unrulyRows.filter (·.feed = .ocr)) =
        [⟨.ocr, "inv-2", .new, ⟨30, 0⟩⟩, ⟨.ocr, "inv-0", .new, ⟨30, 0⟩⟩,
          ⟨.ocr, "inv-1", .rebuild, ⟨20, 0⟩⟩] := rfl
    rw [← Candidate.mem_firstById_filter_iff, hby]
    simp only [ordered, List.mem_cons, List.not_mem_nil, or_false]
    tauto
  have hbefore : ordered.Pairwise Candidate.Before :=
    Candidate.pairwise_before (by decide) (by decide)
  obtain rfl := hunique ordered hmem hbefore
  obtain ⟨hlength, hincreasing, hids, -⟩ := hfound _ hscan
  exact ⟨hrows, _, hscan, rfl, hlength, hincreasing, hids⟩

end Backfill

end Reconcile
