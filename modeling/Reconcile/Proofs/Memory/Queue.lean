import Reconcile.Proofs.Memory.Processing

/-! # The queue of a run

    All that a run over a store in memory may come to is queued when it starts: of each feed the
    oldest candidates, as many as the request allows.  Processing those of one feed does not
    change the queue of the other, so a run is a walk along this queue that a cancellation can
    cut short.

    Main statement: `exec_account_memory`. -/

namespace Reconcile

open Backfill

/-- Looks at the cancel flag go on where they stopped. -/
theorem Backfill.attempts_add (cancel : Nat → Bool) (n a b : Nat) :
    attempts cancel n (a + b) =
      if attempts cancel n a < a then attempts cancel n a
      else a + attempts cancel (n + a) b := by
  induction a generalizing n with
  | zero => simp
  | succ a ih =>
    have hsucc : a + 1 + b = a + b + 1 := by omega
    by_cases hc : cancel n = true
    · simp [hsucc, attempts, hc]
    · have hstep : ∀ k, attempts cancel n (k + 1) = attempts cancel (n + 1) k + 1 := by
        intro k
        simp [attempts, hc]
      have hn : n + 1 + a = n + (a + 1) := by omega
      rw [hsucc, hstep, hstep, ih, hn]
      split <;> split <;> omega

theorem Selector.nodup_feeds (selector : Selector) : selector.feeds.Nodup := by
  cases selector <;> decide

namespace MemoryStore

variable (s : MemoryStore) (r : Request)

/-! ## Section 1: One feed -/

theorem exec_scan_memory (scope : Scope) (feed : Feed) (limit : Nat) :
    (scan scope feed limit).exec answer s = (.ok ((s.pending scope feed).take limit), s) := by
  have hselect : Candidate.select feed limit ((s.pending scope feed).take limit) =
      (s.pending scope feed).take limit := by
    apply Candidate.select_eq_self
    · intro c hc
      exact feed_of_mem_pending (List.mem_of_mem_take hc)
    · exact (s.nodup_id_pending scope feed).sublist ((List.take_sublist limit _).map _)
    · exact (s.pairwise_le_pending scope feed).sublist (List.take_sublist limit _)
    · exact List.length_take_le limit _
  have hanswer : answer (.scan scope feed limit) s =
      (.ok ((s.pending scope feed).take limit), s) := rfl
  rw [exec_scan, hanswer]
  simp only [hselect]

/-- What a run may come to in a feed. -/
def queued (feed : Feed) : List Candidate := (s.pending r.scope feed).take r.limit

variable {s r} in
theorem mem_pending_of_mem_queued {feed : Feed} {c : Candidate} (h : c ∈ s.queued r feed) :
    c ∈ s.pending r.scope feed := List.mem_of_mem_take h

/-- What a run may come to in some feeds, in this order. -/
def queue (feeds : List Feed) : List Candidate := feeds.flatMap (s.queued r)

theorem queue_foldl_processed {feed : Feed} {feeds : List Feed} (h : feed ∉ feeds) {k : Nat} :
    (((s.queued r feed).take k).foldl processed s).queue r feeds = s.queue r feeds := by
  simp only [queue, List.flatMap_def]
  congr 1
  apply List.map_congr_left
  intro f hf
  have hne : ∀ c ∈ (s.queued r feed).take k, c.feed ≠ f := by
    intro c hc
    have hfeed : c.feed = feed :=
      feed_of_mem_pending (mem_pending_of_mem_queued (List.mem_of_mem_take hc))
    rw [hfeed]
    exact fun heq => h (heq ▸ hf)
  rw [queued, s.pending_foldl_processed_of_feed_ne hne]
  rfl

/-! ## Section 2: All feeds -/

/-- The account of a run that visits the first `k` candidates of a queue. -/
def accountOf (cs : List Candidate) (k : Nat) : Account :=
  ⟨(cs.take k).map s.visit, .ok (decide (k < cs.length))⟩

theorem exec_visitFeeds_memory (cancel : Nat → Bool) {feeds : List Feed} (h : feeds.Nodup)
    (n : Nat) :
    let cs := s.queue r feeds
    let k := attempts cancel n cs.length
    (visitFeeds r feeds).exec (scheduled cancel answer) (s, n) =
      (s.accountOf cs k, (cs.take k).foldl processed s, n + min (k + 1) cs.length) := by
  induction feeds generalizing s n with
  | nil => rfl
  | cons feed feeds ih =>
    obtain ⟨hnot, hrest⟩ := List.nodup_cons.mp h
    have hqueue : s.queue r (feed :: feeds) = s.queued r feed ++ s.queue r feeds := rfl
    have hscan : (scan r.scope feed r.limit).exec answer s = (.ok (s.queued r feed), s) :=
      s.exec_scan_memory r.scope feed r.limit
    have hle : attempts cancel n (s.queued r feed).length ≤ (s.queued r feed).length :=
      attempts_le cancel n _
    simp only [exec_visitFeeds_cons, exec_visitFeed, hscan, processAll_memory, hqueue,
      List.length_append, attempts_add]
    generalize hk : attempts cancel n (s.queued r feed).length = k at *
    by_cases hlt : k < (s.queued r feed).length
    · -- cancelled in this feed: the others are not looked at
      simp only [hlt, decide_true, if_true, accountOf, List.length_append]
      rw [List.take_append_of_le_length hle]
      have : k < (s.queued r feed).length + (s.queue r feeds).length := by omega
      simp only [this, decide_true]
      congr 2
      omega
    · -- all of this feed was visited, which leaves the queue of the others as it was
      have hk' : k = (s.queued r feed).length := by omega
      have ih' := ih ((s.queued r feed).foldl processed s) hrest
        (n + (s.queued r feed).length)
      have hsame := s.queue_foldl_processed r hnot (k := (s.queued r feed).length)
      rw [List.take_length] at hsame
      have hvisit : ((s.queued r feed).foldl processed s).visit = s.visit :=
        funext (s.sameSource_foldl_processed _).visit_eq
      simp only [hsame] at ih'
      subst hk'
      simp only [Nat.lt_irrefl, decide_false, if_false, List.take_length]
      rw [show min ((s.queued r feed).length + 1) (s.queued r feed).length =
        (s.queued r feed).length by omega, ih']
      simp only [accountOf, List.take_length_add_append, List.map_append, List.foldl_append,
        hvisit, List.length_append, Nat.add_lt_add_iff_left]
      congr 2
      omega

/-- The queue of a run. -/
abbrev runQueue : List Candidate := s.queue r r.selector.feeds

/-- A run over a store in memory visits its queue from the start, as far as it comes before it is
    cancelled, and what it leaves behind is what processing these candidates does. -/
theorem exec_account_memory (cancel : Nat → Bool) (n : Nat) :
    let cs := s.runQueue r
    let k := attempts cancel n cs.length
    (account r).exec (scheduled cancel answer) (s, n) =
      (s.accountOf cs k, (cs.take k).foldl processed s, n + min (k + 1) cs.length) := by
  rw [exec_account]
  exact s.exec_visitFeeds_memory r cancel r.selector.nodup_feeds n

theorem exec_run_memory (cancel : Nat → Bool) (n : Nat) :
    let cs := s.runQueue r
    let k := attempts cancel n cs.length
    (run r).exec (scheduled cancel answer) (s, n) =
      ((s.accountOf cs k).result, (cs.take k).foldl processed s, n + min (k + 1) cs.length) := by
  intro cs k
  rw [exec_run, s.exec_visitFeeds_memory r cancel r.selector.nodup_feeds n]

/-- A run that is not cancelled visits its whole queue. -/
theorem exec_run_uncancelled (n : Nat) :
    let cs := s.runQueue r
    (run r).exec (scheduled (fun _ => false) answer) (s, n) =
      ((⟨cs.map s.visit, .ok false⟩ : Account).result, cs.foldl processed s, n + cs.length) := by
  intro cs
  rw [exec_run_memory]
  simp [attempts_never, accountOf, cs]

/-! ## Section 3: A queue of one -/

/-- An invoice of the accounting system as it comes. -/
def firstBooking : BookedInvoice :=
  ⟨"inv-1", "org", some "loc", some "old", none, none, false,
    [⟨"l-1", 1, none, none, none, none, none, none⟩], none, ⟨0, 0⟩⟩

/-- A store with this invoice alone. -/
def bookedStore : MemoryStore := empty.addBooked firstBooking

def bookingRequest : Request := ⟨⟨"org", "loc"⟩, .all, 200, one_le_defaultLimit,
  defaultLimit_le_max⟩

/-- Its candidate, while it has not been written. -/
def bookedCandidate : Candidate := ⟨.xero, "inv-1", .new, ⟨0, 0⟩⟩

def bookedDraft : HeaderDraft := draft firstBooking.transcribe "loc" (.xero "inv-1")

/-- A single candidate is queued, whatever the limit. -/
theorem runQueue_eq_singleton {s : MemoryStore} {r : Request} {c : Candidate}
    (hall : r.selector = .all) (hocr : s.candidates r.scope .ocr = [])
    (hxero : s.candidates r.scope .xero = [c]) : s.runQueue r = [c] := by
  have hfeeds : r.selector.feeds = [.ocr, .xero] := by rw [hall]; rfl
  have hlimit : [c].take r.limit = [c] := List.take_of_length_le r.one_le_limit
  simp [runQueue, queue, queued, pending_eq, hocr, hxero, hfeeds, hlimit]

theorem runQueue_booked : bookedStore.runQueue bookingRequest = [bookedCandidate] :=
  runQueue_eq_singleton rfl rfl rfl

theorem plan_booked : plan (some (.xero firstBooking)) =
    .ok (.write bookedDraft firstBooking.transcribe.lines) :=
  plan_xero rfl (by simp [firstBooking]) (by decide)

theorem processed_booked :
    bookedStore.outcome bookedCandidate = .ok (.written firstBooking.transcribe.lines) ∧
      bookedStore.processed bookedCandidate =
        bookedStore.written bookedDraft firstBooking.transcribe.lines :=
  processed_eq_written plan_booked rfl

end MemoryStore

end Reconcile
