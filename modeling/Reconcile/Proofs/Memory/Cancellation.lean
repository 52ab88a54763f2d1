import Reconcile.Proofs.Memory.Settled
import Reconcile.Proofs.Run.Bookkeeping

/-! # Where a cancelled run stops

    The flag is looked at before every candidate and nowhere else.  So a run stops between two
    invoices: it has attempted the first candidates of what it scanned, completely, and none of
    the others.  A feed is scanned when the feeds before it have been gone through to their
    ends; what the scan finds was settled when the run began, because processing the candidates
    of one feed changes nothing that is pending in another.

    The induction over the feeds is `log_visitFeeds`, where a function says what each feed has
    in store, so that it holds wherever the run has got to.

    Main statement: `run_stops`. -/

namespace Reconcile

open Dialogue (Turn Answerer)

namespace Backfill

/-! ## Section 1: Looks and scans -/

/-- All looks before an attempt find the flag down, and a run that stops short of its candidates
    does so because the next look finds it up. -/
theorem looks_of_attempts (cancel : Nat → Bool) (n count : Nat) :
    (∀ i < attempts cancel n count, cancel (n + i) = false) ∧
      (attempts cancel n count < count → cancel (n + attempts cancel n count) = true) := by
  induction count generalizing n with
  | zero => simp [attempts]
  | succ k ih =>
    obtain ⟨hdown, hup⟩ := ih (n + 1)
    cases hc : cancel n with
    | true => simp [attempts, hc]
    | false =>
      have hstep : attempts cancel n (k + 1) = attempts cancel (n + 1) k + 1 := by
        simp [attempts, hc]
      have hshift : ∀ i, n + (i + 1) = n + 1 + i := fun i => by omega
      rw [hstep]
      constructor
      · intro i hi
        cases i with
        | zero => exact hc
        | succ i =>
          rw [hshift]
          exact hdown i (by omega)
      · intro hlt
        rw [hshift]
        exact hup (by omega)

/-- The feed that was scanned and what was found there, unless the scan failed. -/
def scanned? : Turn Question.Answer → Option (Feed × List Candidate)
  | ⟨.store (.scan _ feed _), Except.ok rows⟩ => some (feed, rows)
  | _ => none

section Scans

variable {σ : Type} (answer : Answerer Question.Answer σ)

theorem scans_process (c : Candidate) (s : σ) :
    ((overStore (process c)).transcript answer s).filterMap scanned? = [] := by
  rw [transcript_overStore, transcript_process]
  rcases storeOf answer (.load c.feed c.id) s with ⟨e | i, t⟩
  · rfl
  · rcases hplan : plan i with e | (⟨d, lines⟩ | why) <;> simp only [hplan] <;> rfl

/-- Visiting candidates scans nothing. -/
theorem scans_visitAll (cs : List Candidate) (s : σ) :
    ((visitAll cs).transcript answer s).filterMap scanned? = [] := by
  induction cs generalizing s with
  | nil => rfl
  | cons c cs ih =>
    have hlook : isCancelled.exec answer s = answer .isCancelled s := rfl
    have hsaid : isCancelled.transcript answer s =
        [⟨.isCancelled, (answer .isCancelled s).1⟩] := rfl
    simp only [visitAll, Dialogue.bind_eq, Dialogue.transcript_bind, hlook, hsaid]
    rcases answer .isCancelled s with ⟨cancelled, t⟩
    cases cancelled with
    | true => rfl
    | false =>
      have hrest := ih ((overStore (process c)).exec answer t).2
      simp only [Bool.false_eq_true, if_false, Dialogue.transcript_bind, Dialogue.pure_eq,
        Dialogue.transcript_done, List.append_nil, List.filterMap_append,
        scans_process answer c t, hrest]
      rfl

end Scans

end Backfill

open Backfill

/-- The invoice of a candidate, as it is asked for. -/
def Candidate.key (c : Candidate) : Feed × String := (c.feed, c.id)

namespace MemoryStore

/-! ## Section 2: The log of a run -/

section Log

variable (cancel : Nat → Bool) (r : Request)

/-- In a feed a run over a store in memory says what it scanned, and then which invoices it asked
    for: those it attempted. -/
theorem log_visitFeed (s : MemoryStore) (feed : Feed) (n : Nat) :
    let log := (visitFeed r feed).transcript (scheduled cancel answer) (s, n)
    let k := attempts cancel n (s.queued r feed).length
    log.filterMap scanned? = [(feed, s.queued r feed)] ∧
      log.filterMap loaded? = ((s.queued r feed).take k).map Candidate.key := by
  intro log k
  have hscan : (scan r.scope feed r.limit).exec answer s = (.ok (s.queued r feed), s) :=
    s.exec_scan_memory r.scope feed r.limit
  have hrows : storeOf (scheduled cancel answer) (.scan r.scope feed r.limit) (s, n) =
      (.ok (s.queued r feed), s, n) := rfl
  have hvisits := exec_visitAll cancel answer (s.queued r feed) s n
  have htells := (tells_visitAll (scheduled cancel answer) (s.queued r feed) (s, n)).1
  have hkeys : ((visitAll (s.queued r feed)).transcript (scheduled cancel answer) (s, n)).filterMap
      loaded? = ((s.queued r feed).take k).map Candidate.key := by
    rw [htells.loads, hvisits, processAll_memory, List.map_map]
    rfl
  have hscans := scans_visitAll (scheduled cancel answer) (s.queued r feed) (s, n)
  simp only [log, visitFeed, Dialogue.bind_eq, Dialogue.transcript_bind, exec_overStore,
    transcript_overStore, transcript_scan, hscan, hrows, exec_report, transcript_report,
    List.filterMap_append, hscans, hkeys]
  exact ⟨rfl, List.append_nil _⟩

/-- In some feeds a run says so of each of them that it scans: all of them, or those up to the
    one in which it is cancelled. -/
theorem log_visitFeeds {feeds : List Feed} (hnodup : feeds.Nodup) (found : Feed → List Candidate)
    (s : MemoryStore) (hfound : ∀ feed ∈ feeds, s.queued r feed = found feed) (n : Nat) :
    let log := (visitFeeds r feeds).transcript (scheduled cancel answer) (s, n)
    let k := attempts cancel n (feeds.flatMap found).length
    log.filterMap loaded? = ((feeds.flatMap found).take k).map Candidate.key ∧
      ∃ fs, fs <+: feeds ∧ log.filterMap scanned? = fs.map (fun feed => (feed, found feed)) ∧
        (k < (fs.flatMap found).length ∨ fs = feeds) ∧
        ∀ gs feed, fs = gs ++ [feed] → (gs.flatMap found).length ≤ k := by
  induction feeds generalizing s n with
  | nil => exact ⟨rfl, [], List.prefix_rfl, rfl, .inr rfl, by simp⟩
  | cons feed feeds ih =>
    obtain ⟨hnot, hrest⟩ := List.nodup_cons.mp hnodup
    have hhere : s.queued r feed = found feed := hfound feed (List.mem_cons_self ..)
    have hscan : (scan r.scope feed r.limit).exec answer s = (.ok (found feed), s) := by
      rw [← hhere]
      exact s.exec_scan_memory r.scope feed r.limit
    obtain ⟨hscans, hloads⟩ := log_visitFeed cancel r s feed n
    have hle : attempts cancel n (found feed).length ≤ (found feed).length :=
      attempts_le cancel n _
    simp only [visitFeeds, Dialogue.bind_eq, Dialogue.transcript_bind, List.filterMap_append,
      hscans, hloads, exec_visitFeed, hscan, processAll_memory, hhere, List.flatMap_cons,
      List.length_append, attempts_add]
    generalize attempts cancel n (found feed).length = k at *
    by_cases hlt : k < (found feed).length
    · -- cancelled in this feed, which is the last one that is scanned
      simp only [hlt, decide_true, if_true, Dialogue.pure_eq, Dialogue.transcript_done,
        List.filterMap_nil, List.append_nil]
      refine ⟨by rw [List.take_append_of_le_length hle], [feed], ?_, rfl, ?_, ?_⟩
      · exact (List.prefix_cons_inj feed).mpr List.nil_prefix
      · exact .inl (by simpa using hlt)
      · intro gs f hgs
        obtain rfl : gs = [] := by
          have := congrArg List.length hgs
          simpa using this
        exact Nat.zero_le k
    · -- gone through, which leaves what is in store in the others as it was
      obtain rfl : k = (found feed).length := by omega
      have hlater : ∀ f ∈ feeds, ((found feed).foldl processed s).queued r f = found f := by
        intro f hf
        have hne : feed ∉ [f] := by
          rintro hmem
          exact hnot (List.mem_singleton.mp hmem ▸ hf)
        have hsame := s.queue_foldl_processed r hne (k := (s.queued r feed).length)
        rw [List.take_length, hhere] at hsame
        rw [← hfound f (List.mem_cons_of_mem feed hf)]
        simpa [queue] using hsame
      obtain ⟨hloads', fs, hbegins, hscans', hend, hthrough⟩ :=
        ih hrest _ hlater (n + (found feed).length)
      have hmin : min ((found feed).length + 1) (found feed).length = (found feed).length := by
        omega
      simp only [Nat.lt_irrefl, decide_false, if_false, List.take_length, hmin,
        Dialogue.transcript_bind, Dialogue.pure_eq, Dialogue.transcript_done, List.append_nil,
        hloads', hscans', List.take_length_add_append, List.map_append]
      refine ⟨trivial, feed :: fs, (List.prefix_cons_inj feed).mpr hbegins, rfl, ?_, ?_⟩
      · rcases hend with hlt' | rfl
        · exact .inl (by simpa using hlt')
        · exact .inr rfl
      · intro gs f hgs
        cases gs with
        | nil => exact Nat.zero_le _
        | cons g gs =>
          obtain ⟨rfl, hfs⟩ := List.cons.inj hgs
          have := hthrough gs f hfs
          simpa using this

end Log

/-! ## Section 3: Where a run stops -/

section Stops

variable (s : MemoryStore) (r : Request) (cancel : Nat → Bool)

/-- What is said in a run over a store in memory. -/
def runLog : List (Turn Question.Answer) := (run r).transcript (scheduled cancel answer) (s, 0)

/-- How a run over a store in memory ends: its result, the store, and the number of looks at the
    flag. -/
def runEnd : Except RunError Summary × MemoryStore × Nat :=
  (run r).exec (scheduled cancel answer) (s, 0)

/-- A run scanned some feeds and attempted the first `k` of the candidates it found there; it was
    cancelled, or was not. -/
structure Stops (fs : List Feed) (k : Nat) (cancelled : Bool) : Prop where
  /-- The feeds are scanned in order, each with what was pending there when the run began. -/
  feeds : fs <+: r.selector.feeds
  scans : (s.runLog r cancel).filterMap scanned? =
    fs.map fun feed => (feed, (s.pending r.scope feed).take r.limit)
  /-- A feed is scanned only if all that was found in the feeds before it was attempted. -/
  through : ∀ gs feed, fs = gs ++ [feed] → (s.queue r gs).length ≤ k
  /-- Nothing but a cancellation keeps the run from scanning the next feed. -/
  onward : cancelled = false → fs = r.selector.feeds
  /-- What is attempted are the first candidates, each of them once. -/
  attempts : (s.runLog r cancel).filterMap loaded? =
    ((s.queue r fs).take k).map Candidate.key
  attempts_le : k ≤ (s.queue r fs).length
  /-- Before every attempt the flag was looked at and down, and the run stopped when it was up. -/
  down : ∀ i < k, cancel i = false
  up : cancelled = true → cancel k = true
  looks : (s.runEnd r cancel).2.2 = if cancelled then k + 1 else k
  /-- The run is called cancelled if a candidate was found and not attempted. -/
  cancelled_iff : cancelled = true ↔
    ∃ c ∈ s.queue r fs, c.key ∉ (s.runLog r cancel).filterMap loaded?
  /-- The store is the one that processing these candidates leaves. -/
  store : (s.runEnd r cancel).2.1 = (processAll answer ((s.queue r fs).take k) s).2
  /-- An invoice is as it was, or one that was attempted and is replaced as a whole. -/
  entry : ∀ link, (s.runEnd r cancel).2.1.canonical.get? link = s.canonical.get? link ∨
    link ∈ ((s.queue r fs).take k).map Candidate.link ∧ ∃ d lines,
      plan (s.load link.feed link.id) = .ok (.write d lines) ∧
        (s.runEnd r cancel).2.1.canonical.get? link =
          some (Entry.replaced (s.canonical.get? link) d lines)
  /-- The result counts these candidates and no others. -/
  result :
    let visits := (processAll answer ((s.queue r fs).take k) s).1
    let summary := (Visits.tally visits).summary cancelled
    (s.runEnd r cancel).1 =
      if Visits.failures visits = [] then .ok summary
      else .error (.batchFailed (Visits.failures visits) summary)

/-- Of the candidates that can be queued no two are of the same invoice. -/
theorem nodup_key_queue {fs : List Feed} (h : fs.Nodup) :
    ((s.queue r fs).map Candidate.key).Nodup := by
  induction fs with
  | nil => exact List.nodup_nil
  | cons feed fs ih =>
    obtain ⟨hnot, hrest⟩ := List.nodup_cons.mp h
    have hfeed : ∀ f, ∀ c ∈ s.queued r f, c.feed = f :=
      fun f c hc => feed_of_mem_pending (mem_pending_of_mem_queued hc)
    have hhere : ((s.queued r feed).map Candidate.key).Nodup := by
      have hids : ((s.queued r feed).map (·.id)).Nodup :=
        (s.nodup_id_pending r.scope feed).sublist ((List.take_sublist r.limit _).map _)
      exact List.pairwise_map.mpr
        ((List.pairwise_map.mp hids).imp fun hne hkey => hne (congrArg Prod.snd hkey))
    have hqueue : s.queue r (feed :: fs) = s.queued r feed ++ s.queue r fs := rfl
    rw [hqueue, List.map_append, List.nodup_append]
    refine ⟨hhere, ih hrest, ?_⟩
    -- an invoice of this feed is none of another
    rintro _ hk _ hk' rfl
    obtain ⟨c, hc, rfl⟩ := List.mem_map.mp hk
    obtain ⟨d, hd, hkey⟩ := List.mem_map.mp hk'
    obtain ⟨f, hf, hd'⟩ := List.mem_flatMap.mp hd
    have heq : d.feed = c.feed := (Prod.mk.inj hkey).1
    rw [hfeed f d hd', hfeed feed c hc] at heq
    exact hnot (heq ▸ hf)

/-- A candidate of a list without repetitions is not among the first `k` if and only if there are
    more than `k`. -/
theorem exists_not_mem_take_iff {cs : List Candidate} (h : (cs.map Candidate.key).Nodup)
    (k : Nat) : (∃ c ∈ cs, c.key ∉ (cs.take k).map Candidate.key) ↔ k < cs.length := by
  constructor
  · rintro ⟨c, hc, hnot⟩
    by_contra hle
    rw [List.take_of_length_le (by omega)] at hnot
    exact hnot (List.mem_map_of_mem hc)
  · intro hlt
    refine ⟨cs[k], List.getElem_mem hlt, fun hmem => ?_⟩
    have hsplit : (cs.take k).map Candidate.key ++ (cs.drop k).map Candidate.key =
        cs.map Candidate.key := by
      rw [← List.map_append, List.take_append_drop]
    rw [← hsplit, List.nodup_append] at h
    have hdrop : cs[k].key ∈ (cs.drop k).map Candidate.key := by
      rw [List.drop_eq_getElem_cons hlt]
      exact List.mem_cons_self ..
    exact h.2.2 _ hmem _ hdrop rfl

/-- The feeds that were not scanned come last in a queue, and none of their candidates counts. -/
theorem queue_of_prefix {fs feeds : List Feed} {k : Nat} (hbegins : fs <+: feeds)
    (hend : k < (s.queue r fs).length ∨ fs = feeds) (hle : k ≤ (s.queue r feeds).length) :
    k ≤ (s.queue r fs).length ∧ (s.queue r feeds).take k = (s.queue r fs).take k ∧
      (k < (s.queue r feeds).length ↔ k < (s.queue r fs).length) := by
  obtain ⟨rest, rfl⟩ := hbegins
  have hsplit : s.queue r (fs ++ rest) = s.queue r fs ++ s.queue r rest := List.flatMap_append
  rcases hend with hlt | hall
  · refine ⟨Nat.le_of_lt hlt, ?_, ?_⟩
    · rw [hsplit, List.take_append_of_le_length (Nat.le_of_lt hlt)]
    · rw [hsplit, List.length_append]
      omega
  · rw [← hall] at hle ⊢
    exact ⟨hle, rfl, Iff.rfl⟩

/-- Apart from what is said in its feeds, a run only reports. -/
theorem filterMap_runLog {α : Type} {f : Turn Question.Answer → Option α}
    (hf : ∀ c, f ⟨.report c, ()⟩ = none) :
    (s.runLog r cancel).filterMap f =
      ((visitFeeds r r.selector.feeds).transcript (scheduled cancel answer) (s, 0)).filterMap
        f := by
  obtain ⟨-, hlog⟩ := run_said (scheduled cancel answer) r (s := (s, 0))
    (congrArg Prod.fst (s.exec_visitFeeds_memory r cancel r.selector.nodup_feeds 0))
  rw [runLog, hlog, List.filterMap_append, List.filterMap_append]
  simp only [List.filterMap_cons, List.filterMap_nil, hf, List.nil_append, List.append_nil]
  rfl

/-- The log of a run over a store in memory: the feeds it scanned with what it found, and the
    invoices it asked for. -/
theorem log_run :
    let k := attempts cancel 0 (s.runQueue r).length
    (s.runLog r cancel).filterMap loaded? = ((s.runQueue r).take k).map Candidate.key ∧
      ∃ fs, fs <+: r.selector.feeds ∧
        (s.runLog r cancel).filterMap scanned? = fs.map (fun feed => (feed, s.queued r feed)) ∧
        (k < (s.queue r fs).length ∨ fs = r.selector.feeds) ∧
        ∀ gs feed, fs = gs ++ [feed] → (s.queue r gs).length ≤ k := by
  rw [s.filterMap_runLog r cancel fun _ => rfl, s.filterMap_runLog r cancel fun _ => rfl]
  exact log_visitFeeds cancel r r.selector.nodup_feeds (s.queued r) s (fun _ _ => rfl) 0

/-- Whatever the flag shows, look by look, a run over a store in memory stops between two
    invoices: after the first candidates it found, in order, and with the store, the counts and
    the failures that belong to these. -/
theorem run_stops : ∃ fs k cancelled, s.Stops r cancel fs k cancelled := by
  obtain ⟨hloads, fs, hbegins, hscans, hend, hthrough⟩ := s.log_run r cancel
  obtain ⟨hdown, hup⟩ := looks_of_attempts cancel 0 (s.runQueue r).length
  have hended := s.exec_run_memory r cancel 0
  have hall := attempts_le cancel 0 (s.runQueue r).length
  simp only [Nat.zero_add] at hdown hup hended
  generalize attempts cancel 0 (s.runQueue r).length = k at *
  obtain ⟨hle, htake, hcut⟩ : k ≤ (s.queue r fs).length ∧
      (s.runQueue r).take k = (s.queue r fs).take k ∧
      (k < (s.runQueue r).length ↔ k < (s.queue r fs).length) :=
    s.queue_of_prefix r hbegins hend hall
  have hattempts : (s.runLog r cancel).filterMap loaded? =
      ((s.queue r fs).take k).map Candidate.key := by
    rw [hloads, htake]
  have hstore : (s.runEnd r cancel).2.1 = ((s.queue r fs).take k).foldl processed s := by
    rw [runEnd, hended, htake]
  refine ⟨fs, k, decide (k < (s.queue r fs).length), ?_⟩
  exact
    { feeds := hbegins
      scans := hscans
      through := hthrough
      onward := fun hcancelled => hend.resolve_left (of_decide_eq_false hcancelled)
      attempts := hattempts
      attempts_le := hle
      down := hdown
      up := fun hcancelled => hup (hcut.mpr (of_decide_eq_true hcancelled))
      looks := by
        rw [runEnd, hended]
        by_cases hlt : k < (s.queue r fs).length
        · have := hcut.mpr hlt
          simp only [hlt, decide_true, if_true]
          omega
        · have := mt hcut.mp hlt
          simp only [hlt, decide_false, Bool.false_eq_true, if_false]
          omega
      cancelled_iff := by
        have hnodup : fs.Nodup := r.selector.nodup_feeds.sublist hbegins.sublist
        rw [hattempts, exists_not_mem_take_iff (s.nodup_key_queue r hnodup), decide_eq_true_iff]
      store := by rw [hstore, processAll_memory]
      entry := by
        intro link
        rw [hstore, get?_foldl_processed]
        split
        · next hmem => exact (s.settled_cases link).imp_right fun h => ⟨hmem, h⟩
        · exact .inl rfl
      result := by
        rw [runEnd, hended, processAll_memory]
        simp only [accountOf, hcut, htake]
        rfl }

end Stops

end MemoryStore

end Reconcile
