import Mathlib.Algebra.GroupWithZero.Nat
import Reconcile.Proofs.Dialogue.Transcript
import Reconcile.Proofs.Memory.Queue

/-! # The book-keeping of a run

    A run keeps its numbers in three places: a tally, the differences of it that are reported for
    each feed, and a list of failures.  They are compared here with what was said: an invoice is
    loaded once for every candidate that is visited, and what is replaced is what was written.
    Whoever answers may answer anything, as long as no scan fails, and may cancel anywhere.

    The log of a run falls into sweeps, one for each feed that was scanned.  What one sweep says
    is `exists_sweep`; the induction over the feeds is `exists_sweeps`.

    Main statement: `run_bookkeeping`. -/

namespace Reconcile

open Dialogue (Turn Answerer)

/-- Each candidate has one need. -/
theorem NeedCount.sum_of (cs : List Candidate) :
    (NeedCount.of cs).new + (NeedCount.of cs).repair + (NeedCount.of cs).rebuild = cs.length := by
  induction cs with
  | nil => rfl
  | cons c cs ih =>
    simp only [NeedCount.of, List.countP_cons, List.length_cons] at ih ⊢
    cases hc : c.need <;> simp <;> omega

namespace Backfill

namespace Visits

/-- A visit ends in one of three ways. -/
theorem countP_add_countP_add_length (vs : List Visit) :
    vs.countP Visit.isWritten + vs.countP Visit.isSkipped + (failures vs).length = vs.length := by
  induction vs with
  | nil => rfl
  | cons v vs ih =>
    obtain ⟨c, outcome⟩ := v
    rw [failures] at ih ⊢
    rw [List.countP_cons, List.countP_cons, List.filterMap_cons, List.length_cons]
    rcases outcome with e | (lines | why) <;> simp [Visit.isWritten] at ih ⊢ <;> omega

/-- A line has one grade. -/
theorem okLines_add_warnLines (vs : List Visit) :
    (tally vs).okLines + (tally vs).warnLines = (tally vs).lines := by
  show (lines vs).countP _ + (lines vs).countP _ = (lines vs).length
  induction lines vs with
  | nil => rfl
  | cons l ls ih =>
    rw [List.countP_cons, List.countP_cons, List.length_cons]
    cases hl : l.grade <;> simp <;> omega

end Visits

/-! ## Section 1: What is said -/

/-- The checkpoint that is reported. -/
def checkpoint? : Turn Question.Answer → Option Checkpoint
  | ⟨.report c, _⟩ => some c
  | _ => none

/-- The invoice that is to be loaded. -/
def loaded? : Turn Question.Answer → Option (Feed × String)
  | ⟨.store (.load feed id), _⟩ => some (feed, id)
  | _ => none

/-- The lines that were written, if they were. -/
def replaced? : Turn Question.Answer → Option (List Line)
  | ⟨.store (.replace _ lines), Except.ok _⟩ => some lines
  | _ => none

/-- The run was looked at and found to be cancelled. -/
def isRaised : Turn Question.Answer → Bool
  | ⟨.isCancelled, true⟩ => true
  | _ => false

/-- A scan was asked for and failed. -/
def ScanFailed : Turn Question.Answer → Prop
  | ⟨.store (.scan ..), Except.error _⟩ => True
  | _ => False

section Said

variable {σ : Type} (answer : Answerer Question.Answer σ)

/-- The store that someone who answers a run stands for. -/
def storeOf : Answerer Store.Call.Answer σ := fun c s => answer (.store c) s

/-- What is said to the store, as part of what is said in a run. -/
def toRun (t : Turn Store.Call.Answer) : Turn Question.Answer := ⟨.store t.question, t.answer⟩

theorem exec_report_eq (c : Checkpoint) (s : σ) :
    (report c).exec answer s = answer (.report c) s := rfl

theorem transcript_report (c : Checkpoint) (s : σ) :
    (report c).transcript answer s = [⟨.report c, ()⟩] := rfl

theorem transcript_call (store : Answerer Store.Call.Answer σ) (c : Store.Call) (s : σ) :
    (call c).transcript store s = [⟨c, (store c s).1⟩] := rfl

theorem exec_overStore_eq {α : Type} (d : StoreTalk α) (s : σ) :
    (overStore d).exec answer s = d.exec (storeOf answer) s := by
  induction d generalizing s with
  | done a => rfl
  | ask c next ih => exact ih _ _

theorem transcript_overStore {α : Type} (d : StoreTalk α) (s : σ) :
    (overStore d).transcript answer s = (d.transcript (storeOf answer) s).map toRun := by
  induction d generalizing s with
  | done a => rfl
  | ask c next ih => exact congrArg (_ :: ·) (ih _ _)

/-- What is said to a store is no look at the cancel flag. -/
theorem any_isRaised_overStore {α : Type} (d : StoreTalk α) (s : σ) :
    ((overStore d).transcript answer s).any isRaised = false := by
  rw [transcript_overStore, List.any_map, List.any_eq_false]
  intro t _
  exact Bool.false_ne_true

theorem transcript_scan (store : Answerer Store.Call.Answer σ) (scope : Scope) (feed : Feed)
    (limit : Nat) (s : σ) :
    (scan scope feed limit).transcript store s =
      [⟨.scan scope feed limit, (store (.scan scope feed limit) s).1⟩] := by
  rw [scan, Dialogue.bind_eq, Dialogue.transcript_bind, transcript_call, exec_call]
  rcases (store (.scan scope feed limit) s).1 with e | rows <;> rfl

/-- To process a candidate is to load its invoice, and to replace it if it is worth writing. -/
theorem transcript_process (store : Answerer Store.Call.Answer σ) (c : Candidate) (s : σ) :
    let found := store (.load c.feed c.id) s
    (process c).transcript store s = ⟨.load c.feed c.id, found.1⟩ ::
      match found.1 with
      | .error _ => []
      | .ok i =>
        match plan i with
        | .ok (.write d lines) => [⟨.replace d lines, (store (.replace d lines) found.2).1⟩]
        | _ => [] := by
  intro found
  have hload : store (.load c.feed c.id) s = found := rfl
  rw [process, Dialogue.bind_eq, Dialogue.transcript_bind, transcript_call, exec_call, hload,
    List.singleton_append]
  congr 1
  rcases found with ⟨e | i, t⟩
  · rfl
  · simp only
    -- what the plan makes of the invoice decides whether anything more is said
    rcases plan i with e | (⟨d, lines⟩ | why)
    · rfl
    · simp only [Dialogue.bind_eq, Dialogue.transcript_bind, transcript_call, exec_call]
      rcases (store (.replace d lines) t).1 with e | h <;> rfl
    · rfl

end Said

/-- The invoice of a candidate, as it is asked for. -/
def Visit.key (v : Visit) : Feed × String := (v.candidate.feed, v.candidate.id)

/-- This was said while these candidates were visited: an invoice was loaded for each of them,
    what was replaced is what was written, and nothing was reported.  Also tells whether the run
    was found to be cancelled. -/
structure Tells (cancelled : Bool) (visits : List Visit) (said : List (Turn Question.Answer)) :
    Prop where
  checkpoints : said.filterMap checkpoint? = []
  loads : said.filterMap loaded? = visits.map Visit.key
  writes : said.filterMap replaced? = visits.filterMap Visit.written?
  looks : said.any isRaised = cancelled

/-- What was not cancelled can be gone on with. -/
theorem Tells.append {cancelled : Bool} {vs ws : List Visit}
    {said said' : List (Turn Question.Answer)} (h : Tells false vs said)
    (h' : Tells cancelled ws said') : Tells cancelled (vs ++ ws) (said ++ said') where
  checkpoints := by rw [List.filterMap_append, h.checkpoints, h'.checkpoints, List.nil_append]
  loads := by rw [List.filterMap_append, h.loads, h'.loads, List.map_append]
  writes := by rw [List.filterMap_append, h.writes, h'.writes, List.filterMap_append]
  looks := by rw [List.any_append, h.looks, h'.looks, Bool.false_or]

theorem tells_look (cancelled : Bool) : Tells cancelled [] [⟨.isCancelled, cancelled⟩] := by
  cases cancelled <;> exact ⟨rfl, rfl, rfl, rfl⟩

section Visits

variable {σ : Type} (answer : Answerer Question.Answer σ)

theorem tells_process (c : Candidate) (s : σ) :
    Tells false [⟨c, ((overStore (process c)).exec answer s).1⟩]
      ((overStore (process c)).transcript answer s) := by
  have hlooks := any_isRaised_overStore answer (process c) s
  rw [transcript_overStore, transcript_process] at hlooks ⊢
  rw [exec_overStore_eq, exec_process]
  rcases hfound : storeOf answer (.load c.feed c.id) s with ⟨e | i, t⟩
  · rw [hfound] at hlooks
    exact ⟨rfl, rfl, rfl, hlooks⟩
  · rw [hfound] at hlooks
    rcases hplan : plan i with e | (⟨d, lines⟩ | why)
    · simp only [finish, hplan] at hlooks ⊢
      exact ⟨rfl, rfl, rfl, hlooks⟩
    · rcases hreplace : storeOf answer (.replace d lines) t with ⟨e | h, u⟩ <;>
        (simp only [finish, hplan, hreplace] at hlooks ⊢; exact ⟨rfl, rfl, rfl, hlooks⟩)
    · simp only [finish, hplan] at hlooks ⊢
      exact ⟨rfl, rfl, rfl, hlooks⟩

/-- Candidates are visited from the first one on, all of them unless the run is cancelled. -/
theorem tells_visitAll (cs : List Candidate) (s : σ) :
    let a := ((visitAll cs).exec answer s).1
    Tells a.1 a.2 ((visitAll cs).transcript answer s) ∧ a.2.map (·.candidate) <+: cs ∧
      (a.1 = false → a.2.map (·.candidate) = cs) ∧
      ∀ v ∈ a.2, ∃ u, v.outcome = ((overStore (process v.candidate)).exec answer u).1 := by
  induction cs generalizing s with
  | nil => exact ⟨⟨rfl, rfl, rfl, rfl⟩, List.prefix_rfl, fun _ => rfl, by simp [visitAll]⟩
  | cons c cs ih =>
    have hlook : isCancelled.exec answer s = answer .isCancelled s := rfl
    have hsaid : isCancelled.transcript answer s =
        [⟨.isCancelled, (answer .isCancelled s).1⟩] := rfl
    simp only [visitAll, Dialogue.bind_eq, Dialogue.transcript_bind, Dialogue.exec_bind, hlook,
      hsaid]
    rcases answer .isCancelled s with ⟨cancelled, t⟩
    cases cancelled with
    | true => exact ⟨tells_look true, List.nil_prefix, by simp, by simp⟩
    | false =>
      -- the rest is visited in the state in which processing the first one leaves us
      obtain ⟨htells, hprefix, hall, houtcome⟩ := ih ((overStore (process c)).exec answer t).2
      simp only [Bool.false_eq_true, if_false, Dialogue.transcript_bind, Dialogue.exec_bind,
        Dialogue.pure_eq, Dialogue.transcript_done, Dialogue.exec_done, List.append_nil]
      refine ⟨?_, ?_, ?_, ?_⟩
      · have hone := tells_process answer c t
        exact (tells_look false).append (hone.append htells)
      · exact (List.prefix_cons_inj c).mpr hprefix
      · intro h
        rw [List.map_cons, hall h]
      · intro v hv
        rcases List.mem_cons.mp hv with rfl | hv
        · exact ⟨t, rfl⟩
        · exact houtcome v hv

end Visits

/-! ## Section 2: Sweeps -/

/-- The part of a run that is about one feed: the candidates that were found, the visits of those
    that were come to, and what was said. -/
structure Sweep where
  feed : Feed
  candidates : List Candidate
  visits : List Visit
  said : List (Turn Question.Answer)

namespace Sweep

def invoices (w : Sweep) : Nat := w.visits.countP Visit.isWritten

def skipped (w : Sweep) : Nat := w.visits.countP Visit.isSkipped

def failed (w : Sweep) : Nat := (Visits.failures w.visits).length

/-- What is reported of the sweep, before it and after it. -/
def checkpoints (w : Sweep) : List Checkpoint :=
  [.feedScanned w.feed (.of w.candidates), .feedCompleted w.feed w.invoices w.skipped w.failed]

/-- All candidates that were found were come to. -/
def Whole (w : Sweep) : Prop := w.visits.map (·.candidate) = w.candidates

/-- The sweep begins with a scan of its feed and goes through what the scan gave, from the first
    candidate on.  Each of them is processed once, and what became of it is what the sweep
    counts. -/
structure Sound {σ : Type} (answer : Answerer Question.Answer σ) (r : Request) (w : Sweep) :
    Prop where
  scanned : ∃ rows rest,
    w.said = ⟨.store (.scan r.scope w.feed r.limit), Except.ok rows⟩ :: rest ∧
      w.candidates = Candidate.select w.feed r.limit rows
  visited : w.visits.map (·.candidate) <+: w.candidates
  outcomes : ∀ v ∈ w.visits, ∃ u, v.outcome = ((overStore (process v.candidate)).exec answer u).1
  checkpoints : w.said.filterMap checkpoint? = w.checkpoints
  loads : w.said.filterMap loaded? = w.visits.map Visit.key
  writes : w.said.filterMap replaced? = w.visits.filterMap Visit.written?

end Sweep

section Sweeps

variable {σ : Type} (answer : Answerer Question.Answer σ) (r : Request)

/-- What a run does in one feed is a sweep, unless the scan fails. -/
theorem exists_sweep (feed : Feed) (s : σ) :
    let a := ((visitFeed r feed).exec answer s).1
    let said := (visitFeed r feed).transcript answer s
    (∃ t ∈ said, ScanFailed t) ∨
      ∃ (w : Sweep) (cancelled : Bool), a = ⟨w.visits, .ok cancelled⟩ ∧ w.feed = feed ∧
        w.said = said ∧ w.said.any isRaised = cancelled ∧ w.Sound answer r ∧
        (cancelled = false → w.Whole) := by
  simp only [visitFeed, Dialogue.bind_eq, Dialogue.transcript_bind, Dialogue.exec_bind,
    exec_overStore_eq, transcript_overStore, exec_scan, transcript_scan]
  rcases hscan : storeOf answer (.scan r.scope feed r.limit) s with ⟨e | rows, t⟩
  · -- the scan is the first thing that is said
    exact .inl ⟨_, List.mem_append_left _ (List.mem_singleton_self _), trivial⟩
  · right
    let cs := Candidate.select feed r.limit rows
    let u := (answer (.report (.feedScanned feed (.of cs))) t).2
    obtain ⟨htells, hprefix, hall, houtcomes⟩ := tells_visitAll answer cs u
    simp only [Dialogue.transcript_bind, Dialogue.exec_bind, exec_report_eq, transcript_report]
    let a := ((visitAll cs).exec answer u).1
    let w : Sweep :=
      { feed := feed
        candidates := cs
        visits := a.2
        said := [⟨.store (.scan r.scope feed r.limit), Except.ok rows⟩] ++
          ([⟨.report (.feedScanned feed (.of cs)), ()⟩] ++ ((visitAll cs).transcript answer u ++
            [⟨.report (.feedCompleted feed (Visits.tally a.2).invoices (Visits.tally a.2).skipped
              (Visits.failures a.2).length), ()⟩])) }
    refine ⟨w, a.1, rfl, rfl, rfl, ?_, ?_, hall⟩
    · -- neither the scan nor a report is a look
      simp only [w, List.any_append, htells.looks]
      exact Bool.or_false _
    exact
      { scanned := ⟨rows, _, rfl, rfl⟩
        visited := hprefix
        outcomes := houtcomes
        checkpoints := by
          simp only [w, List.filterMap_append, htells.checkpoints]
          rfl
        loads := by
          simp only [w, List.filterMap_append, htells.loads]
          exact List.append_nil _
        writes := by
          simp only [w, List.filterMap_append, htells.writes]
          exact List.append_nil _ }

/-- What a run does in some feeds is a sweep for each of them, up to the one in which it is
    cancelled, unless a scan fails. -/
theorem exists_sweeps (feeds : List Feed) (s : σ) :
    let a := ((visitFeeds r feeds).exec answer s).1
    let said := (visitFeeds r feeds).transcript answer s
    (∃ t ∈ said, ScanFailed t) ∨
      ∃ (ws : List Sweep) (cancelled : Bool), a = ⟨ws.flatMap (·.visits), .ok cancelled⟩ ∧
        ws.flatMap (·.said) = said ∧ said.any isRaised = cancelled ∧
        (∀ w ∈ ws, w.Sound answer r) ∧
        ws.map (·.feed) <+: feeds ∧
        (cancelled = false → ws.map (·.feed) = feeds ∧ ∀ w ∈ ws, w.Whole) := by
  induction feeds generalizing s with
  | nil => exact .inr ⟨[], false, rfl, rfl, rfl, by simp, List.prefix_rfl, by simp⟩
  | cons feed feeds ih =>
    simp only [visitFeeds, Dialogue.bind_eq, Dialogue.transcript_bind, Dialogue.exec_bind]
    rcases exists_sweep answer r feed s with ⟨t, ht, hfailed⟩ |
      ⟨w, cancelled, ha, hfeed, hsaid, hlooks, hsound, hwhole⟩
    · exact .inl ⟨t, List.mem_append_left _ ht, hfailed⟩
    rw [ha, ← hsaid]
    cases cancelled with
    | true =>
      -- a sweep that was cut short is the last one
      right
      refine ⟨[w], true, ?_, ?_, ?_, ?_, ?_, by simp⟩
      · simp
      · simp
      · simpa using hlooks
      · simpa using hsound
      · rw [List.map_singleton, hfeed]
        exact (List.prefix_cons_inj feed).mpr List.nil_prefix
    | false =>
      simp only [Dialogue.transcript_bind, Dialogue.exec_bind, Dialogue.pure_eq,
        Dialogue.transcript_done, Dialogue.exec_done, List.append_nil]
      rcases ih ((visitFeed r feed).exec answer s).2 with ⟨t, ht, hfailed⟩ |
        ⟨ws, cancelled, ha', hsaid', hlooks', hsounds, hfeeds, hwholes⟩
      · exact .inl ⟨t, List.mem_append_right _ ht, hfailed⟩
      · right
        refine ⟨w :: ws, cancelled, ?_, ?_, ?_, ?_, ?_, ?_⟩
        · rw [ha', List.flatMap_cons]
        · rw [← hsaid', List.flatMap_cons]
        · rw [List.any_append, hlooks, hlooks', Bool.false_or]
        · simpa using ⟨hsound, hsounds⟩
        · rw [List.map_cons, hfeed]
          exact (List.prefix_cons_inj feed).mpr hfeeds
        · intro h
          obtain ⟨hall, hrest⟩ := hwholes h
          rw [List.map_cons, hfeed, hall]
          simpa using ⟨hwhole rfl, hrest⟩

end Sweeps

/-! ## Section 3: The whole run -/

section Whole

variable {σ : Type} (answer : Answerer Question.Answer σ) (r : Request) (s : σ)

/-- The books of a run, by its log: the sweeps, the summary and the failures agree with what was
    said and with each other. -/
structure Books (ws : List Sweep) (summary : Summary) (failures : List Failure) : Prop where
  sweeps : ∀ w ∈ ws, w.Sound answer r
  /-- Between its first and its last report the run says what the sweeps say, and nothing else. -/
  said : (run r).transcript answer s =
    ⟨.report (.scanStarted r.selector.feeds r.limit), ()⟩ ::
      (ws.flatMap (·.said) ++ [⟨.report (.completed summary), ()⟩])
  /-- It is cancelled if and only if it was found to be when it was looked at. -/
  cancelled : summary.cancelled = ((run r).transcript answer s).any isRaised
  /-- The feeds are gone through in order, and all of them to the end unless it is cancelled. -/
  feeds : ws.map (·.feed) <+: r.selector.feeds
  whole : summary.cancelled = false → ws.map (·.feed) = r.selector.feeds ∧ ∀ w ∈ ws, w.Whole
  checkpoints : ((run r).transcript answer s).filterMap checkpoint? =
    .scanStarted r.selector.feeds r.limit :: ws.flatMap (·.checkpoints) ++ [.completed summary]
  /-- Every candidate that was found has one need. -/
  needs : ∀ w ∈ ws, (NeedCount.of w.candidates).new + (NeedCount.of w.candidates).repair +
    (NeedCount.of w.candidates).rebuild = w.candidates.length
  /-- Every visit was counted once in its feed. -/
  visits : ∀ w ∈ ws, w.invoices + w.skipped + w.failed = w.visits.length
  /-- What was reported of the feeds adds up. -/
  invoices : (ws.map (·.invoices)).sum = summary.tally.invoices
  skipped : (ws.map (·.skipped)).sum = summary.tally.skipped
  failed : (ws.map (·.failed)).sum = failures.length
  failures_eq : failures = ws.flatMap fun w => Visits.failures w.visits
  /-- Every candidate that was come to is counted once. -/
  loads : ((run r).transcript answer s).filterMap loaded? =
    ws.flatMap fun w => w.visits.map Visit.key
  attempts : summary.tally.invoices + summary.tally.skipped + failures.length =
    (((run r).transcript answer s).filterMap loaded?).length
  /-- The lines are those of the invoices that were replaced. -/
  replaced : summary.tally.invoices = (((run r).transcript answer s).filterMap replaced?).length
  lines : summary.tally.lines =
    (((run r).transcript answer s).filterMap replaced?).flatten.length
  okLines : summary.tally.okLines =
    (((run r).transcript answer s).filterMap replaced?).flatten.countP (·.grade = .ok)
  warnLines : summary.tally.warnLines =
    (((run r).transcript answer s).filterMap replaced?).flatten.countP (·.grade = .warn)
  grades : summary.tally.okLines + summary.tally.warnLines = summary.tally.lines
  /-- The run fails if and only if an invoice did, and then tells what it completed. -/
  result : ((run r).exec answer s).1 =
    if failures = [] then .ok summary else .error (.batchFailed failures summary)

variable {s} in
/-- A run whose scans went well reports when it starts and when it is completed. -/
theorem run_said {visits : List Visit} {cancelled : Bool}
    (h : ((visitFeeds r r.selector.feeds).exec answer
      (answer (.report (.scanStarted r.selector.feeds r.limit)) s).2).1 = ⟨visits, .ok cancelled⟩) :
    let a : Account := ⟨visits, .ok cancelled⟩
    ((run r).exec answer s).1 = a.result ∧
      (run r).transcript answer s = [⟨.report (.scanStarted r.selector.feeds r.limit), ()⟩] ++
        ((visitFeeds r r.selector.feeds).transcript answer
          (answer (.report (.scanStarted r.selector.feeds r.limit)) s).2 ++
        [⟨.report (.completed (a.summary cancelled)), ()⟩]) := by
  intro a
  rw [run_eq, Dialogue.exec_bind, Dialogue.transcript_bind, account, Dialogue.bind_eq]
  simp only [Dialogue.transcript_bind, Dialogue.exec_bind, Dialogue.bind_eq, exec_report_eq,
    transcript_report, h]
  constructor
  · rfl
  · exact List.append_nil _

variable {s} in
theorem mem_run_said {t : Turn Question.Answer}
    (h : t ∈ (visitFeeds r r.selector.feeds).transcript answer
      (answer (.report (.scanStarted r.selector.feeds r.limit)) s).2) :
    t ∈ (run r).transcript answer s := by
  rw [run_eq, Dialogue.transcript_bind, account, Dialogue.bind_eq, Dialogue.transcript_bind,
    Dialogue.bind_eq, Dialogue.transcript_bind]
  exact List.mem_append_left _ (List.mem_append_right _ (List.mem_append_left _ h))

/-- What is picked from all that was said in some sweeps is picked sweep by sweep. -/
theorem filterMap_said {α : Type} {ws : List Sweep} {f : Turn Question.Answer → Option α}
    {g : Sweep → List α} (h : ∀ w ∈ ws, w.said.filterMap f = g w) :
    (ws.flatMap (·.said)).filterMap f = ws.flatMap g := by
  rw [List.filterMap_flatMap, List.flatMap_def, List.flatMap_def]
  exact congrArg List.flatten (List.map_congr_left h)

/-- The sweeps of a run whose scans all went well are its books. -/
theorem books_of_sweeps {ws : List Sweep} {cancelled : Bool}
    (hsweeps : ∀ w ∈ ws, w.Sound answer r)
    (hlooks : (ws.flatMap (·.said)).any isRaised = cancelled)
    (hfeeds : ws.map (·.feed) <+: r.selector.feeds)
    (hwhole : cancelled = false → ws.map (·.feed) = r.selector.feeds ∧ ∀ w ∈ ws, w.Whole)
    (hsaid : (run r).transcript answer s =
      [⟨.report (.scanStarted r.selector.feeds r.limit), ()⟩] ++ (ws.flatMap (·.said) ++
        [⟨.report (.completed ((Visits.tally (ws.flatMap (·.visits))).summary cancelled)), ()⟩]))
    (hresult : ((run r).exec answer s).1 =
      Account.result ⟨ws.flatMap (·.visits), .ok cancelled⟩) :
    Books answer r s ws ((Visits.tally (ws.flatMap (·.visits))).summary cancelled)
      (Visits.failures (ws.flatMap (·.visits))) := by
  -- apart from its sweeps the log holds two reports, which load and replace nothing
  have hloads : ((run r).transcript answer s).filterMap loaded? =
      ws.flatMap fun w => w.visits.map Visit.key := by
    rw [hsaid, List.filterMap_append, List.filterMap_append,
      filterMap_said fun w hw => (hsweeps w hw).loads]
    exact List.append_nil _
  have hreplaced : ((run r).transcript answer s).filterMap replaced? =
      (ws.flatMap (·.visits)).filterMap Visit.written? := by
    rw [hsaid, List.filterMap_append, List.filterMap_append,
      filterMap_said fun w hw => (hsweeps w hw).writes, List.filterMap_flatMap]
    exact List.append_nil _
  exact
    { sweeps := hsweeps
      said := hsaid
      cancelled := by
        rw [hsaid, List.any_append, List.any_append, hlooks]
        exact (Bool.or_false cancelled).symm
      feeds := hfeeds
      whole := hwhole
      checkpoints := by
        rw [hsaid, List.filterMap_append, List.filterMap_append,
          filterMap_said fun w hw => (hsweeps w hw).checkpoints]
        rfl
      needs := fun w _ => NeedCount.sum_of w.candidates
      visits := fun w _ => Visits.countP_add_countP_add_length w.visits
      invoices := by
        show _ = (ws.flatMap (·.visits)).countP Visit.isWritten
        rw [List.countP_flatMap]
        rfl
      skipped := by
        show _ = (ws.flatMap (·.visits)).countP Visit.isSkipped
        rw [List.countP_flatMap]
        rfl
      failed := by
        rw [Visits.failures, List.filterMap_flatMap, List.length_flatMap]
        rfl
      failures_eq := List.filterMap_flatMap
      loads := hloads
      attempts := by
        rw [hloads, ← List.map_flatMap, List.length_map]
        exact Visits.countP_add_countP_add_length (ws.flatMap (·.visits))
      replaced := by
        rw [hreplaced, List.length_filterMap_eq_countP]
        rfl
      lines := by
        rw [hreplaced]
        rfl
      okLines := by
        rw [hreplaced]
        rfl
      warnLines := by
        rw [hreplaced]
        rfl
      grades := Visits.okLines_add_warnLines _
      result := hresult }

/-- Whoever answers a run, and whatever the answers are as long as no scan fails: the run keeps
    its books.  Nothing that it counts ever falls, so that the difference of two counts is what
    was counted in between. -/
theorem run_bookkeeping
    (hscans : ∀ t ∈ (run r).transcript answer s, ¬ ScanFailed t) :
    (∃ ws summary failures, Books answer r s ws summary failures) ∧
      ∀ (cs : List Candidate) (p : Progress) (u : σ),
        let q := ((drain cs p).exec answer u).1.2
        p.tally.invoices ≤ q.tally.invoices ∧ p.tally.skipped ≤ q.tally.skipped ∧
          p.failures.length ≤ q.failures.length := by
  constructor
  · rcases exists_sweeps answer r r.selector.feeds
      (answer (.report (.scanStarted r.selector.feeds r.limit)) s).2 with
      ⟨t, ht, hfailed⟩ | ⟨ws, cancelled, ha, hsaid, hlooks, hsweeps, hfeeds, hwhole⟩
    · exact absurd hfailed (hscans t (mem_run_said answer r ht))
    · obtain ⟨hresult, hlog⟩ := run_said answer r ha
      rw [← hsaid] at hlog hlooks
      exact ⟨ws, _, _, books_of_sweeps answer r s hsweeps hlooks hfeeds hwhole hlog hresult⟩
  · intro cs p u
    -- a visit only ever adds to the progress
    rw [drain_eq, Dialogue.exec_bind]
    simp only [Dialogue.exec_done, Progress.tally_addAll, Progress.failures_addAll, Tally.add_def,
      List.length_append]
    omega

end Whole

/-- The scans of a store in memory never fail. -/
theorem not_scanFailed_of_mem_transcript {cancel : Nat → Bool} {r : Request} {s : MemoryStore}
    {n : Nat} {t : Turn Question.Answer}
    (h : t ∈ (run r).transcript (scheduled cancel MemoryStore.answer) (s, n)) :
    ¬ ScanFailed t := by
  obtain ⟨⟨u, m⟩, hu⟩ := Dialogue.exists_answer_of_mem_transcript h
  obtain ⟨q, a⟩ := t
  rcases q with (_ | _ | _ | _) | _ | _
  case store.scan scope feed limit =>
    -- the answer is a list of candidates, whatever the store holds
    have ha : a = Except.ok ((u.pending scope feed).take limit) := hu
    rw [ha]
    exact id
  all_goals exact id

/-- A store with an invoice in either feed; the scan is malformed. -/
def failingStore : MemoryStore :=
  MemoryStore.bookedStore.addScanned
    ⟨"inv-2", "org", some "loc", none, none, none, false, some (.integer 5), [], none, ⟨0, 0⟩⟩

/-- A run that is cancelled after its first invoice, which failed. -/
theorem run_bookkeeping_failing :
    let answer := scheduled (decide <| · = 1) MemoryStore.answer
    let said := (run MemoryStore.bookingRequest).transcript answer (failingStore, 0)
    (∀ t ∈ said, ¬ ScanFailed t) ∧
      ∃ ws summary failures,
        Books answer MemoryStore.bookingRequest (failingStore, 0) ws summary failures ∧
        summary.cancelled = true ∧ failures.length = 1 ∧
        ws.flatMap (·.checkpoints) = [
          .feedScanned .ocr ⟨1, 0, 0⟩, .feedCompleted .ocr 0 0 1,
          .feedScanned .xero ⟨1, 0, 0⟩, .feedCompleted .xero 0 0 0] := by
  intro answer said
  have hscans : ∀ t ∈ said, ¬ ScanFailed t := fun _ => not_scanFailed_of_mem_transcript
  have hcheckpoints : said.filterMap checkpoint? = .scanStarted [.ocr, .xero] 200 :: [
      .feedScanned .ocr ⟨1, 0, 0⟩, .feedCompleted .ocr 0 0 1,
      .feedScanned .xero ⟨1, 0, 0⟩, .feedCompleted .xero 0 0 0] ++
        [.completed ⟨.empty, .zero, true⟩] := by decide +kernel
  have hloads : said.filterMap loaded? = [(.ocr, "inv-2")] := by decide +kernel
  obtain ⟨⟨ws, summary, failures, hbooks⟩, -⟩ :=
    run_bookkeeping answer MemoryStore.bookingRequest (failingStore, 0) hscans
  obtain ⟨hreported, hcompleted⟩ :=
    List.append_inj' (hbooks.checkpoints.symm.trans hcheckpoints) rfl
  obtain rfl : summary = ⟨.empty, .zero, true⟩ := by simpa using hcompleted
  have hattempts : 0 + 0 + failures.length = (said.filterMap loaded?).length := hbooks.attempts
  rw [hloads] at hattempts
  refine ⟨hscans, ws, _, failures, hbooks, rfl, ?_, (List.cons.inj hreported).2⟩
  simpa using hattempts

end Backfill

end Reconcile
