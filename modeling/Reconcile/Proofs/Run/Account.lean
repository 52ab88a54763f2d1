import Reconcile.Backfill

/-! # What a run did

    A run counts and collects failures on its way.  Here it is told apart from its book-keeping:
    it visits candidates, and all that it counts, reports and ends with is read off the visits.

    Main statement: `run_eq`, a run is its account followed by a conclusion drawn from it. -/

namespace Reconcile.Backfill

/-! ## Section 1: Visits -/

/-- A candidate that was processed, and what became of it. -/
structure Visit where
  candidate : Candidate
  outcome : Except InvoiceError Outcome

namespace Visit

/-- The lines that were written, if the invoice was. -/
def written? (v : Visit) : Option (List Line) :=
  match v.outcome with
  | .ok (.written lines) => some lines
  | _ => none

def isWritten (v : Visit) : Bool := v.written?.isSome

def isSkipped (v : Visit) : Bool :=
  match v.outcome with
  | .ok (.skipped _) => true
  | _ => false

/-- The failure to be told of, if the invoice failed. -/
def failure? (v : Visit) : Option Failure :=
  match v.outcome with
  | .error e => some ⟨v.candidate.feed, v.candidate.id, e.message⟩
  | .ok _ => none

variable (c : Candidate) (e : InvoiceError) (lines : List Line) (why : Skip)

@[simp] theorem written?_written : written? ⟨c, .ok (.written lines)⟩ = some lines := rfl

@[simp] theorem written?_skipped : written? ⟨c, .ok (.skipped why)⟩ = none := rfl

@[simp] theorem written?_error : written? ⟨c, .error e⟩ = none := rfl

@[simp] theorem isSkipped_written : isSkipped ⟨c, .ok (.written lines)⟩ = false := rfl

@[simp] theorem isSkipped_skipped : isSkipped ⟨c, .ok (.skipped why)⟩ = true := rfl

@[simp] theorem isSkipped_error : isSkipped ⟨c, .error e⟩ = false := rfl

@[simp] theorem failure?_ok (o : Outcome) : failure? ⟨c, .ok o⟩ = none := rfl

@[simp] theorem failure?_error : failure? ⟨c, .error e⟩ = some ⟨c.feed, c.id, e.message⟩ := rfl

end Visit

namespace Visits

/-- The candidates that were written, in order. -/
def written (vs : List Visit) : List Candidate := (vs.filter Visit.isWritten).map (·.candidate)

/-- All lines that were written. -/
def lines (vs : List Visit) : List Line := (vs.filterMap Visit.written?).flatten

/-- The failures, in order. -/
def failures (vs : List Visit) : List Failure := vs.filterMap Visit.failure?

def tally (vs : List Visit) : Tally where
  invoices := vs.countP Visit.isWritten
  lines := (lines vs).length
  skipped := vs.countP Visit.isSkipped
  okLines := (lines vs).countP (·.grade = .ok)
  warnLines := (lines vs).countP (·.grade = .warn)

end Visits

/-! ## Section 2: The visits of a run -/

/-- The visits of a run, and whether it was cancelled, unless a scan failed. -/
structure Account where
  visits : List Visit
  ending : Except StoreError Bool

/-- Visits candidates one by one until the run is cancelled; also tells whether it was. -/
def visitAll : List Candidate → RunTalk (Bool × List Visit)
  | [] => return (false, [])
  | c :: cs => do
    if ← isCancelled then return (true, [])
    let outcome ← overStore (process c)
    let (cancelled, visits) ← visitAll cs
    return (cancelled, ⟨c, outcome⟩ :: visits)

/-- Scans one feed and visits its candidates. -/
def visitFeed (r : Request) (feed : Feed) : RunTalk Account := do
  match ← overStore (scan r.scope feed r.limit) with
  | .error e => return ⟨[], .error e⟩
  | .ok candidates =>
    report (.feedScanned feed (.of candidates))
    let (cancelled, visits) ← visitAll candidates
    let t := Visits.tally visits
    report (.feedCompleted feed t.invoices t.skipped (Visits.failures visits).length)
    return ⟨visits, .ok cancelled⟩

/-- Visits the feeds one after another until the run is cancelled or a scan fails. -/
def visitFeeds (r : Request) : List Feed → RunTalk Account
  | [] => return ⟨[], .ok false⟩
  | feed :: feeds => do
    let a ← visitFeed r feed
    match a.ending with
    | .ok false => do
      let b ← visitFeeds r feeds
      return ⟨a.visits ++ b.visits, b.ending⟩
    | _ => return a

namespace Account

/-- The failures of all visits, in order. -/
def failures (a : Account) : List Failure := Visits.failures a.visits

def summary (a : Account) (cancelled : Bool) : Summary := (Visits.tally a.visits).summary cancelled

/-- How a run with these visits ends. -/
def result (a : Account) : Except RunError Summary :=
  match a.ending with
  | .error e => .error (.scanFailed e)
  | .ok cancelled =>
    if a.failures = [] then .ok (a.summary cancelled)
    else .error (.batchFailed a.failures (a.summary cancelled))

end Account

/-- The visits of a run for a request. -/
def account (r : Request) : RunTalk Account := do
  report (.scanStarted r.selector.feeds r.limit)
  let a ← visitFeeds r r.selector.feeds
  match a.ending with
  | .error _ => return a
  | .ok cancelled =>
    report (.completed (a.summary cancelled))
    return a

/-! ## Section 3: Book-keeping -/

end Backfill

namespace Tally

instance : Add Tally where
  add t u := ⟨t.invoices + u.invoices, t.lines + u.lines, t.skipped + u.skipped,
    t.okLines + u.okLines, t.warnLines + u.warnLines⟩

theorem add_def (t u : Tally) : t + u = ⟨t.invoices + u.invoices, t.lines + u.lines,
    t.skipped + u.skipped, t.okLines + u.okLines, t.warnLines + u.warnLines⟩ := rfl

theorem foldl_addLine (t : Tally) (lines : List Line) :
    lines.foldl addLine t = { t with
      lines := t.lines + lines.length
      okLines := t.okLines + lines.countP (·.grade = .ok)
      warnLines := t.warnLines + lines.countP (·.grade = .warn) } := by
  induction lines generalizing t with
  | nil => simp
  | cons l ls ih =>
    rw [List.foldl_cons, ih]
    cases h : l.grade <;> simp [addLine, h] <;> omega

end Tally

namespace Backfill

namespace Progress

/-- The progress after some visits. -/
def addAll (p : Progress) (vs : List Visit) : Progress :=
  vs.foldl (fun p v => p.add v.candidate v.outcome) p

@[simp] theorem addAll_nil (p : Progress) : p.addAll [] = p := rfl

@[simp] theorem addAll_cons (p : Progress) (v : Visit) (vs : List Visit) :
    p.addAll (v :: vs) = (p.add v.candidate v.outcome).addAll vs := rfl

theorem addAll_append (p : Progress) (vs ws : List Visit) :
    p.addAll (vs ++ ws) = (p.addAll vs).addAll ws := by
  simp [addAll]

theorem failures_addAll (p : Progress) (vs : List Visit) :
    (p.addAll vs).failures = p.failures ++ Visits.failures vs := by
  induction vs generalizing p with
  | nil => simp [Visits.failures]
  | cons v vs ih =>
    obtain ⟨c, outcome⟩ := v
    rw [addAll_cons, ih]
    rcases outcome with e | (lines | why) <;>
      simp [add, Visits.failures, List.filterMap_cons]

theorem tally_addAll (p : Progress) (vs : List Visit) :
    (p.addAll vs).tally = p.tally + Visits.tally vs := by
  induction vs generalizing p with
  | nil => rfl
  | cons v vs ih =>
    obtain ⟨c, outcome⟩ := v
    rw [addAll_cons, ih]
    rcases outcome with e | (lines | why)
    · simp [add, Tally.add_def, Visits.tally, Visits.lines, Visit.isWritten, List.filterMap_cons]
    · simp [add, Tally.addInvoice, Tally.foldl_addLine, Tally.add_def, Visits.tally, Visits.lines,
        Visit.isWritten, List.countP_cons]
      omega
    · simp [add, Tally.addSkip, Tally.add_def, Visits.tally, Visits.lines, Visit.isWritten,
        List.filterMap_cons, List.countP_cons]
      omega

end Progress

/-! ## Section 4: A run and its account -/

theorem drain_eq (cs : List Candidate) (p : Progress) :
    drain cs p = (visitAll cs).bind fun a => .done (a.1, p.addAll a.2) := by
  induction cs generalizing p with
  | nil => rfl
  | cons c cs ih =>
    simp only [drain, visitAll, Dialogue.bind_eq, Dialogue.bind_assoc]
    congr 1
    funext cancelled
    cases cancelled with
    | false => simp [ih, Dialogue.bind_assoc]
    | true => rfl

/-- How far a run is after an account, unless a scan failed. -/
def Account.progress (p : Progress) (a : Account) : Except StoreError (Bool × Progress) :=
  a.ending.map fun cancelled => (cancelled, p.addAll a.visits)

theorem sweepFeed_eq (r : Request) (feed : Feed) (p : Progress) :
    sweepFeed r feed p = (visitFeed r feed).bind fun a => .done (a.progress p) := by
  simp only [sweepFeed, visitFeed, Dialogue.bind_eq, Dialogue.bind_assoc]
  congr 1
  funext found
  cases found with
  | error e => rfl
  | ok candidates =>
    simp [drain_eq, Dialogue.bind_assoc, Progress.tally_addAll, Progress.failures_addAll,
      Tally.add_def, Account.progress, Except.map]

theorem sweep_eq (r : Request) (feeds : List Feed) (p : Progress) :
    sweep r feeds p = (visitFeeds r feeds).bind fun a => .done (a.progress p) := by
  induction feeds generalizing p with
  | nil => rfl
  | cons feed feeds ih =>
    simp only [sweep, visitFeeds, Dialogue.bind_eq, Dialogue.bind_assoc, sweepFeed_eq]
    congr 1
    funext a
    obtain ⟨visits, ending⟩ := a
    rcases ending with e | (_ | _)
    · rfl
    · -- the feed came to its end, and the others go on with its progress
      simp [Account.progress, Except.map, ih, Dialogue.bind_assoc, Progress.addAll_append]
    · rfl

/-- A run asks what its account asks, and ends with what its account says. -/
theorem run_eq (r : Request) : run r = (account r).bind fun a => .done a.result := by
  simp only [run, account, Dialogue.bind_eq, Dialogue.bind_assoc, sweep_eq]
  -- both sides ask the same from here on; what is left is how they end
  congr 1
  funext _
  congr 1
  funext a
  obtain ⟨visits, ending⟩ := a
  cases ending with
  | error e => rfl
  | ok cancelled =>
    have htally : (Progress.start.addAll visits).tally = Visits.tally visits := by
      rw [Progress.tally_addAll]
      simp [Progress.start, Tally.empty, Tally.add_def]
    have hfailures : (Progress.start.addAll visits).failures = Visits.failures visits := by
      rw [Progress.failures_addAll]
      simp [Progress.start]
    by_cases h : Visits.failures visits = [] <;>
      simp [Account.progress, Account.result, Account.summary, Account.failures, Except.map, htally,
        hfailures, h, Dialogue.bind_assoc]

/-! ## Section 5: How a run ends -/

namespace Account

theorem result_eq_ok_iff (a : Account) (summary : Summary) :
    a.result = .ok summary ↔
      a.failures = [] ∧ ∃ cancelled, a.ending = .ok cancelled ∧ summary = a.summary cancelled := by
  rcases ha : a.ending with e | cancelled
  · simp [result, ha]
  · by_cases hf : a.failures = []
    · simp [result, ha, hf, eq_comm]
    · simp [result, ha, hf]

theorem result_eq_batchFailed_iff (a : Account) (failures : List Failure)
    (partly : Summary) :
    a.result = .error (.batchFailed failures partly) ↔
      failures = a.failures ∧ failures ≠ [] ∧
        ∃ cancelled, a.ending = .ok cancelled ∧ partly = a.summary cancelled := by
  rcases ha : a.ending with e | cancelled
  · simp [result, ha]
  · by_cases hf : a.failures = []
    · simp only [result, ha, hf, if_true, reduceCtorEq, false_iff]
      rintro ⟨h, hne, -⟩
      exact hne h
    · simp only [result, ha, hf, if_false, Except.error.injEq, RunError.batchFailed.injEq]
      constructor
      · rintro ⟨rfl, rfl⟩
        exact ⟨rfl, hf, cancelled, rfl, rfl⟩
      · rintro ⟨rfl, -, _, hc, rfl⟩
        cases hc
        exact ⟨rfl, rfl⟩

theorem result_eq_scanFailed_iff (a : Account) (e : StoreError) :
    a.result = .error (.scanFailed e) ↔ a.ending = .error e := by
  rcases ha : a.ending with e' | cancelled
  · simp [result, ha]
  · by_cases hf : a.failures = [] <;> simp [result, ha, hf]

end Account

end Reconcile.Backfill
