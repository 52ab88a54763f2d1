import Reconcile.Proofs.Database.Transaction
import Reconcile.Proofs.Run.Schedule

/-! # What a run says to a database

    The log of a run over a database falls into segments.  A scan and the loading of an invoice
    only read; each invoice that is worth writing adds one transaction.  The database may answer
    anything, at any statement, and the run may be cancelled anywhere.

    Main statement: `run_log`; the invoices that a run counts are the commits that were
    confirmed. -/

namespace Reconcile.Database

open Backfill
open Dialogue (Turn Answerer)

/-! ## Section 1: Reading -/

def Selects (sql : String) : Prop := ∃ text, sql = "SELECT " ++ text

theorem Selects.append {sql : String} (h : Selects sql) (text : String) :
    Selects (sql ++ text) := by
  obtain ⟨start, rfl⟩ := h
  exact ⟨start ++ text, String.append_assoc⟩

theorem selects_start : Selects "SELECT " := ⟨"", rfl⟩

/-- The question only reads. -/
def IsRead : Question → Prop
  | .query st => Selects st.sql
  | _ => False

theorem isConfirmed_of_isRead {t : Turn Question.Answer} (h : IsRead t.question) :
    isConfirmed t = false := by
  obtain ⟨q, a⟩ := t
  cases q with
  | query st => rfl
  | _ => exact h.elim

section Reads

variable {σ : Type} (connection : Connection σ)

/-- Everything that is said only reads. -/
def Reads {α : Type} (d : Talk α) : Prop :=
  ∀ s, ∀ t ∈ d.transcript connection s, IsRead t.question

variable {connection}

theorem reads_done {α : Type} (a : α) : Reads connection (Dialogue.done a : Talk α) := by
  intro s t ht
  simp at ht

theorem reads_bind {α β : Type} {d : Talk α} {k : α → Talk β} (hd : Reads connection d)
    (hk : ∀ a, Reads connection (k a)) : Reads connection (d.bind k) := by
  intro s t ht
  rw [Dialogue.transcript_bind] at ht
  rcases List.mem_append.mp ht with h | h
  · exact hd s t h
  · exact hk _ _ t h

theorem reads_query {st : Statement} (h : Selects st.sql) :
    Reads connection (query st) := by
  refine reads_bind (fun s t ht => ?_) fun a => ?_
  · obtain rfl := List.mem_singleton.mp ht
    exact h
  · rcases a with m | rows <;> exact reads_done _

theorem reads_andThen {ε α β : Type} {d : Talk (Except ε α)} {k : α → Talk (Except ε β)}
    (hd : Reads connection d) (hk : ∀ a, Reads connection (k a)) :
    Reads connection (andThen d k) := by
  refine reads_bind hd fun r => ?_
  rcases r with e | a
  · exact reads_done _
  · exact hk a

theorem reads_queryAll {ρ α : Type} {st : Statement} (h : Selects st.sql)
    (record : Row → Except StoreError ρ) (interpret : ρ → Except StoreError α) :
    Reads connection (queryAll st record interpret) := by
  refine reads_bind (reads_query h) fun r => ?_
  rcases r with e | rows
  · exact reads_done _
  · simp only
    split <;> exact reads_done _

theorem reads_queryFirst {α : Type} {st : Statement} (h : Selects st.sql)
    (record : Row → Except StoreError α) : Reads connection (queryFirst st record) := by
  refine reads_bind (reads_query h) fun r => ?_
  rcases r with e | (_ | ⟨row, rows⟩) <;> exact reads_done _

theorem reads_scan (scope : Scope) (feed : Feed) (limit : Nat) :
    Reads connection (scan scope feed limit) := by
  refine reads_queryAll ?_ _ _
  unfold Statement.scan
  dsimp only
  -- the text is put together from the left, so what it begins with comes out last
  repeat with_reducible apply Selects.append
  exact selects_start

theorem reads_load (feed : Feed) (id : String) : Reads connection (load feed id) := by
  have hselect : ∀ columns table : String, Selects ("SELECT " ++ columns ++ table) :=
    fun columns table => (selects_start.append columns).append table
  cases feed with
  | ocr =>
    refine reads_andThen (reads_queryFirst (hselect _ _) _) fun found => ?_
    rcases found with _ | i
    · exact reads_done _
    · exact reads_andThen (reads_queryAll (hselect _ _) _ _) fun _ => reads_done _
  | xero =>
    refine reads_andThen (reads_queryFirst (hselect _ _) _) fun found => ?_
    rcases found with _ | i
    · exact reads_done _
    · exact reads_andThen (reads_queryAll (hselect _ _) _ _) fun _ => reads_done _

end Reads

/-! ## Section 2: Segments -/

/-- The transaction is that of the invoice: it is written at the location of the invoice and under
    the link to it, with all its lines.  The row of its header is read as just this header. -/
structure Block.IsOf (b : Block) (i : LegacyInvoice) : Prop where
  drafted : ∃ location t, i.location = some location ∧ transcribe i = .ok t ∧
    b.draft = Backfill.draft t location i.link ∧ b.lines = t.lines ∧ t.lines ≠ []
  header : readHeader (headerRow b.draft) = .ok (b.draft.toHeader b.draft.link.headerId)

theorem Block.isOf_of_plan {b : Block} {i : LegacyInvoice}
    (h : plan (some i) = .ok (.write b.draft b.lines)) : b.IsOf i := by
  have hlink := link_of_plan h
  obtain ⟨_, location, t, link, ⟨⟩, hlocation, ht, hne, hresolve, hdraft, hlines⟩ :=
    plan_eq_write_iff.mp h
  have hof := transcribe_ofLink ht
  obtain rfl : link = i.link := by
    rw [hdraft] at hlink
    exact hlink
  refine ⟨⟨location, t, hlocation, ht, hdraft, hlines, hne⟩, readHeader_headerRow (m := i.link) ?_⟩
  rw [hof.ocrPointer, hof.xeroPointer] at hresolve
  rw [hdraft]
  exact hresolve

/-- How a candidate ends, by what its legacy invoice was loaded as: with a transaction if there is
    something to write, and without one otherwise.  It counts as written if the transaction was
    committed, and as failed if it was given up. -/
inductive Ends : Except StoreError (Option LegacyInvoice) → Option Block →
    Except InvoiceError Outcome → Prop where
  | unloaded {e : StoreError} : Ends (.error e) none (.error (.store e))
  | malformed {found : Option LegacyInvoice} {e : InvoiceError} (h : plan found = .error e) :
      Ends (.ok found) none (.error e)
  | skipped {found : Option LegacyInvoice} {why : Skip} (h : plan found = .ok (.skip why)) :
      Ends (.ok found) none (.ok (.skipped why))
  | committed {i : LegacyInvoice} {b : Block} (of : b.IsOf i) (sound : b.Sound)
      (h : b.isCommitted = true) : Ends (.ok (some i)) (some b) (.ok (.written b.lines))
  | abandoned {i : LegacyInvoice} {b : Block} {e : StoreError} (of : b.IsOf i) (sound : b.Sound)
      (h : b.isCommitted = false) : Ends (.ok (some i)) (some b) (.error (.store e))

/-- What is written is written by a transaction that was committed. -/
theorem Ends.exists_committed {found : Except StoreError (Option LegacyInvoice)}
    {block : Option Block} {lines : List Line} (h : Ends found block (.ok (.written lines))) :
    ∃ i b, found = .ok (some i) ∧ block = some b ∧ b.IsOf i ∧ b.Sound ∧ b.isCommitted = true ∧
      b.lines = lines := by
  cases h with
  | committed of sound h => exact ⟨_, _, rfl, rfl, of, sound, h, rfl⟩

/-- What the log holds of one candidate. -/
structure Pass where
  visit : Visit
  /-- How its legacy invoice was loaded. -/
  reads : List (Turn Question.Answer)
  block : Option Block

namespace Pass

def said (p : Pass) : List (Turn Question.Answer) := p.reads ++ p.block.elim [] Block.said

/-- The invoice of the candidate is loaded, at some point, which only reads; what is found decides
    how the candidate ends. -/
structure Sound {σ : Type} (connection : Connection σ) (p : Pass) : Prop where
  reads : ∀ t ∈ p.reads, IsRead t.question
  ends : ∃ s, p.reads =
      (load p.visit.candidate.feed p.visit.candidate.id).transcript connection s ∧
    Ends ((load p.visit.candidate.feed p.visit.candidate.id).exec connection s).1 p.block
      p.visit.outcome

end Pass

/-- A part of the log of a run. -/
inductive Segment where
  | scan (said : List (Turn Question.Answer))
  | pass (p : Pass)

namespace Segment

def said : Segment → List (Turn Question.Answer)
  | .scan said => said
  | .pass p => p.said

/-- The visit of a candidate that the segment is about. -/
def visit? : Segment → Option Visit
  | .scan _ => none
  | .pass p => some p.visit

def Sound {σ : Type} (connection : Connection σ) : Segment → Prop
  | .scan said => ∀ t ∈ said, IsRead t.question
  | .pass p => p.Sound connection

end Segment

/-! ## Section 3: Confirmed commits -/

theorem countP_isConfirmed_of_reads {said : List (Turn Question.Answer)}
    (h : ∀ t ∈ said, IsRead t.question) : said.countP isConfirmed = 0 := by
  rw [List.countP_eq_zero]
  intro t ht
  simp [isConfirmed_of_isRead (h t ht)]

section Confirmed

variable {σ : Type} {connection : Connection σ}

theorem Ends.countP_isConfirmed {found : Except StoreError (Option LegacyInvoice)}
    {block : Option Block} {c : Candidate} {o : Except InvoiceError Outcome}
    (h : Ends found block o) :
    (block.elim [] Block.said).countP isConfirmed = if Visit.isWritten ⟨c, o⟩ then 1 else 0 := by
  cases h with
  | unloaded => rfl
  | malformed => rfl
  | skipped => rfl
  | committed of sound h => exact sound.countP_isConfirmed.trans (by rw [h]; rfl)
  | abandoned of sound h => exact sound.countP_isConfirmed.trans (by rw [h]; rfl)

theorem Pass.Sound.countP_isConfirmed {p : Pass} (h : p.Sound connection) :
    p.said.countP isConfirmed = if p.visit.isWritten then 1 else 0 := by
  obtain ⟨s, -, hends⟩ := h.ends
  rw [Pass.said, List.countP_append, countP_isConfirmed_of_reads h.reads, Nat.zero_add]
  exact hends.countP_isConfirmed

/-- As many commits were confirmed as candidates were written. -/
theorem countP_isConfirmed_flatMap {gs : List Segment} (h : ∀ g ∈ gs, g.Sound connection) :
    (gs.flatMap Segment.said).countP isConfirmed =
      (gs.filterMap Segment.visit?).countP Visit.isWritten := by
  induction gs with
  | nil => rfl
  | cons g gs ih =>
    have hg := h g (List.mem_cons_self ..)
    have hgs := ih fun g' hg' => h g' (List.mem_cons_of_mem g hg')
    rw [List.flatMap_cons, List.countP_append, hgs]
    cases g with
    | scan said =>
      rw [Segment.said, countP_isConfirmed_of_reads hg, List.filterMap_cons_none rfl, Nat.zero_add]
    | pass p =>
      have hp : p.said.countP isConfirmed = if p.visit.isWritten then 1 else 0 :=
        Pass.Sound.countP_isConfirmed hg
      have hvisit : Segment.visit? (.pass p) = some p.visit := rfl
      rw [Segment.said, hp, List.filterMap_cons_some hvisit, List.countP_cons, Nat.add_comm]

end Confirmed

/-! ## Section 4: Lines -/

section Lines

variable {σ : Type} {connection : Connection σ}

theorem Pass.Sound.length_lines_le {p : Pass} (h : p.Sound connection) {lines : List Line}
    (hp : p.visit.written? = some lines) : lines.length ≤ 1000 * p.said.length := by
  obtain ⟨s, -, hends⟩ := h.ends
  obtain ⟨⟨c, o⟩, reads, block⟩ := p
  obtain rfl : o = .ok (.written lines) := by
    rcases o with e | (lines' | why) <;> simp at hp
    rw [hp]
  obtain ⟨i, b, -, rfl, -, hsound, hcommitted, rfl⟩ := hends.exists_committed
  refine (hsound.length_lines_le hcommitted).trans (Nat.mul_le_mul_left _ ?_)
  simp [Pass.said]

/-- What is written in all is said, in statements of at most 1000 lines each. -/
theorem length_lines_le {ps : List Pass} (h : ∀ p ∈ ps, p.Sound connection) :
    (Visits.lines (ps.map (·.visit))).length ≤ 1000 * (ps.flatMap Pass.said).length := by
  induction ps with
  | nil => exact Nat.zero_le _
  | cons p ps ih =>
    have hrest := ih fun p' h' => h p' (List.mem_cons_of_mem p h')
    rw [Visits.lines] at hrest ⊢
    rw [List.map_cons, List.flatMap_cons, List.length_append]
    rcases hp : p.visit.written? with _ | lines
    · rw [List.filterMap_cons_none hp]
      omega
    · have hlines := (h p List.mem_cons_self).length_lines_le hp
      rw [List.filterMap_cons_some hp, List.flatten_cons, List.length_append]
      omega

end Lines

/-! ## Section 5: The log of a run -/

/-- A store that asks a connection and takes down what is said. -/
def loggedStore {σ : Type} (connection : Connection σ) :
    Answerer Store.Call.Answer (σ × List (Turn Question.Answer)) :=
  fun c t => (find c).exec (Dialogue.recorded connection) t

section Log

variable {σ : Type} (connection : Connection σ)

theorem loggedStore_eq (c : Store.Call) (s : σ) (log : List (Turn Question.Answer)) :
    loggedStore connection c (s, log) =
      (((find c).exec connection s).1, ((find c).exec connection s).2,
        log ++ (find c).transcript connection s) :=
  Dialogue.exec_recorded connection (find c) s log

/-- What is found when an invoice is loaded decides how it ends, and what the log gets. -/
theorem exists_ends (found : Except StoreError (Option LegacyInvoice)) (s : σ)
    (log : List (Turn Question.Answer)) :
    let done := finish (loggedStore connection) (s, log) found
    ∃ block : Option Block, Ends found block done.1 ∧
      done.2.2 = log ++ block.elim [] Block.said := by
  rcases found with e | found
  · exact ⟨none, .unloaded, (List.append_nil log).symm⟩
  rcases hplan : plan found with e | (⟨d, lines⟩ | why)
  · simp only [finish, hplan]
    exact ⟨none, .malformed hplan, (List.append_nil log).symm⟩
  · -- the store is asked for one replacement, which is one transaction
    obtain ⟨i, -, -, -, rfl, -⟩ := plan_eq_write_iff.mp hplan
    obtain ⟨b, rfl, rfl, hsaid, hsound, hcommitted, -⟩ := exists_block connection d lines s
    have hof : b.IsOf i := Block.isOf_of_plan hplan
    have hreplace : loggedStore connection (.replace b.draft b.lines) (s, log) =
        (((replace b.draft b.lines).exec connection s).1,
          ((replace b.draft b.lines).exec connection s).2, log ++ b.said) := by
      rw [hsaid]
      exact loggedStore_eq connection (.replace b.draft b.lines) s log
    simp only [finish, hplan, hreplace]
    rcases hresult : ((replace b.draft b.lines).exec connection s).1 with e | h
    · rw [hresult] at hcommitted
      exact ⟨some b, .abandoned hof hsound hcommitted.symm, rfl⟩
    · rw [hresult] at hcommitted
      exact ⟨some b, .committed hof hsound hcommitted.symm, rfl⟩
  · simp only [finish, hplan]
    exact ⟨none, .skipped hplan, (List.append_nil log).symm⟩

/-- Processing a candidate adds a segment to the log. -/
theorem exists_pass (c : Candidate) (s : σ) (log : List (Turn Question.Answer)) :
    let done := (process c).exec (loggedStore connection) (s, log)
    ∃ p : Pass, p.Sound connection ∧ p.visit = ⟨c, done.1⟩ ∧ done.2.2 = log ++ p.said := by
  intro done
  let loading := load c.feed c.id
  let u := (loading.exec connection s).2
  let said := loading.transcript connection s
  have hload : loggedStore connection (.load c.feed c.id) (s, log) =
      ((loading.exec connection s).1, u, log ++ said) :=
    loggedStore_eq connection (.load c.feed c.id) s log
  have hdone : done = finish (loggedStore connection) (u, log ++ said)
      (loading.exec connection s).1 := by
    simp only [done, exec_process, hload]
  obtain ⟨block, hends, hlog⟩ := exists_ends connection (loading.exec connection s).1 u
    (log ++ said)
  rw [← hdone] at hends hlog
  refine ⟨⟨⟨c, done.1⟩, said, block⟩, ⟨reads_load c.feed c.id s, s, rfl, hends⟩, rfl, ?_⟩
  rw [hlog, List.append_assoc]
  rfl

theorem exists_passes (cs : List Candidate) (s : σ) (log : List (Turn Question.Answer)) :
    let done := processAll (loggedStore connection) cs (s, log)
    ∃ ps : List Pass, (∀ p ∈ ps, p.Sound connection) ∧ ps.map (·.visit) = done.1 ∧
      done.2.2 = log ++ ps.flatMap Pass.said := by
  induction cs generalizing s log with
  | nil => exact ⟨[], by simp, rfl, by simp⟩
  | cons c cs ih =>
    obtain ⟨p, hsound, hvisit, hlog⟩ := exists_pass connection c s log
    obtain ⟨ps, hsounds, hvisits, hlogs⟩ := ih
      ((process c).exec (loggedStore connection) (s, log)).2.1
      ((process c).exec (loggedStore connection) (s, log)).2.2
    refine ⟨p :: ps, by simpa using ⟨hsound, hsounds⟩, ?_, ?_⟩
    · rw [processAll_cons, List.map_cons, hvisit, hvisits]
    · rw [processAll_cons, List.flatMap_cons, ← List.append_assoc, ← hlog]
      exact hlogs

/-- What a run adds to the log in one feed: a scan, and then a segment for each visit. -/
theorem exists_segments_feed (r : Request) (cancel : Nat → Bool) (feed : Feed) (s : σ)
    (log : List (Turn Question.Answer)) (n : Nat) :
    let done := (visitFeed r feed).exec (scheduled cancel (loggedStore connection)) ((s, log), n)
    ∃ gs : List Segment, (∀ g ∈ gs, g.Sound connection) ∧
      gs.filterMap Segment.visit? = done.1.visits ∧
      done.2.1.2 = log ++ gs.flatMap Segment.said := by
  let said := (scan r.scope feed r.limit).transcript connection s
  let u := ((scan r.scope feed r.limit).exec connection s).2
  have hreads : ∀ t ∈ said, IsRead t.question := reads_scan r.scope feed r.limit s
  have hscan : loggedStore connection (.scan r.scope feed r.limit) (s, log) =
      (((scan r.scope feed r.limit).exec connection s).1, u, log ++ said) :=
    loggedStore_eq connection (.scan r.scope feed r.limit) s log
  simp only [exec_visitFeed, exec_scan, hscan]
  rcases ((scan r.scope feed r.limit).exec connection s).1 with e | rows
  · -- a scan that failed is the last that is said
    exact ⟨[.scan said], by simpa [Segment.Sound] using hreads, rfl, by simp [Segment.said]⟩
  · let cs := Candidate.select feed r.limit rows
    obtain ⟨ps, hsounds, hvisits, hlog⟩ := exists_passes connection
      (cs.take (attempts cancel n cs.length)) u (log ++ said)
    refine ⟨.scan said :: ps.map .pass, ?_, ?_, ?_⟩
    · intro g hg
      rcases List.mem_cons.mp hg with rfl | hg
      · exact hreads
      · obtain ⟨p, hp, rfl⟩ := List.mem_map.mp hg
        exact hsounds p hp
    · rw [List.filterMap_cons_none rfl, List.filterMap_map]
      simpa [Function.comp_def, Segment.visit?] using hvisits
    · rw [List.flatMap_cons, List.flatMap_map]
      simpa [Function.comp_def, Segment.said] using hlog

theorem exists_segments (r : Request) (cancel : Nat → Bool) (feeds : List Feed) (s : σ)
    (log : List (Turn Question.Answer)) (n : Nat) :
    let done := (visitFeeds r feeds).exec (scheduled cancel (loggedStore connection)) ((s, log), n)
    ∃ gs : List Segment, (∀ g ∈ gs, g.Sound connection) ∧
      gs.filterMap Segment.visit? = done.1.visits ∧
      done.2.1.2 = log ++ gs.flatMap Segment.said := by
  induction feeds generalizing s log n with
  | nil => exact ⟨[], by simp, rfl, by simp [visitFeeds]⟩
  | cons feed feeds ih =>
    -- the other feeds add to the log only if this one was neither cancelled nor failed to scan
    obtain ⟨gs, hsounds, hvisits, hlog⟩ := exists_segments_feed connection r cancel feed s log n
    simp only [exec_visitFeeds_cons]
    rcases hdone : (visitFeed r feed).exec (scheduled cancel (loggedStore connection))
        ((s, log), n) with
      ⟨⟨visits, e | (_ | _)⟩, ⟨u, log'⟩, m⟩
    · rw [hdone] at hvisits hlog
      exact ⟨gs, hsounds, hvisits, hlog⟩
    · rw [hdone] at hvisits hlog
      obtain ⟨gs', hsounds', hvisits', hlog'⟩ := ih u log' m
      refine ⟨gs ++ gs', ?_, ?_, ?_⟩
      · intro g hg
        exact (List.mem_append.mp hg).elim (hsounds g) (hsounds' g)
      · rw [List.filterMap_append, hvisits, hvisits']
      · rw [List.flatMap_append, ← List.append_assoc, ← hlog]
        exact hlog'
    · rw [hdone] at hvisits hlog
      exact ⟨gs, hsounds, hvisits, hlog⟩

end Log

/-- What a run tells of its success, also where it fails because of some invoices. -/
def summary? : Except RunError Summary → Option Summary
  | .ok summary => some summary
  | .error (.batchFailed _ partly) => some partly
  | .error (.scanFailed _) => none

theorem summary?_result_of_ok {a : Account} {cancelled : Bool} (h : a.ending = .ok cancelled) :
    summary? a.result = some (a.summary cancelled) := by
  rw [Account.result, h]
  by_cases hf : a.failures = []
  · simp only [hf, if_true, summary?]
  · simp only [hf, if_false, summary?]

theorem summary?_result {a : Account} {summary : Summary} (h : summary? a.result = some summary) :
    summary.tally = Visits.tally a.visits := by
  rcases ha : a.ending with e | cancelled
  · simp [Account.result, ha, summary?] at h
  · rw [summary?_result_of_ok ha] at h
    rw [← Option.some.inj h]
    rfl

/-- Whatever the database answers, the log of a run is made of scans and loads, which only read,
    and of one transaction for each invoice that was found to be worth writing.  An invoice counts
    as replaced exactly if its commit was confirmed, and the run counts the confirmed commits. -/
theorem run_log {σ : Type} (connection : Connection σ) (r : Request) (cancel : Nat → Bool)
    (s : σ) :
    let answer := scheduled cancel (loggedStore connection)
    let a := ((account r).exec answer ((s, []), 0)).1
    let ended := (run r).exec answer ((s, []), 0)
    let log := ended.2.1.2
    ended.1 = a.result ∧
      (∃ gs : List Segment, log = gs.flatMap Segment.said ∧ (∀ g ∈ gs, g.Sound connection) ∧
        gs.filterMap Segment.visit? = a.visits) ∧
      a.visits.countP Visit.isWritten = log.countP isConfirmed ∧
      (∀ summary, summary? ended.1 = some summary →
        summary.tally.invoices = log.countP isConfirmed) ∧
      ∀ d lines t, ((replace d lines).exec connection t).1.isOk =
        ((replace d lines).transcript connection t).any isConfirmed := by
  intro answer a ended log
  have hended : ended = (a.result, ((account r).exec answer ((s, []), 0)).2) := by
    simp only [ended, a, run_eq, Dialogue.exec_bind]
    rfl
  obtain ⟨gs, hsounds, hvisits, hlog⟩ :=
    exists_segments connection r cancel r.selector.feeds s [] 0
  rw [← exec_account] at hvisits hlog
  have hlog' : log = gs.flatMap Segment.said := by
    simp only [log, hended]
    exact hlog
  have hresult : ended.1 = a.result := by rw [hended]
  have hcount : a.visits.countP Visit.isWritten = log.countP isConfirmed := by
    rw [hlog', countP_isConfirmed_flatMap hsounds, hvisits]
  refine ⟨hresult, ⟨gs, hlog', hsounds, hvisits⟩, hcount, fun summary hsummary => ?_,
    fun d lines t => ?_⟩
  · rw [hresult] at hsummary
    rw [summary?_result hsummary, ← hcount]
    rfl
  · obtain ⟨b, -, -, hsaid, -, hcommitted, -⟩ := exists_block connection d lines t
    rw [hcommitted, ← hsaid]
    rfl

/-! ## Section 6: A run with one commit -/

/-- An invoice of the accounting system with one line. -/
def oneLine : BookedInvoice :=
  ⟨"inv-1", "org", some "loc", none, none, none, false,
    [⟨"l-1", 1, none, none, none, none, none, none⟩], none, ⟨0, 0⟩⟩

def oneLineDraft : HeaderDraft := draft oneLine.transcribe "loc" (.xero "inv-1")

/-- The rows of the database, one answer after another: the candidate, its invoice, the line of
    it, and the header that was put in place. -/
def oneLineRows : Nat → Row
  | 0 => [("legacy_id", .text "inv-1"), ("created_at", .instant ⟨0, 0⟩), ("kind", .text "NEW")]
  | 1 => [("id", .text "inv-1"), ("organisation_id", .text "org"), ("location_id", .text "loc"),
      ("is_credit_note", .boolean false), ("created_at", .instant ⟨0, 0⟩)]
  | 2 => [("id", .text "l-1"), ("line_number", .integer 1)]
  | _ => Row.ofValues HeaderRow.columns (HeaderRow.ofDraft oneLineDraft).values

/-- A database that never refuses; it counts the statements that give rows. -/
def oneLineConnection : Connection Nat
  | .query _, n => (.ok [oneLineRows n], n + 1)
  | .execute _, n => (.ok 1, n)
  | .begin, n => (.ok (), n)
  | .commit, n => (.ok (), n)
  | .rollback, n => ((), n)
  | .dirtyVersion, n => (.ok none, n)
  | .appliedMigrations, n => (.ok [], n)
  | .runScript _, n => (.ok (), n)
  | .record _, n => (.ok (), n)

def oneLineRequest : Request := ⟨⟨"org", "loc"⟩, .xero, 200, one_le_defaultLimit,
  defaultLimit_le_max⟩

theorem storedHeader_oneLine :
    storedHeader (.ok [oneLineRows 3]) =
      .ok (oneLineDraft.toHeader oneLineDraft.link.headerId) := by
  have hrow : HeaderRow.ofRow (oneLineRows 3) = .ok (HeaderRow.ofDraft oneLineDraft) := rfl
  have hread : (Coded.read (HeaderRow.ofDraft oneLineDraft).origin : Except UnknownCode Origin) =
      .ok .xero := Origin.read_code .xero
  have hresolve : Link.resolve .xero (HeaderRow.ofDraft oneLineDraft).ocrPointer
      (HeaderRow.ofDraft oneLineDraft).xeroPointer = .ok (.xero "inv-1") := rfl
  have hsource : (HeaderRow.ofDraft oneLineDraft).source = .ok (.xero, .xero "inv-1") := by
    simp only [HeaderRow.source, hread, hresolve]
  simp only [storedHeader, hrow, HeaderRow.toHeader, hsource]
  rfl

theorem exec_replace_oneLine :
    ((replace oneLineDraft oneLine.transcribe.lines).exec oneLineConnection 3).1 =
      .ok (oneLineDraft.toHeader oneLineDraft.link.headerId) := by
  have hupsert : (upsertHeader oneLineDraft).exec oneLineConnection 3 =
      (.ok (oneLineDraft.toHeader oneLineDraft.link.headerId), 4) := by
    rw [upsertHeader_eq, Dialogue.exec_bind]
    exact congrArg (·, 4) storedHeader_oneLine
  have hsteps : ((replaceSteps oneLineDraft oneLine.transcribe.lines).exec oneLineConnection 3) =
      (.ok (oneLineDraft.toHeader oneLineDraft.link.headerId), 4) := by
    rw [replaceSteps, exec_andThen, hupsert]
    rfl
  have hreplace : replace oneLineDraft oneLine.transcribe.lines =
      inTransaction .server (replaceSteps oneLineDraft oneLine.transcribe.lines) := rfl
  rw [hreplace, inTransaction, Dialogue.exec_bind, Dialogue.exec_question]
  simp only [oneLineConnection, Dialogue.exec_bind, hsteps]
  rfl

/-- The invoice is found and written. -/
def oneLineVisit : Visit :=
  ⟨⟨.xero, "inv-1", .new, ⟨0, 0⟩⟩, .ok (.written oneLine.transcribe.lines)⟩

theorem account_oneLine :
    ((account oneLineRequest).exec (scheduled (fun _ => false)
      (loggedStore oneLineConnection)) ((0, []), 0)).1 = ⟨[oneLineVisit], .ok false⟩ := by
  have hlimit : oneLineRequest.limit = 200 := rfl
  have hfeeds : oneLineRequest.selector.feeds = [.xero] := rfl
  have hscan : ∀ log, loggedStore oneLineConnection
      (.scan oneLineRequest.scope .xero 200) (0, log) =
      (.ok [⟨.xero, "inv-1", .new, ⟨0, 0⟩⟩], 1,
        log ++ (scan oneLineRequest.scope .xero 200).transcript oneLineConnection 0) :=
    fun log => loggedStore_eq oneLineConnection _ 0 log
  have hload : ∀ log, loggedStore oneLineConnection
      (.load .xero "inv-1") (1, log) =
      (.ok (some (.xero oneLine)), 3,
        log ++ (load .xero "inv-1").transcript oneLineConnection 1) :=
    fun log => loggedStore_eq oneLineConnection _ 1 log
  have hreplace : ∀ log, loggedStore oneLineConnection
      (.replace oneLineDraft oneLine.transcribe.lines) (3, log) =
      (.ok (oneLineDraft.toHeader oneLineDraft.link.headerId),
        ((replace oneLineDraft oneLine.transcribe.lines).exec oneLineConnection 3).2,
        log ++ (replace oneLineDraft oneLine.transcribe.lines).transcript oneLineConnection 3) := by
    intro log
    rw [loggedStore_eq]
    exact congrArg (·, _) exec_replace_oneLine
  have hselect : Candidate.select .xero 200 [⟨.xero, "inv-1", .new, ⟨0, 0⟩⟩] =
      [⟨.xero, "inv-1", .new, ⟨0, 0⟩⟩] := by
    simp [Candidate.select, Candidate.firstById, Candidate.oldest]
  have hplan : plan (some (.xero oneLine)) =
      .ok (.write oneLineDraft oneLine.transcribe.lines) :=
    plan_xero rfl (by simp [oneLine]) (by decide)
  have hnil : visitFeeds oneLineRequest [] = .done ⟨[], .ok false⟩ := rfl
  rw [exec_account, hfeeds]
  simp [exec_visitFeeds_cons, exec_visitFeed, exec_scan, hlimit, hscan, hselect, attempts,
    processAll_cons, exec_process, hload, finish, hplan, hreplace, hnil, oneLineVisit]

/-- The run replaces its invoice: the log holds one confirmed commit, and it is that of a
    transaction with the line of the invoice. -/
theorem run_log_oneLine :
    let ended := (run oneLineRequest).exec (scheduled (fun _ => false)
      (loggedStore oneLineConnection)) ((0, []), 0)
    let log := ended.2.1.2
    (∃ summary, ended.1 = .ok summary ∧ summary.tally.invoices = 1 ∧
      log.countP isConfirmed = 1) ∧
    ∃ b : Block, b.Sound ∧ b.isCommitted = true ∧ b.lines.length = 1 ∧ ∀ t ∈ b.said, t ∈ log := by
  intro ended log
  obtain ⟨hresult, ⟨gs, hlog, hsounds, hvisits⟩, -, hcount, -⟩ :=
    run_log oneLineConnection oneLineRequest (fun _ => false) 0
  rw [account_oneLine] at hresult hvisits
  have hone := hcount _ (congrArg summary? hresult)
  refine ⟨⟨_, hresult, rfl, hone.symm⟩, ?_⟩
  -- the one visit of the run is that of a segment, which ends with a commit
  have hmem : oneLineVisit ∈ gs.filterMap Segment.visit? := by
    rw [hvisits]
    exact List.mem_singleton_self _
  obtain ⟨g, hg, hvisit⟩ := List.mem_filterMap.mp hmem
  cases g with
  | scan said => cases hvisit
  | pass p =>
    obtain ⟨s, -, hends⟩ := (hsounds _ hg).ends
    obtain ⟨visit, reads, block⟩ := p
    cases hvisit
    obtain ⟨i, b, -, rfl, -, hsound, hcommitted, hlines⟩ := hends.exists_committed
    refine ⟨b, hsound, hcommitted, by rw [hlines]; rfl, fun t ht => ?_⟩
    have hsaid : log = gs.flatMap Segment.said := hlog
    rw [hsaid]
    exact List.mem_flatMap.mpr ⟨_, hg, List.mem_append_right reads ht⟩

end Reconcile.Database
