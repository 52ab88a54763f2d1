import Reconcile.Command
import Reconcile.Proofs.Database.RunLog
import Reconcile.Proofs.Database.Scanning

/-! # A run against the database of the command

    The command answers the questions of a run: what a store is asked is said to the database,
    what is reported goes to the log, and nobody cancels.  Apart from the log, all that is said
    in a run is said to the database.  It falls into legs, one for each feed: a scan, and one
    pass for each candidate that was found.  Whoever answers may answer anything; the legs go on
    until a scan fails.

    Main statement: `exists_legs_run`. -/

namespace Reconcile

open Dialogue (Turn Answerer)

/-! ## Section 1: What counts as success -/

namespace Database

open Backfill (Visit process)

namespace Pass

variable {σ : Type} {connection : Connection σ} {p : Pass}

/-- The candidate was written and the database confirmed its commit, or it was skipped. -/
def IsSettled (p : Pass) : Prop := (∃ t ∈ p.said, isConfirmed t = true) ∨ p.visit.isSkipped = true

/-- A candidate fails if and only if it is neither committed nor skipped. -/
theorem Sound.failure?_eq_none_iff (h : p.Sound connection) :
    p.visit.failure? = none ↔ p.IsSettled := by
  have hconfirmed : (∃ t ∈ p.said, isConfirmed t = true) ↔ p.visit.isWritten = true := by
    rw [← List.countP_pos_iff, h.countP_isConfirmed]
    cases p.visit.isWritten <;> simp
  rw [IsSettled, hconfirmed]
  obtain ⟨⟨c, outcome⟩, reads, block⟩ := p
  rcases outcome with e | (lines | why) <;> simp [Visit.isWritten]

end Pass

/-- To process a candidate over the database is to go through a pass. -/
theorem exists_pass_said {σ : Type} (connection : Connection σ) (c : Candidate) (s : σ) :
    let d := overDatabase (process c)
    ∃ p : Pass, p.Sound connection ∧ p.visit = ⟨c, (d.exec connection s).1⟩ ∧
      p.said = d.transcript connection s := by
  intro d
  obtain ⟨p, hsound, hvisit, hsaid⟩ := exists_pass connection c s []
  -- to ask the logged store is to hold the dialogue with a connection that takes it down
  have hrefine : d.exec (Dialogue.recorded connection) (s, []) =
      (process c).exec (loggedStore connection) (s, []) := Dialogue.exec_refine _ _ _ _
  rw [← hrefine, Dialogue.exec_recorded] at hvisit hsaid
  rw [List.nil_append, List.nil_append] at hsaid
  exact ⟨p, hsound, hvisit, hsaid.symm⟩

end Database

/-- A run succeeds if no scan failed and no candidate did. -/
theorem Backfill.Account.isOk_result (a : Backfill.Account) :
    a.result.isOk = true ↔ a.ending.isOk = true ∧ a.failures = [] := by
  rcases ha : a.ending with e | cancelled
  · simp [Backfill.Account.result, ha, Except.isOk, Except.toBool]
  · by_cases hf : a.failures = [] <;>
      simp [Backfill.Account.result, ha, hf, Except.isOk, Except.toBool]

/-! ## Section 2: What the command says -/

namespace Command

open Backfill (RunTalk StoreTalk Visit Account process visitAll visitFeed visitFeeds account)
open Database (Connection Pass Segment isConfirmed summary?)

/-- A line of the log. -/
def isLogged : Turn Question.Answer → Bool
  | ⟨.log .., _⟩ => true
  | _ => false

/-- What is said to the database, as part of what the command says. -/
def ofDatabase (t : Turn Database.Question.Answer) : Turn Question.Answer :=
  ⟨.database t.question, t.answer⟩

section Said

variable {σ α β : Type} (world : Answerer Question.Answer σ)

/-- What is said apart from the log. -/
def said (d : Talk α) (s : σ) : List (Turn Question.Answer) :=
  (d.transcript world s).filter fun t => !isLogged t

/-- The connection that someone who answers the command stands for. -/
def connectionOf : Connection σ := fun q s => world (.database q) s

@[simp] theorem said_done (a : α) (s : σ) : said world (.done a) s = [] := rfl

theorem said_bind (d : Talk α) (k : α → Talk β) (s : σ) :
    said world (d.bind k) s =
      said world d s ++ said world (k (d.exec world s).1) (d.exec world s).2 := by
  rw [said, Dialogue.transcript_bind, List.filter_append]
  rfl

@[simp] theorem said_log (level : Level) (message : String) (s : σ) :
    said world (log level message) s = [] := rfl

theorem exec_overDatabase (d : Database.Talk α) (s : σ) :
    (overDatabase d).exec world s = d.exec (connectionOf world) s := by
  induction d generalizing s with
  | done a => rfl
  | ask q next ih => exact ih _ _

theorem said_overDatabase (d : Database.Talk α) (s : σ) :
    said world (overDatabase d) s = (d.transcript (connectionOf world) s).map ofDatabase := by
  induction d generalizing s with
  | done a => rfl
  | ask q next ih => exact congrArg (ofDatabase ⟨q, _⟩ :: ·) (ih _ _)

end Said

/-! ## Section 3: A run as the command conducts it -/

/-- What the command says to find the answers for a run. -/
def conduct {α : Type} (d : RunTalk α) : Talk α :=
  Dialogue.refine (A := Backfill.Question.Answer) (B := Question.Answer) find d

section Conduct

variable {α β : Type}

@[simp] theorem conduct_done (a : α) : conduct (.done a) = .done a := rfl

theorem conduct_bind (d : RunTalk α) (k : α → RunTalk β) :
    conduct (d.bind k) = (conduct d).bind fun a => conduct (k a) :=
  Dialogue.refine_bind find d k

theorem conduct_isCancelled : conduct Backfill.isCancelled = .done false := rfl

theorem conduct_report (c : Checkpoint) :
    conduct (Backfill.report c) = log .info (checkpointText c) := rfl

/-- What is said to a store is said to the database. -/
theorem conduct_overStore (d : StoreTalk α) :
    conduct (Backfill.overStore d) = overDatabase (Database.overDatabase d) := by
  induction d with
  | done a => rfl
  | ask c next ih =>
    have hask : conduct (Backfill.overStore (.ask c next)) =
        (overDatabase (Database.find c)).bind fun a => conduct (Backfill.overStore (next a)) := rfl
    rw [hask, funext ih]
    exact (Dialogue.refine_bind _ _ _).symm

end Conduct

section Visits

variable {σ : Type} (world : Answerer Question.Answer σ)

/-- All candidates are visited, one after another. -/
theorem exists_passes (cs : List Candidate) (s : σ) :
    let d := conduct (visitAll cs)
    ∃ ps : List Pass, (∀ p ∈ ps, p.Sound (connectionOf world)) ∧
      ps.map (·.visit.candidate) = cs ∧ (d.exec world s).1 = (false, ps.map (·.visit)) ∧
      said world d s = (ps.flatMap Pass.said).map ofDatabase := by
  induction cs generalizing s with
  | nil => exact ⟨[], by simp, rfl, rfl, rfl⟩
  | cons c cs ih =>
    obtain ⟨p, hsound, hvisit, hsaid⟩ := Database.exists_pass_said (connectionOf world) c s
    obtain ⟨ps, hsounds, hcandidates, hvisits, hsaids⟩ :=
      ih ((Database.overDatabase (process c)).exec (connectionOf world) s).2
    simp only [visitAll, Dialogue.bind_eq, Dialogue.pure_eq, conduct_bind, conduct_isCancelled,
      Dialogue.done_bind, Bool.false_eq_true, if_false, conduct_overStore, said_bind,
      Dialogue.exec_bind, exec_overDatabase, said_overDatabase, hvisits, hsaids]
    refine ⟨p :: ps, by simpa using ⟨hsound, hsounds⟩, ?_, ?_, ?_⟩
    · rw [List.map_cons, hvisit, hcandidates]
    · rw [List.map_cons, hvisit]
      rfl
    · simp [hsaid]

end Visits

/-! ## Section 4: Legs -/

/-- The part of a run that is about one feed. -/
structure Leg where
  feed : Feed
  /-- What the database answers to the scan. -/
  rows : Except String (List Database.Row)
  /-- The candidates that the scan found, unless it failed. -/
  found : Except StoreError (List Candidate)
  passes : List Pass

namespace Leg

variable {σ : Type} {connection : Connection σ} {r : Request} {leg : Leg}

/-- What is said: the scan, and then each pass. -/
def said (r : Request) (leg : Leg) : List (Turn Database.Question.Answer) :=
  Database.scanTurn r.scope leg.feed r.limit leg.rows :: leg.passes.flatMap Pass.said

def visits (leg : Leg) : List Visit := leg.passes.map (·.visit)

/-- The scan finds what the rows stand for, each candidate once and no more than are asked for;
    then every candidate that it found is processed, in order. -/
structure Sound (connection : Connection σ) (r : Request) (leg : Leg) : Prop where
  scanned : ∀ cs, leg.found = .ok cs ↔
    ∃ given, Database.Finds leg.feed leg.rows given ∧ cs = Candidate.select leg.feed r.limit given
  visited : leg.passes.map (·.visit.candidate) = leg.found.toOption.getD []
  passes : ∀ p ∈ leg.passes, p.Sound connection

/-- The scan succeeded, and every candidate that it found is settled. -/
def Succeeds (leg : Leg) : Prop := leg.found.isOk = true ∧ ∀ p ∈ leg.passes, p.IsSettled

/-- The commits that are confirmed in a leg are those of the candidates that were written. -/
theorem Sound.countP_isConfirmed (h : leg.Sound connection r) :
    (leg.said r).countP isConfirmed = leg.visits.countP Visit.isWritten := by
  let gs : List Segment := leg.passes.map .pass
  have hsaid : gs.flatMap Segment.said = leg.passes.flatMap Pass.said := by
    simp [gs, Segment.said, List.flatMap_map]
  have hvisits : gs.filterMap Segment.visit? = leg.visits := by
    rw [List.filterMap_map]
    simp [visits, Function.comp_def, Segment.visit?]
  have hsounds : ∀ g ∈ gs, g.Sound connection := by
    intro g hg
    obtain ⟨p, hp, rfl⟩ := List.mem_map.mp hg
    exact h.passes p hp
  rw [said, ← hsaid, ← hvisits]
  exact (List.countP_cons_of_neg Bool.false_ne_true).trans
    (Database.countP_isConfirmed_flatMap hsounds)

theorem Sound.failures_eq_nil_iff (h : leg.Sound connection r) :
    Backfill.Visits.failures leg.visits = [] ↔ ∀ p ∈ leg.passes, p.IsSettled := by
  rw [Backfill.Visits.failures, List.filterMap_eq_nil_iff, visits, List.forall_mem_map]
  exact forall₂_congr fun p hp => (h.passes p hp).failure?_eq_none_iff

/-- No more candidates are visited than are asked for. -/
theorem Sound.length_visits_le (h : leg.Sound connection r) : leg.visits.length ≤ r.limit := by
  have hlength : leg.visits.length = (leg.found.toOption.getD []).length := by
    rw [← h.visited, visits, List.length_map, List.length_map]
  rw [hlength]
  rcases hfound : leg.found with e | cs
  · exact Nat.zero_le _
  · obtain ⟨given, -, rfl⟩ := (h.scanned cs).mp hfound
    exact List.length_take_le _ _

/-- The legs are those of the feeds, in order, up to the first scan that fails. -/
inductive Cover : List Feed → List Leg → Prop where
  | nil : Cover [] []
  | stopped {leg : Leg} {feeds : List Feed} (h : leg.found.isOk = false) :
      Cover (leg.feed :: feeds) [leg]
  | next {leg : Leg} {feeds : List Feed} {legs : List Leg} (h : leg.found.isOk = true)
      (rest : Cover feeds legs) : Cover (leg.feed :: feeds) (leg :: legs)

theorem Cover.length_le {feeds : List Feed} {legs : List Leg} (h : Cover feeds legs) :
    legs.length ≤ feeds.length := by
  induction h with
  | nil => exact le_rfl
  | stopped => exact Nat.succ_le_succ (Nat.zero_le _)
  | next _ _ ih => exact Nat.succ_le_succ ih

end Leg

section Legs

variable {σ : Type} (world : Answerer Question.Answer σ) (r : Request)

theorem overDatabase_scan (feed : Feed) :
    Database.overDatabase (Backfill.scan r.scope feed r.limit) =
      (Database.scan r.scope feed r.limit).bind fun rows =>
        .done (rows.map (Candidate.select feed r.limit)) := by
  have hscan : Database.overDatabase (Backfill.scan r.scope feed r.limit) =
      (Database.scan r.scope feed r.limit).bind _ := rfl
  rw [hscan]
  congr 1
  funext rows
  rcases rows with e | cs <;> rfl

/-- What a run does in one feed is a leg. -/
theorem exists_leg (feed : Feed) (s : σ) :
    let d := conduct (visitFeed r feed)
    ∃ leg : Leg, leg.Sound (connectionOf world) r ∧ leg.feed = feed ∧
      (d.exec world s).1 = ⟨leg.visits, leg.found.map fun _ => false⟩ ∧
      said world d s = (leg.said r).map ofDatabase := by
  let scan := Database.scan r.scope feed r.limit
  let u := (scan.exec (connectionOf world) s).2
  obtain ⟨rows, hscan, hfinds⟩ :=
    Database.exists_scanTurn (connectionOf world) r.scope feed r.limit s
  simp only [visitFeed, Dialogue.bind_eq, conduct_bind, conduct_overStore, overDatabase_scan,
    said_bind, Dialogue.exec_bind, exec_overDatabase, said_overDatabase, Dialogue.exec_done,
    Dialogue.transcript_bind, Dialogue.transcript_done, List.append_nil, hscan]
  rcases hfound : (scan.exec (connectionOf world) s).1 with e | given
  · -- nothing is said after a scan that failed
    refine ⟨⟨feed, rows, .error e, []⟩, ⟨fun cs => ?_, rfl, by simp⟩, rfl, rfl, ?_⟩
    · refine iff_of_false (by simp) ?_
      rintro ⟨given, hgiven, -⟩
      cases hfound.symm.trans ((hfinds given).mpr hgiven)
    · simp [Leg.said, Except.map]
  · let cs := Candidate.select feed r.limit given
    let t := ((log .info (checkpointText (.feedScanned feed (.of cs)))).exec world u).2
    obtain ⟨ps, hsounds, hcandidates, hvisits, hsaid⟩ := exists_passes world cs t
    refine ⟨⟨feed, rows, .ok cs, ps⟩, ⟨fun cs' => ?_, hcandidates, hsounds⟩, rfl, ?_, ?_⟩
    · constructor
      · intro h
        exact ⟨given, (hfinds given).mp hfound, (Except.ok.inj h).symm⟩
      · rintro ⟨given', hgiven, rfl⟩
        obtain rfl := Except.ok.inj (hfound.symm.trans ((hfinds given').mpr hgiven))
        rfl
    · simp only [Except.map, conduct_bind, conduct_report, Dialogue.exec_bind]
      rw [hvisits]
      rfl
    · simp only [Except.map, conduct_bind, conduct_report, said_bind, said_log, List.nil_append]
      rw [hsaid]
      simp [Leg.said]

/-- What a run does in some feeds is a leg for each of them, up to the first scan that fails. -/
theorem exists_legs (feeds : List Feed) (s : σ) :
    let d := conduct (visitFeeds r feeds)
    ∃ legs : List Leg, (∀ leg ∈ legs, leg.Sound (connectionOf world) r) ∧ Leg.Cover feeds legs ∧
      said world d s = (legs.flatMap (Leg.said r)).map ofDatabase ∧
      (d.exec world s).1.visits = legs.flatMap Leg.visits ∧
      (((d.exec world s).1.ending = .ok false ∧ ∀ leg ∈ legs, leg.found.isOk = true) ∨
        ∃ e, (d.exec world s).1.ending = .error e ∧ ¬ ∀ leg ∈ legs, leg.found.isOk = true) := by
  induction feeds generalizing s with
  | nil => exact ⟨[], by simp, .nil, rfl, rfl, .inl ⟨rfl, by simp⟩⟩
  | cons feed feeds ih =>
    obtain ⟨leg, hsound, rfl, hleg, hsaid⟩ := exists_leg world r feed s
    simp only [visitFeeds, Dialogue.bind_eq, conduct_bind, said_bind, Dialogue.exec_bind, hleg,
      hsaid]
    rcases hfound : leg.found with e | cs
    · have hfailed : leg.found.isOk = false := by rw [hfound]; rfl
      refine ⟨[leg], by simpa using hsound, .stopped hfailed, ?_, ?_, .inr ⟨e, rfl, ?_⟩⟩
      · simp [Except.map]
      · simp [Except.map]
      · simp [hfailed]
    · -- the other feeds are gone through in the state in which this one leaves us
      obtain ⟨legs, hsounds, hcover, hsaids, hvisits, hending⟩ :=
        ih ((conduct (visitFeed r leg.feed)).exec world s).2
      have hok : leg.found.isOk = true := by rw [hfound]; rfl
      refine ⟨leg :: legs, by simpa using ⟨hsound, hsounds⟩, .next hok hcover, ?_, ?_, ?_⟩
      · simp [Except.map, conduct_bind, said_bind, hsaids]
      · simp [Except.map, conduct_bind, Dialogue.exec_bind, hvisits]
      · simp only [Except.map, Dialogue.pure_eq, conduct_bind, conduct_done, Dialogue.exec_bind,
          Dialogue.exec_done]
        rcases hending with ⟨hok', hfounds⟩ | ⟨e, herror, hfailed⟩
        · exact .inl ⟨hok', List.forall_mem_cons.mpr ⟨hok, hfounds⟩⟩
        · exact .inr ⟨e, herror, fun h => hfailed (List.forall_mem_cons.mp h).2⟩

/-- The visits of a run are those of its feeds; what it reports besides goes to the log. -/
theorem conduct_account (s : σ) :
    let t := ((log .info (checkpointText (.scanStarted r.selector.feeds r.limit))).exec world s).2
    let d := conduct (visitFeeds r r.selector.feeds)
    ((conduct (account r)).exec world s).1 = (d.exec world t).1 ∧
      said world (conduct (account r)) s = said world d t := by
  intro t d
  simp only [account, Dialogue.bind_eq, conduct_bind, conduct_report, said_bind, said_log,
    List.nil_append, Dialogue.exec_bind]
  -- at its end a run reports, unless a scan failed
  rcases (d.exec world t).1.ending with e | cancelled
  · exact ⟨rfl, List.append_nil _⟩
  · exact ⟨rfl, List.append_nil _⟩

/-- Apart from the log, a run is its legs.  It succeeds if and only if each of them does; it tells
    of its success if and only if no scan failed, and what it tells is the tally of its visits. -/
theorem exists_legs_run (s : σ) :
    let result := ((conduct (Backfill.run r)).exec world s).1
    ∃ legs : List Leg, (∀ leg ∈ legs, leg.Sound (connectionOf world) r) ∧
      Leg.Cover r.selector.feeds legs ∧
      said world (conduct (Backfill.run r)) s = (legs.flatMap (Leg.said r)).map ofDatabase ∧
      (result.isOk = true ↔ ∀ leg ∈ legs, leg.Succeeds) ∧
      ((∀ leg ∈ legs, leg.found.isOk = true) →
        summary? result = some ((Backfill.Visits.tally (legs.flatMap Leg.visits)).summary false)) ∧
      ((¬ ∀ leg ∈ legs, leg.found.isOk = true) → summary? result = none) := by
  intro result
  obtain ⟨haccount, hsaid⟩ := conduct_account world r s
  obtain ⟨legs, hsounds, hcover, hlegs, hvisits, hending⟩ := exists_legs world r r.selector.feeds
    ((log .info (checkpointText (.scanStarted r.selector.feeds r.limit))).exec world s).2
  rw [← haccount] at hvisits hending
  rw [← hsaid] at hlegs
  let a := ((conduct (account r)).exec world s).1
  have hresult : result = a.result := by
    simp only [result, a, Backfill.run_eq, conduct_bind, Dialogue.exec_bind]
    rfl
  have hfailures : a.failures = [] ↔ ∀ leg ∈ legs, ∀ p ∈ leg.passes, p.IsSettled := by
    rw [Account.failures, hvisits, Backfill.Visits.failures, List.filterMap_flatMap,
      List.flatMap_eq_nil_iff]
    exact forall₂_congr fun leg hleg => (hsounds leg hleg).failures_eq_nil_iff
  have hsucceeds : (∀ leg ∈ legs, leg.Succeeds) ↔
      (∀ leg ∈ legs, leg.found.isOk = true) ∧ a.failures = [] := by
    rw [hfailures]
    simp only [Leg.Succeeds, imp_and, forall_and]
  have hok : result.isOk = true ↔ a.ending.isOk = true ∧ a.failures = [] := by
    rw [hresult, Account.isOk_result]
  refine ⟨legs, hsounds, hcover, ?_, ?_⟩
  · rw [Backfill.run_eq, conduct_bind, said_bind]
    simpa using hlegs
  rw [hok, hsucceeds]
  rcases hending with ⟨hthrough, hall⟩ | ⟨e, herror, hfailed⟩
  · rw [hthrough, hresult, ← hvisits]
    exact ⟨and_congr_left fun _ => iff_of_true rfl hall,
      fun _ => Database.summary?_result_of_ok hthrough, fun h => absurd hall h⟩
  · rw [herror]
    refine ⟨and_congr_left fun _ => iff_of_false Bool.false_ne_true hfailed,
      fun h => absurd h hfailed, fun _ => ?_⟩
    rw [hresult, Account.result, herror]
    rfl

end Legs

end Command

end Reconcile
