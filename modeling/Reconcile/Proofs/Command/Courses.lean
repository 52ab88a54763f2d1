import Mathlib.Algebra.Order.BigOperators.Group.List
import Mathlib.Algebra.Order.Group.Nat
import Reconcile.Config
import Reconcile.Proofs.Command.Legs
import Reconcile.Proofs.Database.Migrating

/-! # Courses of the command

    The command goes through stages: it needs a configuration and a request, a connection, the
    schema if it is told to bring it up to date, and then the legs of a run.  Whatever it is
    answered, the stages that it came to are a course; what it says and how it ends are read off
    the course.

    Main statement: `exists_course`. -/

namespace Reconcile

/-! ## Section 1: Requests -/

/-- A request that can be made: its source is known, whatever its case and the white space
    around it, its limit is in range, and it names an organisation and a location. -/
structure BackfillConfig.IsValid (c : BackfillConfig) : Prop where
  source : ∃ f : Selector, Text.asciiUpper (Text.trimmed c.selector) = Coded.code f
  limit : 1 ≤ c.limit ∧ c.limit ≤ 2000
  organisation : ∃ x ∈ c.scope.organisation.toList, Text.isBlank x = false
  location : ∃ x ∈ c.scope.location.toList, Text.isBlank x = false

theorem Coded.exists_read_eq_ok_iff {α : Type} [Coded α] (hall : ∀ a : α, a ∈ Coded.all)
    (text : String) :
    (∃ a : α, Coded.read text = .ok a) ↔
      ∃ a : α, Text.asciiUpper (Text.trimmed text) = Coded.code a := by
  have hfound : (∃ a : α, Coded.read text = .ok a) ↔
      (Coded.ofCode? (α := α) (Text.asciiUpper (Text.trimmed text))).isSome = true := by
    rw [Coded.read]
    rcases Coded.ofCode? (α := α) (Text.asciiUpper (Text.trimmed text)) with _ | a <;> simp
  rw [hfound, Coded.ofCode?, List.find?_isSome]
  simp only [hall, true_and, beq_iff_eq]
  exact exists_congr fun a => eq_comm

theorem Selector.mem_all (f : Selector) : f ∈ (Coded.all : List Selector) := by
  cases f <;> decide

theorem Request.namesScope_iff (s : Scope) :
    Request.namesScope s = true ↔ (∃ x ∈ s.organisation.toList, Text.isBlank x = false) ∧
      ∃ x ∈ s.location.toList, Text.isBlank x = false := by
  simp [Request.namesScope, Text.isBlankText]

/-- A request is made if and only if it can be. -/
theorem BackfillConfig.exists_request_iff (c : BackfillConfig) :
    (∃ r, c.request = .ok r) ↔ c.IsValid := by
  have hread := Coded.exists_read_eq_ok_iff Selector.mem_all c.selector
  have hscope := Request.namesScope_iff c.scope
  rw [BackfillConfig.request, Request.read]
  rcases hselector : (Coded.read c.selector : Except UnknownCode Selector) with e | f
  · -- the source is read first, so nothing else counts if it is unknown
    rw [hselector] at hread
    refine iff_of_false (by simp) fun h => ?_
    simpa using hread.mpr h.source
  · have hsource := hread.mp ⟨f, hselector⟩
    simp only [Request.make, Option.getD_some]
    by_cases hlimit : 1 ≤ c.limit ∧ c.limit ≤ maxLimit
    · rw [dif_pos hlimit]
      by_cases hnames : Request.namesScope c.scope = true
      · rw [if_pos hnames]
        obtain ⟨horganisation, hlocation⟩ := hscope.mp hnames
        exact iff_of_true ⟨_, rfl⟩ ⟨hsource, hlimit, horganisation, hlocation⟩
      · rw [if_neg hnames]
        refine iff_of_false (by simp) fun h => ?_
        exact hnames (hscope.mpr ⟨h.organisation, h.location⟩)
    · rw [dif_neg hlimit]
      exact iff_of_false (by simp) fun h => hlimit h.limit

/-- The request is for what is configured. -/
structure Request.IsFor (r : Request) (c : BackfillConfig) : Prop where
  scope : r.scope = c.scope
  limit : r.limit = c.limit
  selector : Coded.code r.selector = Text.asciiUpper (Text.trimmed c.selector)

theorem BackfillConfig.isFor_of_request {c : BackfillConfig} {r : Request}
    (h : c.request = .ok r) : r.IsFor c := by
  rw [BackfillConfig.request, Request.read] at h
  rcases hselector : (Coded.read c.selector : Except UnknownCode Selector) with e | f
  · rw [hselector] at h
    cases h
  · simp only [hselector, Request.make, Option.getD_some] at h
    split at h
    · split at h
      · obtain rfl := Except.ok.inj h
        exact ⟨rfl, rfl, Coded.code_of_read hselector⟩
      · cases h
    · cases h

namespace Command

open Backfill (Visit)
open Database (Connection Pass isConfirmed)
open Dialogue (Turn Answerer)

/-! ## Section 2: Courses -/

/-- The attempt to connect, with its answer. -/
def connectTurn (c : DatabaseConfig) (a : Except String Unit) : Turn Question.Answer :=
  ⟨.connect c, a⟩

/-- How far the command comes with a configuration and a request. -/
inductive Course where
  /-- The address of the database makes no sense. -/
  | lost
  /-- The database refused to be connected to. -/
  | refused (message : String)
  /-- The schema could not be brought up to date. -/
  | unprepared (schema : List (Turn Database.Question.Answer)) (e : MigrationError)
  /-- There was a run, after what had to be said about the schema. -/
  | ran (schema : List (Turn Database.Question.Answer)) (legs : List Leg)

namespace Course

variable {σ : Type} {connection : Connection σ} {c : DatabaseConfig} {r : Request}
  {course : Course}

/-- What is said apart from the log, up to the end of the run. -/
def said (c : DatabaseConfig) (r : Request) : Course → List (Turn Question.Answer)
  | .lost => []
  | .refused m => [connectTurn c (.error m)]
  | .unprepared schema _ => connectTurn c (.ok ()) :: schema.map ofDatabase
  | .ran schema legs =>
    connectTurn c (.ok ()) :: (schema ++ legs.flatMap (Leg.said r)).map ofDatabase

/-- The legs of the run, if there was one. -/
def legs : Course → List Leg
  | .ran _ legs => legs
  | _ => []

def visits (course : Course) : List Visit := course.legs.flatMap Leg.visits

/-- The lines that were written. -/
def lines (course : Course) : List Line := Backfill.Visits.lines course.visits

/-- How many commits of invoices the database confirmed. -/
def commits (r : Request) (course : Course) : Nat :=
  (course.legs.flatMap (Leg.said r)).countP isConfirmed

/-- There was a run, and no scan of it failed. -/
def Completes : Course → Prop
  | .ran _ legs => ∀ leg ∈ legs, leg.found.isOk = true
  | _ => False

/-- There was a run, and each of its legs succeeds. -/
def Succeeds : Course → Prop
  | .ran _ legs => ∀ leg ∈ legs, leg.Succeeds
  | _ => False

theorem Succeeds.completes (h : course.Succeeds) : course.Completes := by
  cases course with
  | ran schema legs => exact fun leg hleg => (h leg hleg).1
  | _ => exact h

/-- This is said to bring the schema up to date, and with this result.  Nothing is said if that is
    not wanted. -/
def Prepares (wanted : Bool) (schema : List (Turn Database.Question.Answer))
    (a : Except MigrationError Unit) : Prop :=
  if wanted then Database.Migrates schema a else schema = [] ∧ a = .ok ()

/-- The course comes to a stage if the stages before it succeeded, and ends with the first that
    did not; a run goes through the feeds that are asked for. -/
def Sound (connection : Connection σ) (c : DatabaseConfig) (r : Request) : Course → Prop
  | .lost => (Database.Address.check c.address).isOk = false
  | .refused _ => (Database.Address.check c.address).isOk = true
  | .unprepared schema e => (Database.Address.check c.address).isOk = true ∧
    Prepares c.migrate schema (.error e)
  | .ran schema legs => (Database.Address.check c.address).isOk = true ∧
    Prepares c.migrate schema (.ok ()) ∧ (∀ leg ∈ legs, leg.Sound connection r) ∧
    Leg.Cover r.selector.feeds legs

theorem Sound.leg (h : course.Sound connection c r) :
    ∀ leg ∈ course.legs, leg.Sound connection r := by
  cases course with
  | ran schema legs => exact h.2.2.1
  | _ => simp [legs]

/-- The commits that were confirmed are those of the candidates that were written. -/
theorem Sound.commits_eq (h : course.Sound connection c r) :
    course.commits r = course.visits.countP Visit.isWritten := by
  rw [commits, visits, List.countP_flatMap, List.countP_flatMap]
  exact congrArg List.sum (List.map_congr_left fun leg hleg => (h.leg leg hleg).countP_isConfirmed)

/-- No more candidates are visited than are asked for of two feeds. -/
theorem Sound.length_visits_le (h : course.Sound connection c r) :
    course.visits.length ≤ 2 * maxLimit := by
  have hlegs : course.legs.length ≤ 2 := by
    cases course with
    | ran schema legs =>
      refine h.2.2.2.length_le.trans ?_
      cases r.selector <;> decide
    | _ => exact Nat.zero_le _
  have hlength : ∀ leg ∈ course.legs, leg.visits.length ≤ maxLimit := fun leg hleg =>
    (h.leg leg hleg).length_visits_le.trans r.limit_le_max
  rw [visits, List.length_flatMap]
  calc ((course.legs.map fun leg => leg.visits.length)).sum
      ≤ (course.legs.map fun leg => leg.visits.length).length * maxLimit :=
        List.sum_le_card_nsmul _ _ (by simpa using hlength)
    _ ≤ 2 * maxLimit := Nat.mul_le_mul_right _ (by simpa using hlegs)

/-- What is written is said, in statements of at most 1000 lines each. -/
theorem Sound.length_lines_le (h : course.Sound connection c r) :
    course.lines.length ≤ 1000 * (course.said c r).length := by
  let ps := course.legs.flatMap (·.passes)
  have hvisits : course.visits = ps.map (·.visit) := by
    rw [List.map_flatMap]
    rfl
  have hsounds : ∀ p ∈ ps, p.Sound connection := by
    intro p hp
    obtain ⟨leg, hleg, hp⟩ := List.mem_flatMap.mp hp
    exact (h.leg leg hleg).passes p hp
  -- a leg says more than its passes do, and the course more than its legs
  have hleg : ∀ leg ∈ course.legs,
      (leg.passes.flatMap Pass.said).length ≤ (leg.said r).length := fun _ _ => Nat.le_succ _
  have hpasses : (ps.flatMap Pass.said).length ≤
      (course.legs.flatMap (Leg.said r)).length := by
    rw [List.flatMap_assoc, List.length_flatMap, List.length_flatMap]
    exact List.sum_le_sum hleg
  have hlegs : (course.legs.flatMap (Leg.said r)).length ≤ (course.said c r).length := by
    cases course with
    | ran schema legs =>
      simp only [Course.legs, said, List.length_cons, List.length_map, List.length_append]
      omega
    | _ => exact Nat.zero_le _
  rw [lines, hvisits]
  exact (Database.length_lines_le hsounds).trans
    (Nat.mul_le_mul_left _ (hpasses.trans hlegs))

end Course

/-! ## Section 3: Stages -/

section Stages

variable {σ ε α β : Type} (world : Answerer Question.Answer σ)

theorem exec_andThen (d : Talk (Except ε α)) (k : α → Talk (Except ε β)) (s : σ) :
    (andThen d k).exec world s =
      match (d.exec world s).1 with
      | .error e => (.error e, (d.exec world s).2)
      | .ok a => (k a).exec world (d.exec world s).2 := by
  rw [andThen, Dialogue.exec_bind]
  rcases (d.exec world s).1 with e | a <;> rfl

theorem said_andThen (d : Talk (Except ε α)) (k : α → Talk (Except ε β)) (s : σ) :
    said world (andThen d k) s = said world d s ++
      match (d.exec world s).1 with
      | .error _ => []
      | .ok a => said world (k a) (d.exec world s).2 := by
  rw [andThen, said_bind]
  rcases (d.exec world s).1 with e | a <;> rfl

/-- An attempt to connect is made if the address makes sense. -/
theorem connect_cases (c : DatabaseConfig) (s : σ) :
    ((Database.Address.check c.address).isOk = false ∧
      (∃ e, ((connect c).exec world s).1 = .error (.store e)) ∧ said world (connect c) s = []) ∨
    (Database.Address.check c.address).isOk = true ∧ ∃ a,
      ((connect c).exec world s).1 = a.mapError (fun m => .store (.server m)) ∧
      said world (connect c) s = [connectTurn c a] := by
  rw [connect]
  rcases Database.Address.check c.address with e | ⟨⟩
  · exact .inl ⟨rfl, ⟨_, rfl⟩, rfl⟩
  · refine .inr ⟨rfl, (world (.connect c) s).1, ?_, ?_⟩
    · rw [Dialogue.exec_bind, Dialogue.exec_question]
      rcases (world (.connect c) s).1 with m | ⟨⟩ <;> rfl
    · rw [said_bind, Dialogue.exec_question]
      -- the dialogue ends with the answer, whatever it is
      rcases ha : (world (.connect c) s).1 with m | ⟨⟩ <;>
        exact congrArg (fun a => [connectTurn c a]) ha

theorem exists_prepares (wanted : Bool) (s : σ) :
    ∃ schema a, Course.Prepares wanted schema a ∧
      ((prepare wanted).exec world s).1 = a.mapError (fun e => .store (.migration e)) ∧
      said world (prepare wanted) s = schema.map ofDatabase := by
  cases wanted with
  | false => exact ⟨[], .ok (), ⟨rfl, rfl⟩, rfl, rfl⟩
  | true =>
    refine ⟨_, _, Database.migrates (connectionOf world) s, ?_, ?_⟩
    · rw [prepare, if_pos rfl, Dialogue.exec_bind, exec_overDatabase]
      rcases (Database.migrate.exec (connectionOf world) s).1 with e | ⟨⟩ <;> rfl
    · rw [prepare, if_pos rfl, said_bind, exec_overDatabase, said_overDatabase]
      rcases (Database.migrate.exec (connectionOf world) s).1 with e | ⟨⟩ <;>
        exact List.append_nil _

theorem backfill_eq (r : Request) (s : σ) :
    ((backfill r).exec world s).1 =
        ((conduct (Backfill.run r)).exec world s).1.mapError .run ∧
      said world (backfill r) s = said world (conduct (Backfill.run r)) s := by
  have hconduct : backfill r = (conduct (Backfill.run r)).bind _ := rfl
  rw [hconduct, Dialogue.exec_bind, said_bind]
  rcases ((conduct (Backfill.run r)).exec world s).1 with e | summary <;>
    exact ⟨rfl, List.append_nil _⟩

/-- Without a request nothing is said. -/
theorem perform_of_not_isValid {c : Config} (h : ¬ c.backfill.IsValid) (s : σ) :
    (∃ e, ((perform (some c)).exec world s).1 = .error (.request e)) ∧
      said world (perform (some c)) s = [] := by
  obtain ⟨e, he⟩ : ∃ e, c.backfill.request = .error e := by
    rcases hrequest : c.backfill.request with e | r
    · exact ⟨e, rfl⟩
    · exact absurd (c.backfill.exists_request_iff.mp ⟨r, hrequest⟩) h
  rw [perform, he]
  exact ⟨⟨e, rfl⟩, rfl⟩

/-- What the command tells of its success, also where it fails because of some invoices. -/
def told? : Except CommandError Summary → Option Summary
  | .ok summary => some summary
  | .error e => e.batch?.map (·.2)

theorem told?_mapError_run (result : Except RunError Summary) :
    told? (result.mapError .run) = Database.summary? result := by
  rcases result with (e | ⟨failures, partly⟩) | summary <;> rfl

/-- With a request the command goes through a course.  It succeeds if and only if the course does;
    if there is something to tell, that is the tally of the visits. -/
theorem exists_course {c : Config} {r : Request} (h : c.backfill.request = .ok r) (s : σ) :
    let result := ((perform (some c)).exec world s).1
    ∃ course : Course, course.Sound (connectionOf world) c.database r ∧
      said world (perform (some c)) s = course.said c.database r ∧
      (result.isOk = true ↔ course.Succeeds) ∧
      (course.Completes →
        told? result = some ((Backfill.Visits.tally course.visits).summary false)) ∧
      (¬ course.Completes → told? result = none) := by
  simp only [perform, h, Dialogue.exec_bind, said_bind, said_log, List.nil_append, exec_andThen,
    said_andThen]
  -- a line of the log may change the state of whoever answers, but nothing else
  generalize ((log .info (startText r)).exec world s).2 = s₁
  rcases connect_cases world c.database s₁ with ⟨haddress, ⟨e, hexec⟩, hsaid⟩ |
    ⟨haddress, m | ⟨⟩, hexec, hsaid⟩
  · rw [hexec, hsaid]
    exact ⟨.lost, haddress, rfl, iff_of_false Bool.false_ne_true id, nofun, fun _ => rfl⟩
  · rw [hexec, hsaid]
    exact ⟨.refused m, haddress, rfl, iff_of_false Bool.false_ne_true id, nofun, fun _ => rfl⟩
  have hconnected : ((connect c.database).exec world s₁).1 = .ok () := hexec
  simp only [hconnected, hsaid]
  generalize ((log .info "Database pool created").exec world _).2 = s₂
  obtain ⟨schema, a, hprepares, hexec, hsaid⟩ := exists_prepares world c.database.migrate s₂
  rcases a with e | ⟨⟩
  · rw [hexec, hsaid]
    exact ⟨.unprepared schema e, ⟨haddress, hprepares⟩, congrArg (_ :: ·) (List.append_nil _),
      iff_of_false Bool.false_ne_true id, nofun, fun _ => rfl⟩
  have hprepared : ((prepare c.database.migrate).exec world s₂).1 = .ok () := hexec
  simp only [hprepared, hsaid]
  generalize ((prepare c.database.migrate).exec world s₂).2 = s₃
  obtain ⟨hexec, hsaid⟩ := backfill_eq world r s₃
  obtain ⟨legs, hsounds, hcover, hlegs, hok, hall, hfailed⟩ := exists_legs_run world r s₃
  refine ⟨.ran schema legs, ⟨haddress, hprepares, hsounds, hcover⟩, ?_, ?_, fun h => ?_,
    fun h => ?_⟩
  · rw [hsaid, hlegs, Course.said, List.map_append]
    rfl
  · rw [hexec]
    refine Iff.trans ?_ hok
    rcases ((conduct (Backfill.run r)).exec world s₃).1 with e | summary <;> rfl
  · rw [hexec, told?_mapError_run]
    exact hall h
  · rw [hexec, told?_mapError_run]
    exact hfailed h

end Stages

end Command

end Reconcile
