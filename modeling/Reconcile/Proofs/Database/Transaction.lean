import Reconcile.Proofs.Database.Pieces
import Reconcile.Proofs.Dialogue.Transcript

/-! # The transaction of an invoice

    What is said to a database to replace an invoice: the header is put in place, all lines of
    the invoice that the database named are deleted, the new ones are inserted piece by piece,
    and the whole is committed.  The database may refuse at any point, and may answer the first
    statement with rows that hold no header; what is said then is that it is given up.

    Main statement: `exists_block`, whatever the database answers, a replacement is one such
    transaction, and it succeeds if and only if the commit was confirmed. -/

namespace Reconcile.Database

open Dialogue (Turn Follows Answerer)

/-! ## Section 1: Turns -/

/-- A connection, which may answer anything. -/
abbrev Connection (σ : Type) := Answerer Question.Answer σ

/-- The header in the answer to an upsert. -/
def storedHeader : Except String (List Row) → Except StoreError Header
  | .error m => .error (.server m)
  | .ok [] => .error .rowNotFound
  | .ok (row :: _) =>
    match HeaderRow.ofRow row with
    | .error e => .error e
    | .ok r => r.toHeader

/-- The turn of a transaction went well: the database did not refuse, and gave this header where
    it had to give one. -/
def Fine (h : Header) : Turn Question.Answer → Prop
  | ⟨.begin, a⟩ => a = Except.ok ()
  | ⟨.commit, a⟩ => a = Except.ok ()
  | ⟨.query _, a⟩ => storedHeader a = .ok h
  | ⟨.execute _, a⟩ => ∃ n, a = Except.ok n
  | _ => True

/-- A commit that was confirmed. -/
def isConfirmed : Turn Question.Answer → Bool
  | ⟨.commit, Except.ok _⟩ => true
  | _ => false

def beginTurn (a : Except String Unit) : Turn Question.Answer := ⟨.begin, a⟩

def commitTurn (a : Except String Unit) : Turn Question.Answer := ⟨.commit, a⟩

/-- The end of a transaction that is given up. -/
def rollbackTurn : Turn Question.Answer := ⟨.rollback, ()⟩

/-! ## Section 2: Steps of a transaction -/

section Steps

variable {σ ε α β : Type} (connection : Connection σ) (h : Header)

/-- The steps go through a script, and succeed if they get to its end. -/
def Obeys (d : Talk (Except ε α)) (s : σ) (script : List Question) : Prop :=
  Follows (Fine h) script (d.transcript connection s) (d.exec connection s).1.isOk

theorem transcript_andThen (d : Talk (Except ε α)) (k : α → Talk (Except ε β)) (s : σ) :
    (andThen d k).transcript connection s = d.transcript connection s ++
      match (d.exec connection s).1 with
      | .error _ => []
      | .ok a => (k a).transcript connection (d.exec connection s).2 := by
  rw [andThen, Dialogue.transcript_bind]
  rcases (d.exec connection s).1 with e | a <;> rfl

theorem exec_andThen (d : Talk (Except ε α)) (k : α → Talk (Except ε β)) (s : σ) :
    (andThen d k).exec connection s =
      match (d.exec connection s).1 with
      | .error e => (.error e, (d.exec connection s).2)
      | .ok a => (k a).exec connection (d.exec connection s).2 := by
  rw [andThen, Dialogue.exec_bind]
  rcases (d.exec connection s).1 with e | a <;> rfl

variable {connection h}

theorem obeys_done (a : α) (s : σ) :
    Obeys connection h (Dialogue.done (.ok a) : Talk (Except ε α)) s [] := .through

theorem obeys_andThen {d : Talk (Except ε α)} {k : α → Talk (Except ε β)} {s : σ}
    {script script' : List Question} (hd : Obeys connection h d s script)
    (hk : ∀ a, (d.exec connection s).1 = .ok a →
      Obeys connection h (k a) (d.exec connection s).2 script') :
    Obeys connection h (andThen d k) s (script ++ script') := by
  rw [Obeys, transcript_andThen, exec_andThen]
  rw [Obeys] at hd
  rcases hr : (d.exec connection s).1 with e | a
  · -- the first part stopped, so the second one is never begun
    rw [hr] at hd
    rw [List.append_nil]
    exact hd.append_right script'
  · rw [hr] at hd
    exact hd.append (hk a hr)

theorem obeys_execute (st : Statement) (s : σ) :
    Obeys connection h (execute st) s [.execute st] := by
  rw [Obeys, execute, Dialogue.transcript_bind, Dialogue.exec_bind]
  simp only [Dialogue.transcript_question, Dialogue.exec_question]
  rcases hr : (connection (.execute st) s).1 with m | n
  · exact Follows.single (iff_of_false (fun ⟨_, hn⟩ => by cases hn) Bool.false_ne_true)
  · exact Follows.single (iff_of_true ⟨n, rfl⟩ rfl)

theorem obeys_insertPieces (pieces : List (List StoredLine)) (n : Nat) (s : σ) :
    Obeys connection h (insertPieces pieces n) s
      (pieces.map fun piece => .execute (.insertLines piece)) := by
  induction pieces generalizing n s with
  | nil => exact obeys_done n s
  | cons piece pieces ih =>
    exact obeys_andThen (obeys_execute (.insertLines piece) s) fun k _ => ih (n + k) _

theorem upsertHeader_eq (d : HeaderDraft) :
    upsertHeader d =
      (Dialogue.question (A := Question.Answer) (.query (.upsertHeader d))).bind fun a =>
        .done (storedHeader a) := by
  rw [upsertHeader, query, Dialogue.bind_assoc]
  congr 1
  funext a
  rcases a with m | (_ | ⟨row, rows⟩)
  · rfl
  · rfl
  · simp only [Dialogue.done_bind, storedHeader]
    rcases HeaderRow.ofRow row with e | r <;> rfl

variable (connection) in
theorem exec_upsertHeader (d : HeaderDraft) (s : σ) :
    ((upsertHeader d).exec connection s).1 =
      storedHeader (connection (.query (.upsertHeader d)) s).1 := by
  rw [upsertHeader_eq, Dialogue.exec_bind]
  rfl

/-- An upsert goes well if it gives the header, and otherwise gives none. -/
theorem obeys_upsertHeader {d : HeaderDraft} {s : σ}
    (hh : ∀ h', ((upsertHeader d).exec connection s).1 = .ok h' → h' = h) :
    Obeys connection h (upsertHeader d) s [.query (.upsertHeader d)] := by
  have hexec := exec_upsertHeader connection d s
  rw [Obeys, hexec, upsertHeader_eq, Dialogue.transcript_bind]
  simp only [Dialogue.transcript_question, Dialogue.transcript_done, List.append_nil]
  apply Follows.single
  show storedHeader (connection (.query (.upsertHeader d)) s).1 = .ok h ↔ _
  rcases hr : storedHeader (connection (.query (.upsertHeader d)) s).1 with e | h'
  · simp [Except.isOk, Except.toBool]
  · rw [hr] at hexec
    simp [Except.isOk, Except.toBool, hh h' hexec]

variable (connection) in
/-- What is said in a transaction, and how it ends. -/
theorem inTransaction_cases (refused : String → ε) (steps : Talk (Except ε α)) (s : σ) :
    let d := inTransaction refused steps
    let u := (connection .begin s).2
    let said := d.transcript connection s
    let result := (d.exec connection s).1
    (∃ m, said = [beginTurn (.error m), rollbackTurn] ∧ result = .error (refused m)) ∨
    (∃ e, (steps.exec connection u).1 = .error e ∧
      said = beginTurn (.ok ()) :: (steps.transcript connection u ++ [rollbackTurn]) ∧
      result = .error e) ∨
    (∃ a m, (steps.exec connection u).1 = .ok a ∧
      said = beginTurn (.ok ()) ::
        (steps.transcript connection u ++ [commitTurn (.error m), rollbackTurn]) ∧
      result = .error (refused m)) ∨
    (∃ a, (steps.exec connection u).1 = .ok a ∧
      said = beginTurn (.ok ()) :: (steps.transcript connection u ++ [commitTurn (.ok ())]) ∧
      result = .ok a) := by
  simp only [inTransaction, Dialogue.transcript_bind, Dialogue.exec_bind,
    Dialogue.transcript_question, Dialogue.exec_question]
  rcases (connection .begin s).1 with m | ⟨⟩
  · exact .inl ⟨m, rfl, rfl⟩
  · right
    simp only [Dialogue.transcript_bind, Dialogue.exec_bind]
    rcases (steps.exec connection (connection .begin s).2).1 with e | a
    · exact .inl ⟨e, rfl, rfl, rfl⟩
    · right
      simp only [Dialogue.transcript_bind, Dialogue.exec_bind, Dialogue.transcript_question,
        Dialogue.exec_question]
      rcases (connection .commit (steps.exec connection (connection .begin s).2).2).1 with m | ⟨⟩
      · exact .inl ⟨a, m, rfl, rfl, rfl⟩
      · exact .inr ⟨a, rfl, rfl, rfl⟩

/-- A transaction goes through begin, its steps and commit; if one of them goes wrong it is
    given up. -/
theorem follows_inTransaction (refused : String → ε) {steps : Talk (Except ε α)} {s : σ}
    {script : List Question} (hsteps : Obeys connection h steps (connection .begin s).2 script) :
    let d := inTransaction refused steps
    let through := (d.exec connection s).1.isOk
    (∃ asked, Follows (Fine h) (.begin :: (script ++ [.commit])) asked through ∧
      d.transcript connection s = asked ++ if through then [] else [rollbackTurn]) ∧
      ∀ a, (d.exec connection s).1 = .ok a →
        (steps.exec connection (connection .begin s).2).1 = .ok a := by
  intro d through
  have hbegin : Fine h (beginTurn (.ok ())) := rfl
  -- refused at once, given up at a step, refused at the commit, or committed
  rcases inTransaction_cases connection refused steps s with
    ⟨m, hsaid, hresult⟩ | ⟨e, hr, hsaid, hresult⟩ | ⟨a, m, hr, hsaid, hresult⟩ |
    ⟨a, hr, hsaid, hresult⟩
  · have hthrough : through = false := congrArg Except.isOk hresult
    rw [hthrough]
    refine ⟨⟨[beginTurn (.error m)], ?_, hsaid⟩, fun a ha => ?_⟩
    · exact .stopped (t := beginTurn (.error m)) fun hfine => by cases hfine
    · rw [hresult] at ha
      cases ha
  · have hthrough : through = false := congrArg Except.isOk hresult
    rw [Obeys, hr] at hsteps
    rw [hthrough]
    refine ⟨⟨_, .next hbegin (hsteps.append_right [.commit]), hsaid⟩, fun a ha => ?_⟩
    rw [hresult] at ha
    cases ha
  · have hthrough : through = false := congrArg Except.isOk hresult
    rw [Obeys, hr] at hsteps
    have hcommit : Follows (Fine h) [.commit] [commitTurn (.error m)] false :=
      .stopped (t := commitTurn (.error m)) fun hfine => by cases hfine
    rw [hthrough]
    refine ⟨⟨_, .next hbegin (hsteps.append hcommit), ?_⟩, fun a ha => ?_⟩
    · rw [hsaid]
      simp
    · rw [hresult] at ha
      cases ha
  · have hthrough : through = true := congrArg Except.isOk hresult
    rw [Obeys, hr] at hsteps
    have hcommit : Follows (Fine h) [.commit] [commitTurn (.ok ())] true :=
      .next (t := commitTurn (.ok ())) rfl .through
    rw [hthrough]
    refine ⟨⟨_, .next hbegin (hsteps.append hcommit), ?_⟩, fun a' ha => ?_⟩
    · rw [hsaid]
      simp
    · rw [hresult] at ha
      rw [hr]
      exact ha

end Steps

/-! ## Section 3: Blocks -/

/-- The transaction for one invoice: its statements, and what is said. -/
structure Block where
  draft : HeaderDraft
  lines : List Line
  /-- The header that the database gave, once it did. -/
  header : Header
  upsert : Statement
  delete : Statement
  inserts : List Statement
  said : List (Turn Question.Answer)

namespace Block

/-- What is to be said before the commit. -/
def steps (b : Block) : List Question :=
  [.begin, .query b.upsert, .execute b.delete] ++ b.inserts.map .execute

/-- All that is to be said. -/
def script (b : Block) : List Question := b.steps ++ [.commit]

/-- The commit was sent and confirmed. -/
def isCommitted (b : Block) : Bool := b.said.any isConfirmed

/-- What the statements of the transaction change, by their texts: the header is put in place, the
    lines of the header that the database gave are taken out, and all lines of the invoice are
    put in, each once, by statements that have at least one line each. -/
structure Carries (b : Block) : Prop where
  upsert : b.upsert.change? = some (.insert (headerInsert b.draft))
  delete : b.delete.change? = some (.delete (lineDelete b.header.id))
  inserts : b.inserts.flatMap Statement.insertedLines =
    b.lines.map fun l => .ok (b.header.storedLine l)
  limits : ∀ st ∈ b.inserts, st.WithinLimits

/-- The transaction keeps to its script.  It is committed when all of it was said and went well;
    otherwise what went wrong is the last that was said of the script, and the transaction is
    given up. -/
structure Sound (b : Block) : Prop where
  carries : b.Carries
  committed : b.isCommitted = true →
    b.said.map (·.question) = b.script ∧ ∀ t ∈ b.said, Fine b.header t
  abandoned : b.isCommitted = false → ∃ asked t, b.said = asked ++ [t, rollbackTurn] ∧
    (asked ++ [t]).map (·.question) <+: b.script ∧ (∀ u ∈ asked, Fine b.header u) ∧
    ¬ Fine b.header t

theorem commit_not_mem_steps (b : Block) : Question.commit ∉ b.steps := by
  simp [steps]

end Block

theorem question_of_isConfirmed {t : Turn Question.Answer} (h : isConfirmed t = true) :
    t.question = .commit ∧ ∀ header, Fine header t := by
  obtain ⟨q, a⟩ := t
  cases q with
  | commit =>
    cases a with
    | error m => cases h
    | ok u => exact ⟨rfl, fun _ => rfl⟩
  | _ => cases h

theorem isConfirmed_of_fine {h : Header} {t : Turn Question.Answer} (hq : t.question = .commit)
    (ht : Fine h t) : isConfirmed t = true := by
  obtain ⟨q, a⟩ := t
  obtain rfl : q = .commit := hq
  obtain rfl : a = Except.ok () := ht
  rfl

namespace Block

variable {b : Block} {asked : List (Turn Question.Answer)}

theorem isCommitted_of_follows (h : Follows (Fine b.header) b.script asked true)
    (hsaid : b.said = asked) : b.isCommitted = true := by
  have hmem : Question.commit ∈ asked.map (·.question) := by simp [h.map_question, script]
  obtain ⟨t, ht, hq⟩ := List.mem_map.mp hmem
  exact List.any_eq_true.mpr ⟨t, hsaid ▸ ht, isConfirmed_of_fine hq (h.fine_of_mem t ht)⟩

/-- The turn that went wrong comes after all others, so none of these is the commit; and it is no
    commit that was confirmed. -/
theorem not_isCommitted_of_follows {t : Turn Question.Answer}
    (h : Follows (Fine b.header) b.script (asked ++ [t]) false) (ht : ¬ Fine b.header t)
    (hsaid : b.said = asked ++ [t, rollbackTurn]) : b.isCommitted = false := by
  rw [isCommitted, hsaid, List.any_eq_false]
  intro u hu hconfirmed
  obtain ⟨hq, hfine⟩ := question_of_isConfirmed hconfirmed
  rcases List.mem_append.mp hu with hu | hu
  · apply b.commit_not_mem_steps
    rw [← hq]
    exact h.isPrefix_of_append.subset (List.mem_map_of_mem hu)
  · rcases List.mem_cons.mp hu with rfl | hu
    · exact ht (hfine _)
    · obtain rfl := List.mem_singleton.mp hu
      cases hq

/-- The script may be followed to its end or stop anywhere; if it stops, the transaction is given
    up. -/
theorem sound_of_follows {through : Bool}
    (hcarries : b.Carries)
    (h : Follows (Fine b.header) b.script asked through)
    (hsaid : b.said = asked ++ if through then [] else [rollbackTurn]) :
    b.Sound ∧ b.isCommitted = through := by
  cases through with
  | true =>
    have hsaid' : b.said = asked := by simpa using hsaid
    have hcommitted := isCommitted_of_follows h hsaid'
    refine ⟨⟨hcarries, fun _ => ?_, fun hnot => ?_⟩, hcommitted⟩
    · rw [hsaid']
      exact ⟨h.map_question, h.fine_of_mem⟩
    · rw [hcommitted] at hnot
      cases hnot
  | false =>
    obtain ⟨xs, t, rfl, hgood, hbad⟩ := h.exists_not_fine
    have hsaid' : b.said = xs ++ [t, rollbackTurn] := by simpa using hsaid
    have hnot := not_isCommitted_of_follows h hbad hsaid'
    refine ⟨⟨hcarries, fun hcommitted => ?_, fun _ => ?_⟩, hnot⟩
    · rw [hnot] at hcommitted
      cases hcommitted
    · exact ⟨xs, t, hsaid', h.isPrefix, hgood, hbad⟩

/-- A transaction has as many confirmed commits as it was committed times: one or none. -/
theorem Sound.countP_isConfirmed (h : b.Sound) :
    b.said.countP isConfirmed = if b.isCommitted then 1 else 0 := by
  cases hc : b.isCommitted with
  | false =>
    rw [isCommitted, List.any_eq_false] at hc
    simpa [List.countP_eq_zero] using hc
  | true =>
    obtain ⟨hscript, hfine⟩ := h.committed hc
    -- the script asks for one commit, at its end
    obtain ⟨xs, ys, hsaid, hxs, hys⟩ := List.map_eq_append_iff.mp hscript
    obtain ⟨t, rfl, ht⟩ : ∃ t, ys = [t] ∧ t.question = .commit := by
      rcases ys with _ | ⟨t, _ | ⟨u, ys⟩⟩ <;> simp_all
    have hconfirmed : isConfirmed t = true :=
      isConfirmed_of_fine ht (hfine t (by simp [hsaid]))
    have hnone : xs.countP isConfirmed = 0 := by
      rw [List.countP_eq_zero]
      intro u hu hu'
      apply b.commit_not_mem_steps
      rw [← hxs, ← (question_of_isConfirmed hu').1]
      exact List.mem_map_of_mem hu
    simp [hsaid, List.countP_append, hnone, hconfirmed]

/-- What is written is said, in statements of at most 1000 lines each. -/
theorem Sound.length_lines_le (h : b.Sound) (hc : b.isCommitted = true) :
    b.lines.length ≤ 1000 * b.said.length := by
  have hscript : b.script.length = b.said.length := by
    rw [← (h.committed hc).1, List.length_map]
  have hinserts : b.inserts.length ≤ b.said.length := by
    rw [← hscript]
    simp only [script, steps, List.length_append, List.length_map]
    omega
  calc b.lines.length
      = (b.inserts.flatMap Statement.insertedLines).length := by
        rw [h.carries.inserts, List.length_map]
    _ ≤ 1000 * b.inserts.length := Statement.length_flatMap_insertedLines_le h.carries.limits
    _ ≤ 1000 * b.said.length := Nat.mul_le_mul_left _ hinserts

end Block

/-! ## Section 4: Replacing an invoice -/

section Replace

variable {σ : Type} (connection : Connection σ) (d : HeaderDraft) (lines : List Line) (s : σ)

/-- What is done within the transaction of an invoice. -/
def replaceSteps : Talk (Except StoreError Header) :=
  andThen (upsertHeader d) fun header =>
    andThen (execute (.deleteLines header.id)) fun _ =>
      andThen (insertLines (lines.map header.storedLine)) fun _ => .done (.ok header)

/-- What is to be said in the transaction of an invoice when the database gives this header. -/
def blockOf (h : Header) : Block where
  draft := d
  lines := lines
  header := h
  upsert := .upsertHeader d
  delete := .deleteLines h.id
  inserts := lineInserts maxLinesPerInsert (lines.map h.storedLine)
  said := (replace d lines).transcript connection s

theorem carries_blockOf (h : Header) : (blockOf connection d lines s h).Carries where
  upsert := Statement.change?_upsertHeader d
  delete := Statement.change?_deleteLines h.id
  inserts := by
    show (lineInserts maxLinesPerInsert (lines.map h.storedLine)).flatMap _ = _
    rw [insertedLines_lineInserts (by decide), List.map_map]
    rfl
  limits _ := withinLimits_of_mem_lineInserts (by decide) (by decide)

variable {connection d lines s}

theorem obeys_replaceSteps {h : Header}
    (hh : ∀ h', ((upsertHeader d).exec connection s).1 = .ok h' → h' = h) :
    Obeys connection h (replaceSteps d lines) s (blockOf connection d lines s h).steps.tail := by
  have hsteps : (blockOf connection d lines s h).steps.tail =
      [.query (.upsertHeader d)] ++ ([.execute (.deleteLines h.id)] ++
        ((Digest.pieces maxLinesPerInsert (lines.map h.storedLine)).map
          (fun piece => .execute (.insertLines piece)) ++ [])) := by
    simp [Block.steps, blockOf, lineInserts]
  rw [hsteps]
  refine obeys_andThen (obeys_upsertHeader hh) fun h' hh' => ?_
  obtain rfl := hh h' hh'
  exact obeys_andThen (obeys_execute _ _) fun _ _ =>
    obeys_andThen (obeys_insertPieces _ _ _) fun _ _ => obeys_done _ _

theorem exec_replaceSteps {h : Header} (hr : ((replaceSteps d lines).exec connection s).1 = .ok h) :
    ((upsertHeader d).exec connection s).1 = .ok h := by
  rw [replaceSteps, exec_andThen] at hr
  rcases hu : ((upsertHeader d).exec connection s).1 with e | h'
  · rw [hu] at hr
    cases hr
  · simp only [hu, exec_andThen] at hr
    split at hr
    · cases hr
    · split at hr
      · cases hr
      · exact hr

variable (connection d lines s)

/-- To replace an invoice is to say one block, which is sound.  The invoice counts as replaced
    if the block is committed, with the header that the database gave. -/
theorem exists_block :
    ∃ b : Block, b.draft = d ∧ b.lines = lines ∧
      b.said = (replace d lines).transcript connection s ∧ b.Sound ∧
      ((replace d lines).exec connection s).1.isOk = b.isCommitted ∧
      ∀ h, ((replace d lines).exec connection s).1 = .ok h → h = b.header := by
  let u := (connection .begin s).2
  -- without a header from the database any will do: nothing that names it is said
  let header : Header := match ((upsertHeader d).exec connection u).1 with
    | .ok h => h
    | .error _ => d.toHeader d.link.headerId
  have hheader : ∀ h, ((upsertHeader d).exec connection u).1 = .ok h → h = header := by
    intro h hh
    simp only [header, hh]
  obtain ⟨⟨asked, hfollows, hsaid⟩, hok⟩ :=
    follows_inTransaction StoreError.server (obeys_replaceSteps hheader)
  let b := blockOf connection d lines s header
  have hcarries : b.Carries := carries_blockOf connection d lines s header
  obtain ⟨hsound, hcommitted⟩ := Block.sound_of_follows (b := b) hcarries hfollows hsaid
  exact ⟨b, rfl, rfl, rfl, hsound, hcommitted.symm,
    fun h hr => hheader h (exec_replaceSteps (hok h hr))⟩

end Replace

end Reconcile.Database
