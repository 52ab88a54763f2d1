import Reconcile.Proofs.Database.Replacement
import Reconcile.Proofs.Memory.Queue

/-! # The two stores agree

    What holds for one replacement holds for any number of them, one after another: the stores
    give the same headers and hold the same invoices, as long as the store in memory is not told
    to fail, and no two invoices share an identifier.  Neither condition can be left out.

    Main statements: `replaceAll_agree` and `stores_disagree`. -/

namespace Reconcile

namespace MemoryStore

/-! ## Section 1: Stores with one invoice -/

/-- A store with one invoice. -/
def single (h : Header) (stored : List StoredLine) : MemoryStore := empty.seed h stored

theorem get?_single (h : Header) (stored : List StoredLine) (link : Link) :
    (single h stored).canonical.get? link = if link = h.link then some ⟨h, stored⟩ else none :=
  Table.get?_insert _ _ _ _

theorem header?_single (h : Header) (stored : List StoredLine) (link : Link) :
    (single h stored).header? link = if link = h.link then some h else none := by
  unfold header?
  rw [get?_single]
  split <;> rfl

theorem lines_single (h : Header) (stored : List StoredLine) :
    (single h stored).lines h.link = stored := by
  unfold MemoryStore.lines
  rw [get?_single, if_pos rfl]
  rfl

end MemoryStore

namespace Database

/-- The table of headers with one row, and the table of lines with these. -/
def tablesWith (header : HeaderRow) (lines : List StoredLine) : Tables := fun table =>
  if table = headerTable then [.ofValues HeaderRow.columns header.values]
  else lines.map lineRow

/-- A store with one invoice, whatever its identifier is. -/
theorem holds_single {d : HeaderDraft} {l : Link} (id : Uuid) {lines : List StoredLine}
    (hd : Link.resolve d.origin d.link.ocrPointer d.link.xeroPointer = .ok l)
    (hlines : ∀ s ∈ lines, s.headerId = id) :
    Holds (.single (d.toHeader id) lines)
      (tablesWith { HeaderRow.ofDraft d with id := id } lines) := by
  let row : HeaderRow := { HeaderRow.ofDraft d with id := id }
  let r : Row := .ofValues HeaderRow.columns row.values
  have hr : r.HasPointers d.link := ⟨rfl, rfl⟩
  have hread : readHeader r = .ok (d.toHeader id) := by
    obtain ⟨hl, -, -⟩ := (Link.resolve_pointers d.origin d.link l).mp hd
    have hto : row.toHeader = .ok (d.toHeader id) :=
      HeaderRow.toHeader_eq_ok_iff.mpr ⟨d.origin, d.link, Origin.read_code _, hl ▸ hd, rfl⟩
    unfold readHeader
    rw [HeaderRow.ofRow_ofValues]
    exact hto
  refine ⟨?_, ?_, ?_⟩
  · intro x hx
    obtain rfl : x = r := List.mem_singleton.mp hx
    exact ⟨d.link, hr⟩
  · intro link
    show ([r].filter (·.pointsAt link)).map readHeader = _
    rw [MemoryStore.header?_single]
    by_cases h : link = (d.toHeader id).link
    · rw [List.filter_cons_of_pos (by rw [hr.pointsAt_eq, h]; exact decide_eq_true rfl), if_pos h]
      exact congrArg (· :: []) hread
    · rw [List.filter_cons_of_neg (by rw [hr.pointsAt_eq, decide_eq_true_eq]; exact h), if_neg h]
      rfl
  · intro link h hh
    have hrows : (lines.map lineRow).filter (·.belongsTo id) = lines.map lineRow := by
      rw [List.filter_eq_self]
      intro x hx
      obtain ⟨s, hs, rfl⟩ := List.mem_map.mp hx
      rw [belongsTo_lineRow, hlines s hs, decide_eq_true rfl]
    rw [MemoryStore.header?_single] at hh
    by_cases hl : link = (d.toHeader id).link
    · rw [if_pos hl] at hh
      obtain rfl := Option.some.inj hh
      rw [hl, MemoryStore.lines_single]
      refine ⟨lines, ?_, List.Perm.refl _⟩
      show ((lines.map lineRow).filter (·.belongsTo id)).map readLine = _
      rw [hrows, List.map_map]
      exact List.map_congr_left fun s _ => readLine_lineRow s
    · rw [if_neg hl] at hh
      cases hh

/-- Nothing at all. -/
theorem holds_empty {m : MemoryStore} (h : ∀ link, m.header? link = none) :
    Holds m (fun _ => []) := by
  refine ⟨nofun, ?_, ?_⟩
  · intro link
    rw [h link]
    rfl
  · intro link g hg
    rw [h link] at hg
    cases hg

/-- Where the only other invoice has the identifier that an invoice is going to get, a database
    loses its lines, and a store in memory keeps them. -/
theorem not_holds_of_shared {σ : Type} {connection : Connection σ} {tables : σ → Tables}
    (hexec : Executes connection tables) {d other : HeaderDraft} {l l' : Link} {s : σ}
    (hd : Link.resolve d.origin d.link.ocrPointer d.link.xeroPointer = .ok l)
    (hother : Link.resolve other.origin other.link.ocrPointer other.link.xeroPointer = .ok l')
    (hne : d.link ≠ other.link) {lines : List Line} (hlines : lines ≠ [])
    (hs : tables s = tablesWith { HeaderRow.ofDraft other with id := d.link.headerId } []) :
    let m := MemoryStore.single (other.toHeader d.link.headerId) []
    Holds m (tables s) ∧ (m.replace d lines).1 = .ok (d.toHeader d.link.headerId) ∧
      ((replace d lines).exec connection s).1 = .ok (d.toHeader d.link.headerId) ∧
      ¬ Holds (m.replace d lines).2 (tables ((replace d lines).exec connection s).2) := by
  intro m
  have hholds : Holds m (tables s) := by
    rw [hs]
    exact holds_single d.link.headerId hother (List.forall_mem_nil _)
  have hsingle : ∀ link, m.header? link =
      if link = other.link then some (other.toHeader d.link.headerId) else none :=
    MemoryStore.header?_single (other.toHeader d.link.headerId) []
  have hheader : m.refreshed d = d.toHeader d.link.headerId := by
    unfold MemoryStore.refreshed
    rw [hsingle, if_neg hne]
    rfl
  have hreplace : m.replace d lines = (.ok (d.toHeader d.link.headerId), m.written d lines) := by
    rw [m.replace_eq, m.entry_replaced, hheader]
    rfl
  have hput := readHeader_put hholds hd
  rw [hheader] at hput
  obtain ⟨hresult, -, hrows⟩ := exec_replace hexec lines hput
  rw [hreplace]
  refine ⟨hholds, rfl, hresult, ?_⟩
  intro hbad
  -- the other invoice has no lines in memory, but there are rows with its identifier
  have hsecond : (m.written d lines).header? other.link =
      some (other.toHeader d.link.headerId) := by
    rw [m.header?_written, if_neg hne.symm, hsingle, if_pos rfl]
  have hnone : (m.written d lines).lines other.link = [] := by
    rw [m.lines_written, if_neg hne.symm]
    exact MemoryStore.lines_single (other.toHeader d.link.headerId) []
  obtain ⟨ls, hread, hperm⟩ := hbad.lines other.link _ hsecond
  rw [hnone] at hperm
  rw [hperm.eq_nil, hrows, rows_replaced] at hread
  have hid : (other.toHeader d.link.headerId).id = (d.toHeader d.link.headerId).id := rfl
  rw [if_pos hid, List.map_nil, List.map_eq_nil_iff, List.map_eq_nil_iff,
    List.map_eq_nil_iff] at hread
  exact hlines hread

open MemoryStore (bookedDraft firstBooking)

/-- Another invoice of the accounting system. -/
def secondDraft : HeaderDraft := { bookedDraft with link := .xero "inv-2" }

theorem resolve_bookedDraft : Link.resolve bookedDraft.origin bookedDraft.link.ocrPointer
    bookedDraft.link.xeroPointer = .ok bookedDraft.link :=
  (Link.resolve_pointers _ _ _).mpr ⟨rfl, by decide +kernel, rfl⟩

theorem resolve_secondDraft : Link.resolve secondDraft.origin secondDraft.link.ocrPointer
    secondDraft.link.xeroPointer = .ok secondDraft.link :=
  (Link.resolve_pointers _ _ _).mpr ⟨rfl, by decide +kernel, rfl⟩

/-! ## Section 2: Many replacements -/

section Sequence

variable {σ : Type} {connection : Connection σ} {tables : σ → Tables}

/-- Replaces invoices one after another. -/
def replaceAll : List (HeaderDraft × List Line) →
    Backfill.StoreTalk (List (Except StoreError Header))
  | [] => .done []
  | (d, lines) :: ws =>
    (Backfill.call (.replace d lines)).bind fun a =>
      (replaceAll ws).bind fun rest => .done (a :: rest)

/-- None of these invoices shares its identifier with another one, of the store or of these. -/
def OwnIdentifiers (m : MemoryStore) (ws : List (HeaderDraft × List Line)) : Prop :=
  ∀ w ∈ ws, ∀ link, link ≠ w.1.link →
    ((m.header? link).isSome ∨ ∃ v ∈ ws, v.1.link = link) →
      m.identifier link ≠ m.identifier w.1.link

theorem OwnIdentifiers.tail {m : MemoryStore} {d : HeaderDraft} {lines : List Line}
    {ws : List (HeaderDraft × List Line)} (h : OwnIdentifiers m ((d, lines) :: ws)) :
    OwnIdentifiers (m.written d lines) ws := by
  intro w hw link hne hlink
  rw [m.identifier_written, m.identifier_written]
  refine h w (List.mem_cons_of_mem _ hw) link hne ?_
  rcases hlink with hlink | ⟨v, hv, hv'⟩
  · rw [m.header?_written] at hlink
    by_cases hl : link = d.link
    · -- the invoice is stored only now, but it was one of these already
      exact .inr ⟨(d, lines), List.mem_cons_self, hl.symm⟩
    · rw [if_neg hl] at hlink
      exact .inl hlink
  · exact .inr ⟨v, List.mem_cons_of_mem _ hv, hv'⟩

theorem exec_replaceAll_cons {τ : Type} (store : Dialogue.Answerer Store.Call.Answer τ)
    (d : HeaderDraft) (lines : List Line) (ws : List (HeaderDraft × List Line)) (t : τ) :
    (replaceAll ((d, lines) :: ws)).exec store t =
      ((store (.replace d lines) t).1 ::
        ((replaceAll ws).exec store (store (.replace d lines) t).2).1,
        ((replaceAll ws).exec store (store (.replace d lines) t).2).2) := by
  rw [replaceAll, Dialogue.exec_bind, Dialogue.exec_bind]
  rfl

/-- Over a database each replacement is a transaction. -/
theorem exec_overDatabase {α : Type} (talk : Backfill.StoreTalk α) (s : σ) :
    (overDatabase talk).exec connection s =
      talk.exec (fun c s => (find c).exec connection s) s :=
  Dialogue.exec_refine find connection talk s

/-- A store in memory and a database that hold the same invoices answer any replacements alike,
    and hold the same invoices after them. -/
theorem replaceAll_agree (hexec : Executes connection tables) {m : MemoryStore} {s : σ}
    (hholds : Holds m (tables s)) (ws : List (HeaderDraft × List Line))
    (hlinks : ∀ w ∈ ws, ∃ l, Link.resolve w.1.origin w.1.link.ocrPointer w.1.link.xeroPointer =
      .ok l)
    (hwritable : ∀ w ∈ ws, m.failingWrites.get? w.1.link = none)
    (hown : OwnIdentifiers m ws) :
    let inMemory := (replaceAll ws).exec MemoryStore.answer m
    let inDatabase := (overDatabase (replaceAll ws)).exec connection s
    ∃ headers : List Header, headers.length = ws.length ∧
      inMemory.1 = headers.map .ok ∧ inDatabase.1 = headers.map .ok ∧
      Holds inMemory.2 (tables inDatabase.2) := by
  induction ws generalizing m s with
  | nil => exact ⟨[], rfl, rfl, rfl, hholds⟩
  | cons w ws ih =>
    obtain ⟨d, lines⟩ := w
    obtain ⟨l, hd⟩ : ∃ l, Link.resolve d.origin d.link.ocrPointer d.link.xeroPointer = .ok l :=
      hlinks (d, lines) List.mem_cons_self
    have hfree : m.failingWrites.get? d.link = none := hwritable (d, lines) List.mem_cons_self
    have hother : ∀ link h, link ≠ d.link → m.header? link = some h →
        h.id ≠ m.identifier d.link := by
      intro link h hne hh
      have hid := hown (d, lines) List.mem_cons_self link hne (.inl (by rw [hh]; rfl))
      unfold MemoryStore.identifier at hid ⊢
      rw [hh, Option.map_some, Option.getD_some] at hid
      exact hid
    obtain ⟨hresult, hnext⟩ := holds_replace hexec hholds lines hd hother
    -- identifiers and the writes that are to fail stay what they were, so the rest goes on
    obtain ⟨headers, hlength, hmemory, hdatabase, hafter⟩ := ih hnext
      (fun w hw => hlinks w (List.mem_cons_of_mem _ hw))
      (fun w hw => hwritable w (List.mem_cons_of_mem _ hw)) hown.tail
    have hreplace : MemoryStore.answer (.replace d lines) m =
        (.ok (m.refreshed d), m.written d lines) := by
      show m.replace d lines = _
      rw [m.replace_eq, hfree, m.entry_replaced]
      rfl
    rw [exec_overDatabase] at hdatabase hafter ⊢
    rw [exec_replaceAll_cons, exec_replaceAll_cons, hreplace]
    refine ⟨m.refreshed d :: headers, ?_, ?_, ?_, hafter⟩
    · rw [List.length_cons, List.length_cons, hlength]
    · exact congrArg (Except.ok (m.refreshed d) :: ·) hmemory
    · show ((replace d lines).exec connection s).1 :: _ = _
      rw [hresult]
      exact congrArg (Except.ok (m.refreshed d) :: ·) hdatabase

end Sequence

/-- The other invoice is stored, and one is written twice, the second time without lines. -/
theorem replaceAll_agree_booked :
    let id := secondDraft.link.headerId
    let m := MemoryStore.single (secondDraft.toHeader id) []
    let s : Session := ⟨tablesWith { HeaderRow.ofDraft secondDraft with id := id } [],
      fun _ => []⟩
    let ws := [(bookedDraft, firstBooking.transcribe.lines), (bookedDraft, [])]
    (Executes (session ⟨0, 0⟩) Session.tables ∧ Holds m s.tables ∧ OwnIdentifiers m ws) ∧
      let inMemory := (replaceAll ws).exec MemoryStore.answer m
      let inDatabase := (overDatabase (replaceAll ws)).exec (session ⟨0, 0⟩) s
      ∃ headers : List Header, headers.length = ws.length ∧ inMemory.1 = headers.map .ok ∧
        inDatabase.1 = headers.map .ok ∧ Holds inMemory.2 inDatabase.2.tables := by
  intro id m s ws
  have hexec : Executes (session ⟨0, 0⟩) Session.tables := executes_session ⟨0, 0⟩
  have hholds : Holds m s.tables :=
    holds_single id resolve_secondDraft (List.forall_mem_nil _)
  have hdrafts : ∀ w ∈ ws, w.1 = bookedDraft := by
    intro w hw
    simp only [ws, List.mem_cons, List.not_mem_nil, or_false] at hw
    rcases hw with rfl | rfl <;> rfl
  have hheader : ∀ link, m.header? link =
      if link = secondDraft.link then some (secondDraft.toHeader id) else none :=
    MemoryStore.header?_single (secondDraft.toHeader id) []
  have hown : OwnIdentifiers m ws := by
    intro w hw link hne hlink
    rw [hdrafts w hw] at hne ⊢
    have hlink' : link = secondDraft.link := by
      rcases hlink with hlink | ⟨v, hv, rfl⟩
      · rw [hheader] at hlink
        by_contra hl
        rw [if_neg hl] at hlink
        cases hlink
      · exact absurd (congrArg HeaderDraft.link (hdrafts v hv)) hne
    have hids : (Link.xero "inv-2").headerId ≠ (Link.xero "inv-1").headerId := by decide +kernel
    have hbooked : bookedDraft.link ≠ secondDraft.link := by decide +kernel
    unfold MemoryStore.identifier
    rw [hheader, hheader, if_pos hlink', if_neg hbooked]
    exact hids
  have hlinks : ∀ w ∈ ws, ∃ l, Link.resolve w.1.origin w.1.link.ocrPointer
      w.1.link.xeroPointer = .ok l := by
    intro w hw
    rw [hdrafts w hw]
    exact ⟨_, resolve_bookedDraft⟩
  have hwritable : ∀ w ∈ ws, m.failingWrites.get? w.1.link = none :=
    fun w _ => Table.get?_empty w.1.link
  exact ⟨⟨hexec, hholds, hown⟩, replaceAll_agree hexec hholds ws hlinks hwritable hown⟩

/-- A database knows of no writes that are to fail, and it finds lines by the identifier of their
    header.  So the stores do not agree about an invoice whose writes are to fail in memory, nor
    about one whose identifier another invoice has. -/
theorem stores_disagree :
    (Executes (session ⟨0, 0⟩) Session.tables ∧
      Link.resolve bookedDraft.origin bookedDraft.link.ocrPointer bookedDraft.link.xeroPointer =
        .ok bookedDraft.link ∧
      (firstBooking.transcribe.lines.map (·.number)).Nodup) ∧
    (let m := MemoryStore.empty.failWrites bookedDraft.link "down"
     let s : Session := ⟨fun _ => [], fun _ => []⟩
     Holds m s.tables ∧
      (m.replace bookedDraft firstBooking.transcribe.lines).1 = .error (.protocol "down") ∧
      ((replace bookedDraft firstBooking.transcribe.lines).exec (session ⟨0, 0⟩) s).1 =
        .ok (bookedDraft.toHeader bookedDraft.link.headerId)) ∧
    (let m := MemoryStore.single (secondDraft.toHeader bookedDraft.link.headerId) []
     let s : Session :=
      ⟨tablesWith { HeaderRow.ofDraft secondDraft with id := bookedDraft.link.headerId } [],
        fun _ => []⟩
     Holds m s.tables ∧
      (m.replace bookedDraft firstBooking.transcribe.lines).1 =
        .ok (bookedDraft.toHeader bookedDraft.link.headerId) ∧
      ((replace bookedDraft firstBooking.transcribe.lines).exec (session ⟨0, 0⟩) s).1 =
        .ok (bookedDraft.toHeader bookedDraft.link.headerId) ∧
      ¬ Holds (m.replace bookedDraft firstBooking.transcribe.lines).2
        ((replace bookedDraft firstBooking.transcribe.lines).exec (session ⟨0, 0⟩) s).2.tables) := by
  have hexec : Executes (session ⟨0, 0⟩) Session.tables := executes_session ⟨0, 0⟩
  refine ⟨⟨hexec, resolve_bookedDraft, by decide +kernel⟩, ?_, ?_⟩
  · intro m s
    have hholds : Holds m s.tables := holds_empty fun _ => rfl
    have hput := readHeader_put hholds resolve_bookedDraft
    exact ⟨hholds, rfl, (exec_replace hexec firstBooking.transcribe.lines hput).1⟩
  · intro m s
    have hne : bookedDraft.link ≠ secondDraft.link := by decide +kernel
    have hlines : firstBooking.transcribe.lines ≠ [] := by decide +kernel
    have hs : s.tables =
        tablesWith { HeaderRow.ofDraft secondDraft with id := bookedDraft.link.headerId } [] := rfl
    exact not_holds_of_shared hexec resolve_bookedDraft resolve_secondDraft hne hlines hs

end Database

end Reconcile
