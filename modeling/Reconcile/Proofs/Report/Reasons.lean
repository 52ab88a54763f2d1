import Reconcile.Proofs.Invoice.Complaints
import Reconcile.Proofs.Memory.Listing
import Reconcile.Proofs.Memory.Passes
import Reconcile.Proofs.Report.Records

/-! # Reading the reasons in a report

    A cell has the reasons of a line with bars between them, and whoever wants them back splits
    it at the bars.  The codes of flags have no bars.  A complaint has one exactly if the number
    it quotes has one, and then it falls into pieces, which may look like codes.

    Main statement: `reasons_read_back`, what is read of the reasons of a line, and when it is
    all of them and nothing else.  `barred_reason_splits` is a line where a code is read that the
    line was not given. -/

namespace Reconcile

open Backfill

namespace Document

/-- A complaint has a bar if the number that it quotes has one. -/
theorem bar_mem_wording_iff {label : String} (h : label ∈ numberLabels) (raw : String) :
    '|' ∈ (wording label raw).toList ↔ '|' ∈ raw.toList := by
  have hlabel : ∀ label ∈ numberLabels, '|' ∉ label.toList := by decide
  simp [wording, hlabel label h]

end Document

namespace QualityReport

/-! ## Section 1: Splitting a cell -/

/-- The pieces of a text between its bars. -/
def pieces (text : String) : List String := (text.toList.splitOn '|').map String.ofList

/-- The reasons that are read from a cell; an empty one has none. -/
def reasonsOf (cell : String) : List String := if cell = "" then [] else pieces cell

theorem mem_pieces_iff {text p : String} :
    p ∈ pieces text ↔ p.toList ∈ text.toList.splitOn '|' := by
  rw [pieces, List.mem_map]
  constructor
  · rintro ⟨w, hw, rfl⟩
    rwa [String.toList_ofList]
  · intro h
    exact ⟨_, h, String.ofList_toList⟩

theorem pieces_of_no_bar {text : String} (h : '|' ∉ text.toList) : pieces text = [text] := by
  rw [pieces, List.splitOn_eq_singleton h, List.map_singleton, String.ofList_toList]

theorem not_mem_of_mem_splitOn {x : Char} {w p : List Char} (h : p ∈ w.splitOn x) : x ∉ p := by
  induction w generalizing p with
  | nil => simp_all
  | cons c w ih =>
    rw [List.splitOn_cons_eq_if_modifyHead] at h
    obtain ⟨q, qs, hw⟩ := List.exists_cons_of_ne_nil (List.splitOn_ne_nil x w)
    rw [hw] at h ih
    -- the first character separates, or belongs to the first piece of the rest
    split at h
    · rcases List.mem_cons.mp h with rfl | h
      · exact List.not_mem_nil
      · exact ih h
    · next hc =>
      rcases List.mem_cons.mp h with rfl | h
      · have hne : x ≠ c := fun heq => hc (beq_iff_eq.mpr heq.symm)
        exact List.not_mem_cons_of_ne_of_not_mem hne (ih List.mem_cons_self)
      · exact ih (List.mem_cons_of_mem q h)

/-- A piece has no bars itself. -/
theorem bar_not_mem_of_mem_pieces {text p : String} (h : p ∈ pieces text) : '|' ∉ p.toList :=
  not_mem_of_mem_splitOn (mem_pieces_iff.mp h)

theorem toList_intercalate_cons_cons (r r' : String) (rs : List String) :
    ("|".intercalate (r :: r' :: rs)).toList =
      r.toList ++ '|' :: ("|".intercalate (r' :: rs)).toList := by
  have hbar : "|".toList = ['|'] := rfl
  simp [String.toList_intercalate, hbar]

/-- Splitting texts with bars between them splits each of them on its own. -/
theorem pieces_intercalate {rs : List String} (h : rs ≠ []) :
    pieces ("|".intercalate rs) = rs.flatMap pieces := by
  induction rs with
  | nil => exact absurd rfl h
  | cons r rs ih =>
    by_cases hrs : rs = []
    · simp [hrs]
    · obtain ⟨r', rs', rfl⟩ := List.exists_cons_of_ne_nil hrs
      -- the bar behind the first text separates, whatever bars are in the texts
      rw [pieces, toList_intercalate_cons_cons, List.splitOn_append_cons_self, List.map_append,
        List.flatMap_cons, ← ih hrs]
      rfl

/-- A piece of a text that lacks something of its end stands between two separators, if one is
    put before the text. -/
theorem exists_of_mem_splitOn_append {x q : Char} {p v tail : List Char} (hx : x ∉ tail)
    (hq : q ∈ tail) (hqp : q ∉ p) (h : p ∈ (v ++ tail).splitOn x) :
    ∃ a b, x :: v = a ++ x :: p ++ x :: b := by
  by_cases hv : x ∈ v
  · -- cut at the first separator; the piece is before it, or in what is left
    obtain ⟨u, w, rfl, hu⟩ := List.eq_append_cons_of_mem hv
    rw [List.append_assoc, List.cons_append, List.splitOn_append_cons_self,
      List.splitOn_eq_singleton hu] at h
    rcases List.mem_append.mp h with h | h
    · obtain rfl : p = u := List.mem_singleton.mp h
      exact ⟨[], w, rfl⟩
    · obtain ⟨a, b, hab⟩ := exists_of_mem_splitOn_append hx hq hqp h
      refine ⟨x :: u ++ a, b, ?_⟩
      rw [hab]
      simp
  · have hnone : x ∉ v ++ tail := by simp [hv, hx]
    rw [List.splitOn_eq_singleton hnone, List.mem_singleton] at h
    exact absurd (h ▸ List.mem_append_right v hq) hqp
termination_by v.length

/-- Between a beginning and an end, each with a character that a piece has not, this piece is
    found exactly if it stands between two separators. -/
theorem mem_splitOn_between_iff {x : Char} {head raw tail p : List Char} (hhead : x ∉ head)
    (htail : x ∉ tail) (hp : x ∉ p) (hbegin : ∃ c ∈ head, c ∉ p) (hend : ∃ c ∈ tail, c ∉ p) :
    p ∈ (head ++ raw ++ tail).splitOn x ↔ ∃ a b, raw = a ++ x :: p ++ x :: b := by
  obtain ⟨c, hc, hcp⟩ := hbegin
  obtain ⟨d, hd, hdp⟩ := hend
  constructor
  · intro h
    by_cases hraw : x ∈ raw
    · -- the piece before the first separator has all of the beginning
      obtain ⟨u, v, rfl, hu⟩ := List.eq_append_cons_of_mem hraw
      have hfirst : head ++ (u ++ x :: v) ++ tail = (head ++ u) ++ x :: (v ++ tail) := by simp
      rw [hfirst, List.splitOn_append_cons_self,
        List.splitOn_eq_singleton (by simp [hhead, hu])] at h
      rcases List.mem_append.mp h with h | h
      · rw [List.mem_singleton] at h
        exact absurd (h ▸ List.mem_append_left u hc) hcp
      · obtain ⟨a, b, hab⟩ := exists_of_mem_splitOn_append htail hd hdp h
        exact ⟨u ++ a, b, by rw [hab]; simp⟩
    · rw [List.splitOn_eq_singleton (by simp [hhead, hraw, htail]), List.mem_singleton] at h
      exact absurd (h ▸ List.mem_append_right (head ++ raw) hd) hdp
  · rintro ⟨a, b, rfl⟩
    have hcut : head ++ (a ++ x :: p ++ x :: b) ++ tail =
        (head ++ a) ++ x :: (p ++ x :: (b ++ tail)) := by simp
    rw [hcut, List.splitOn_append_cons_self, List.splitOn_append_cons_self,
      List.splitOn_eq_singleton hp]
    simp

/-- In what a complaint falls into there is a code exactly if it is written between bars. -/
theorem code_mem_pieces_wording_iff (flag : Flag) {label : String}
    (hlabel : label ∈ Document.numberLabels) (raw : String) :
    Coded.code flag ∈ pieces (Document.wording label raw) ↔
      ∃ a b, raw = a ++ "|" ++ Coded.code flag ++ "|" ++ b := by
  have hbars : ∀ label ∈ Document.numberLabels, '|' ∉ (label ++ ": unparseable '").toList := by
    decide
  rw [mem_pieces_iff, Document.wording, String.toList_append, String.toList_append,
    mem_splitOn_between_iff (hbars label hlabel) (by decide) (Flag.not_mem_code (by decide))
      ⟨':', by simp, Flag.not_mem_code (by decide)⟩
      ⟨'\'', by decide, Flag.not_mem_code (by decide)⟩]
  constructor
  · rintro ⟨a, b, hraw⟩
    refine ⟨.ofList a, .ofList b, String.toList_inj.mp ?_⟩
    simpa using hraw
  · rintro ⟨a, b, rfl⟩
    exact ⟨a.toList, b.toList, by simp⟩

variable {rs : List String}

theorem intercalate_ne_empty {r : String} (hr : r ≠ "") (rs : List String) :
    "|".intercalate (r :: rs) ≠ "" := by
  rcases rs with _ | ⟨r', rs⟩
  · simpa using hr
  · intro hempty
    have hchars := congrArg String.toList hempty
    rw [toList_intercalate_cons_cons] at hchars
    exact List.append_ne_nil_of_right_ne_nil _ (List.cons_ne_nil _ _) hchars

/-- From reasons that say something their pieces are read, one reason after another. -/
theorem reasonsOf_intercalate (h : ∀ r ∈ rs, r ≠ "") :
    reasonsOf ("|".intercalate rs) = rs.flatMap pieces := by
  rcases rs with _ | ⟨r, rs⟩
  · rfl
  · have hne := intercalate_ne_empty (h r List.mem_cons_self) rs
    rw [reasonsOf, if_neg hne, pieces_intercalate (List.cons_ne_nil r rs)]

/-- The reasons themselves are read exactly if none of them has a bar. -/
theorem reasonsOf_intercalate_eq_iff (h : ∀ r ∈ rs, r ≠ "") :
    reasonsOf ("|".intercalate rs) = rs ↔ ∀ r ∈ rs, '|' ∉ r.toList := by
  rw [reasonsOf_intercalate h]
  constructor
  · intro heq r hr
    rw [← heq] at hr
    obtain ⟨r', -, hpiece⟩ := List.mem_flatMap.mp hr
    exact bar_not_mem_of_mem_pieces hpiece
  · intro hbars
    have hsingle : rs.flatMap pieces = rs.flatMap fun r => [r] :=
      List.flatMap_congr fun r hr => pieces_of_no_bar (hbars r hr)
    rw [hsingle, List.flatMap_singleton']

/-! ## Section 2: The reasons of a line -/

/-- How what is read from the cell of a line compares with its reasons.  Their pieces are read:
    the reasons themselves, if and only if there are no bars in the numbers that were not read,
    and the codes that the line was given, with no other code but those written between bars in
    such a number. -/
structure Tells (l : Line) (cell : String) : Prop where
  eq_pieces : reasonsOf cell = l.reasons.flatMap pieces
  eq_iff : reasonsOf cell = l.reasons ↔ ∀ raw, l.Unread raw → '|' ∉ raw.toList
  code_mem_iff : ∀ flag : Flag, Coded.code flag ∈ reasonsOf cell ↔
    Coded.code flag ∈ l.reasons ∨
      ∃ raw, l.Unread raw ∧ ∃ a b, raw = a ++ "|" ++ Coded.code flag ++ "|" ++ b

/-- The reasons of a transcribed line are codes of flags, and complaints about the numbers that
    were not read. -/
theorem exists_of_mem_reasons {i : LegacyInvoice} {t : Transcription} (h : transcribe i = .ok t)
    {l : Line} (hl : l ∈ t.lines) {r : String} (hr : r ∈ l.reasons) :
    (∃ flag : Flag, r = Coded.code flag) ∨
      ∃ label ∈ Document.numberLabels, ∃ raw, l.Unread raw ∧ r = Document.wording label raw := by
  obtain ⟨source, -, rfl, flags, hreasons⟩ := exists_flags_of_transcribe h l hl
  rw [hreasons, mem_distinct, List.mem_append, List.mem_map] at hr
  rcases hr with ⟨flag, -, rfl⟩ | hr
  · exact .inl ⟨flag, rfl⟩
  · exact .inr (source.exists_unread_of_mem_complaints hr t.currency)

theorem exists_reason_of_unread {i : LegacyInvoice} {t : Transcription} (h : transcribe i = .ok t)
    {l : Line} (hl : l ∈ t.lines) {raw : String} (hraw : l.Unread raw) :
    ∃ label ∈ Document.numberLabels, Document.wording label raw ∈ l.reasons := by
  obtain ⟨source, -, rfl, flags, hreasons⟩ := exists_flags_of_transcribe h l hl
  obtain ⟨label, hlabel, hmem⟩ := SourceLine.exists_complaint_of_unread hraw
  refine ⟨label, hlabel, ?_⟩
  rw [hreasons, mem_distinct]
  exact List.mem_append_right _ hmem

/-- The cell of a transcribed line tells its reasons, as far as they can be told in one cell. -/
theorem tells_of_transcribe {i : LegacyInvoice} {t : Transcription} (h : transcribe i = .ok t)
    {l : Line} (hl : l ∈ t.lines) : Tells l ("|".intercalate l.reasons) := by
  have hne : ∀ r ∈ l.reasons, r ≠ "" := by
    intro r hr
    rcases exists_of_mem_reasons h hl hr with ⟨flag, rfl⟩ | ⟨label, -, raw, -, rfl⟩
    · exact flag.code_ne_empty
    · exact Document.wording_ne_empty label raw
  have hread : reasonsOf ("|".intercalate l.reasons) = l.reasons.flatMap pieces :=
    reasonsOf_intercalate hne
  refine ⟨hread, ?_, fun flag => ?_⟩
  · rw [reasonsOf_intercalate_eq_iff hne]
    constructor
    · intro hno raw hraw
      obtain ⟨label, hlabel, hmem⟩ := exists_reason_of_unread h hl hraw
      exact fun hbar => hno _ hmem ((Document.bar_mem_wording_iff hlabel raw).mpr hbar)
    · intro hno r hr
      rcases exists_of_mem_reasons h hl hr with ⟨flag, rfl⟩ | ⟨label, hlabel, raw, hraw, rfl⟩
      · exact Flag.not_mem_code (by decide)
      · exact fun hbar => hno raw hraw ((Document.bar_mem_wording_iff hlabel raw).mp hbar)
  · rw [hread, List.mem_flatMap]
    have hcode : ∀ other : Flag, pieces (Coded.code other) = [Coded.code other] :=
      fun other => pieces_of_no_bar (Flag.not_mem_code (by decide))
    -- a code is a piece of its own, and all other pieces are of complaints
    constructor
    · rintro ⟨r, hr, hpiece⟩
      rcases exists_of_mem_reasons h hl hr with ⟨other, rfl⟩ | ⟨label, hlabel, raw, hraw, rfl⟩
      · rw [hcode, List.mem_singleton] at hpiece
        exact .inl (hpiece ▸ hr)
      · exact .inr ⟨raw, hraw, (code_mem_pieces_wording_iff flag hlabel raw).mp hpiece⟩
    · rintro (hflag | ⟨raw, hraw, hbetween⟩)
      · exact ⟨_, hflag, by rw [hcode]; exact List.mem_singleton_self _⟩
      · obtain ⟨label, hlabel, hmem⟩ := exists_reason_of_unread h hl hraw
        exact ⟨_, hmem, (code_mem_pieces_wording_iff flag hlabel raw).mpr hbetween⟩

/-! ## Section 3: The reports of a store -/

variable {s : MemoryStore}

/-- What is listed of a store that was filled from nothing was transcribed. -/
theorem exists_transcribe_of_list (hempty : s.canonical = .empty) {ops : List MemoryStore.Operation}
    {scope : Scope} {l : StoredLine} (hl : l ∈ (s.replay ops).list scope) :
    ∃ i t, transcribe i = .ok t ∧ l.line ∈ t.lines := by
  obtain ⟨_, ⟨link, e, he, rfl, hmem⟩, -⟩ := MemoryStore.mem_list.mp hl
  obtain ⟨_, i, _, t, -, -, -, ht, -, hlines⟩ := MemoryStore.exists_passes_of_replay hempty he
  rw [hlines] at hmem
  obtain ⟨line, hline, rfl⟩ := List.mem_map.mp hmem
  exact ⟨i, t, ht, hline⟩

/-- A report is written and read back as the records of its lines. -/
theorem exists_report (s : MemoryStore) (scope : Scope) (warnOnly : Bool) (file : Option String) :
    ∃ text,
      (export? scope warnOnly).exec (Desk.answer MemoryStore.answer) ⟨s, none, file⟩ =
        (.ok (reported warnOnly (s.list scope)).length, ⟨s, none, some text⟩) ∧
      read? text = some (columnNames :: (reported warnOnly (s.list scope)).map fields) :=
  ⟨_, exec_export MemoryStore.answer scope warnOnly rfl rfl, read?_table _⟩

/-- In a report on a store that was filled from nothing each record tells the reasons of its
    line, as far as they can be told in one cell. -/
theorem reasons_read_back (hempty : s.canonical = .empty) (ops : List MemoryStore.Operation)
    (scope : Scope) (warnOnly : Bool) (file : Option String) :
    ∃ text records,
      (export? scope warnOnly).exec (Desk.answer MemoryStore.answer)
          ⟨s.replay ops, none, file⟩ =
        (.ok records.length, ⟨s.replay ops, none, some text⟩) ∧
      read? text = some (columnNames :: records) ∧
      List.Forall₂ (fun (l : StoredLine) cells =>
          ∃ cell, cell? cells "warn_reasons" = some cell ∧ Tells l.line cell)
        (reported warnOnly ((s.replay ops).list scope)) records := by
  obtain ⟨text, hexec, hread⟩ := exists_report (s.replay ops) scope warnOnly file
  refine ⟨text, _, by rw [hexec, List.length_map], hread, ?_⟩
  rw [List.forall₂_map_right_iff, List.forall₂_same]
  intro l hl
  have hlisted : l ∈ (s.replay ops).list scope := List.mem_of_mem_filter hl
  obtain ⟨i, t, ht, hline⟩ := exists_transcribe_of_list hempty hlisted
  exact ⟨_, (shows_fields l).reasons, tells_of_transcribe ht hline⟩

/-- A scan with one item, whose quantity is written like this. -/
def scanOf (quantity : String) : ScannedInvoice :=
  { MemoryStore.malformedScan with
    currency := some "AUD"
    document := some (.object [("lineItems", .array [.object [("description", .text "Ham 2kg"),
      ("quantity", .text quantity)]])]) }

/-- The store after the scan came and was written. -/
def storeOf (quantity : String) : MemoryStore :=
  MemoryStore.empty.replay
    [.addScanned (scanOf quantity), .run MemoryStore.bookingRequest fun _ => false]

/-- A quantity in words is quoted in a reason without bars, and all reasons are read back. -/
theorem reasons_read_back_words :
    ∃ l text cells cell,
      (storeOf "two").list ⟨"org", "loc"⟩ = [l] ∧
      (export? ⟨"org", "loc"⟩ true).exec (Desk.answer MemoryStore.answer)
          ⟨storeOf "two", none, none⟩ = (.ok 1, ⟨storeOf "two", none, some text⟩) ∧
      read? text = some [columnNames, cells] ∧ cell? cells "warn_reasons" = some cell ∧
      reasonsOf cell = l.line.reasons ∧
      l.line.reasons =
        ["FAILED_NUMERIC_PARSE", "MISSING_QUANTITY", "quantity: unparseable 'two'"] := by
  have hlines : ((storeOf "two").list ⟨"org", "loc"⟩).map (fun l => (l.line.grade,
      l.line.rawQuantity, l.line.rawUnitPrice, l.line.rawLineTotal, l.line.reasons)) =
        [(.warn, some "two", none, none,
          ["FAILED_NUMERIC_PARSE", "MISSING_QUANTITY", "quantity: unparseable 'two'"])] := by
    decide +kernel
  obtain ⟨l, hlist, hl⟩ := List.map_eq_singleton_iff.mp hlines
  simp only [Prod.mk.injEq] at hl
  obtain ⟨hgrade, hquantity, hprice, htotal, hreasons⟩ := hl
  obtain ⟨text, records, hexec, hread, hrecords⟩ :=
    reasons_read_back (s := MemoryStore.empty) rfl
      [.addScanned (scanOf "two"), .run MemoryStore.bookingRequest fun _ => false] ⟨"org", "loc"⟩
      true none
  have hreported : reported true ((storeOf "two").list ⟨"org", "loc"⟩) = [l] := by
    rw [hlist]
    simp [reported, hgrade]
  have hone : List.Forall₂ (fun (l : StoredLine) cells =>
      ∃ cell, cell? cells "warn_reasons" = some cell ∧ Tells l.line cell) [l] records :=
    hreported ▸ hrecords
  obtain ⟨cells, rest, ⟨cell, hcell, htells⟩, hrest, rfl⟩ := List.forall₂_cons_left_iff.mp hone
  obtain rfl : rest = [] := List.forall₂_nil_left_iff.mp hrest
  have hbars : ∀ raw, l.line.Unread raw → '|' ∉ raw.toList := by
    rintro raw (⟨hraw, -⟩ | ⟨hraw, -⟩ | ⟨hraw, -⟩)
    · obtain rfl : "two" = raw := Option.some.inj (hquantity.symm.trans hraw)
      decide
    · cases hprice.symm.trans hraw
    · cases htotal.symm.trans hraw
  exact ⟨l, text, cells, cell, hlist, hexec, hread, hcell, htells.eq_iff.mpr hbars, hreasons⟩

/-- A quantity with bars falls into pieces, one of which is a code that the line does not have. -/
theorem barred_reason_splits :
    ∃ l text cells cell,
      (storeOf "1|INVALID_CURRENCY_CODE|2").list ⟨"org", "loc"⟩ = [l] ∧
      (export? ⟨"org", "loc"⟩ false).exec (Desk.answer MemoryStore.answer)
          ⟨storeOf "1|INVALID_CURRENCY_CODE|2", none, none⟩ =
        (.ok 1, ⟨storeOf "1|INVALID_CURRENCY_CODE|2", none, some text⟩) ∧
      read? text = some [columnNames, cells] ∧ cell? cells "warn_reasons" = some cell ∧
      Coded.code Flag.invalidCurrencyCode ∈ reasonsOf cell ∧
      Coded.code Flag.invalidCurrencyCode ∉ l.line.reasons := by
  have hreasons : ((storeOf "1|INVALID_CURRENCY_CODE|2").list ⟨"org", "loc"⟩).map
      (·.line.reasons) = [["FAILED_NUMERIC_PARSE", "MISSING_QUANTITY",
        "quantity: unparseable '1|INVALID_CURRENCY_CODE|2'"]] := by
    decide +kernel
  obtain ⟨l, hlist, hl⟩ := List.map_eq_singleton_iff.mp hreasons
  obtain ⟨text, hexec, hread⟩ :=
    exists_report (storeOf "1|INVALID_CURRENCY_CODE|2") ⟨"org", "loc"⟩ false none
  have hreported : reported false [l] = [l] := by
    simp [reported]
  rw [hlist, hreported] at hexec hread
  refine ⟨l, text, fields l, _, hlist, hexec, hread, (shows_fields l).reasons, ?_, ?_⟩
  · rw [hl]
    decide +kernel
  · rw [hl]
    decide +kernel

end QualityReport

end Reconcile
