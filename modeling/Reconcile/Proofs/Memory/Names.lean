import Mathlib.Data.List.Nodup
import Reconcile.Proofs.Memory.History
import Reconcile.Proofs.Memory.Scan

/-! # Names do not clash

    Identifiers are digests of names: a header's of the text of its link, a line's of its number
    under the identifier of its header.  Two links never have one text, since the feed comes
    first in it, and two numbers never have the same bytes.  So in a sound store no name is used
    twice, and identifiers are distinct unless the digest itself takes two of these names to the
    same place.

    Main statement: `ids_nodup_of_replay`, for every store that a history leads to. -/

namespace Reconcile

/-! ## Section 1: Bytes -/

namespace Digest

theorem ofBytes_concat (bs : List UInt8) (b : UInt8) :
    ofBytes (bs ++ [b]) = ofBytes bs * 256 + b.toNat := by
  simp [ofBytes]

theorem ofBytes_toBytes (k n : Nat) : ofBytes (toBytes k n) = n % 256 ^ k := by
  induction k generalizing n with
  | zero => simp [toBytes, ofBytes, Nat.mod_one]
  | succ k ih =>
    have hlast : (UInt8.ofNat (n % 256)).toNat = n % 256 := by
      rw [UInt8.toNat_ofNat']
      omega
    rw [toBytes, ofBytes_concat, ih, hlast, Nat.pow_succ', Nat.mod_mul]
    omega

theorem length_toBytes (k n : Nat) : (toBytes k n).length = k := by
  induction k generalizing n with
  | zero => rfl
  | succ k ih => simp [toBytes, ih]

theorem toList_loop (bs : ByteArray) (i : Nat) (r : List UInt8) :
    ByteArray.toList.loop bs i r = r.reverse ++ bs.data.toList.drop i := by
  fun_induction ByteArray.toList.loop bs i r with
  | case1 i r h ih =>
    have hlt : i < bs.data.toList.length := h
    have hget : bs.get! i = bs.data.toList[i] := by
      show bs.data.get!Internal i = _
      simp [Array.get!Internal, h]
    rw [ih, List.drop_eq_getElem_cons hlt, hget]
    simp
  | case2 i r h =>
    have hle : bs.data.toList.length ≤ i := Nat.le_of_not_lt h
    rw [List.drop_eq_nil_of_le hle, List.append_nil]

/-- Different texts have different bytes. -/
theorem utf8_inj {s t : String} (h : s.toUTF8.toList = t.toUTF8.toList) : s = t := by
  have hdata : s.toUTF8.data.toList = t.toUTF8.data.toList := by
    have hloop : ∀ bs : ByteArray, bs.toList = bs.data.toList := fun bs => toList_loop bs 0 []
    rw [← hloop, ← hloop, h]
  exact String.toByteArray_inj.mp (ByteArray.ext (Array.toList_inj.mp hdata))

end Digest

theorem LineNumber.ofBytes_bytes (n : LineNumber) : Digest.ofBytes n.bytes = n.toUInt32.toNat := by
  rw [bytes, Digest.ofBytes_toBytes]
  exact Nat.mod_eq_of_lt n.toUInt32.toNat_lt

theorem LineNumber.bytes_inj {m n : LineNumber} (h : m.bytes = n.bytes) : m = n := by
  have hnat : m.toUInt32.toNat = n.toUInt32.toNat := by
    rw [← ofBytes_bytes, ← ofBytes_bytes, h]
  exact Int32.toBitVec.inj (congrArg UInt32.toBitVec (UInt32.ext hnat))

/-! ## Section 2: Names -/

/-- What an identifier is made from. -/
structure Name where
  space : Uuid
  bytes : List UInt8
deriving DecidableEq

def Name.uuid (n : Name) : Uuid := Uuid.ofName n.space n.bytes

namespace Link

/-- The name of the header of a canonical invoice. -/
def name (link : Link) : Name := ⟨Uuid.oidNamespace, link.sourceRef.toUTF8.toList⟩

theorem uuid_name (link : Link) : link.name.uuid = link.headerId := rfl

theorem sourceRef_inj {l m : Link} (h : l.sourceRef = m.sourceRef) : l = m := by
  have hchars : l.sourceRef.toList = m.sourceRef.toList := congrArg String.toList h
  cases l <;> cases m <;> simp [sourceRef] at hchars ⊢
  · exact String.toList_inj.mp hchars
  · exact String.toList_inj.mp hchars

theorem name_inj {l m : Link} (h : l.name = m.name) : l = m :=
  sourceRef_inj (Digest.utf8_inj (congrArg Name.bytes h))

end Link

/-- The name of a line under a header. -/
def lineName (header : Uuid) (number : LineNumber) : Name := ⟨header, number.bytes⟩

theorem uuid_lineName (header : Uuid) (number : LineNumber) :
    (lineName header number).uuid = lineId header number := rfl

theorem lineName_inj {g h : Uuid} {m n : LineNumber} (heq : lineName g m = lineName h n) :
    g = h ∧ m = n :=
  ⟨congrArg Name.space heq, LineNumber.bytes_inj (congrArg Name.bytes heq)⟩

namespace Entry

def lineNames (e : Entry) : List Name := e.lines.map fun l => lineName e.header.id l.line.number

/-- The lines of a sound entry are numbered one by one. -/
theorem Sound.nodup_lineNames {link : Link} {e : Entry} (h : e.Sound link) :
    e.lineNames.Nodup := by
  have hnumbers : (e.lines.map (·.line.number.toInt)).Nodup := by
    rw [h.numbers]
    refine List.nodup_range.map fun i j hij => ?_
    have hsucc : (i : Int) + 1 = j + 1 := hij
    omega
  have hpairs := List.pairwise_map.mp hnumbers
  refine List.pairwise_map.mpr (hpairs.imp fun {l m} hne heq => hne ?_)
  rw [(lineName_inj heq).2]

theorem Sound.map_id_lines {link : Link} {e : Entry} (h : e.Sound link) :
    e.lines.map (·.id) = e.lineNames.map Name.uuid := by
  rw [lineNames, List.map_map]
  refine List.map_congr_left fun l hl => ?_
  rw [(h.under l hl).id, Function.comp_apply, uuid_lineName]

end Entry

/-! ## Section 3: The identifiers of a store -/

namespace MemoryStore

variable (s : MemoryStore)

/-- The identifiers of all headers. -/
def headerIds : List Uuid := s.canonical.values.map (·.header.id)

/-- The identifiers of all lines of all invoices. -/
def lineIds : List Uuid := s.canonical.values.flatMap fun e => e.lines.map (·.id)

/-- The names that the identifiers are made from. -/
def names : List Name :=
  s.canonical.values.flatMap fun e => e.header.link.name :: e.lineNames

/-- The digest does not take two of the names in use to the same identifier. -/
def NoCollision : Prop := ∀ m ∈ s.names, ∀ n ∈ s.names, m.uuid = n.uuid → m = n

variable {s}

theorem name_mem_names {e : Entry} (he : e ∈ s.canonical.values) : e.header.link.name ∈ s.names :=
  List.mem_flatMap.mpr ⟨e, he, List.mem_cons_self ..⟩

theorem lineName_mem_names {e : Entry} (he : e ∈ s.canonical.values) {n : Name}
    (hn : n ∈ e.lineNames) : n ∈ s.names :=
  List.mem_flatMap.mpr ⟨e, he, List.mem_cons_of_mem _ hn⟩

namespace Sound

variable (h : s.Sound)
include h

/-- The entry is sound wherever it is found. -/
theorem of_mem_values {e : Entry} (he : e ∈ s.canonical.values) : e.Sound e.header.link := by
  obtain ⟨link, hget⟩ := Table.mem_values.mp he
  have hsound := h.entry hget
  rwa [hsound.link_eq]

theorem nodup_links : (s.canonical.values.map (·.header.link)).Nodup := by
  rw [Table.map_values_eq_keys fun hget => (h.entry hget).link_eq]
  exact s.canonical.nodup_keys

theorem nodup_headerIds (hno : s.NoCollision) : s.headerIds.Nodup := by
  have hlinks := h.nodup_links
  refine List.Nodup.map_on ?_ (List.Nodup.of_map _ hlinks)
  intro e he f hf hid
  have huuid : e.header.link.name.uuid = f.header.link.name.uuid := by
    rw [Link.uuid_name, Link.uuid_name, ← (h.of_mem_values he).id, ← (h.of_mem_values hf).id, hid]
  have hname := hno _ (name_mem_names he) _ (name_mem_names hf) huuid
  exact List.inj_on_of_nodup_map hlinks he hf (Link.name_inj hname)

/-- No two lines have the same name: of one invoice they differ in number, of two in header. -/
theorem nodup_lineNames (hno : s.NoCollision) :
    (s.canonical.values.flatMap Entry.lineNames).Nodup := by
  refine List.nodup_flatMap.mpr ⟨fun e he => (h.of_mem_values he).nodup_lineNames, ?_⟩
  refine (List.pairwise_map.mp (h.nodup_headerIds hno)).imp fun {e f} hne n hn hn' => ?_
  obtain ⟨l, -, rfl⟩ := List.mem_map.mp hn
  obtain ⟨m, -, heq⟩ := List.mem_map.mp hn'
  exact hne (lineName_inj heq).1.symm

theorem nodup_lineIds (hno : s.NoCollision) : s.lineIds.Nodup := by
  have hids : s.lineIds = (s.canonical.values.flatMap Entry.lineNames).map Name.uuid := by
    rw [List.map_flatMap]
    exact List.flatMap_congr fun e he => (h.of_mem_values he).map_id_lines
  have hnames : ∀ n ∈ s.canonical.values.flatMap Entry.lineNames, n ∈ s.names := by
    intro n hn
    obtain ⟨e, he, hn⟩ := List.mem_flatMap.mp hn
    exact lineName_mem_names he hn
  rw [hids]
  exact List.Nodup.map_on (fun m hm n hn => hno m (hnames m hm) n (hnames n hn))
    (h.nodup_lineNames hno)

end Sound

/-- Links are told apart by their texts, and line numbers by their four bytes.  So, if the digest
    does not collide on the names in use, all headers and all lines of a store that was filled
    from nothing have identifiers of their own. -/
theorem ids_nodup_of_replay :
    (∀ l m : Link, l.sourceRef = m.sourceRef → l = m) ∧
    (∀ m n : LineNumber, m.bytes.length = 4 ∧ (m.bytes = n.bytes → m = n)) ∧
    ∀ (s : MemoryStore) (ops : List Operation), s.canonical = .empty →
      (∀ feed id i, s.load feed id = some i → i.Numerable) → (∀ op ∈ ops, op.Numerable) →
      (s.replay ops).NoCollision →
      (s.replay ops).headerIds.Nodup ∧ (s.replay ops).lineIds.Nodup := by
  refine ⟨fun l m => Link.sourceRef_inj,
    fun m n => ⟨Digest.length_toBytes 4 _, LineNumber.bytes_inj⟩, ?_⟩
  intro s ops hempty hs hops hno
  have hstart : s.Sound :=
    { entry := fun h => by simp [hempty] at h
      numerable := hs }
  have hsound : (s.replay ops).Sound := sound_replay hstart hops
  exact ⟨hsound.nodup_headerIds hno, hsound.nodup_lineIds hno⟩

/-- Two invoices of one identifier come from the two feeds, with three lines between them, and are
    written in one run. -/
def bookedTwins : List Operation :=
  [.addScanned twinScan, .addBooked laterBooking, .run bookingRequest fun _ => false]

/-- The digest keeps the names of the twins apart, and so do their identifiers. -/
theorem ids_nodup_twins :
    (empty.replay bookedTwins).NoCollision ∧
      (empty.replay bookedTwins).headerIds.length = 2 ∧
      (empty.replay bookedTwins).headerIds.Nodup ∧
      (empty.replay bookedTwins).lineIds.length = 3 ∧
      (empty.replay bookedTwins).lineIds.Nodup := by
  have hdigests : ((empty.replay bookedTwins).names.map Name.uuid).Nodup := by decide +kernel
  have hno : (empty.replay bookedTwins).NoCollision :=
    fun m hm n hn => List.inj_on_of_nodup_map hdigests hm hn
  have hload : ∀ feed id i, empty.load feed id = some i → i.Numerable := by
    intro feed id i hi
    cases feed <;> simp [load, empty] at hi
  have hops : ∀ op ∈ bookedTwins, op.Numerable := by
    intro op hop
    simp only [bookedTwins, List.mem_cons, List.not_mem_nil, or_false] at hop
    rcases hop with rfl | rfl | rfl
    · rintro t ⟨⟩
      decide
    · exact BookedInvoice.numerable (by simp [laterBooking, firstBooking])
    · trivial
  obtain ⟨hheaders, hlines⟩ := ids_nodup_of_replay.2.2 empty bookedTwins rfl hload hops hno
  exact ⟨hno, by decide +kernel, hheaders, by decide +kernel, hlines⟩

end MemoryStore

end Reconcile
