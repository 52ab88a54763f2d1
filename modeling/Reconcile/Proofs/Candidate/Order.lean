import Reconcile.Candidate

/-! # The order of candidates

    Candidates are ordered by age and then by identifier.  Among candidates of which each has an
    identifier of its own this is a linear order, so that sorting them has one outcome only.

    Main statements: `filter_mergeSort`, leaving some out and sorting the rest can change places,
    and `select_eq_self`, nothing is done to candidates that are in order already. -/

namespace Reconcile

/-! ## Section 1: Instants -/

namespace Instant

theorem le_iff {a b : Instant} :
    a.le b = true ↔ a.second < b.second ∨ a.second = b.second ∧ a.nano ≤ b.nano := by
  simp [le]

theorem le_total (a b : Instant) : a.le b = true ∨ b.le a = true := by
  rw [le_iff, le_iff]
  omega

theorem le_trans {a b c : Instant} (hab : a.le b = true) (hbc : b.le c = true) :
    a.le c = true := by
  rw [le_iff] at *
  omega

theorem le_antisymm {a b : Instant} (hab : a.le b = true) (hba : b.le a = true) : a = b := by
  rw [le_iff] at *
  obtain ⟨s, n⟩ := a
  obtain ⟨t, m⟩ := b
  simp only [mk.injEq] at *
  omega

end Instant

/-! ## Section 2: Candidates -/

namespace Candidate

theorem le_iff {a b : Candidate} :
    le a b = true ↔
      a.createdAt = b.createdAt ∧ a.id ≤ b.id ∨
        a.createdAt ≠ b.createdAt ∧ a.createdAt.le b.createdAt = true := by
  by_cases h : a.createdAt = b.createdAt <;> simp [le, h]

theorem le_total (a b : Candidate) : (le a b || le b a) = true := by
  rw [Bool.or_eq_true, le_iff, le_iff]
  by_cases h : a.createdAt = b.createdAt
  · rcases String.le_total a.id b.id with hid | hid
    · exact .inl (.inl ⟨h, hid⟩)
    · exact .inr (.inl ⟨h.symm, hid⟩)
  · rcases Instant.le_total a.createdAt b.createdAt with ht | ht
    · exact .inl (.inr ⟨h, ht⟩)
    · exact .inr (.inr ⟨Ne.symm h, ht⟩)

theorem le_trans (a b c : Candidate) (hab : le a b = true) (hbc : le b c = true) :
    le a c = true := by
  rw [le_iff] at *
  rcases hab with ⟨h₁, hid₁⟩ | ⟨h₁, ht₁⟩
  · rcases hbc with ⟨h₂, hid₂⟩ | ⟨h₂, ht₂⟩
    · exact .inl ⟨h₁.trans h₂, String.le_trans hid₁ hid₂⟩
    · exact .inr ⟨h₁ ▸ h₂, h₁ ▸ ht₂⟩
  · rcases hbc with ⟨h₂, hid₂⟩ | ⟨h₂, ht₂⟩
    · exact .inr ⟨h₂ ▸ h₁, h₂ ▸ ht₁⟩
    · refine .inr ⟨fun h => h₁ ?_, Instant.le_trans ht₁ ht₂⟩
      exact Instant.le_antisymm ht₁ (h ▸ ht₂)

theorem id_eq_of_le_of_le {a b : Candidate} (hab : le a b = true) (hba : le b a = true) :
    a.id = b.id := by
  rw [le_iff] at *
  rcases hab with ⟨h₁, hid₁⟩ | ⟨h₁, ht₁⟩
  · rcases hba with ⟨-, hid₂⟩ | ⟨h₂, -⟩
    · exact String.le_antisymm hid₁ hid₂
    · exact absurd h₁.symm h₂
  · rcases hba with ⟨h₂, -⟩ | ⟨-, ht₂⟩
    · exact absurd h₂.symm h₁
    · exact absurd (Instant.le_antisymm ht₁ ht₂) h₁

theorem pairwise_mergeSort_le (cs : List Candidate) :
    (cs.mergeSort le).Pairwise fun a b => le a b = true :=
  List.pairwise_mergeSort le_trans le_total cs

/-- Of candidates with an identifier each, two that have the same are one. -/
theorem eq_of_id_eq {cs : List Candidate} (hid : (cs.map (·.id)).Nodup) {a b : Candidate}
    (ha : a ∈ cs) (hb : b ∈ cs) (h : a.id = b.id) : a = b := by
  induction cs with
  | nil => cases ha
  | cons c cs ih =>
    obtain ⟨hc, hcs⟩ := List.nodup_cons.mp hid
    rcases List.mem_cons.mp ha with rfl | ha' <;> rcases List.mem_cons.mp hb with rfl | hb'
    · rfl
    · exact absurd (List.mem_map.mpr ⟨b, hb', h.symm⟩) hc
    · exact absurd (List.mem_map.mpr ⟨a, ha', h⟩) hc
    · exact ih hcs ha' hb'

theorem filter_mergeSort {cs : List Candidate} (hid : (cs.map (·.id)).Nodup)
    (p : Candidate → Bool) : (cs.mergeSort le).filter p = (cs.filter p).mergeSort le := by
  have hleft : ((cs.mergeSort le).filter p).Pairwise fun a b => le a b = true :=
    (pairwise_mergeSort_le cs).filter p
  have hright : ((cs.filter p).mergeSort le).Pairwise fun a b => le a b = true :=
    pairwise_mergeSort_le _
  have hperm : ((cs.mergeSort le).filter p).Perm ((cs.filter p).mergeSort le) :=
    ((List.mergeSort_perm cs le).filter p).trans (List.mergeSort_perm _ le).symm
  -- two sorted lists of the same candidates are one if the order tells any two of them apart
  refine List.Perm.eq_of_pairwise ?_ hleft hright hperm
  intro a b ha hb hab hba
  have ha' : a ∈ cs := List.mem_mergeSort.mp (List.mem_filter.mp ha).1
  have hb' : b ∈ cs := (List.mem_filter.mp (List.mem_mergeSort.mp hb)).1
  exact eq_of_id_eq hid ha' hb' (id_eq_of_le_of_le hab hba)

theorem firstById_eq_self {cs : List Candidate} (hid : (cs.map (·.id)).Nodup) :
    firstById cs = cs := by
  induction cs with
  | nil => rfl
  | cons c cs ih =>
    obtain ⟨hc, hcs⟩ := List.nodup_cons.mp hid
    rw [firstById, ih hcs]
    congr 1
    apply List.filter_eq_self.mpr
    intro d hd
    have : d.id ≠ c.id := fun h => hc (List.mem_map.mpr ⟨d, hd, h⟩)
    simpa using this

/-- Candidates of a feed that are in order, each with an identifier of its own and not too many
    of them, are selected as they are. -/
theorem select_eq_self {feed : Feed} {limit : Nat} {cs : List Candidate}
    (hfeed : ∀ c ∈ cs, c.feed = feed) (hid : (cs.map (·.id)).Nodup)
    (hsorted : cs.Pairwise fun a b => le a b = true) (hlen : cs.length ≤ limit) :
    select feed limit cs = cs := by
  have hfilter : cs.filter (·.feed = feed) = cs :=
    List.filter_eq_self.mpr fun c hc => by simpa using hfeed c hc
  rw [select, hfilter, firstById_eq_self hid, oldest, List.mergeSort_of_pairwise hsorted,
    List.take_of_length_le hlen]

end Candidate

end Reconcile
