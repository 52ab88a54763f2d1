import Mathlib
import Reconcile.Proofs.Text.UpperCase
import Reconcile.Proofs.Text.Words
import Reconcile.Unit

/-! # Labels that stand for themselves

    A label that was found for a written unit is to be found for itself, or else a line whose
    label is resolved again gets another one.  The steps that tidy a written unit keep what the
    others achieve, but for one: full stops go after white space is squeezed, so that a last word
    of nothing but full stops leaves the space in front of it behind.  Such a label, as `KG ` for
    `kg .`, is not in the table, and what is found for it is another one.

    Main statements: `canonical?_fixed_iff`; `stop_after_space_changes_label` is a unit whose
    label changes. -/

namespace Reconcile.UnitLabel

open Text

/-! ## Section 1: Full stops at the end -/

/-- The text without the full stops at its end. -/
def stopless (s : List Char) : List Char := s.rdropWhile (· == '.')

/-- The last word of a written unit is nothing but full stops. -/
def endsInStops (raw : String) : Bool := (words raw.toList).getLast?.any (·.all (· == '.'))

theorem stopless_eq_nil_iff {w : List Char} : stopless w = [] ↔ w.all (· == '.') = true := by
  unfold stopless
  rw [List.rdropWhile_eq_nil_iff, List.all_eq_true]

theorem stopless_append_of_stops {w : List Char} (h : w.all (· == '.') = true) (s : List Char) :
    stopless (s ++ w) = stopless s :=
  rdropWhile_append_of_all (List.all_eq_true.mp h) s

theorem stopless_append_of_ne_nil {w : List Char} (h : stopless w ≠ []) (s : List Char) :
    stopless (s ++ w) = s ++ stopless w :=
  rdropWhile_append_of_ne_nil h s

theorem stopless_concat_of_ne {c : Char} (h : c ≠ '.') (s : List Char) :
    stopless (s ++ [c]) = s ++ [c] := by
  have hc : stopless [c] = [c] := by simp [stopless, h]
  rw [stopless_append_of_ne_nil (by simp [hc]), hc]

theorem stopless_stopless (s : List Char) : stopless (stopless s) = stopless s := by
  unfold stopless
  rw [List.rdropWhile_eq_self_iff]
  intro hne
  exact List.rdropWhile_last_not _ s hne

theorem length_stopless_le (s : List Char) : (stopless s).length ≤ s.length :=
  (List.rdropWhile_prefix _ s).length_le

theorem isWord_stopless {w : List Char} (hw : IsWord w) (h : stopless w ≠ []) :
    IsWord (stopless w) := by
  refine ⟨h, ?_⟩
  intro c hc
  exact hw.not_blank c ((List.rdropWhile_prefix _ w).subset hc)

/-! ## Section 2: Words and full stops -/

/-- Where there are words, either the last one is nothing but full stops and goes, with the space
    in front of it staying behind, or full stops at the end of a word are all that goes. -/
theorem stopless_squeeze_cases {s : List Char} (h : words s ≠ []) :
    ∃ ws w, words s = ws ++ [w] ∧
      ((w.all (· == '.') = true ∧ stopless (squeeze s) = ws.flatMap (· ++ [' '])) ∨
        (w.all (· == '.') = false ∧
          stopless (squeeze s) = [' '].intercalate (ws ++ [stopless w]))) := by
  obtain ⟨ws, w, hws⟩ : ∃ ws w, words s = ws ++ [w] := by
    rcases List.eq_nil_or_concat (words s) with hnil | ⟨ws, w, hws⟩
    · exact absurd hnil h
    · exact ⟨ws, w, by rw [hws, List.concat_eq_append]⟩
  refine ⟨ws, w, hws, ?_⟩
  have hsqueezed : squeeze s = ws.flatMap (· ++ [' ']) ++ w := by
    rw [squeeze, hws, intercalate_concat]
  by_cases hstops : w.all (· == '.') = true
  · left
    refine ⟨hstops, ?_⟩
    rw [hsqueezed, stopless_append_of_stops hstops]
    -- the other words end in a space each, and a space is no full stop
    rcases List.eq_nil_or_concat ws with rfl | ⟨vs, v, rfl⟩
    · rfl
    · rw [List.concat_eq_append, List.flatMap_append, List.flatMap_singleton, ← List.append_assoc]
      exact stopless_concat_of_ne (by decide) _
  · right
    refine ⟨by simpa using hstops, ?_⟩
    have hne : stopless w ≠ [] := fun hnil => hstops (stopless_eq_nil_iff.mp hnil)
    rw [hsqueezed, stopless_append_of_ne_nil hne, intercalate_concat]

theorem trimmed_intercalate {ws : List (List Char)} (h : ∀ w ∈ ws, IsWord w) :
    Trimmed ([' '].intercalate ws) := by
  constructor
  · intro c hc
    rcases ws with _ | ⟨w, ws⟩
    · cases hc
    · have hw := h w List.mem_cons_self
      have hfirst : w.head? = some c := by
        rcases ws with _ | ⟨v, ws⟩
        · simpa using hc
        · rwa [List.intercalate_cons_cons, List.append_assoc,
            List.head?_append_of_ne_nil _ hw.ne_nil] at hc
      exact hw.not_blank c (List.mem_of_head? hfirst)
  · intro c hc
    rcases List.eq_nil_or_concat ws with rfl | ⟨vs, w, rfl⟩
    · cases hc
    · have hw := h w (by simp)
      rw [List.concat_eq_append, intercalate_concat,
        List.getLast?_append_of_ne_nil _ hw.ne_nil] at hc
      exact hw.not_blank c (List.mem_of_getLast? hc)

theorem not_trimmed_of_space {s : List Char} (h : s.getLast? = some ' ') : ¬ Trimmed s := by
  intro htrimmed
  have hblank : isBlank ' ' = false := htrimmed.last ' ' h
  revert hblank
  decide

/-! ## Section 3: Letters -/

/-- Upper case of ASCII makes no white space and no full stop, and takes none. -/
theorem toUpper_keeps (c : Char) :
    isBlank c.toUpper = isBlank c ∧ (c.toUpper == '.') = (c == '.') := by
  have hletters : ((List.range' 97 26).all fun n =>
      isBlank (Char.ofNat n).toUpper == isBlank (Char.ofNat n) &&
        ((Char.ofNat n).toUpper == '.') == (Char.ofNat n == '.')) = true := by
    decide +kernel
  by_cases hc : c.isLower = true
  · have hmem : c.toNat ∈ List.range' 97 26 := by
      simp only [Char.isLower, UInt32.le_iff_toNat_le, Bool.and_eq_true, decide_eq_true_eq] at hc
      rw [List.mem_range'_1]
      simp at hc
      omega
    have hletter := List.all_eq_true.mp hletters _ hmem
    rw [Char.ofNat_toNat] at hletter
    simpa using hletter
  · rw [Char.toUpper_eq_of_not_isLower hc]
    exact ⟨rfl, rfl⟩

theorem stopless_map_toUpper (s : List Char) :
    stopless (s.map Char.toUpper) = (stopless s).map Char.toUpper := by
  have hstop : (fun c : Char => c == '.') ∘ Char.toUpper = fun c => c == '.' := by
    funext c
    exact (toUpper_keeps c).2
  unfold stopless List.rdropWhile
  rw [← List.map_reverse, List.dropWhile_map, hstop, List.map_reverse]

theorem squeeze_map_toUpper (s : List Char) :
    squeeze (s.map Char.toUpper) = (squeeze s).map Char.toUpper :=
  squeeze_map (fun c => (toUpper_keeps c).1) (by decide) s

theorem toList_tidy (raw : String) :
    (tidy raw).toList = (stopless (squeeze raw.toList)).map Char.toUpper := by
  rw [tidy, asciiUpper, String.toList_map, String.toList_ofList]
  rfl

/-- What is tidied again loses no more letters than white space and full stops demand. -/
theorem toList_tidy_tidy (raw : String) :
    (tidy (tidy raw)).toList =
      (stopless (squeeze (stopless (squeeze raw.toList)))).map Char.toUpper := by
  have htwice : Char.toUpper ∘ Char.toUpper = Char.toUpper := by
    funext c
    exact Char.toUpper_toUpper_eq_toUpper c
  rw [toList_tidy, toList_tidy, squeeze_map_toUpper, stopless_map_toUpper, List.map_map, htwice]

theorem tidy_eq_empty_iff {raw : String} :
    tidy raw = "" ↔ stopless (squeeze raw.toList) = [] := by
  rw [← String.toList_eq_nil_iff, toList_tidy, List.map_eq_nil_iff]

theorem trimmed_map_toUpper {s : List Char} (h : Trimmed s) : Trimmed (s.map Char.toUpper) := by
  constructor
  · intro d hd
    rw [List.head?_map, Option.map_eq_some_iff] at hd
    obtain ⟨c, hc, rfl⟩ := hd
    rw [(toUpper_keeps c).1, h.head c hc]
  · intro d hd
    rw [List.getLast?_map, Option.map_eq_some_iff] at hd
    obtain ⟨c, hc, rfl⟩ := hd
    rw [(toUpper_keeps c).1, h.last c hc]

/-! ## Section 4: Labels of the table -/

/-- A label of the table stands for itself. -/
theorem canonical?_of_ofSpelling? {spelling label : String}
    (h : ofSpelling? spelling = some label) :
    canonical? label = some label ∧ Trimmed label.toList := by
  have htable : (synonyms.all fun e => canonical? e.2 == some e.2 && trim e.2.toList == e.2.toList)
      = true := by
    decide +kernel
  obtain ⟨before, after, hsplit, -⟩ := List.lookup_eq_some_iff.mp h
  have hentry := List.all_eq_true.mp htable (spelling, label) (by simp [hsplit])
  simp only [Bool.and_eq_true, beq_iff_eq] at hentry
  exact ⟨hentry.1, hentry.2 ▸ trimmed_trim label.toList⟩

/-- No spelling of the table ends in a space, and no label of it does. -/
theorem not_known_of_space {s : String} (h : s.toList.getLast? = some ' ') :
    ofSpelling? s = none ∧ dimension s = .unknown := by
  have htable : (synonyms.all fun e =>
      e.1.toList.getLast? != some ' ' && e.2.toList.getLast? != some ' ') = true := by
    decide +kernel
  have hspelling : ∀ e ∈ synonyms, s ≠ e.1 ∧ s ≠ e.2 := by
    intro e he
    have hentry := List.all_eq_true.mp htable e he
    simp only [Bool.and_eq_true, bne_iff_ne] at hentry
    exact ⟨fun heq => hentry.1 (heq ▸ h), fun heq => hentry.2 (heq ▸ h)⟩
  constructor
  · rw [ofSpelling?, List.lookup_eq_none_iff]
    intro e he
    rw [bne_iff_ne]
    exact (hspelling e he).1
  · -- the weights and volumes that are named are labels of the table too
    have hlabel : s ∉ synonyms.map (·.2) := by
      intro hmem
      obtain ⟨e, he, heq⟩ := List.mem_map.mp hmem
      exact (hspelling e he).2 heq.symm
    have hweights : ["KG", "G"] ⊆ synonyms.map (·.2) := by decide
    have hvolumes : ["L", "ML"] ⊆ synonyms.map (·.2) := by decide
    rw [dimension, if_neg fun hmem => hlabel (hweights hmem),
      if_neg fun hmem => hlabel (hvolumes hmem), if_neg hlabel]

theorem canonical?_eq_some_iff {raw label : String} :
    canonical? raw = some label ↔ tidy raw ≠ "" ∧
      (ofSpelling? (tidy raw) = some label ∨ ofSpelling? (tidy raw) = none ∧ tidy raw = label) := by
  by_cases h : tidy raw = ""
  · simp [canonical?, h]
  · rcases hknown : ofSpelling? (tidy raw) with _ | known <;> simp [canonical?, h, hknown]

/-! ## Section 5: Labels found again -/

/-- What is left of a written unit is words one space apart, with one more space behind them if
    the last word of all was nothing but full stops. -/
theorem tidy_cases {raw : String} (h : tidy raw ≠ "") :
    ∃ ws : List (List Char), (∀ w ∈ ws, IsWord w) ∧
      ((endsInStops raw = false ∧ stopless (squeeze raw.toList) = [' '].intercalate ws) ∨
        (endsInStops raw = true ∧
          stopless (squeeze raw.toList) = [' '].intercalate ws ++ [' '])) := by
  have hne : stopless (squeeze raw.toList) ≠ [] := fun hnil => h (tidy_eq_empty_iff.mpr hnil)
  have hwords : words raw.toList ≠ [] := by
    intro hnil
    rw [squeeze, hnil] at hne
    exact hne rfl
  obtain ⟨ws, w, hws, hcases⟩ := stopless_squeeze_cases hwords
  have hword : ∀ v ∈ ws ++ [w], IsWord v := hws ▸ isWord_of_mem_words raw.toList
  have hends : endsInStops raw = w.all (· == '.') := by
    rw [endsInStops, hws, List.getLast?_append]
    rfl
  rw [hends]
  rcases hcases with ⟨hstops, hrest⟩ | ⟨hstops, hrest⟩
  · refine ⟨ws, fun v hv => hword v (by simp [hv]), .inr ⟨hstops, ?_⟩⟩
    rw [hrest] at hne ⊢
    rcases List.eq_nil_or_concat ws with rfl | ⟨vs, v, rfl⟩
    · exact absurd rfl hne
    · rw [List.concat_eq_append, intercalate_concat]
      simp
  · refine ⟨ws ++ [stopless w], ?_, .inl ⟨hstops, hrest⟩⟩
    intro v hv
    rcases List.mem_append.mp hv with hv | hv
    · exact hword v (by simp [hv])
    · rw [List.mem_singleton.mp hv]
      refine isWord_stopless (hword w (by simp)) fun hnil => ?_
      rw [stopless_eq_nil_iff, hstops] at hnil
      cases hnil

/-- Full stops that end a word go for good. -/
theorem tidy_tidy_of_not_stops {raw : String} (h : tidy raw ≠ "")
    (hstops : endsInStops raw = false) :
    tidy (tidy raw) = tidy raw ∧ Trimmed (tidy raw).toList := by
  obtain ⟨ws, hws, ⟨-, hrest⟩ | ⟨htrue, -⟩⟩ := tidy_cases h
  · constructor
    · -- words one space apart stay so, and no full stop is left behind the last one
      apply String.toList_injective
      rw [toList_tidy_tidy, hrest, squeeze_intercalate hws, ← hrest, stopless_stopless,
        toList_tidy]
    · rw [toList_tidy, hrest]
      exact trimmed_map_toUpper (trimmed_intercalate hws)
  · rw [hstops] at htrue
    cases htrue

/-- A last word of full stops leaves a space behind, which goes when the rest is tidied again. -/
theorem tidy_tidy_of_stops {raw : String} (h : tidy raw ≠ "") (hstops : endsInStops raw = true) :
    (∃ s, tidy raw = s ++ " " ∧ Trimmed s.toList) ∧ tidy (tidy raw) ≠ tidy raw := by
  obtain ⟨ws, hws, ⟨hfalse, -⟩ | ⟨-, hrest⟩⟩ := tidy_cases h
  · rw [hstops] at hfalse
    cases hfalse
  · have hspace : isBlank ' ' = true := by decide
    refine ⟨⟨String.ofList (([' '].intercalate ws).map Char.toUpper), ?_, ?_⟩, ?_⟩
    · apply String.toList_injective
      rw [toList_tidy, hrest]
      simp
    · rw [String.toList_ofList]
      exact trimmed_map_toUpper (trimmed_intercalate hws)
    · -- the text gets shorter by the space at least
      intro heq
      have hlength := congrArg (List.length ∘ String.toList) heq
      simp only [Function.comp_apply] at hlength
      have hsqueezed : squeeze ([' '].intercalate ws ++ [' ']) = [' '].intercalate ws := by
        rw [squeeze, words_append_of_blank hspace, words_intercalate hws]
        simp [words]
      rw [toList_tidy_tidy, toList_tidy, hrest, hsqueezed] at hlength
      have hle := length_stopless_le ([' '].intercalate ws)
      simp only [List.length_map, List.length_append, List.length_singleton] at hlength
      omega

/-- Full stops that end a word leave a label that is found for itself. -/
theorem canonical?_of_not_stops {raw label : String} (h : canonical? raw = some label)
    (hstops : endsInStops raw = false) : canonical? label = some label ∧ Trimmed label.toList := by
  obtain ⟨hne, hknown | ⟨hunknown, rfl⟩⟩ := canonical?_eq_some_iff.mp h
  · exact canonical?_of_ofSpelling? hknown
  · obtain ⟨htidy, htrimmed⟩ := tidy_tidy_of_not_stops hne hstops
    refine ⟨canonical?_eq_some_iff.mpr ?_, htrimmed⟩
    rw [htidy]
    exact ⟨hne, .inr ⟨hunknown, rfl⟩⟩

/-- A last word of full stops leaves a label with a space behind it, for which another one or none
    is found. -/
theorem canonical?_of_stops {raw label : String} (h : canonical? raw = some label)
    (hstops : endsInStops raw = true) :
    (∃ s, label = s ++ " " ∧ Trimmed s.toList) ∧ canonical? label ≠ some label := by
  obtain ⟨hne, hlabel⟩ := canonical?_eq_some_iff.mp h
  obtain ⟨⟨s, hs, htrimmed⟩, htidy⟩ := tidy_tidy_of_stops hne hstops
  have hspace : ofSpelling? (tidy raw) = none := (not_known_of_space (by simp [hs])).1
  obtain rfl : tidy raw = label := by
    rcases hlabel with hknown | ⟨-, heq⟩
    · rw [hspace] at hknown
      cases hknown
    · exact heq
  refine ⟨⟨s, hs, htrimmed⟩, ?_⟩
  intro hfixed
  obtain ⟨-, hknown | ⟨-, heq⟩⟩ := canonical?_eq_some_iff.mp hfixed
  · -- a label of the table has no space behind it
    exact not_trimmed_of_space (by simp [hs]) (canonical?_of_ofSpelling? hknown).2
  · exact htidy heq

theorem resolve_fixed_iff {label : String} :
    (∀ description, ResolvedUnit.resolve (some label) description =
      ⟨some label, dimension label⟩) ↔ canonical? label = some label := by
  constructor
  · intro h
    have hnothing : Measure.label? "" = none := by decide +kernel
    have hempty := h ""
    rw [ResolvedUnit.resolve, Option.bind_some, hnothing, Option.or_none] at hempty
    rcases hlabel : canonical? label with _ | other
    · simp [hlabel, ResolvedUnit.ofLabel?] at hempty
    · rw [hlabel] at hempty
      exact (ResolvedUnit.mk.inj hempty).1
  · intro h description
    rw [ResolvedUnit.resolve, Option.bind_some, h]
    rfl

/-- A label that was found for a written unit is found for itself, is the unit of every line that
    gives this label, and is trimmed; each of the three holds exactly if the last word of the
    written unit is more than full stops.  Otherwise the label is a trimmed text with a space
    behind it, and what it measures is not known. -/
theorem canonical?_fixed_iff {raw label : String} (h : canonical? raw = some label) :
    (canonical? label = some label ↔ endsInStops raw = false) ∧
    ((∀ d d', ResolvedUnit.resolve (some label) d = ⟨some label, dimension label⟩ ∧
      ResolvedUnit.resolve (some label) d = ResolvedUnit.resolve (some raw) d') ↔
        endsInStops raw = false) ∧
    (Trimmed label.toList ↔ endsInStops raw = false) ∧
    (endsInStops raw = true → dimension label = .unknown ∧
      ∃ s, label = s ++ " " ∧ Trimmed s.toList) := by
  have hfirst : ∀ d', ResolvedUnit.resolve (some raw) d' = ⟨some label, dimension label⟩ := by
    intro d'
    rw [ResolvedUnit.resolve, Option.bind_some, h]
    rfl
  have hresolved : (∀ d d', ResolvedUnit.resolve (some label) d = ⟨some label, dimension label⟩ ∧
      ResolvedUnit.resolve (some label) d = ResolvedUnit.resolve (some raw) d') ↔
        canonical? label = some label := by
    rw [← resolve_fixed_iff]
    constructor
    · intro hall d
      exact (hall d d).1
    · intro hall d d'
      exact ⟨hall d, (hall d).trans (hfirst d').symm⟩
  rw [hresolved]
  by_cases hstops : endsInStops raw = true
  · obtain ⟨⟨s, rfl, htrimmed⟩, hchanged⟩ := canonical?_of_stops h hstops
    have hspace : (s ++ " ").toList.getLast? = some ' ' := by simp
    have hunknown : dimension (s ++ " ") = .unknown := (not_known_of_space hspace).2
    simp only [hstops, hchanged, not_trimmed_of_space hspace]
    exact ⟨by simp, by simp, by simp, fun _ => ⟨hunknown, s, rfl, htrimmed⟩⟩
  · have hfalse : endsInStops raw = false := by simpa using hstops
    obtain ⟨hfixed, htrimmed⟩ := canonical?_of_not_stops h hfalse
    simp [hfalse, hfixed, htrimmed]

/-- Two words, with full stops behind each of them, that are no spelling of the table. -/
theorem canonical?_fixed_ounces :
    let raw := "\tfl.  oz.. "
    canonical? raw = some "FL. OZ" ∧ endsInStops raw = false ∧
      canonical? "FL. OZ" = some "FL. OZ" ∧
      ResolvedUnit.resolve (some "FL. OZ") "Cream 2kg" = ⟨some "FL. OZ", .unknown⟩ ∧
      Trimmed "FL. OZ".toList := by
  intro raw
  have hlabel : canonical? raw = some "FL. OZ" := by decide +kernel
  have hstops : endsInStops raw = false := by decide +kernel
  obtain ⟨hfixed, hresolved, htrimmed, -⟩ := canonical?_fixed_iff hlabel
  refine ⟨hlabel, hstops, hfixed.mpr hstops, ?_, htrimmed.mpr hstops⟩
  exact ((hresolved.mpr hstops) "Cream 2kg" "").1

/-- A full stop behind a space goes and leaves the space, and then the unit is not known; once
    more, and it is. -/
theorem stop_after_space_changes_label :
    canonical? "kg ." = some "KG " ∧ canonical? "KG " = some "KG" ∧
      ResolvedUnit.resolve (some "kg .") "" = ⟨some "KG ", .unknown⟩ ∧
      ResolvedUnit.resolve (some "KG ") "" = ⟨some "KG", .weight⟩ ∧
      ¬ Trimmed "KG ".toList := by
  refine ⟨by decide +kernel, by decide +kernel, by decide +kernel, by decide +kernel, ?_⟩
  exact not_trimmed_of_space (by decide)

end Reconcile.UnitLabel
