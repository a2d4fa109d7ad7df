import WebhookGuard.Headers.Basic

/-
  Looking a value up under several names. The search passes over names that are blank, names without
  a value and blank values, and takes the first value that is left (`firstNonBlank?_eq_some_iff`).
  Whether there is any value at all, blank or not, is a separate question (`Presents`).
-/
namespace WebhookGuard.Headers

open WebhookGuard.Text

variable {h : Headers} {name value : String} {names : List String}

/-- A value stands under a name, and neither is blank. -/
def Carries (h : Headers) (name value : String) : Prop :=
  isBlank name = false ∧ h.get? name = some value ∧ isBlank value = false

/-- Of the values along some names that are not blank, this is the first. -/
def IsFirstNonBlank (h : Headers) (names : List String) (value : String) : Prop :=
  ∃ before name after, names = before ++ name :: after ∧ h.Carries name value ∧
    ∀ earlier ∈ before, ∀ other, ¬ h.Carries earlier other

/-- Under one of the names that are not blank there is a value. -/
def Presents (h : Headers) (names : List String) : Prop :=
  ∃ name ∈ names, isBlank name = false ∧ (h.get? name).isSome

theorem isFirstNonBlank_cons : h.IsFirstNonBlank (name :: names) value ↔
    h.Carries name value ∨ ((∀ other, ¬ h.Carries name other) ∧ h.IsFirstNonBlank names value) := by
  constructor
  · rintro ⟨before, found, after, hnames, hcarries, hearlier⟩
    cases before with
    | nil =>
      obtain ⟨rfl, -⟩ := List.cons.inj hnames
      exact Or.inl hcarries
    | cons first before =>
      obtain ⟨rfl, rfl⟩ := List.cons.inj hnames
      obtain ⟨hfirst, hearlier⟩ := List.forall_mem_cons.mp hearlier
      exact Or.inr ⟨hfirst, before, found, after, rfl, hcarries, hearlier⟩
  · rintro (hcarries | ⟨hnone, before, found, after, rfl, hcarries, hearlier⟩)
    · exact ⟨[], name, names, rfl, hcarries, by simp⟩
    · exact ⟨name :: before, found, after, rfl, hcarries,
        List.forall_mem_cons.mpr ⟨hnone, hearlier⟩⟩

theorem not_isFirstNonBlank_nil : ¬ h.IsFirstNonBlank [] value := by
  rintro ⟨before, found, after, hnames, -⟩
  exact List.append_ne_nil_of_right_ne_nil _ (List.cons_ne_nil _ _) hnames.symm

/-- The first name decides when it carries a value. -/
theorem firstNonBlank?_of_carries (hc : h.Carries name value) :
    h.firstNonBlank? (name :: names) = some value := by
  obtain ⟨hn, hg, hv⟩ := hc
  unfold firstNonBlank? present
  rw [List.filter_cons_of_pos (by simp [hn]), List.filterMap_cons_some hg,
    List.find?_cons_of_pos (by simp [hv])]

/-- The first name is passed over when it carries no value. -/
theorem firstNonBlank?_of_not_carries (hc : ∀ other, ¬ h.Carries name other) :
    h.firstNonBlank? (name :: names) = h.firstNonBlank? names := by
  unfold firstNonBlank? present
  cases hn : isBlank name with
  | true => rw [List.filter_cons_of_neg (by simp [hn])]
  | false =>
    rw [List.filter_cons_of_pos (by simp [hn])]
    cases hg : h.get? name with
    | none => rw [List.filterMap_cons_none hg]
    | some other =>
      have hblank : isBlank other = true :=
        eq_true_of_ne_false fun hother => hc other ⟨hn, hg, hother⟩
      rw [List.filterMap_cons_some hg, List.find?_cons_of_neg (by simp [hblank])]

/-- The search finds the first value that is not blank. -/
theorem firstNonBlank?_eq_some_iff :
    h.firstNonBlank? names = some value ↔ h.IsFirstNonBlank names value := by
  induction names with
  | nil => exact iff_of_false (by simp [firstNonBlank?, present]) not_isFirstNonBlank_nil
  | cons name names ih =>
    rw [isFirstNonBlank_cons]
    by_cases hc : ∃ other, h.Carries name other
    · obtain ⟨other, hother⟩ := hc
      rw [firstNonBlank?_of_carries hother]
      constructor
      · intro heq
        obtain rfl := Option.some.inj heq
        exact Or.inl hother
      · rintro (hvalue | ⟨hnone, -⟩)
        · exact hother.2.1.symm.trans hvalue.2.1
        · exact absurd hother (hnone other)
    · have hnone := not_exists.mp hc
      rw [firstNonBlank?_of_not_carries hnone, ih]
      exact ⟨fun hfirst => Or.inr ⟨hnone, hfirst⟩,
        fun hor => (hor.resolve_left (hnone value)).2⟩

theorem firstNonBlank?_isSome_iff :
    (h.firstNonBlank? names).isSome ↔ ∃ value, h.IsFirstNonBlank names value := by
  rw [Option.isSome_iff_exists]
  exact exists_congr fun _ => firstNonBlank?_eq_some_iff

/-- There is a value to present just when the other search finds one. -/
theorem firstPresent?_isSome_iff : (h.firstPresent? names).isSome ↔ h.Presents names := by
  unfold firstPresent? present Presents
  constructor
  · intro hsome
    obtain ⟨value, hvalue⟩ := Option.isSome_iff_exists.mp hsome
    obtain ⟨name, hname, hg⟩ := List.mem_filterMap.mp (List.mem_of_head? hvalue)
    obtain ⟨hmem, hn⟩ := List.mem_filter.mp hname
    exact ⟨name, hmem, by simpa using hn, by rw [hg]; rfl⟩
  · rintro ⟨name, hmem, hn, hsome⟩
    obtain ⟨value, hg⟩ := Option.isSome_iff_exists.mp hsome
    have hname : name ∈ names.filter fun name => !isBlank name :=
      List.mem_filter.mpr ⟨hmem, by simp [hn]⟩
    rw [List.isSome_head?]
    exact List.ne_nil_of_mem (List.mem_filterMap.mpr ⟨name, hname, hg⟩)

/-- A value that is not blank is a value. -/
theorem IsFirstNonBlank.presents (hf : h.IsFirstNonBlank names value) : h.Presents names := by
  obtain ⟨before, name, after, rfl, ⟨hn, hg, -⟩, -⟩ := hf
  exact ⟨name, by simp, hn, by rw [hg]; rfl⟩

/-- Where no value is found that is not blank, the first one presented is blank. -/
theorem isBlank_of_firstPresent? (hnone : h.firstNonBlank? names = none)
    (hfirst : h.firstPresent? names = some value) : isBlank value = true := by
  unfold firstNonBlank? at hnone
  unfold firstPresent? at hfirst
  simpa using List.find?_eq_none.mp hnone value (List.mem_of_head? hfirst)

end WebhookGuard.Headers
