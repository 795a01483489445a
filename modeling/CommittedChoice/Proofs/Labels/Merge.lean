import CommittedChoice.Expected

/-! Labels are merged as sets are, with the order of first mention. Merging is associative on all
lists; that nothing is neutral on the left holds of lists without duplicates, and those are what the
operations that parsers have can build. -/
namespace CommittedChoice.Expected

variable {expected first second : Expected} {listed labels : List String} {text : String}

/-- What is new in the labels is put at the end, once. -/
theorem foldl_mention (listed labels : List String) :
    labels.foldl mention listed = listed ++ (labels.removeAll listed).eraseDups := by
  induction labels generalizing listed with
  | nil => simp [List.removeAll]
  | cons head labels ih =>
    rw [List.foldl_cons, ih, mention]
    by_cases known : head ∈ listed
    · simp [known, List.removeAll]
    · have rest : labels.removeAll (listed ++ [head]) =
          (labels.removeAll listed).filter fun text => !text == head := by
        simp only [List.removeAll, List.filter_filter]
        exact List.filter_congr fun text _ => by by_cases same : text = head <;> simp [same]
      have new : (head :: labels).removeAll listed = head :: labels.removeAll listed := by
        simp [List.removeAll, known]
      rw [if_neg known, rest, new, List.eraseDups_cons, List.append_assoc, List.singleton_append]

theorem mem_foldl_mention :
    text ∈ labels.foldl mention listed ↔ text ∈ listed ∨ text ∈ labels := by
  by_cases known : text ∈ listed <;> simp [foldl_mention, List.removeAll, known]

/-- Labels that are all new are put at the end as they are. -/
theorem foldl_mention_of_nodup (distinct : labels.Nodup)
    (new : ∀ text ∈ labels, text ∉ listed) : labels.foldl mention listed = listed ++ labels := by
  induction labels generalizing listed with
  | nil => simp
  | cons head labels ih =>
    obtain ⟨fresh, distinct⟩ := List.nodup_cons.mp distinct
    rw [List.foldl_cons, mention, if_neg (new head List.mem_cons_self), ih distinct]
    · simp
    · intro text member
      have other : text ≠ head := fun same => fresh (same ▸ member)
      simp [new text (List.mem_cons_of_mem head member), other]

theorem eraseDups_of_nodup (distinct : labels.Nodup) : labels.eraseDups = labels := by
  have listed := foldl_mention [] labels
  rw [foldl_mention_of_nodup distinct fun _ _ => List.not_mem_nil, List.removeAll_nil] at listed
  exact listed.symm

theorem nodup_foldl_mention (distinct : listed.Nodup) : (labels.foldl mention listed).Nodup := by
  induction labels generalizing listed with
  | nil => exact distinct
  | cons head labels ih =>
    apply ih
    rw [mention]
    split
    · exact distinct
    next fresh =>
      refine List.nodup_append.mpr ⟨distinct, by simp, ?_⟩
      rintro text member _ (_ | ⟨_, ⟨⟩⟩) rfl
      exact fresh member

theorem merge_nothing (expected : Expected) : expected.merge nothing = expected := rfl

/-- Labels that are all listed add nothing. -/
theorem merge_eq_left (known : ∀ text ∈ second.alternatives, text ∈ first.alternatives) :
    first.merge second = first := by
  have none_new : second.alternatives.removeAll first.alternatives = [] := by
    simpa [List.removeAll] using known
  rw [merge, foldl_mention, none_new, List.eraseDups_nil, List.append_nil]

theorem merge_self (expected : Expected) : expected.merge expected = expected :=
  merge_eq_left fun _ known => known

theorem mem_merge :
    text ∈ (first.merge second).alternatives ↔
      text ∈ first.alternatives ∨ text ∈ second.alternatives :=
  mem_foldl_mention

/-- What has been merged once adds nothing later. -/
theorem merge_merge_left (first second : Expected) :
    (first.merge second).merge first = first.merge second :=
  merge_eq_left fun _ known => mem_merge.mpr (.inl known)

/-- The labels of the first stay as they are, and those that only the second has come after them
in its order. -/
theorem alternatives_merge (distinct : second.alternatives.Nodup) :
    (first.merge second).alternatives =
      first.alternatives ++ second.alternatives.filter (· ∉ first.alternatives) := by
  have added : (second.alternatives.removeAll first.alternatives).Nodup := distinct.filter _
  rw [merge, foldl_mention, eraseDups_of_nodup added]
  simp [List.removeAll]

theorem merge_assoc (first second third : Expected) :
    (first.merge second).merge third = first.merge (second.merge third) := by
  obtain ⟨labels⟩ := third
  simp only [merge, mk.injEq]
  induction labels generalizing second with
  | nil => rfl
  | cons head labels ih =>
    have mentioned : mention (second.alternatives.foldl mention first.alternatives) head =
        (mention second.alternatives head).foldl mention first.alternatives := by
      by_cases known : head ∈ second.alternatives
      · simp [mention, known, mem_foldl_mention]
      · simp [mention, known]
    rw [List.foldl_cons, List.foldl_cons, mentioned]
    exact ih ⟨mention second.alternatives head⟩

theorem nothing_merge (distinct : expected.alternatives.Nodup) :
    nothing.merge expected = expected := by
  simp only [merge, nothing, foldl_mention_of_nodup distinct fun _ _ => List.not_mem_nil,
    List.nil_append]

/-- Merging one after the other lists every label once, in order of first appearance. -/
theorem foldl_merge (gathered : List Expected) :
    gathered.foldl merge nothing = ⟨(gathered.flatMap alternatives).eraseDups⟩ := by
  have joined (expected : Expected) : gathered.foldl merge expected =
      ⟨(gathered.flatMap alternatives).foldl mention expected.alternatives⟩ := by
    induction gathered generalizing expected with
    | nil => rfl
    | cons head gathered ih => simp [ih, merge]
  rw [joined, foldl_mention, nothing, List.nil_append, List.removeAll_nil]

/-- Built by the operations that parsers have. -/
inductive Made : Expected → Prop where
  | nothing : Made nothing
  | label (text : String) : Made (label text)
  | merge {first second : Expected} (first_made : Made first) (second_made : Made second) :
      Made (first.merge second)

theorem Made.nodup (made : expected.Made) : expected.alternatives.Nodup := by
  induction made with
  | nothing => exact List.nodup_nil
  | label text => simp [Expected.label]
  | merge _ _ distinct _ => exact nodup_foldl_mention distinct

theorem made_ofLabels (labels : List String) : (ofLabels labels).Made := by
  have joined (expected : Expected) (made : expected.Made) :
      (labels.foldl (fun expected text => expected.merge (.label text)) expected).Made := by
    induction labels generalizing expected with
    | nil => exact made
    | cons head labels ih => exact ih _ (.merge made (.label head))
  exact joined nothing .nothing

theorem alternatives_ofLabels (labels : List String) :
    (ofLabels labels).alternatives = labels.foldl mention [] := by
  have joined (expected : Expected) :
      (labels.foldl (fun expected text => expected.merge (.label text)) expected).alternatives =
        labels.foldl mention expected.alternatives := by
    induction labels generalizing expected with
    | nil => rfl
    | cons head labels ih => exact ih _
  exact joined nothing

/-- What is listed without duplicates can be built from its labels one by one. -/
theorem ofLabels_alternatives (distinct : expected.alternatives.Nodup) :
    ofLabels expected.alternatives = expected := by
  have labels := alternatives_ofLabels expected.alternatives
  rw [foldl_mention_of_nodup distinct fun _ _ => List.not_mem_nil] at labels
  exact congrArg mk labels

theorem made_iff_nodup : expected.Made ↔ expected.alternatives.Nodup := by
  constructor
  · exact Made.nodup
  · intro distinct
    rw [← ofLabels_alternatives distinct]
    exact made_ofLabels _

end CommittedChoice.Expected
