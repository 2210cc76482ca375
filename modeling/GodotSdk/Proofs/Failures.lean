/-!
# Steps that may fail

A step that depends on another one succeeds if both do. A list of steps succeeds if each
of them does, and fails as the first one that fails.
-/

namespace GodotSdk

variable {ε α β : Type} {f : α → Except ε β}

theorem bind_eq_ok_iff {step : Except ε α} {result : β} :
    step >>= f = .ok result ↔ ∃ value, step = .ok value ∧ f value = .ok result := by
  cases step <;> simp [bind, Except.bind]

theorem bind_eq_error_iff {step : Except ε α} {error : ε} :
    step >>= f = .error error ↔ step = .error error ∨ ∃ value, step = .ok value ∧
      f value = .error error := by
  cases step <;> simp [bind, Except.bind]

theorem mapError_eq_ok_iff {δ : Type} {rename : ε → δ} {step : Except ε α}
    {result : α} :
    step.mapError rename = .ok result ↔ step = .ok result := by
  cases step with
  | error error => exact ⟨nofun, nofun⟩
  | ok value =>
      constructor
      · rintro ⟨⟩
        rfl
      · rintro ⟨⟩
        rfl

theorem mapM_cons_eq_ok_iff {first : α} {rest : List α} {results : List β} :
    (first :: rest).mapM f = .ok results ↔
      ∃ result, f first = .ok result ∧ ∃ others, rest.mapM f = .ok others ∧
        result :: others = results := by
  simp only [List.mapM_cons, bind_eq_ok_iff, pure, Except.pure, Except.ok.injEq]

theorem mapM_cons_eq_error_iff {first : α} {rest : List α} {error : ε} :
    (first :: rest).mapM f = .error error ↔
      f first = .error error ∨ ∃ result, f first = .ok result ∧
        rest.mapM f = .error error := by
  simp [List.mapM_cons, bind_eq_error_iff, pure, Except.pure]

theorem exists_of_mapM_ok {values : List α} {results : List β}
    (mapped : values.mapM f = .ok results)
    {value : α} (member : value ∈ values) :
    ∃ result ∈ results, f value = .ok result := by
  induction values generalizing results with
  | nil => cases member
  | cons first rest ih =>
      obtain ⟨result, head, others, tail, rfl⟩ := mapM_cons_eq_ok_iff.mp mapped
      rcases List.mem_cons.mp member with rfl | member
      · exact ⟨result, by simp, head⟩
      · obtain ⟨found, among, same⟩ := ih tail member
        exact ⟨found, by simp [among], same⟩

theorem exists_origin_of_mapM_ok {values : List α} {results : List β}
    (mapped : values.mapM f = .ok results)
    {result : β} (member : result ∈ results) :
    ∃ value ∈ values, f value = .ok result := by
  induction values generalizing results with
  | nil =>
      obtain rfl : [] = results := by simpa [pure, Except.pure] using mapped
      cases member
  | cons first rest ih =>
      obtain ⟨found, head, others, tail, rfl⟩ := mapM_cons_eq_ok_iff.mp mapped
      rcases List.mem_cons.mp member with rfl | member
      · exact ⟨first, by simp, head⟩
      · obtain ⟨value, among, same⟩ := ih tail member
        exact ⟨value, by simp [among], same⟩

/-- What a mapping keeps of each value, it keeps of all. -/
theorem map_eq_of_mapM_ok {γ : Type} {before : α → γ} {after : β → γ} {values : List α}
    {results : List β} (mapped : values.mapM f = .ok results)
    (keeps : ∀ value result, f value = .ok result → after result = before value) :
    results.map after = values.map before := by
  induction values generalizing results with
  | nil =>
      obtain rfl : [] = results := by simpa [pure, Except.pure] using mapped
      rfl
  | cons first rest ih =>
      obtain ⟨result, head, others, tail, rfl⟩ := mapM_cons_eq_ok_iff.mp mapped
      rw [List.map_cons, List.map_cons, keeps first result head, ih tail]

/-- If a step has only one result to succeed with, a mapping succeeds with the list of
these results. -/
theorem mapM_eq_ok_iff_of_only {only : α → β}
    (settled : ∀ value result, f value = .ok result → result = only value)
    {values : List α} {results : List β} :
    values.mapM f = .ok results ↔ (∀ value ∈ values, f value = .ok (only value)) ∧
      results = values.map only := by
  induction values generalizing results with
  | nil => simp [pure, Except.pure, eq_comm]
  | cons first rest ih =>
      rw [mapM_cons_eq_ok_iff, List.forall_mem_cons, List.map_cons]
      constructor
      · rintro ⟨result, head, others, tail, rfl⟩
        obtain ⟨succeed, rfl⟩ := ih.mp tail
        obtain rfl := settled first result head
        exact ⟨⟨head, succeed⟩, rfl⟩
      · rintro ⟨⟨head, succeed⟩, rfl⟩
        exact ⟨only first, head, rest.map only, ih.mpr ⟨succeed, rfl⟩, rfl⟩

/-- A mapping fails as it does at the first value at which it fails. -/
theorem mapM_eq_error_iff {values : List α} {error : ε} :
    values.mapM f = .error error ↔
      ∃ before value after, values = before ++ value :: after ∧
        (∀ other ∈ before, ∃ result, f other = .ok result) ∧
          f value = .error error := by
  constructor
  · intro failed
    induction values with
    | nil => simp [pure, Except.pure] at failed
    | cons first rest ih =>
        rcases mapM_cons_eq_error_iff.mp failed with head | ⟨result, head, tail⟩
        · exact ⟨[], first, rest, rfl, by simp, head⟩
        · obtain ⟨before, value, after, rfl, passed, failed⟩ := ih tail
          exact ⟨first :: before, value, after, rfl,
            by simpa [head] using passed, failed⟩
  · rintro ⟨before, value, after, rfl, passed, failed⟩
    induction before with
    | nil => exact mapM_cons_eq_error_iff.mpr (.inl failed)
    | cons first before ih =>
        obtain ⟨result, head⟩ := passed first (by simp)
        have tail := ih fun other member => passed other (by simp [member])
        exact mapM_cons_eq_error_iff.mpr (.inr ⟨result, head, tail⟩)

end GodotSdk
