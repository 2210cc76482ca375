import GodotSdk.Session.Guard

/-!
# What a guard does to a request

Of a request, a guard changes the title id at most. It fills in the title id of the
settings, or an empty one where the request has none at all, and then goes by what is
there. So it finds nothing to change in a request that it has seen, and decides about it
as before, whether it has let the call go on or not.
-/

namespace GodotSdk

/-- The second of two requests is the first one but for its title id. All other entries
are the same in the same order, and no key has lost its place. -/
structure SameButTitleId (before after : Request) : Prop where
  others : after.entries.filter (·.1 ≠ titleIdKey) =
    before.entries.filter (·.1 ≠ titleIdKey)
  places : before.entries.map Prod.fst <+: after.entries.map Prod.fst

namespace SameButTitleId

theorem refl (request : Request) : SameButTitleId request request where
  others := rfl
  places := List.prefix_refl _

theorem insert (request : Request) (value : Json.Value) :
    SameButTitleId request (request.insert titleIdKey value) where
  others := filter_putEntry titleIdKey value request.entries
  places := prefix_keys_putEntry titleIdKey value request.entries

end SameButTitleId

namespace Guard

variable {guard : Guard} {settings : Settings} {request : Request}

/-! ## The request -/

theorem sameButTitleId_withTitleId (settings : Settings) (request : Request) :
    SameButTitleId request (withTitleId settings request) := by
  unfold withTitleId
  split
  · exact .insert request _
  · split
    · exact .refl request
    · exact .insert request _

theorem sameButTitleId_prepare (guard : Guard) (settings : Settings)
    (request : Request) :
    SameButTitleId request (guard.prepare settings request) := by
  cases guard with
  | titleId => exact sameButTitleId_withTitleId settings request
  | selectCredential => exact .refl request
  | require credential => exact .refl request

/-- The title id that a guard goes by: that of the settings, or the one of the request,
or an empty one. -/
theorem get?_withTitleId (settings : Settings) (request : Request) :
    (withTitleId settings request).get? titleIdKey =
      ((settings.presentTitleId.map Json.Value.string).or (request.get? titleIdKey)).or
        (some (.string "")) := by
  unfold withTitleId
  cases settings.presentTitleId with
  | some text => simp [OrderedMap.get?_insert]
  | none =>
      cases own : request.get? titleIdKey with
      | some value => simp [own]
      | none => simp [OrderedMap.get?_insert]

/-- A prepared request always has something as its title id. -/
theorem exists_titleId (settings : Settings) (request : Request) :
    ∃ value, (withTitleId settings request).get? titleIdKey = some value := by
  rw [get?_withTitleId]
  cases (settings.presentTitleId.map Json.Value.string).or
    (request.get? titleIdKey) with
  | some value => exact ⟨value, rfl⟩
  | none => exact ⟨.string "", rfl⟩

/-- A request that has been prepared is not changed any more. -/
theorem withTitleId_withTitleId (settings : Settings) (request : Request) :
    withTitleId settings (withTitleId settings request) =
      withTitleId settings request := by
  cases present : settings.presentTitleId with
  | some text => simp only [withTitleId, present, OrderedMap.insert_insert]
  | none =>
      obtain ⟨value, there⟩ := exists_titleId settings request
      rw [withTitleId, present]
      simp only [there]

theorem prepare_prepare (guard : Guard) (settings : Settings) (request : Request) :
    guard.prepare settings (guard.prepare settings request) =
      guard.prepare settings request := by
  cases guard with
  | titleId => exact withTitleId_withTitleId settings request
  | selectCredential => rfl
  | require credential => rfl

/-! ## The decision -/

theorem hasTitleId_iff : hasTitleId request = true ↔
    ∃ text, request.get? titleIdKey = some (.string text) ∧ text ≠ "" := by
  unfold hasTitleId
  split
  · next text own => simp [own]
  · next other =>
      simp only [Bool.false_eq_true, false_iff, not_exists, not_and]
      intro text own
      exact absurd own (other text)

/-- A prepared request has a title id exactly if the settings or the request had one. -/
theorem hasTitleId_withTitleId_iff : hasTitleId (withTitleId settings request) = true ↔
    (∃ text, settings.titleId = some text ∧ text ≠ "") ∨
      ∃ text, request.get? titleIdKey = some (.string text) ∧ text ≠ "" := by
  have stored : (∃ text, settings.titleId = some text ∧ text ≠ "") ↔
      ∃ text, settings.presentTitleId = some text :=
    exists_congr fun text => Settings.present_eq_some_iff.symm
  rw [stored, hasTitleId_iff, get?_withTitleId]
  cases present : settings.presentTitleId with
  | some text =>
      have filled : text ≠ "" := (Settings.present_eq_some_iff.mp present).2
      simp [filled]
  | none => cases request.get? titleIdKey <;> simp

theorem exists_check_titleId_ok_iff :
    (∃ header, (Guard.titleId.check settings request).result = .ok header) ↔
      (∃ text, settings.titleId = some text ∧ text ≠ "") ∨
        ∃ text, request.get? titleIdKey = some (.string text) ∧ text ≠ "" := by
  rw [← hasTitleId_withTitleId_iff]
  have decided : (Guard.titleId.check settings request).result =
      if hasTitleId (withTitleId settings request) then .ok none
        else .error missingTitleId := rfl
  rw [decided]
  cases hasTitleId (withTitleId settings request) <;> simp

/-- The title id with which a call goes on: that of the settings, or else its own. -/
theorem get?_check_titleId {header : Option AuthHeader}
    (passed : (Guard.titleId.check settings request).result = .ok header) :
    (Guard.titleId.check settings request).request.get? titleIdKey =
      (settings.presentTitleId.map Json.Value.string).or (request.get? titleIdKey) := by
  have prepared : (Guard.titleId.check settings request).request =
      withTitleId settings request := rfl
  rw [prepared, get?_withTitleId]
  cases filled :
    (settings.presentTitleId.map Json.Value.string).or (request.get? titleIdKey) with
  | some value => rfl
  | none =>
      have empty := get?_withTitleId settings request
      rw [filled] at empty
      have missing : hasTitleId (withTitleId settings request) = false := by
        simp [hasTitleId, empty]
      have failed : (Guard.titleId.check settings request).result =
          .error missingTitleId := by
        rw [check, decide]
        simp [prepare, missing]
      rw [failed] at passed
      cases passed

theorem reported_check_iff {error : CallError} :
    (guard.check settings request).reported = some error ↔
      (guard.check settings request).result = .error error := by
  cases decided : guard.decide settings (guard.prepare settings request) <;>
    simp [check, decided]

/-- A guard decides about a request that it has seen as it did before. -/
theorem check_check (guard : Guard) (settings : Settings) (request : Request) :
    guard.check settings (guard.check settings request).request =
      guard.check settings request := by
  have prepared : (guard.check settings request).request =
      guard.prepare settings request := rfl
  rw [prepared, check, prepare_prepare]
  rfl

/-- Whatever the guard, the settings and the request, a check keeps all of the request
but its title id, and all of it unless the guard asks for a title id. Asking for one
succeeds exactly if the settings or the request have a text for it that is not empty,
and leaves that of the settings if they have one and else the request's own. An error is
reported exactly if it is the result. Checking what is left behind comes to the same
once more. -/
theorem check_keeps_and_settles (guard : Guard) (settings : Settings)
    (request : Request) :
    SameButTitleId request (guard.check settings request).request ∧
      (guard ≠ .titleId → (guard.check settings request).request = request) ∧
      ((∃ header, (Guard.titleId.check settings request).result = .ok header) ↔
        (∃ text, settings.titleId = some text ∧ text ≠ "") ∨
          ∃ text, request.get? titleIdKey = some (.string text) ∧ text ≠ "") ∧
      (∀ header, (Guard.titleId.check settings request).result = .ok header →
        (Guard.titleId.check settings request).request.get? titleIdKey =
          (settings.presentTitleId.map Json.Value.string).or
            (request.get? titleIdKey)) ∧
      (∀ error, (guard.check settings request).reported = some error ↔
        (guard.check settings request).result = .error error) ∧
      guard.check settings (guard.check settings request).request =
        guard.check settings request := by
  refine ⟨sameButTitleId_prepare guard settings request, ?_,
    exists_check_titleId_ok_iff, ?_, ?_, check_check guard settings request⟩
  · intro other
    cases guard with
    | titleId => exact absurd rfl other
    | selectCredential => rfl
    | require credential => rfl
  · intro header passed
    exact get?_check_titleId passed
  · intro error
    exact reported_check_iff

end Guard

end GodotSdk
