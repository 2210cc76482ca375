import GodotSdk.Proofs.Session.History

/-!
# Credentials that stay

A credential is there if it is stored and not empty, but whatever text a response has in
its place is stored. So a credential that is there stays there exactly as long as no
response has an empty text for it. A service that answers a login with an empty ticket
takes away the ticket of an earlier one.
-/

namespace GodotSdk

/-- Whether a credential is there to be sent. -/
def Settings.Has (settings : Settings) (credential : Credential) : Prop :=
  (settings.credential? credential).isSome = true

/-- A call and the response to it. -/
structure Exchange where
  call : ApiCall
  response : Json.Value

/-- The settings after the responses of exchanges. -/
def Settings.afterExchanges (settings : Settings) (exchanges : List Exchange) :
    Settings :=
  exchanges.foldl (fun settings exchange =>
    exchange.call.respond exchange.response settings) settings

/-- Whether an effect of the call finds an empty text for a credential. -/
def Exchange.Blanks (exchange : Exchange) (credential : Credential) : Prop :=
  ∃ effect ∈ exchange.call.effects, effect.extract? exchange.response =
    some ⟨credential, ""⟩

/-- Wherever exchanges begin, once the credential is there it is still there after more
of them. -/
def StaysPresent (exchanges : List Exchange) (credential : Credential) : Prop :=
  ∀ (settings : Settings) (earlier later rest : List Exchange),
    exchanges = earlier ++ later ++ rest →
    (settings.afterExchanges earlier).Has credential →
      (settings.afterExchanges (earlier ++ later)).Has credential

variable {settings : Settings} {credential : Credential}

theorem Settings.has_iff : settings.Has credential ↔
    ∃ value, settings.stored credential = some value ∧ value ≠ "" := by
  simp only [Has, credential?, Option.isSome_iff_exists, present_eq_some_iff]

theorem Exchange.blanks_iff {exchange : Exchange} :
    exchange.Blanks credential ↔
      ⟨credential, ""⟩ ∈ exchange.call.persists exchange.response := by
  simp [Blanks, ApiCall.persists]

/-- A credential that is there is lost by a response with an empty text for it, and by
no other. -/
theorem Settings.has_respond_iff (exchange : Exchange) (has : settings.Has credential) :
    (exchange.call.respond exchange.response settings).Has credential ↔
      ¬ exchange.Blanks credential := by
  have stored :=
    stored_foldl_persist_iff (exchange.call.nodup_persists exchange.response) settings
      credential
  rw [has_iff, Exchange.blanks_iff]
  constructor
  · rintro ⟨value, found, nonempty⟩ blank
    have lost := (stored "").mpr (.inl blank)
    rw [ApiCall.respond, lost] at found
    exact nonempty (Option.some.inj found).symm
  · intro kept
    obtain ⟨old, initial, filled⟩ := has_iff.mp has
    by_cases replaced : ∃ value,
      (⟨credential, value⟩ : Persist) ∈ exchange.call.persists exchange.response
    · obtain ⟨value, member⟩ := replaced
      refine ⟨value, (stored value).mpr (.inl member), ?_⟩
      rintro rfl
      exact kept member
    · exact ⟨old, (stored old).mpr (.inr ⟨not_exists.mp replaced, initial⟩), filled⟩

theorem Settings.afterExchanges_append (settings : Settings)
    (earlier later : List Exchange) :
    settings.afterExchanges (earlier ++ later) =
      (settings.afterExchanges earlier).afterExchanges later :=
  List.foldl_append

theorem Settings.has_afterExchanges {exchanges : List Exchange}
    (has : settings.Has credential)
    (kept : ∀ exchange ∈ exchanges, ¬ exchange.Blanks credential) :
    (settings.afterExchanges exchanges).Has credential := by
  induction exchanges generalizing settings with
  | nil => exact has
  | cons exchange rest ih =>
      rw [List.forall_mem_cons] at kept
      exact ih ((has_respond_iff exchange has).mpr kept.1) kept.2

/-- Among exchanges with an empty text for a credential, the first one finds the
credential still there. -/
theorem Settings.exists_has_before_blank {exchanges : List Exchange}
    (has : settings.Has credential)
    (blank : ∃ exchange ∈ exchanges, exchange.Blanks credential) :
    ∃ earlier exchange rest, exchanges = earlier ++ exchange :: rest ∧
      (settings.afterExchanges earlier).Has credential ∧
        exchange.Blanks credential := by
  induction exchanges generalizing settings with
  | nil => simp at blank
  | cons first exchanges ih =>
      by_cases here : first.Blanks credential
      · exact ⟨[], first, exchanges, rfl, has, here⟩
      · have still := (has_respond_iff first has).mpr here
        have later : ∃ exchange ∈ exchanges, exchange.Blanks credential := by
          simpa [here] using blank
        obtain ⟨earlier, exchange, rest, rfl, present, blanks⟩ := ih still later
        exact ⟨first :: earlier, exchange, rest, rfl, present, blanks⟩

/-- Settings in which every credential is there. -/
def Settings.full : Settings :=
  ⟨some "title", some "key", some "ticket", some "token"⟩

theorem Settings.has_full (credential : Credential) : full.Has credential := by
  cases credential <;> simp [Has, credential?, present, stored, full]

/-- A credential that is there before a response is there after it unless the response
has an empty text for it. So it stays there over exchanges, wherever they begin, exactly
if none of their responses has an empty text for it. -/
theorem staysPresent_iff_not_blanks (settings : Settings) (exchange : Exchange)
    (exchanges : List Exchange) (credential : Credential) :
    (settings.Has credential →
      ((exchange.call.respond exchange.response settings).Has credential ↔
        ¬ exchange.Blanks credential)) ∧
    (StaysPresent exchanges credential ↔
      ∀ exchange ∈ exchanges, ¬ exchange.Blanks credential) := by
  refine ⟨Settings.has_respond_iff exchange, ?_, ?_⟩
  · intro stays exchange member blank
    obtain ⟨earlier, lost, rest, split, present, blanks⟩ :=
      Settings.exists_has_before_blank (Settings.has_full credential) ⟨exchange,
        member, blank⟩
    have still := stays Settings.full earlier [lost] rest (by simp [split]) present
    rw [Settings.afterExchanges_append] at still
    exact (Settings.has_respond_iff lost present).mp still blanks
  · rintro kept settings earlier later rest rfl present
    rw [Settings.afterExchanges_append]
    exact Settings.has_afterExchanges present fun exchange member =>
      kept exchange (by simp [member])

/-- A login that is answered with an empty ticket. -/
def emptyLogin : Exchange where
  call := ⟨"LoginWithCustomID", "/Client/LoginWithCustomID", none, some "LoginResult",
    .anonymous, none, none⟩
  response := .object [("SessionTicket", .string "")]

/-- After a login with an empty ticket, the ticket that was there is gone. -/
theorem emptyLogin_not_stays :
    Settings.full.Has .sessionTicket ∧
      ¬ (emptyLogin.call.respond emptyLogin.response Settings.full).Has .sessionTicket ∧
      ¬ StaysPresent [emptyLogin] .sessionTicket := by
  have lost : ¬ (emptyLogin.call.respond emptyLogin.response Settings.full).Has
      .sessionTicket := by
    unfold Settings.Has
    decide
  exact ⟨Settings.has_full _, lost, fun stays =>
    lost (stays Settings.full [] [emptyLogin] [] rfl (Settings.has_full _))⟩

end GodotSdk
