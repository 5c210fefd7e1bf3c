import MqttProfile.Proofs.Draft.Reached
import MqttProfile.Store.Basic

/-!
# Starts of flows, and what events make of identities

A flow starts with a draft of its own or with a profile that is opened.  Opening a profile is a short flow
by itself: the profile is edited, and the credential that it is linked to is fetched and attached.

Facts about identities depend on what happened so far and on nothing else of a draft.

* `Started` holds the drafts with which a flow starts, each with the events that it went through already;
* `ReachedUnder` is `Reached` along steps that keep to a rule;
* `Identity.Arises` says which events an identity went through since it was first set up, so that a fact
  about identities is proved by induction on it, with one case for each way an identity changes;
* `ReachedUnder.arises` and `Reached.arises` lead from the drafts of a flow to their identities.
-/

namespace MqttProfile

/-- Whether an event attaches a credential or takes one away. -/
def Event.changesReference : Event → Bool
  | .changeReference _ => true
  | _ => false

namespace Identity

/-- Credentials are attached and taken away in turn: in the mode for stored ones only. -/
def InTurn (identity : Identity) (event : Event) : Prop :=
  event.changesReference = true → identity.mode = .existing

theorem inTurn_of_existing {identity : Identity} (h : identity.mode = .existing) (event : Event) :
    identity.InTurn event :=
  fun _ => h

/-- `Arises rule editing events identity` says that the events, the latest first, led to the identity from
the one that was first set up, and that each of them kept to the rule. -/
inductive Arises (rule : Identity → Event → Prop) (editing : Option Profile) :
    List Event → Identity → Prop
  | initial (g : Generator) : Arises rule editing [] (Identity.initial editing g).1
  | change {events : List Event} {event : Event} {identity next : Identity}
      (before : Arises rule editing events identity) (hrule : rule identity event)
      (hchange : Change editing identity event next) : Arises rule editing (event :: events) next

theorem mode_selectMode (identity : Identity) (mode : CredentialMode) (editing : Option Profile)
    (g : Generator) : (identity.selectMode mode editing g).1.mode = mode := by
  cases mode <;> rfl

theorem mode_initial (editing : Option Profile) (g : Generator) :
    (Identity.initial editing g).1.mode = .initial editing := by
  rw [Identity.initial]
  exact mode_selectMode _ _ editing _

theorem mode_attach (identity : Identity) (credential? : Option LinkedCredential)
    (editing : Option Profile) (g : Generator) :
    (identity.attach credential? editing g).1.mode = identity.mode := by
  cases credential? <;> rfl

@[simp]
theorem mode_edited (identity : Identity) (field : ConnectionField) (value : Json) :
    (identity.edited field value).mode = identity.mode := by
  cases field <;> rfl

@[simp]
theorem reference_edited (identity : Identity) (field : ConnectionField) (value : Json) :
    (identity.edited field value).reference = identity.reference := by
  cases field <;> rfl

end Identity

namespace Draft

variable {rule : Identity → Event → Prop}

/-! ## Steps that keep to a rule -/

/-- `Reached` along steps that keep to a rule on the identity of the draft and the event. -/
inductive ReachedUnder (rule : Identity → Event → Prop) (config : Config) (start : Draft) :
    List Event → Draft → Prop
  | refl : ReachedUnder rule config start [] start
  | step {events : List Event} {event : Event} {draft next : Draft} {g : Generator}
      (before : ReachedUnder rule config start events draft)
      (hrule : rule draft.connection.identity event)
      (happly : (draft.apply config event g).1 = .ok next) :
      ReachedUnder rule config start (event :: events) next

theorem ReachedUnder.reached {config : Config} {start draft : Draft} {events : List Event}
    (h : ReachedUnder rule config start events draft) : Reached config start events draft := by
  induction h with
  | refl => exact .refl
  | step _ _ happly ih => exact ih.step happly

/-- What is reached is reached under the rule that allows everything. -/
theorem Reached.under {config : Config} {start draft : Draft} {events : List Event}
    (h : Reached config start events draft) :
    ReachedUnder (fun _ _ => True) config start events draft := by
  induction h with
  | refl => exact .refl
  | step _ happly ih => exact ih.step trivial happly

/-- The identity of a draft has gone through the events that led to the draft. -/
theorem ReachedUnder.arises_of_start {config : Config} {start draft : Draft}
    {events earlier : List Event} (h : ReachedUnder rule config start events draft)
    (hstart : Identity.Arises rule start.editing earlier start.connection.identity) :
    Identity.Arises rule draft.editing (events ++ earlier) draft.connection.identity := by
  induction h with
  | refl => exact hstart
  | step _ hrule happly ih =>
    have hstep := becomes_of_apply happly
    rw [hstep.editing_eq]
    exact ih.change hrule hstep.identity

/-! ## Opening a profile -/

section Opening

variable {σ : Type}

/-- The events that opening a profile comes to: the credential that the profile is linked to is attached,
if there is one and the store finds it. -/
def openingEvents (store : CredentialStore σ) (profile : Profile) (world : σ) : List Event :=
  let id := profile.configuration.clientCredentialsId
  if id = .null then []
  else match (store.fetch id world).1 with
    | .ok reference => [.changeReference (some reference)]
    | .error _ => []

/-- A profile that was opened was edited first, and then its credential was attached if it has one. -/
theorem openProfile_ok {config : Config} {store : CredentialStore σ} {pageIsSecure : Bool}
    {profile : Profile} {g : Generator} {world : σ} {draft : Draft}
    (h : (Draft.openProfile config store pageIsSecure profile g world).1 = .ok draft) :
    ∃ begun, (Draft.ofProfile config pageIsSecure profile g).1 = .ok begun
      ∧ ((openingEvents store profile world = [] ∧ draft = begun)
        ∨ ∃ reference g', profile.configuration.clientCredentialsId ≠ .null
          ∧ openingEvents store profile world = [.changeReference (some reference)]
          ∧ (begun.apply config (.changeReference (some reference)) g').1 = .ok draft) := by
  rw [openProfile] at h
  cases hbegun : Draft.ofProfile config pageIsSecure profile g with
  | mk outcome g' =>
    rw [hbegun] at h
    cases outcome with
    | error error => cases h
    | ok begun =>
      refine ⟨begun, rfl, ?_⟩
      rw [openingEvents]
      dsimp only at h ⊢
      by_cases hlink : profile.configuration.clientCredentialsId = .null
      · rw [if_pos hlink] at h ⊢
        cases h
        exact .inl ⟨rfl, rfl⟩
      · rw [if_neg hlink] at h ⊢
        cases hfetch : store.fetch profile.configuration.clientCredentialsId world with
        | mk found world' =>
          rw [hfetch] at h
          cases found with
          | error error => cases h
          | ok reference => exact .inr ⟨reference, g', hlink, rfl, h⟩

end Opening

/-! ## Starts -/

/-- The drafts with which a flow starts, and the events that each of them went through already: none if it
began as it is, and those of its opening if a profile was opened. -/
inductive Started (config : Config) : List Event → Draft → Prop
  | begun {draft : Draft} (h : Begun config draft) : Started config [] draft
  | opened {σ : Type} (store : CredentialStore σ) {pageIsSecure : Bool} {profile : Profile}
      {g : Generator} {world : σ} {draft : Draft}
      (h : (Draft.openProfile config store pageIsSecure profile g world).1 = .ok draft) :
      Started config (openingEvents store profile world) draft

/-- A flow begins with an identity that was just set up. -/
theorem Begun.exists_identity {config : Config} {draft : Draft} (h : Begun config draft) :
    ∃ g, draft.connection.identity = (Identity.initial draft.editing g).1 := by
  cases h with
  | @fresh _ _ g _ h =>
    obtain ⟨name, -, -, rfl⟩ := new_ok h
    exact ⟨g, rfl⟩
  | @edited pageIsSecure profile g draft h =>
    obtain ⟨transport, lastWill, -, -, rfl⟩ := ofProfile_ok h
    exact ⟨g, rfl⟩

theorem Begun.mode_eq {config : Config} {draft : Draft} (h : Begun config draft) :
    draft.credentialMode = .initial draft.editing := by
  obtain ⟨g, hidentity⟩ := h.exists_identity
  rw [credentialMode, hidentity, Identity.mode_initial]

/-- A draft with which a flow starts was reached from one with which a flow begins.  The only event on the
way attaches a credential in the mode for stored ones. -/
theorem Started.exists_begun {config : Config} {draft : Draft} {earlier : List Event}
    (h : Started config earlier draft)
    (hrule : ∀ identity event, identity.mode = .existing → rule identity event) :
    ∃ begun, Begun config begun ∧ ReachedUnder rule config begun earlier draft
      ∧ draft.credentialMode = begun.credentialMode := by
  cases h with
  | begun h => exact ⟨draft, h, .refl, rfl⟩
  | @opened _ store _ profile _ _ _ h =>
    obtain ⟨begun, hbegun, ⟨hevents, rfl⟩ | ⟨reference, g, hlink, hevents, happly⟩⟩ := openProfile_ok h
    · rw [hevents]
      exact ⟨_, .edited hbegun, .refl, rfl⟩
    · -- a profile that is linked to a credential is edited in the mode for stored ones
      have hmode : begun.connection.identity.mode = .existing := by
        have hinitial := (Begun.edited hbegun).mode_eq
        rw [editing_of_ofProfile hbegun, CredentialMode.initial, if_neg hlink] at hinitial
        exact hinitial
      rw [hevents]
      refine ⟨begun, .edited hbegun, ReachedUnder.refl.step (hrule _ _ hmode) happly, ?_⟩
      cases becomes_of_apply happly with
      | attach g _ => exact Identity.mode_attach begun.connection.identity _ begun.editing g

theorem Started.mode_eq {config : Config} {draft : Draft} {earlier : List Event}
    (h : Started config earlier draft) : draft.credentialMode = .initial draft.editing := by
  obtain ⟨begun, hbegun, hreached, hmode⟩ := h.exists_begun fun _ event hexisting =>
    Identity.inTurn_of_existing hexisting event
  rw [hmode, hbegun.mode_eq, hreached.reached.editing_eq]

/-- A property of drafts that holds where a flow begins, and that every step keeps, holds where it starts. -/
theorem Started.induct {config : Config} {draft : Draft} {earlier : List Event} {P : Draft → Prop}
    (h : Started config earlier draft) (hbegun : ∀ begun, Begun config begun → P begun)
    (hkeep : ∀ draft event next, P draft → Becomes config draft event next → P next) : P draft := by
  obtain ⟨begun, hstart, hreached, -⟩ := h.exists_begun fun _ event hexisting =>
    Identity.inTurn_of_existing hexisting event
  exact hreached.reached.induct (hbegun begun hstart) hkeep

/-- The identity of a reached draft has gone through the events since its flow began, those before the
start included. -/
theorem ReachedUnder.arises {config : Config} {start draft : Draft} {events earlier : List Event}
    (h : ReachedUnder rule config start events draft) (hstart : Started config earlier start)
    (hrule : ∀ identity event, identity.mode = .existing → rule identity event) :
    Identity.Arises rule draft.editing (events ++ earlier) draft.connection.identity := by
  obtain ⟨begun, hbegun, hearlier, -⟩ := hstart.exists_begun hrule
  obtain ⟨g, hidentity⟩ := hbegun.exists_identity
  have hinitial : Identity.Arises rule begun.editing [] begun.connection.identity := by
    rw [hidentity]
    exact .initial g
  have harises := hearlier.arises_of_start hinitial
  rw [List.append_nil] at harises
  exact h.arises_of_start harises

/-- The identity of a reached draft has gone through the events since its flow began, under no rule. -/
theorem Reached.arises {config : Config} {start draft : Draft} {events earlier : List Event}
    (h : Reached config start events draft) (hstart : Started config earlier start) :
    Identity.Arises (fun _ _ => True) draft.editing (events ++ earlier) draft.connection.identity :=
  h.under.arises hstart fun _ _ _ => trivial

end Draft

end MqttProfile
