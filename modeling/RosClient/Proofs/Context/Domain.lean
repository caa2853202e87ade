import RosClient.Proofs.Context.Instant
import RosClient.Proofs.Session.Vacant
import RosClient.Proofs.Text.Number

namespace RosClient

namespace DomainId

/-- Whether a text names a domain: it denotes the number of the domain. -/
def Named (text : String) (domain : DomainId) : Prop :=
  Text.Denotes text domain.toNat

/-- What the variable `ROS_DOMAIN_ID` says: a domain, which is zero if it cannot be read or is
blank, or none if its text is anything but the number of a domain. -/
inductive FromRos (environment : Environment) : Option DomainId → Prop where
  | unread (absent : environment.read .rosDomainId = none) : FromRos environment (some 0)
  | blank {text : String} (present : environment.read .rosDomainId = some text)
      (blank : Text.IsBlank text) : FromRos environment (some 0)
  | named {text : String} {domain : DomainId}
      (present : environment.read .rosDomainId = some text) (named : Named text domain) :
      FromRos environment (some domain)
  | unnamed {text : String} (present : environment.read .rosDomainId = some text)
      (filled : ¬ Text.IsBlank text) (unnamed : ∀ domain, ¬ Named text domain) :
      FromRos environment none

theorem parse?_eq_some_iff {text : String} {domain : DomainId} :
    parse? text = some domain ↔ Named text domain := by
  unfold parse? Named
  rw [Option.bind_eq_some_iff]
  constructor
  · rintro ⟨value, read, chosen⟩
    split at chosen
    · next small =>
      cases chosen
      have same : (UInt64.ofNat value).toNat = value := Nat.mod_eq_of_lt small
      rw [same]
      exact Text.unsigned?_trim_eq_some_iff.mp read
    · cases chosen
  · intro denoted
    refine ⟨domain.toNat, Text.unsigned?_trim_eq_some_iff.mpr denoted, ?_⟩
    rw [if_pos domain.toNat_lt, UInt64.ofNat_toNat]

theorem parse?_eq_none_iff {text : String} :
    parse? text = none ↔ ∀ domain, ¬ Named text domain := by
  rw [Option.eq_none_iff_forall_ne_some]
  exact forall_congr' fun domain => not_congr parse?_eq_some_iff

theorem parse?_of_isBlank {text : String} (blank : Text.IsBlank text) : parse? text = none := by
  rw [parse?, Text.trim_eq_empty_iff.mpr blank]
  rfl

variable {environment : Environment}

theorem fromEnvironment_of_named {text : String} {domain : DomainId}
    (present : environment.read .rosDomainId = some text) (named : parse? text = some domain) :
    fromEnvironment environment = .ok domain := by
  have filled : ¬ Text.trim text = "" := by
    intro empty
    rw [parse?_of_isBlank (Text.trim_eq_empty_iff.mp empty)] at named
    cases named
  simp only [fromEnvironment, present, filled, ↓reduceIte, named]

theorem fromRos_iff {native : Option DomainId} :
    FromRos environment native ↔ native = (fromEnvironment environment).toOption := by
  constructor
  · rintro (absent | ⟨present, blank⟩ | ⟨present, named⟩ | ⟨present, filled, unnamed⟩)
    · simp only [fromEnvironment, absent, Except.toOption]
    · simp only [fromEnvironment, present, Text.trim_eq_empty_iff.mpr blank, ↓reduceIte,
        Except.toOption]
    · rw [fromEnvironment_of_named present (parse?_eq_some_iff.mpr named)]
      rfl
    · rw [← Text.trim_eq_empty_iff] at filled
      simp only [fromEnvironment, present, filled, ↓reduceIte, parse?_eq_none_iff.mpr unnamed,
        Except.toOption]
  · rintro rfl
    cases present : environment.read .rosDomainId with
    | none =>
      simp only [fromEnvironment, present, Except.toOption]
      exact .unread present
    | some text =>
      by_cases blank : Text.IsBlank text
      · simp only [fromEnvironment, present, Text.trim_eq_empty_iff.mpr blank, ↓reduceIte,
          Except.toOption]
        exact .blank present blank
      · cases named : parse? text with
        | some domain =>
          rw [fromEnvironment_of_named present named]
          exact .named present (parse?_eq_some_iff.mp named)
        | none =>
          have filled := blank
          rw [← Text.trim_eq_empty_iff] at filled
          simp only [fromEnvironment, present, filled, ↓reduceIte, named, Except.toOption]
          exact .unnamed present blank (parse?_eq_none_iff.mp named)

theorem read_of_fromEnvironment_error {text : String}
    (failed : fromEnvironment environment = .error text) :
    environment.read .rosDomainId = some text := by
  unfold fromEnvironment at failed
  split at failed
  · cases failed
  · next present =>
    split at failed
    · cases failed
    · split at failed
      · cases failed
      · cases failed
        exact present

theorem resolve_unset : resolve environment unset = fromEnvironment environment :=
  if_pos rfl

theorem resolve_of_ne {domain : DomainId} (set : domain ≠ unset) :
    resolve environment domain = .ok domain :=
  if_neg set

theorem read_of_resolve_error {requested : DomainId} {text : String}
    (failed : resolve environment requested = .error text) :
    environment.read .rosDomainId = some text := by
  unfold resolve at failed
  split at failed
  · exact read_of_fromEnvironment_error failed
  · cases failed

end DomainId

theorem readContext_of_parse {environment : Environment} {requested : DomainId}
    {arguments : List String} {parsed : Arguments} (read : Arguments.parse arguments = .ok parsed) :
    Verdict.readContext environment requested arguments =
      ((DomainId.resolve environment requested).mapError Fault.badDomain).map (·, parsed) := by
  simp only [Verdict.readContext, read, Except.mapError, bind, Except.bind]
  cases DomainId.resolve environment requested <;> rfl

open Session

namespace Session

variable {session : Session} {slot : Slot} {arguments : List String} {parsed : Arguments}

theorem makeContext_of_free (free : session.contexts.get? slot = none) (owned : Bool)
    (action : Action Handle) :
    session.makeContext slot owned action =
      session.respondStore action fun after handle => after.putContext slot ⟨handle, owned⟩ := by
  simp only [makeContext, free, Option.isSome_none, Bool.false_eq_true, ↓reduceIte]

theorem contextView_of_cleared (own : session.HasOwnContexts)
    (free : session.contexts.get? slot = none) {after : State}
    (cleared : after.objects = session.state.objects.setContext (.handle slot) none) :
    { session with state := after }.contextView = session.contextView := by
  have empty : (session.heldContext slot).handle = none := by
    rw [heldContext_of_unused free]
    rfl
  have same : { session with state := after }.contextIn = session.contextIn := by
    funext place
    by_cases here : place = .handle slot
    · rw [here, contextIn_empty empty]
      exact contextIn_empty empty
    · refine contextIn_of_ne own (fun _ _ => rfl) ?_
      rw [cleared]
      exact replace_of_ne _ _ here
  rw [contextView, same, cleared]
  rfl

theorem makeContext_new_of_ok (free : session.contexts.get? slot = none) {domain : Option DomainId}
    {chosen : DomainId} {after : State}
    (ended : ContextHandle.init (some (.handle slot)) arguments domain
      (ContextHandle.cleared slot session.state) = .ok () after)
    (made : after.objects = (ContextHandle.cleared slot session.state).objects.initialised
      (.handle slot) chosen parsed) :
    ∃ outcome : Session,
      session.makeContext slot true (ContextHandle.new slot arguments domain) =
        (.outcome (.value .nothing), outcome) ∧
      outcome.heldContext slot = ⟨some (.handle slot), true⟩ ∧
      outcome.contextIn (.handle slot) =
        some ⟨some session.state.objects.nextId, chosen, parsed⟩ ∧
      outcome.state.objects.nextId = session.state.objects.nextId + 1 := by
  have held : ((putContext { session with state := after } slot
      ⟨some (.handle slot), true⟩).heldContext slot) = ⟨some (.handle slot), true⟩ :=
    heldContext_putContext_self _ _ _
  have present : after.objects.contexts (.handle slot) =
      some ⟨some session.state.objects.nextId, chosen, parsed⟩ := by
    rw [made]
    exact replace_self _ _ _
  rw [makeContext_of_free free, respondStore_of_ok (ContextHandle.new_of_ok ended)]
  refine ⟨_, rfl, held, ?_, congrArg Objects.nextId made⟩
  rw [contextIn_handle (congrArg HeldContext.handle held)]
  exact present

theorem makeContext_new_of_error (own : session.HasOwnContexts)
    (free : session.contexts.get? slot = none) {domain : Option DomainId} {e : Error}
    {after : State}
    (ended : ContextHandle.init (some (.handle slot)) arguments domain
      (ContextHandle.cleared slot session.state) = .error e after)
    (same : after.objects = (ContextHandle.cleared slot session.state).objects) :
    session.makeContext slot true (ContextHandle.new slot arguments domain) =
        (.outcome (.error e), { session with state := after }) ∧
      { session with state := after }.contextView = session.contextView := by
  rw [makeContext_of_free free, respondStore_of_error (ContextHandle.new_of_error ended)]
  exact ⟨rfl, contextView_of_cleared own free same⟩

end Session

end RosClient
