import RosClient.Proofs.Handle.Override
import RosClient.Proofs.Session.Live

namespace RosClient

namespace Session

/-- The clock that the handle in a slot leads to. -/
def clockIn (session : Session) (slot : Slot) : Option Clock :=
  (session.heldClock slot).handle.map session.state.objects.clocks

/-- The handles to clocks and the entries of time sources are what they seem. -/
structure HasSoundClocks (session : Session) : Prop where
  place : ∀ slot place, (session.heldClock slot).handle = some place → place = .handle slot
  made : ∀ slot clock, session.clockIn slot = some clock →
    ∃ type, clock.IsOf type ∧ ∀ owned, (session.heldClock slot).owned = some owned → owned = type
  attached : ∀ slot source, session.sources.get? slot = some source →
    ∀ entry ∈ source.clocks,
      session.ownedClock? entry.1 = some entry.2 ∧ entry.2.type = .rosTime

theorem start_hasSoundClocks (depth : Nat) (environment : Environment) (readings : Nat → RealTime) :
    (start depth environment readings).HasSoundClocks where
  place _ _ := nofun
  made _ _ := nofun
  attached _ _ := nofun

theorem ownedClock?_eq (session : Session) (slot : Slot) :
    session.ownedClock? slot = (session.heldClock slot).owned? := by
  unfold ownedClock? heldClock
  cases session.clocks.get? slot <;> rfl

theorem owned?_eq_some {held : HeldClock} {clock : OwnedClock} :
    held.owned? = some clock ↔ held = ⟨clock.handle, some clock.type⟩ := by
  obtain ⟨handle, owned⟩ := held
  obtain ⟨other, type⟩ := clock
  cases owned <;> simp [HeldClock.owned?]

end Session

/-- The change of the override that a request of a clock makes. -/
def ClockRequest.overrideChange (held : HeldClock) : ClockRequest → Override → Override
  | rawSet value => .withValue value
  | switchOverride active => .withActive active
  | set time =>
    match held.owned?, time.read with
    | some _, .ok time => .withValue time.nanoseconds
    | _, _ => id
  | rawNow | isOverrideEnabled | now | type | handle | roundTrip => id

/-- The change that a request of a time source makes of the override of the clock in a slot. -/
def SourceRequest.overrideChange (session : Session) (source : TimeSource) (slot : Slot) :
    SourceRequest → Override → Override
  | setActive active =>
    if source.hasClock slot && source.active != active then .withActive active else id
  | update time =>
    match time.read with
    | .ok time => if source.hasClock slot then .withValue time.nanoseconds else id
    | .error _ => id
  | attach clock =>
    if clock = slot ∧ (session.heldClock clock).owned = some .rosTime then
      fun _ => ⟨source.active, source.last.nanoseconds⟩
    else id
  | isActive | clockCount | last | detach _ => id

/-- The change that a step makes of the override of the clock in a slot. -/
def Step.overrideChange (session : Session) (slot : Slot) : Step → Override → Override
  | clock target (.use request) =>
    if target = slot then request.overrideChange (session.heldClock slot) else id
  | source target (.use request) =>
    match session.sources.get? target with
    | some found => request.overrideChange session found slot
    | none => id
  | _ => id

/-- What a step does with the clock in a slot. -/
inductive ClockFate (before after : Session) (slot : Slot) (change : Override → Override) :
    Prop where
  | kept (held : after.heldClock slot = before.heldClock slot)
    (rewritten : after.clockIn slot = (before.clockIn slot).map (Clock.rewrite change))
  | released (spared : before.isClockInUse slot = false)
    (empty : (after.heldClock slot).handle = none)
  | made (type : ClockType) (unused : before.clocks.get? slot = none)
    (here : (after.heldClock slot).handle = some (.handle slot))
    (owned : ∀ other, (after.heldClock slot).owned = some other → other = type)
    (clock : after.clockIn slot = some (.new type))

namespace Session

variable {session : Session} {slot : Slot}

theorem clockIn_eq_some {clock : Clock} (sound : session.HasSoundClocks) :
    session.clockIn slot = some clock ↔
      (session.heldClock slot).handle = some (.handle slot) ∧
        session.state.objects.clocks (.handle slot) = clock := by
  unfold clockIn
  cases here : (session.heldClock slot).handle with
  | none => simp
  | some place =>
    cases sound.place slot place here
    simp

theorem HasSoundClocks.kept (sound : session.HasSoundClocks) {after : Session}
    {change : Override → Override} (held : after.heldClock slot = session.heldClock slot)
    (rewritten : (session.heldClock slot).handle = some (.handle slot) →
      after.state.objects.clocks (.handle slot) =
        (session.state.objects.clocks (.handle slot)).rewrite change) :
    ClockFate session after slot change := by
  refine .kept held ?_
  unfold clockIn
  rw [held]
  cases here : (session.heldClock slot).handle with
  | none => rfl
  | some place =>
    cases sound.place slot place here
    exact congrArg some (rewritten here)

theorem HasSoundClocks.kept_id (sound : session.HasSoundClocks) {after : Session}
    (held : after.heldClock slot = session.heldClock slot)
    (same : after.state.objects.clocks (.handle slot) =
      session.state.objects.clocks (.handle slot)) :
    ClockFate session after slot id :=
  sound.kept held fun _ => by rw [same, Clock.rewrite_id]

theorem HasSoundClocks.leadsToRos (sound : session.HasSoundClocks) {owned : OwnedClock}
    (found : session.ownedClock? slot = some owned) (ros : owned.type = .rosTime) :
    LeadsToRos session.state.objects owned.handle := by
  intro place here
  rw [ownedClock?_eq, owned?_eq_some] at found
  have there : session.clockIn slot = some (session.state.objects.clocks place) := by
    unfold clockIn
    rw [found, here]
    rfl
  obtain ⟨type, isOf, same⟩ := sound.made slot _ there
  have typed := same owned.type (by rw [found])
  rcases isOf.ros_or_plain with ⟨_, made⟩ | ⟨other, _⟩
  · exact made
  · exact absurd (typed.symm.trans ros) other

theorem HasSoundClocks.leads (sound : session.HasSoundClocks) {target : Slot}
    {source : TimeSource} (found : session.sources.get? target = some source)
    (entry : Slot × OwnedClock) (member : entry ∈ source.clocks) :
    LeadsToRos session.state.objects entry.2.handle := by
  obtain ⟨owned, ros⟩ := sound.attached target source found entry member
  exact sound.leadsToRos owned ros

theorem HasSoundClocks.drives_iff (sound : session.HasSoundClocks) {target : Slot}
    {source : TimeSource} (found : session.sources.get? target = some source)
    (here : (session.heldClock slot).handle = some (.handle slot)) :
    source.Drives (.handle slot) ↔ source.hasClock slot = true := by
  unfold TimeSource.Drives TimeSource.hasClock
  rw [List.any_eq_true]
  constructor
  · rintro ⟨entry, member, leads⟩
    have attached := (sound.attached target source found entry member).1
    rw [ownedClock?_eq, owned?_eq_some] at attached
    have there := sound.place entry.1 (.handle slot) (by rw [attached]; exact leads)
    cases there
    exact ⟨entry, member, by simp⟩
  · rintro ⟨entry, member, same⟩
    have same : entry.1 = slot := by simpa using same
    subst same
    have attached := (sound.attached target source found entry member).1
    rw [ownedClock?_eq, owned?_eq_some] at attached
    rw [attached] at here
    exact ⟨entry, member, here⟩

end Session

open Session

section

variable {session : Session} {slot : Slot}

theorem heldClock_putClock_of_ne (session : Session) {slot other : Slot} (held : HeldClock)
    (apart : slot ≠ other) : (session.putClock other held).heldClock slot =
      session.heldClock slot := by
  unfold Session.heldClock Session.putClock
  rw [Slots.get?_put_of_ne _ _ apart]

theorem heldClock_putClock_self (session : Session) (slot : Slot) (held : HeldClock) :
    (session.putClock slot held).heldClock slot = held := by
  unfold Session.heldClock Session.putClock
  rw [Slots.get?_put_self]
  rfl

theorem rewritten_id {places : Place → Prop} {before after : Objects}
    (same : after.clocks = before.clocks) : Rewritten id places before after := by
  intro place
  rw [same]
  exact ⟨fun _ => (Clock.rewrite_id _).symm, fun _ => rfl⟩

theorem respond_rewrites {change : Override → Override} {task : Task} {action : OverrideAction}
    {handle : Handle} (value : Unit → Value)
    (made : ∀ place, handle = some place →
      ∃ type, (session.state.objects.clocks place).IsOf type) :
    Rewritten change (handle = some ·) session.state.objects
      (session.respond (rewriteThrough task action change handle) value).2.state.objects := by
  rw [respond_snd]
  exact rewriteThrough_rewrites made

theorem ClockRequest.perform_rewrites (request : ClockRequest) {held : HeldClock}
    (made : ∀ place, held.handle = some place →
      ∃ type, (session.state.objects.clocks place).IsOf type) :
    Rewritten (request.overrideChange held) (held.handle = some ·) session.state.objects
      (request.perform held session).2.state.objects := by
  cases request with
  | rawSet value => exact respond_rewrites _ made
  | switchOverride active =>
    simp only [ClockRequest.perform, Session.respondUnit, switchOverride_eq]
    exact respond_rewrites _ made
  | set time =>
    simp only [ClockRequest.perform, Session.askOwned, overrideChange]
    cases owned : held.owned? with
    | none => exact rewritten_id rfl
    | some clock =>
      rw [owned?_eq_some] at owned
      subst owned
      cases read : time.read with
      | error e => exact rewritten_id rfl
      | ok time => exact respond_rewrites _ made
  | rawNow => exact rewritten_id (session.respond_keeps (ClockHandle.now_keeps _) _)
  | isOverrideEnabled =>
    exact rewritten_id (session.respond_keeps (ClockHandle.isOverrideEnabled_keeps _) _)
  | now =>
    simp only [ClockRequest.perform, Session.askOwned]
    split
    · exact rewritten_id (session.respond_keeps (OwnedClock.now_keeps _) _)
    · exact rewritten_id rfl
  | type =>
    simp only [ClockRequest.perform, Session.askOwned]
    split <;> exact rewritten_id rfl
  | handle => exact rewritten_id rfl
  | roundTrip =>
    simp only [ClockRequest.perform]
    split <;> exact rewritten_id rfl

theorem Rewritten.at_driven {change : Override → Override} {places : Place → Prop}
    {before after : Objects} {place : Place} {test : Bool}
    (rewritten : Rewritten change places before after) (driven : places place ↔ test = true) :
    after.clocks place = (before.clocks place).rewrite (if test then change else id) := by
  cases test with
  | true => exact (rewritten place).1 (driven.mpr rfl)
  | false =>
    rw [(rewritten place).2 fun inside => nomatch driven.mp inside]
    exact (Clock.rewrite_id _).symm

theorem attach_rewrites (sound : session.HasSoundClocks) {target clock : Slot}
    {source : TimeSource} (here : (session.heldClock slot).handle = some (.handle slot)) :
    ((SourceRequest.attach clock).perform target source session).2.state.objects.clocks
        (.handle slot) =
      (session.state.objects.clocks (.handle slot)).rewrite
        ((SourceRequest.attach clock).overrideChange session source slot) := by
  simp only [SourceRequest.perform, SourceRequest.overrideChange]
  cases found : session.ownedClock? clock with
  | none =>
    have unowned : (session.heldClock clock).owned ≠ some .rosTime := by
      intro owned
      rw [ownedClock?_eq, HeldClock.owned?, owned] at found
      cases found
    simp only [unowned, and_false, ↓reduceIte]
    exact (Clock.rewrite_id _).symm
  | some owned =>
    have held := found
    rw [ownedClock?_eq, owned?_eq_some] at held
    change ((session.store (source.attach clock owned) _).2.state.objects.clocks _) = _
    rw [store_snd]
    by_cases ros : owned.type = .rosTime
    · obtain ⟨after, ended, rewritten⟩ :=
        source.attach_of_ros clock ros (sound.leadsToRos found ros)
      rw [ended]
      have driven : owned.handle = some (.handle slot) ↔ decide (clock = slot) = true := by
        rw [decide_eq_true_eq]
        constructor
        · intro leads
          have there := sound.place clock (.handle slot) (by rw [held]; exact leads)
          cases there
          rfl
        · rintro rfl
          rw [held] at here
          exact here
      refine (rewritten.at_driven driven).trans ?_
      simp [held, ros]
    · rw [source.attach_of_other clock ros]
      simp only [held, Option.some.injEq, ros, and_false, ↓reduceIte]
      exact (Clock.rewrite_id _).symm

theorem SourceRequest.perform_rewrites (sound : session.HasSoundClocks) {target : Slot}
    {source : TimeSource} (found : session.sources.get? target = some source)
    (request : SourceRequest) (here : (session.heldClock slot).handle = some (.handle slot)) :
    (request.perform target source session).2.state.objects.clocks (.handle slot) =
      (session.state.objects.clocks (.handle slot)).rewrite
        (request.overrideChange session source slot) := by
  have leads := sound.leads found
  have drives := sound.drives_iff found here
  cases request with
  | isActive | clockCount | last => exact (Clock.rewrite_id _).symm
  | setActive active =>
    simp only [SourceRequest.perform, overrideChange]
    by_cases same : source.active = active
    · rw [if_pos same]
      simp only [same, bne_self_eq_false, Bool.and_false, Bool.false_eq_true, ↓reduceIte]
      exact (Clock.rewrite_id _).symm
    · rw [if_neg same]
      have leadsThen : ∀ entry ∈ (source.withActive active).clocks,
          LeadsToRos session.state.objects entry.2.handle := leads
      obtain ⟨after, ended, rewritten⟩ := TimeSource.publishActive_of_ros leadsThen
      have changed : (source.active != active) = true := by simpa using same
      rw [changed, Bool.and_true]
      have endedThen : (source.withActive active).publishActive
          (session.putSource target (source.withActive active)).state = .ok () after := ended
      rw [Session.respondUnit, respond_of_ok endedThen]
      exact rewritten.at_driven drives
  | update time =>
    simp only [SourceRequest.perform, overrideChange]
    cases read : time.read with
    | error e => exact (Clock.rewrite_id _).symm
    | ok time =>
      have leadsThen : ∀ entry ∈ (source.withTime time).clocks,
          LeadsToRos session.state.objects entry.2.handle := leads
      obtain ⟨after, ended, rewritten⟩ := TimeSource.publishTime_of_ros leadsThen
      have endedThen : (source.withTime time).publishTime
          (session.putSource target (source.withTime time)).state = .ok () after := ended
      simp only [Session.respondUnit]
      rw [respond_of_ok endedThen]
      exact rewritten.at_driven drives
  | attach clock => exact attach_rewrites sound here
  | detach clock =>
    simp only [SourceRequest.perform]
    split <;> exact (Clock.rewrite_id _).symm

theorem makeClock_fate (sound : session.HasSoundClocks) (typeName : String) (owned : Bool) :
    ClockFate session (session.makeClock slot typeName owned).2 slot id := by
  unfold Session.makeClock
  split
  · exact sound.kept_id rfl rfl
  · next unused =>
    rw [Option.not_isSome_iff_eq_none] at unused
    cases named : ClockType.named typeName with
    | error e => exact sound.kept_id rfl rfl
    | ok type =>
      change ClockFate session (session.store (ClockHandle.create slot type) _).2 slot id
      obtain ⟨after, ended, made, _⟩ := ClockHandle.create_new slot type session.state
      rw [store_snd, ended]
      refine .made type unused ?_ ?_ ?_
      · rw [heldClock_putClock_self]
      · rw [heldClock_putClock_self]
        cases owned <;> simp
      · rw [Session.clockIn, heldClock_putClock_self]
        exact congrArg some made

theorem disposeClock_fate (sound : session.HasSoundClocks)
    (spared : session.isClockInUse slot = false) :
    ClockFate session (session.disposeClock slot).2 slot id := by
  have alive : ∀ place, (session.heldClock slot).handle = some place →
      (session.clock slot).2.state.objects.stored place = true := by
    intro place here
    rw [state_clock]
    obtain ⟨type, isOf, _⟩ := sound.made slot (session.state.objects.clocks place)
      (by rw [clockIn, here]; rfl)
    rw [Objects.stored]
    rcases isOf.ros_or_plain with ⟨_, _, made⟩ | ⟨_, made⟩
    · rw [made]
      rfl
    · rw [made]
      rfl
  obtain ⟨after, ended, _⟩ := ClockHandle.dispose_of_stored _ _ alive
  refine .released spared ?_
  change (((session.clock slot).2.store (ClockHandle.dispose (session.clock slot).1.handle)
    _).2.heldClock slot).handle = none
  rw [clock_fst, store_snd, ended, heldClock_putClock_self]

theorem dropClock_fate (spared : session.isClockInUse slot = false) :
    ClockFate session (session.dropClock slot) slot id := by
  refine .released spared ?_
  unfold Session.dropClock Session.heldClock
  rw [Slots.get?_erase_self]
  rfl

theorem useClock_fate (sound : session.HasSoundClocks) (request : ClockRequest) :
    ClockFate session ((ClockStep.use request).perform slot session).2 slot
      (request.overrideChange (session.heldClock slot)) := by
  change ClockFate session
    (request.perform (session.clock slot).1 (session.clock slot).2).2 slot _
  rw [clock_fst]
  refine sound.kept ?_ ?_
  · have framed := request.perform_frame (·.heldClock slot) (fun _ _ => rfl)
      (session.heldClock slot) (session.clock slot).2
    exact framed.trans (congrFun (heldClock_clock session slot) slot)
  · intro here
    have made : ∀ place, (session.heldClock slot).handle = some place →
        ∃ type, ((session.clock slot).2.state.objects.clocks place).IsOf type := by
      intro place there
      rw [state_clock]
      obtain ⟨type, isOf, _⟩ := sound.made slot (session.state.objects.clocks place)
        (by rw [clockIn, there]; rfl)
      exact ⟨type, isOf⟩
    have rewritten := (request.perform_rewrites made (.handle slot)).1 here
    rw [state_clock] at rewritten
    exact rewritten

theorem ClockStep.heldClock_perform_of_ne (session : Session) {target : Slot}
    (apart : slot ≠ target) (step : ClockStep) :
    (step.perform target session).2.heldClock slot = session.heldClock slot := by
  refine step.perform_frame (·.heldClock slot) (fun _ _ => rfl)
    (fun session held => heldClock_putClock_of_ne session held apart) ?_ session
  intro session
  unfold Session.heldClock
  rw [Slots.get?_erase_of_ne _ apart]

theorem ClockStep.fate_of_ne (sound : session.HasSoundClocks) {target : Slot}
    (apart : slot ≠ target) (step : ClockStep) :
    ClockFate session (step.perform target session).2 slot id := by
  have held := step.heldClock_perform_of_ne session apart
  have foreign : (session.heldClock target).handle ≠ some (.handle slot) := by
    intro here
    cases sound.place target _ here
    exact apart rfl
  refine sound.kept_id held ?_
  refine step.perform_keeps (·.clocks (.handle slot)) ?_ (Objects.hides_clock_of_ne foreign)
  apply Objects.hides_clock_of_ne
  intro same
  cases same
  exact apart rfl

theorem ClockStep.clockFate (sound : session.HasSoundClocks) (target : Slot) (step : ClockStep) :
    ClockFate session (step.perform target session).2 slot
      ((Step.clock target step).overrideChange session slot) := by
  by_cases same : target = slot
  · subst same
    cases step with
    | create typeName => exact makeClock_fate sound typeName false
    | new typeName => exact makeClock_fate sound typeName true
    | use request =>
      simp only [Step.overrideChange, ↓reduceIte]
      exact useClock_fate sound request
    | dispose =>
      simp only [ClockStep.perform]
      cases spared : session.isClockInUse target with
      | true => exact sound.kept_id rfl rfl
      | false => exact disposeClock_fate sound spared
    | drop =>
      simp only [ClockStep.perform]
      cases spared : session.isClockInUse target with
      | true => exact sound.kept_id rfl rfl
      | false => exact dropClock_fate spared
  · have fate := ClockStep.fate_of_ne sound (Ne.symm same) step
    cases step with
    | use request =>
      simp only [Step.overrideChange, same, ↓reduceIte]
      exact fate
    | create | new | dispose | drop => exact fate

theorem SourceStep.clockFate (sound : session.HasSoundClocks) (target : Slot) (step : SourceStep) :
    ClockFate session (step.perform target session).2 slot
      ((Step.source target step).overrideChange session slot) := by
  have held : (step.perform target session).2.heldClock slot = session.heldClock slot :=
    congrFun ((Step.source target step).heldClock_perform session rfl) slot
  cases step with
  | new active =>
    refine sound.kept_id held ?_
    simp only [SourceStep.perform, Session.makeSource]
    split <;> rfl
  | newFromEnvironment =>
    refine sound.kept_id held ?_
    simp only [SourceStep.perform, Session.makeSource]
    split <;> rfl
  | use request =>
    simp only [Step.overrideChange]
    cases found : session.sources.get? target with
    | none =>
      refine sound.kept_id held ?_
      simp only [SourceStep.perform, found]
      rfl
    | some source =>
      refine sound.kept held fun here => ?_
      simp only [SourceStep.perform, found]
      exact request.perform_rewrites sound found here
  | drop => exact sound.kept_id held rfl

/-- What a step does with the clock in a slot. -/
theorem Step.clockFate (sound : session.HasSoundClocks) (step : Step) (slot : Slot) :
    ClockFate session (step.perform session).2 slot (step.overrideChange session slot) := by
  cases step with
  | operation asked =>
    refine sound.kept_id rfl ?_
    have same : (session.runOperation asked).2.state = _ :=
      run_state session.depth asked session.state
    exact (congrArg (·.objects.clocks (.handle slot)) same).trans (clocks_after _ _ slot)
  | context target step =>
    have held : (step.perform target session).2.heldClock slot = session.heldClock slot :=
      congrFun ((Step.context target step).heldClock_perform session rfl) slot
    exact sound.kept_id held (step.perform_keeps (·.clocks (.handle slot)) (fun _ _ _ _ => rfl)
      (fun _ _ _ _ => rfl) (fun _ _ _ _ => rfl))
  | clock target step => exact step.clockFate sound target
  | timer target step =>
    have held : (step.perform target session).2.heldClock slot = session.heldClock slot :=
      congrFun ((Step.timer target step).heldClock_perform session rfl) slot
    exact sound.kept_id held (step.perform_keeps (·.clocks (.handle slot)) (fun _ _ _ _ => rfl)
      (fun _ _ _ _ => rfl))
  | source target step => exact step.clockFate sound target
  | startLogging => exact sound.kept_id rfl rfl

end

end RosClient
