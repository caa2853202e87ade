import RosClient.Proofs.Session.Clocks

namespace RosClient

/-- What a request makes of its time source. -/
def SourceRequest.next (session : Session) (source : TimeSource) : SourceRequest → TimeSource
  | setActive active => source.withActive active
  | update time =>
    match time.read with
    | .ok time => source.withTime time
    | .error _ => source
  | attach clock =>
    match session.ownedClock? clock with
    | some owned =>
      if owned.type = .rosTime then { source with clocks := source.clocks ++ [(clock, owned)] }
      else source
    | none => source
  | detach clock => if (session.ownedClock? clock).isSome then source.detach clock else source
  | isActive | clockCount | last => source

open Session

section

variable {session : Session} {slot : Slot}

theorem get?_putSource_self (session : Session) (slot : Slot) (source : TimeSource) :
    (session.putSource slot source).sources.get? slot = some source :=
  Slots.get?_put_self _ _ _

theorem SourceRequest.get?_perform (sound : session.HasSoundClocks) {source : TimeSource}
    (found : session.sources.get? slot = some source) (request : SourceRequest) :
    (request.perform slot source session).2.sources.get? slot =
      some (request.next session source) := by
  cases request with
  | isActive | clockCount | last => exact found
  | setActive active =>
    simp only [SourceRequest.perform]
    split
    · next same =>
      subst same
      exact found
    · rw [Session.respondUnit, respond_snd]
      exact get?_putSource_self session slot _
  | update time =>
    simp only [SourceRequest.perform, next]
    cases read : time.read with
    | error e => exact found
    | ok time =>
      simp only [Session.respondUnit, respond_snd]
      exact get?_putSource_self session slot _
  | attach clock =>
    simp only [SourceRequest.perform, next]
    cases owns : session.ownedClock? clock with
    | none => exact found
    | some owned =>
      change (session.store (source.attach clock owned) _).2.sources.get? slot = _
      rw [store_snd]
      by_cases ros : owned.type = .rosTime
      · obtain ⟨after, ended, _⟩ := source.attach_of_ros clock ros (sound.leadsToRos owns ros)
        rw [ended]
        simp only [ros, ↓reduceIte]
        exact get?_putSource_self _ slot _
      · rw [source.attach_of_other clock ros]
        simp only [ros, ↓reduceIte]
        exact found
  | detach clock =>
    simp only [SourceRequest.perform, next]
    cases session.ownedClock? clock with
    | none => exact found
    | some owned => exact get?_putSource_self session slot _

theorem makeSource_cases {active : Bool} {source : TimeSource} {step : Step}
    (found : (session.makeSource slot active).2.sources.get? slot = some source) :
    session.sources.get? slot = some source ∨ (∃ active, source = .new active) ∨
      ∃ before request, step = .source slot (.use request) ∧
        session.sources.get? slot = some before ∧ source = request.next session before := by
  unfold Session.makeSource at found
  split at found
  · exact Or.inl found
  · rw [get?_putSource_self] at found
    exact Or.inr (Or.inl ⟨active, (Option.some.inj found).symm⟩)

/-- A time source that is there after a step was there before, is new, or was asked in the step. -/
theorem Step.source_of_perform (sound : session.HasSoundClocks) (step : Step) {source : TimeSource}
    (found : (step.perform session).2.sources.get? slot = some source) :
    session.sources.get? slot = some source ∨ (∃ active, source = .new active) ∨
      ∃ before request, step = .source slot (.use request) ∧
        session.sources.get? slot = some before ∧ source = request.next session before := by
  have left (other : step.isOn .source = false) : session.sources.get? slot = some source := by
    rw [step.sources_perform session other] at found
    exact found
  cases step with
  | operation | context | clock | timer | startLogging => exact Or.inl (left rfl)
  | source target step =>
    by_cases same : slot = target
    · subst same
      cases step with
      | new active => exact makeSource_cases found
      | newFromEnvironment => exact makeSource_cases found
      | use request =>
        simp only [Step.perform, SourceStep.perform] at found
        cases there : session.sources.get? slot with
        | none =>
          rw [there] at found
          rw [← there]
          exact Or.inl found
        | some before =>
          rw [there] at found
          have after := request.get?_perform sound there
          exact Or.inr (Or.inr ⟨before, request, rfl, rfl,
            Option.some.inj (found.symm.trans after)⟩)
      | drop =>
        simp only [Step.perform, SourceStep.perform, Slots.get?_erase_self] at found
        cases found
    · have kept : (step.perform target session).2.sources.get? slot =
          session.sources.get? slot :=
        step.perform_frame (·.sources.get? slot) (fun _ _ => rfl)
          (fun _ _ => Slots.get?_put_of_ne _ _ same) (fun _ => Slots.get?_erase_of_ne _ same)
          session
      exact Or.inl (kept.symm.trans found)

theorem SourceRequest.mem_next {source : TimeSource} {request : SourceRequest}
    {entry : Slot × OwnedClock} (member : entry ∈ (request.next session source).clocks) :
    entry ∈ source.clocks ∨
      session.ownedClock? entry.1 = some entry.2 ∧ entry.2.type = .rosTime := by
  cases request with
  | isActive | clockCount | last | setActive => exact Or.inl member
  | update time =>
    simp only [next] at member
    split at member <;> exact Or.inl member
  | attach clock =>
    simp only [next] at member
    split at member
    · next owned found =>
      split at member
      · next ros =>
        rcases List.mem_append.mp member with inside | last
        · exact Or.inl inside
        · cases List.mem_singleton.mp last
          exact Or.inr ⟨found, ros⟩
      · exact Or.inl member
    · exact Or.inl member
  | detach clock =>
    simp only [next] at member
    split at member
    · exact Or.inl (List.mem_filter.mp member).1
    · exact Or.inl member

theorem any_of_get? {α : Type} {slots : Slots α} {content : α} {test : α → Bool}
    (present : slots.get? slot = some content) (passes : test content = true) :
    slots.any test = true := by
  obtain ⟨entries⟩ := slots
  unfold Slots.get? at present
  unfold Slots.any
  rw [List.any_eq_true]
  induction entries with
  | nil => cases present
  | cons entry rest ih =>
    obtain ⟨key, held⟩ := entry
    rw [List.lookup_cons] at present
    split at present
    · cases present
      exact ⟨_, List.mem_cons_self, passes⟩
    · obtain ⟨found, member, passed⟩ := ih present
      exact ⟨found, List.mem_cons_of_mem _ member, passed⟩

theorem TimeSource.hasClock_of_mem (source : TimeSource) {entry : Slot × OwnedClock}
    (member : entry ∈ source.clocks) : source.hasClock entry.1 = true :=
  List.any_eq_true.mpr ⟨entry, member, decide_eq_true rfl⟩

theorem isClockInUse_of_hasClock {target : Slot} {source : TimeSource}
    (found : session.sources.get? target = some source) (has : source.hasClock slot = true) :
    session.isClockInUse slot = true := by
  unfold Session.isClockInUse
  rw [any_of_get? found has, Bool.or_true]

theorem ownedClock?_perform (sound : session.HasSoundClocks) (step : Step) {target : Slot}
    {source : TimeSource} (found : session.sources.get? target = some source)
    {entry : Slot × OwnedClock} (member : entry ∈ source.clocks) :
    (step.perform session).2.ownedClock? entry.1 = session.ownedClock? entry.1 := by
  rw [ownedClock?_eq, ownedClock?_eq]
  cases step.clockFate sound entry.1 with
  | kept held => rw [held]
  | released spared =>
    have used := isClockInUse_of_hasClock found (source.hasClock_of_mem member)
    rw [spared] at used
    cases used
  | made type unused =>
    have owned := (sound.attached target source found entry member).1
    rw [Session.ownedClock?, unused] at owned
    cases owned

theorem Step.perform_sound (sound : session.HasSoundClocks) (step : Step) :
    (step.perform session).2.HasSoundClocks where
  place slot place here := by
    cases step.clockFate sound slot with
    | kept held =>
      rw [held] at here
      exact sound.place slot place here
    | released _ empty =>
      rw [empty] at here
      cases here
    | made _ _ there =>
      rw [there] at here
      exact (Option.some.inj here).symm
  made slot clock there := by
    cases step.clockFate sound slot with
    | kept held rewritten =>
      rw [rewritten] at there
      obtain ⟨before, present, rfl⟩ := Option.map_eq_some_iff.mp there
      obtain ⟨type, isOf, same⟩ := sound.made slot before present
      exact ⟨type, isOf.rewrite _, by rw [held]; exact same⟩
    | released _ empty =>
      rw [Session.clockIn, empty] at there
      cases there
    | made type _ _ owned new =>
      cases new.symm.trans there
      exact ⟨type, Clock.isOf_new type, owned⟩
  attached slot source found entry member := by
    rcases step.source_of_perform sound found with before | ⟨active, rfl⟩ |
      ⟨before, request, rfl, there, rfl⟩
    · rw [ownedClock?_perform sound step before member]
      exact sound.attached slot source before entry member
    · cases member
    · rcases request.mem_next member with inside | ⟨owned, ros⟩
      · rw [ownedClock?_perform sound _ there inside]
        exact sound.attached slot before there entry inside
      · have held : ((Step.source slot (.use request)).perform session).2.heldClock =
            session.heldClock :=
          Step.heldClock_perform _ session rfl
        rw [ownedClock?_eq, held, ← ownedClock?_eq]
        exact ⟨owned, ros⟩

theorem Session.HasSoundClocks.after (sound : session.HasSoundClocks) (steps : List Step) :
    (session.after steps).HasSoundClocks := by
  induction steps generalizing session with
  | nil => exact sound
  | cons step rest ih => exact ih (step.perform_sound sound)

end

end RosClient
