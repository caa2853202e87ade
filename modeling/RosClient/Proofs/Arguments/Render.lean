import RosClient.Proofs.Arguments.Layout

namespace RosClient

/-- A name that an assignment gives back: it is not empty and `:=` does not occur in it. -/
structure IsAssignable (name : String) : Prop where
  nonempty : name ≠ ""
  unsplit : ¬ [':', '='] <:+: name.toList

/-- The text that assigns a value to a name. -/
def assignmentText (pair : String × String) : String :=
  pair.1 ++ ":=" ++ pair.2

/-- A text is split behind the left side exactly if no `:=` occurs in the left side. A `:=` that
begins in the left side cannot end behind it, since its characters differ. -/
theorem splitsAtFirst_iff {text left right : List Char} :
    SplitsAtFirst text left right ↔
      text = left ++ ':' :: '=' :: right ∧ ¬ [':', '='] <:+: left := by
  constructor
  · intro split
    refine ⟨split.whole, ?_⟩
    rintro ⟨before, behind, rfl⟩
    have short := split.first before (behind ++ ':' :: '=' :: right) (by rw [split.whole]; simp)
    simp only [List.length_append, List.length_cons, List.length_nil] at short
    omega
  · intro ⟨whole, unsplit⟩
    refine ⟨whole, ?_⟩
    intro before behind same
    by_contra! short
    rw [whole] at same
    rcases List.append_eq_append_iff.mp same with ⟨more, rfl, _⟩ | ⟨more, rfl, rest⟩
    · simp only [List.length_append] at short
      omega
    · cases more with
      | nil => simp at short
      | cons colon more =>
        cases more with
        | nil => simp at rest
        | cons equals tail =>
          simp only [List.cons_append, List.cons.injEq] at rest
          obtain ⟨rfl, rfl, _⟩ := rest
          exact unsplit ⟨before, tail, by simp⟩

theorem assigns_iff {value : String} {pair : String × String} :
    Assigns value pair ↔ value = assignmentText pair ∧ IsAssignable pair.1 := by
  have chars : (assignmentText pair).toList =
      pair.1.toList ++ ':' :: '=' :: pair.2.toList := by
    simp [assignmentText]
  unfold Assigns
  rw [splitsAtFirst_iff, ← chars, String.toList_inj]
  constructor
  · intro ⟨⟨same, unsplit⟩, nonempty⟩
    exact ⟨same, nonempty, unsplit⟩
  · intro ⟨same, assignable⟩
    exact ⟨⟨same, assignable.unsplit⟩, assignable.nonempty⟩

namespace Arguments

/-- The tokens that give values to a flag. -/
def settings (token : String) (values : List String) : List String :=
  values.flatMap fun value => [token, value]

/-- The tokens of arguments, with one section for all that is set. -/
def render (arguments : Arguments) : List String :=
  arguments.unparsed ++ sectionStart ::
    (settings "-r" (arguments.remaps.map assignmentText) ++
      settings "-p" (arguments.params.map assignmentText) ++
      settings "--params-file" arguments.paramsFiles ++
      settings "--log-level" arguments.logLevel.toList ++
      settings "-e" arguments.enclave.toList)

/-- Arguments whose tokens can be read again. -/
structure IsRenderable (arguments : Arguments) : Prop where
  remaps : ∀ pair ∈ arguments.remaps, IsAssignable pair.1
  params : ∀ pair ∈ arguments.params, IsAssignable pair.1
  unparsed : sectionStart ∉ arguments.unparsed

/-- Items tell one reading only. -/
theorem Tells.unique {items : List Item} {plainTokens : List String} {first second : Arguments}
    (told : Tells items plainTokens first) (toldToo : Tells items plainTokens second) :
    first = second := by
  have functional : Relator.RightUnique Assigns := by
    intro value pair other assigns assignsToo
    have found := assignment?_eq_some_iff_assigns.mpr assigns
    rw [assignment?_eq_some_iff_assigns.mpr assignsToo] at found
    exact (Option.some.inj found).symm
  cases first
  cases second
  simp only [mk.injEq]
  exact ⟨List.right_unique_forall₂' functional told.remaps toldToo.remaps,
    List.right_unique_forall₂' functional told.params toldToo.params,
    told.paramsFiles.trans toldToo.paramsFiles.symm, told.logLevel.trans toldToo.logLevel.symm,
    told.enclave.trans toldToo.enclave.symm, told.unparsed.trans toldToo.unparsed.symm⟩

theorem exists_items (flag : Flag) (token : String) (spelled : token ∈ flag.spellings)
    (given : List String) (taken : ∀ value ∈ given, flag.Takes value) :
    ∃ items : List Item, items.flatMap Item.tokens = settings token given ∧
      ∀ wanted, values wanted items = if flag = wanted then given else [] := by
  induction given with
  | nil => exact ⟨[], rfl, fun wanted => by simp [values]⟩
  | cons value rest ih =>
    obtain ⟨items, written, told⟩ := ih fun other member =>
      taken other (List.mem_cons_of_mem _ member)
    refine ⟨.setting flag token value spelled (taken value List.mem_cons_self) :: items, ?_, ?_⟩
    · rw [List.flatMap_cons, written]
      rfl
    · intro wanted
      have behind := told wanted
      unfold values at behind ⊢
      rw [List.filterMap_cons, behind]
      by_cases same : flag = wanted
      · simp only [Item.valueOf?, same, ↓reduceIte]
      · simp only [Item.valueOf?, same, ↓reduceIte]

theorem exists_layout_of_plain (items : List Item) (tokens : List String)
    (ordinary : sectionStart ∉ tokens) :
    ∃ layout : Layout, layout.tokens = tokens ++ sectionStart :: items.flatMap Item.tokens ∧
      layout.items = items ∧ layout.plainTokens = tokens := by
  induction tokens with
  | nil => exact ⟨.unclosed items, rfl, rfl, rfl⟩
  | cons token rest ih =>
    rw [List.mem_cons, not_or] at ordinary
    obtain ⟨layout, same, sameItems, samePlain⟩ := ih ordinary.2
    exact ⟨.plain token (Ne.symm ordinary.1) layout, congrArg (token :: ·) same, sameItems,
      congrArg (token :: ·) samePlain⟩

theorem takes_assignmentText {flag : Flag} (assigning : flag = .remap ∨ flag = .param)
    {pairs : List (String × String)} (assignable : ∀ pair ∈ pairs, IsAssignable pair.1) :
    ∀ value ∈ pairs.map assignmentText, flag.Takes value := by
  intro value member
  obtain ⟨pair, within, rfl⟩ := List.mem_map.mp member
  rcases assigning with rfl | rfl
  · exact ⟨pair, assigns_iff.mpr ⟨rfl, assignable pair within⟩⟩
  · exact ⟨pair, assigns_iff.mpr ⟨rfl, assignable pair within⟩⟩

theorem forall₂_assignmentText {pairs : List (String × String)}
    (assignable : ∀ pair ∈ pairs, IsAssignable pair.1) :
    List.Forall₂ Assigns (pairs.map assignmentText) pairs := by
  rw [List.forall₂_map_left_iff, List.forall₂_same]
  exact fun pair member => assigns_iff.mpr ⟨rfl, assignable pair member⟩

theorem exists_layout_of_render {arguments : Arguments} (renderable : arguments.IsRenderable) :
    ∃ layout : Layout, layout.tokens = arguments.render ∧
      Tells layout.items layout.plainTokens arguments := by
  obtain ⟨remaps, writtenRemaps, toldRemaps⟩ := exists_items .remap "-r" (by decide)
    (arguments.remaps.map assignmentText)
    (takes_assignmentText (Or.inl rfl) renderable.remaps)
  obtain ⟨params, writtenParams, toldParams⟩ := exists_items .param "-p" (by decide)
    (arguments.params.map assignmentText)
    (takes_assignmentText (Or.inr rfl) renderable.params)
  obtain ⟨files, writtenFiles, toldFiles⟩ := exists_items .paramsFile "--params-file"
    (by decide) arguments.paramsFiles fun _ _ => trivial
  obtain ⟨levels, writtenLevels, toldLevels⟩ := exists_items .logLevel "--log-level"
    (by decide) arguments.logLevel.toList fun _ _ => trivial
  obtain ⟨enclaves, writtenEnclaves, toldEnclaves⟩ := exists_items .enclave "-e" (by decide)
    arguments.enclave.toList fun _ _ => trivial
  obtain ⟨layout, written, sameItems, samePlain⟩ := exists_layout_of_plain
    (remaps ++ params ++ files ++ levels ++ enclaves) arguments.unparsed renderable.unparsed
  have told (wanted : Flag) : values wanted layout.items =
      (if .remap = wanted then arguments.remaps.map assignmentText else []) ++
        (if .param = wanted then arguments.params.map assignmentText else []) ++
        (if .paramsFile = wanted then arguments.paramsFiles else []) ++
        (if .logLevel = wanted then arguments.logLevel.toList else []) ++
        (if .enclave = wanted then arguments.enclave.toList else []) := by
    rw [sameItems]
    simp only [values_append, toldRemaps, toldParams, toldFiles, toldLevels, toldEnclaves]
  refine ⟨layout, ?_, samePlain.symm, ?_, ?_, ?_, ?_, ?_⟩
  · rw [written]
    simp only [List.flatMap_append, writtenRemaps, writtenParams, writtenFiles, writtenLevels,
      writtenEnclaves, render]
  · rw [told]
    simpa using forall₂_assignmentText renderable.remaps
  · rw [told]
    simpa using forall₂_assignmentText renderable.params
  · rw [told]
    simp
  · rw [told]
    cases arguments.logLevel <;> simp
  · rw [told]
    cases arguments.enclave <;> simp

theorem parse_render {arguments : Arguments} (renderable : arguments.IsRenderable) :
    parse arguments.render = .ok arguments := by
  obtain ⟨layout, written, told⟩ := exists_layout_of_render renderable
  obtain ⟨result, read, toldResult⟩ := parse_tokens layout
  rw [← written, read, toldResult.unique told]

theorem sectionStart_notMem_plainTokens (layout : Layout) :
    sectionStart ∉ layout.plainTokens := by
  induction layout with
  | done | unclosed => exact List.not_mem_nil
  | plain token ordinary rest ih => exact List.not_mem_cons_of_ne_of_not_mem ordinary.symm ih
  | enclosed items rest ih => exact ih

theorem parse_of_notMem {tokens : List String} (ordinary : sectionStart ∉ tokens) :
    parse tokens = .ok { unparsed := tokens } := by
  induction tokens with
  | nil => rfl
  | cons token rest ih =>
    rw [List.mem_cons, not_or] at ordinary
    simp only [parse, Ne.symm ordinary.1, ↓reduceIte, ih ordinary.2, Except.map]
    rfl

theorem isAssignable_of_forall₂ {texts : List String} {pairs : List (String × String)}
    (assigned : List.Forall₂ Assigns texts pairs) : ∀ pair ∈ pairs, IsAssignable pair.1 := by
  induction assigned with
  | nil => exact fun _ absurd => nomatch absurd
  | cons assigns _ ih =>
    intro pair member
    rcases List.mem_cons.mp member with rfl | behind
    · exact (assigns_iff.mp assigns).2
    · exact ih pair behind

theorem isRenderable_of_parse {tokens : List String} {result : Arguments}
    (read : parse tokens = .ok result) : result.IsRenderable := by
  obtain ⟨layout, rfl⟩ := exists_layout_of_parse tokens read
  obtain ⟨_, readToo, told⟩ := parse_tokens layout
  cases readToo.symm.trans read
  refine ⟨isAssignable_of_forall₂ told.remaps, isAssignable_of_forall₂ told.params, ?_⟩
  rw [told.unparsed]
  exact sectionStart_notMem_plainTokens layout

/-- Reading gives back what was written exactly if the names of all assignments are neither empty
nor contain `:=` and no plain token starts a section. Whatever is read is of this kind, so that
writing a reading and reading it again changes nothing. -/
theorem parse_undoes_render :
    (∀ arguments : Arguments,
      parse arguments.render = .ok arguments ↔ arguments.IsRenderable) ∧
    ∀ tokens result, parse tokens = .ok result →
      result.IsRenderable ∧ parse result.render = parse tokens := by
  refine ⟨fun arguments => ⟨isRenderable_of_parse, parse_render⟩, ?_⟩
  intro tokens result read
  have renderable := isRenderable_of_parse read
  exact ⟨renderable, (parse_render renderable).trans read.symm⟩

/-- Arguments whose values look like markers. -/
def markerArguments : Arguments where
  remaps := [("a:", "=b:=c"), ("--", "")]
  paramsFiles := ["--ros-args", "--"]
  logLevel := some ""
  enclave := some "-r"
  unparsed := ["--", "-p", ""]

/-- They are read from tokens in another order, written in the one order, and read again. -/
theorem parse_undoes_render_markers :
    parse ["--", "--ros-args", "--log-level", "", "-r", "a::==b:=c", "-e", "x", "--", "-p", "",
        "--ros-args", "--params-file", "--ros-args", "--remap", "--:=", "--ros-args",
        "--params-file", "--", "--enclave", "-r"] = .ok markerArguments ∧
      markerArguments.IsRenderable ∧
      parse ["--", "-p", "", "--ros-args", "-r", "a::==b:=c", "-r", "--:=", "--params-file",
        "--ros-args", "--params-file", "--", "--log-level", "", "-e", "-r"] =
          .ok markerArguments := by
  have read : parse ["--", "--ros-args", "--log-level", "", "-r", "a::==b:=c", "-e", "x", "--",
      "-p", "", "--ros-args", "--params-file", "--ros-args", "--remap", "--:=", "--ros-args",
      "--params-file", "--", "--enclave", "-r"] = .ok markerArguments := by
    rfl
  have again := parse_undoes_render.2 _ _ read
  exact ⟨read, again.1, again.2.trans read⟩

end Arguments

end RosClient
