import RosClient.Proofs.Arguments.Layout

namespace RosClient.Arguments

/-- How tokens are read, from a place outside every section or inside one. -/
abbrev Reader := List String → Except ArgumentError Arguments

/-- Tokens that take one reader to another: what they say is merged with what follows them. -/
def Leads (reader next : Reader) (tokens : List String) (first : Arguments) : Prop :=
  ∀ rest, reader (tokens ++ rest) = (next rest).map first.merge

theorem map_empty_merge (read : Except ArgumentError Arguments) :
    read.map ({} : Arguments).merge = read := by
  cases read with
  | error e => rfl
  | ok result => rw [Except.map, empty_merge]

theorem map_merge_map_merge (read : Except ArgumentError Arguments) (a b : Arguments) :
    (read.map b.merge).map a.merge = read.map (a.merge b).merge := by
  cases read with
  | error e => rfl
  | ok result => simp only [Except.map, merge_assoc]

theorem Leads.append {reader middle next : Reader} {first second : List String} {a b : Arguments}
    (leads : Leads reader middle first a) (goesOn : Leads middle next second b) :
    Leads reader next (first ++ second) (a.merge b) := by
  intro rest
  rw [List.append_assoc, leads, goesOn, map_merge_map_merge]

theorem leads_nil (reader : Reader) : Leads reader reader [] {} :=
  fun rest => (map_empty_merge (reader rest)).symm

theorem leads_plain {token : String} (ordinary : token ≠ sectionStart) :
    Leads parse parse [token] (plain token) := by
  intro rest
  rw [List.singleton_append, parse, if_neg ordinary]

theorem leads_start : Leads parse parseSection [sectionStart] {} :=
  fun rest => (map_empty_merge (parseSection rest)).symm

theorem leads_marker : Leads parseSection parseSection [sectionStart] {} :=
  fun rest => (map_empty_merge (parseSection rest)).symm

theorem leads_end : Leads parseSection parse [sectionEnd] {} :=
  fun rest => (map_empty_merge (parse rest)).symm

theorem leads_setting {flag : Flag} {token value : String} (spelled : token ∈ flag.spellings)
    {first : Arguments} (read : item flag token value = .ok first) :
    Leads parseSection parseSection [token, value] first :=
  parseSection_setting spelled read

theorem exists_leads_items (items : List Item) :
    ∃ first, Leads parseSection parseSection (items.flatMap Item.tokens) first := by
  obtain ⟨first, _, read⟩ := parseSection_items items
  exact ⟨first, read⟩

/-- Whether the last section goes on to the end of the list. -/
def Layout.isUnclosed : Layout → Bool
  | done => false
  | plain _ _ rest => rest.isUnclosed
  | enclosed _ rest => rest.isUnclosed
  | unclosed _ => true

/-- How the tokens behind a layout are read. -/
def Layout.reader (layout : Layout) : Reader :=
  if layout.isUnclosed then parseSection else parse

theorem Layout.reader_nil (layout : Layout) : layout.reader [] = .ok {} := by
  unfold Layout.reader
  split <;> rfl

/-- The tokens of a layout lead to the place where the layout ends. -/
theorem exists_leads_tokens (layout : Layout) :
    ∃ first, Leads parse layout.reader layout.tokens first := by
  induction layout with
  | done => exact ⟨{}, leads_nil parse⟩
  | plain token ordinary rest ih =>
    obtain ⟨behind, leads⟩ := ih
    exact ⟨_, (leads_plain ordinary).append leads⟩
  | enclosed items rest ih =>
    obtain ⟨first, leadsItems⟩ := exists_leads_items items
    obtain ⟨behind, leads⟩ := ih
    exact ⟨_, leads_start.append (leadsItems.append (leads_end.append leads))⟩
  | unclosed items =>
    obtain ⟨first, leadsItems⟩ := exists_leads_items items
    exact ⟨_, leads_start.append leadsItems⟩

theorem leads_of_parse {layout : Layout} {first : Arguments}
    (read : parse layout.tokens = .ok first) : Leads parse layout.reader layout.tokens first := by
  obtain ⟨told, leads⟩ := exists_leads_tokens layout
  have alone := leads []
  rw [List.append_nil, read, layout.reader_nil, Except.map, merge_empty] at alone
  cases alone
  exact leads

/-- The ways in which a reader fails: the last token is a flag without a value, or the error stays
whatever follows. -/
inductive Fails (reader : Reader) (tokens : List String) : ArgumentError → Prop where
  | missing (front : List String) (flag : Flag) (token : String)
      (spelled : token ∈ flag.spellings) (last : tokens = front ++ [token]) :
      Fails reader tokens (.missingValue token)
  | settled (e : ArgumentError) (given : ∀ token, e ≠ .missingValue token)
      (stays : ∀ rest, reader (tokens ++ rest) = .error e) : Fails reader tokens e

theorem Fails.behind {reader next : Reader} {front tokens : List String} {first : Arguments}
    {e : ArgumentError} (fails : Fails next tokens e) (leads : Leads reader next front first) :
    Fails reader (front ++ tokens) e := by
  cases fails with
  | missing before flag token spelled last =>
    refine .missing (front ++ before) flag token spelled ?_
    rw [last, List.append_assoc]
  | settled e given stays =>
    refine .settled e given ?_
    intro rest
    rw [List.append_assoc, leads, stays]
    rfl

/-- What the first tokens of a section are. -/
inductive Head : List String → Prop where
  | nothing : Head []
  | finish (rest : List String) : Head (sectionEnd :: rest)
  | marker (rest : List String) : Head (sectionStart :: rest)
  | unknown (token : String) (rest : List String)
      (stays : ∀ behind, parseSection (token :: behind) = .error (.unknown token)) :
      Head (token :: rest)
  | unfinished (flag : Flag) (token : String) (spelled : token ∈ flag.spellings)
      (missing : parseSection [token] = .error (.missingValue token)) : Head [token]
  | unassigned (token value : String) (rest : List String)
      (stays : ∀ behind,
        parseSection (token :: value :: behind) = .error (.badAssignment token value)) :
      Head (token :: value :: rest)
  | setting (flag : Flag) (token value : String) (rest : List String) (first : Arguments)
      (spelled : token ∈ flag.spellings) (read : item flag token value = .ok first) :
      Head (token :: value :: rest)

theorem item_eq_error {flag : Flag} {token value : String} {e : ArgumentError}
    (failed : item flag token value = .error e) : e = .badAssignment token value := by
  cases flag with
  | remap | param =>
    simp only [item] at failed
    split at failed
    · cases failed
    · exact (Except.error.inj failed).symm
  | paramsFile | logLevel | enclave => cases failed

theorem parseSection_unassigned {flag : Flag} {token value : String}
    (spelled : token ∈ flag.spellings) {e : ArgumentError}
    (failed : item flag token value = .error e) (rest : List String) :
    parseSection (token :: value :: rest) = .error e := by
  rw [parseSection.eq_def]
  simp only [ne_sectionEnd_of_mem_spellings spelled, ne_sectionStart_of_mem_spellings spelled,
    ↓reduceIte, Flag.ofToken?_eq_some.mpr spelled, failed]

theorem parseSection_unfinished {flag : Flag} {token : String}
    (spelled : token ∈ flag.spellings) :
    parseSection [token] = .error (.missingValue token) := by
  rw [parseSection.eq_def]
  simp only [ne_sectionEnd_of_mem_spellings spelled, ne_sectionStart_of_mem_spellings spelled,
    ↓reduceIte, Flag.ofToken?_eq_some.mpr spelled]

theorem parseSection_unknown {token : String} (goesOn : token ≠ sectionEnd)
    (ordinary : token ≠ sectionStart) (unspelled : Flag.ofToken? token = none)
    (rest : List String) : parseSection (token :: rest) = .error (.unknown token) := by
  rw [parseSection.eq_def]
  simp only [goesOn, ordinary, ↓reduceIte, unspelled]

theorem head_of_section (tokens : List String) : Head tokens := by
  cases tokens with
  | nil => exact .nothing
  | cons token rest =>
    by_cases finish : token = sectionEnd
    · exact finish ▸ .finish rest
    by_cases start : token = sectionStart
    · exact start ▸ .marker rest
    cases found : Flag.ofToken? token with
    | none => exact .unknown token rest (parseSection_unknown finish start found)
    | some flag =>
      have spelled := Flag.ofToken?_eq_some.mp found
      cases rest with
      | nil => exact .unfinished flag token spelled (parseSection_unfinished spelled)
      | cons value rest =>
        cases read : item flag token value with
        | error e =>
          cases item_eq_error read
          exact .unassigned token value rest (parseSection_unassigned spelled read)
        | ok first => exact .setting flag token value rest first spelled read

theorem error_of_map {read : Except ArgumentError Arguments} {first : Arguments}
    {e : ArgumentError} (mapped : read.map first.merge = .error e) : read = .error e := by
  cases read with
  | error => exact mapped
  | ok => cases mapped

-- An item takes two tokens at once, so both recursions are on the length of the list.
mutual

theorem fails_of_parse {e : ArgumentError} :
    (tokens : List String) → parse tokens = .error e → Fails parse tokens e
  | [], failed => nomatch failed
  | token :: rest, failed => by
    simp only [parse] at failed
    split at failed
    · next start => exact start ▸ (fails_of_parseSection rest failed).behind leads_start
    · next ordinary =>
      exact (fails_of_parse rest (error_of_map failed)).behind (leads_plain ordinary)
termination_by tokens => tokens.length

theorem fails_of_parseSection {e : ArgumentError} (tokens : List String)
    (failed : parseSection tokens = .error e) : Fails parseSection tokens e := by
  cases head_of_section tokens with
  | nothing => cases failed
  | finish rest => exact (fails_of_parse rest failed).behind leads_end
  | marker rest => exact (fails_of_parseSection rest failed).behind leads_marker
  | unknown token rest stays =>
    cases (stays rest).symm.trans failed
    exact .settled _ nofun fun behind => stays (rest ++ behind)
  | unfinished flag token spelled missing =>
    cases missing.symm.trans failed
    exact .missing [] flag token spelled rfl
  | unassigned token value rest stays =>
    cases (stays rest).symm.trans failed
    exact .settled _ nofun fun behind => stays (rest ++ behind)
  | setting flag token value rest first spelled read =>
    have leads := leads_setting spelled read
    have failedBehind := error_of_map ((leads rest).symm.trans failed)
    exact (fails_of_parseSection rest failedBehind).behind leads
termination_by tokens.length

end

/-- Tokens that end inside a section: in a layout of them the last section goes on to the end. -/
def EndsInSection (tokens : List String) : Prop :=
  ∃ layout : Layout, layout.tokens = tokens ∧ layout.isUnclosed = true

/-- A list behind one that ends outside every section is read on its own, and so it is behind one
that ends inside a section if a section starts or this section ends in between; the two readings are
merged. An error of the first list is the error of both, unless its last token is a flag, which the
error says to be without a value. -/
theorem readings_compose (a b : List String) :
    (∀ first, parse a = .ok first →
      (¬ EndsInSection a → parse (a ++ b) = (parse b).map first.merge) ∧
      (EndsInSection a →
        parse (a ++ b) = (parse (sectionStart :: b)).map first.merge ∧
        parse (a ++ [sectionEnd] ++ b) = (parse b).map first.merge)) ∧
    ∀ e, parse a = .error e →
      ((∀ token, e ≠ .missingValue token) → parse (a ++ b) = .error e) ∧
      ∀ token, e = .missingValue token →
        (∃ front flag, a = front ++ [token] ∧ token ∈ Flag.spellings flag) ∧
        e.message = s!"argument '{token}' is missing its value" := by
  refine ⟨fun first read => ?_, fun e failed => ?_⟩
  · obtain ⟨layout, rfl⟩ := exists_layout_of_parse a read
    have leads := leads_of_parse read
    refine ⟨fun outside => ?_, fun ⟨other, same, inside⟩ => ?_⟩
    · have closed : ¬ layout.isUnclosed = true := fun inside => outside ⟨layout, rfl, inside⟩
      rw [Layout.reader, if_neg closed] at leads
      exact leads b
    · cases layout_tokens_injective same
      rw [Layout.reader, inside, if_pos rfl] at leads
      refine ⟨leads b, ?_⟩
      have ended := leads.append leads_end b
      rwa [merge_empty] at ended
  · cases fails_of_parse a failed with
    | missing front flag token spelled last =>
      refine ⟨fun given => absurd rfl (given token), ?_⟩
      rintro _ ⟨⟩
      exact ⟨⟨front, flag, last, spelled⟩, rfl⟩
    | settled e given stays =>
      exact ⟨fun _ => stays b, fun token missing => absurd missing (given token)⟩

/-- Behind an enclave that is spelled like the end of a section the same marker ends the section,
and behind a plain token it is plain. A name that is missing stays missing. -/
theorem readings_compose_at_markers :
    parse ["talker"] = .ok { unparsed := ["talker"] } ∧
      ¬ EndsInSection ["talker"] ∧
      parse (["talker"] ++ ["--", "-e"]) = .ok { unparsed := ["talker", "--", "-e"] } ∧
      parse ["--ros-args", "-e", "--"] = .ok { enclave := some "--" } ∧
      EndsInSection ["--ros-args", "-e", "--"] ∧
      parse (["--ros-args", "-e", "--"] ++ ["--", "-e"]) =
        .ok { enclave := some "--", unparsed := ["-e"] } ∧
      parse (["--ros-args", "-e", "--"] ++ ["--"] ++ ["--", "-e"]) =
        .ok { enclave := some "--", unparsed := ["--", "-e"] } ∧
      parse (["--ros-args", "-p", ":=1"] ++ ["--", "-e"]) = .error (.badAssignment "-p" ":=1") ∧
      ∃ front flag, ["--ros-args", "-r"] = front ++ ["-r"] ∧ "-r" ∈ Flag.spellings flag := by
  have plainRead : parse ["talker"] = .ok { unparsed := ["talker"] } := rfl
  have outside : ¬ EndsInSection ["talker"] := by
    rintro ⟨layout, same, inside⟩
    have only : layout = .plain "talker" (by decide) .done := layout_tokens_injective same
    rw [only] at inside
    exact absurd inside Bool.false_ne_true
  have itemRead : parse ["--ros-args", "-e", "--"] = .ok { enclave := some "--" } := rfl
  have inside : EndsInSection ["--ros-args", "-e", "--"] :=
    ⟨.unclosed [.setting .enclave "-e" "--" (by decide) trivial], rfl, rfl⟩
  have goesOn := (readings_compose ["talker"] ["--", "-e"]).1 _ plainRead
  have ends := (readings_compose ["--ros-args", "-e", "--"] ["--", "-e"]).1 _ itemRead
  have fails := (readings_compose ["--ros-args", "-p", ":=1"] ["--", "-e"]).2
    (.badAssignment "-p" ":=1") rfl
  have waits := (readings_compose ["--ros-args", "-r"] []).2 (.missingValue "-r") rfl
  exact ⟨plainRead, outside, goesOn.1 outside, itemRead, inside, (ends.2 inside).1,
    (ends.2 inside).2, fails.1 nofun, (waits.2 "-r" rfl).1⟩

end RosClient.Arguments
