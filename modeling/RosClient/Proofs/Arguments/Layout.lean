import Mathlib.Data.List.Forall2
import RosClient.Proofs.Arguments.Assignment

namespace RosClient

/-- The tokens that stand for a flag. -/
def Flag.spellings : Flag → List String
  | remap => ["-r", "--remap"]
  | param => ["-p", "--param"]
  | paramsFile => ["--params-file"]
  | logLevel => ["--log-level"]
  | enclave => ["-e", "--enclave"]

/-- A value and the name and the value that it assigns. -/
def Assigns (value : String) (pair : String × String) : Prop :=
  SplitsAtFirst value.toList pair.1.toList pair.2.toList ∧ pair.1 ≠ ""

/-- Whether a token can be the value of a flag. -/
def Flag.Takes (value : String) : Flag → Prop
  | remap => ∃ pair, Assigns value pair
  | param => ∃ pair, Assigns value pair
  | paramsFile => True
  | logLevel => True
  | enclave => True

theorem Flag.mem_spellings_of_ofToken? {token : String} {flag : Flag}
    (found : Flag.ofToken? token = some flag) : token ∈ flag.spellings := by
  unfold Flag.ofToken? at found
  repeat' split at found
  all_goals cases found
  all_goals simpa [Flag.spellings]

theorem Flag.ofToken?_of_mem_spellings {token : String} {flag : Flag}
    (spelled : token ∈ flag.spellings) : Flag.ofToken? token = some flag := by
  have read : ∀ token ∈ flag.spellings, Flag.ofToken? token = some flag := by
    cases flag <;> decide
  exact read token spelled

theorem Flag.ofToken?_eq_some {token : String} {flag : Flag} :
    Flag.ofToken? token = some flag ↔ token ∈ flag.spellings :=
  ⟨Flag.mem_spellings_of_ofToken?, Flag.ofToken?_of_mem_spellings⟩

theorem assignment?_eq_some_iff_assigns {value : String} {pair : String × String} :
    assignment? value = some pair ↔ Assigns value pair :=
  assignment?_eq_some

namespace Arguments

/-- What may stand in a section: another start of a section, or a flag and its value. -/
inductive Item where
  | marker
  | setting (flag : Flag) (token value : String) (spelled : token ∈ flag.spellings)
    (taken : flag.Takes value)

def Item.tokens : Item → List String
  | marker => [sectionStart]
  | setting _ token value _ _ => [token, value]

/-- The value that an item gives to a flag. -/
def Item.valueOf? (wanted : Flag) : Item → Option String
  | marker => none
  | setting flag _ value _ _ => if flag = wanted then some value else none

/-- What the tokens of a list are. Only the last section may go on to the end of the list. -/
inductive Layout where
  | done
  | plain (token : String) (ordinary : token ≠ sectionStart) (rest : Layout)
  | enclosed (items : List Item) (rest : Layout)
  | unclosed (items : List Item)

namespace Layout

def tokens : Layout → List String
  | done => []
  | plain token _ rest => token :: rest.tokens
  | enclosed items rest => sectionStart :: (items.flatMap Item.tokens ++ sectionEnd :: rest.tokens)
  | unclosed items => sectionStart :: items.flatMap Item.tokens

/-- The items of all sections. -/
def items : Layout → List Item
  | done => []
  | plain _ _ rest => rest.items
  | enclosed items rest => items ++ rest.items
  | unclosed items => items

/-- The tokens outside every section. -/
def plainTokens : Layout → List String
  | done => []
  | plain token _ rest => token :: rest.plainTokens
  | enclosed _ rest => rest.plainTokens
  | unclosed _ => []

end Layout

theorem Layout.plainTokens_sublist (layout : Layout) :
    layout.plainTokens.Sublist layout.tokens := by
  induction layout with
  | done | unclosed => exact List.nil_sublist _
  | plain token ordinary rest ih => exact ih.cons_cons token
  | enclosed items rest ih =>
    refine List.Sublist.cons _ (List.Sublist.trans ih ?_)
    exact (List.sublist_cons_self _ _).trans (List.sublist_append_right _ _)

/-- The values that items give to a flag, in order. -/
def values (flag : Flag) (items : List Item) : List String :=
  items.filterMap (Item.valueOf? flag)

/-- A reading that tells all that items and plain tokens say. -/
structure Tells (items : List Item) (plainTokens : List String) (result : Arguments) : Prop where
  unparsed : result.unparsed = plainTokens
  remaps : List.Forall₂ Assigns (values .remap items) result.remaps
  params : List.Forall₂ Assigns (values .param items) result.params
  paramsFiles : result.paramsFiles = values .paramsFile items
  logLevel : result.logLevel = (values .logLevel items).getLast?
  enclave : result.enclave = (values .enclave items).getLast?

theorem values_append (flag : Flag) (first second : List Item) :
    values flag (first ++ second) = values flag first ++ values flag second :=
  List.filterMap_append

theorem tells_empty : Tells [] [] {} :=
  ⟨rfl, .nil, .nil, rfl, rfl, rfl⟩

theorem tells_plain (token : String) : Tells [] [token] (plain token) :=
  ⟨rfl, .nil, .nil, rfl, rfl, rfl⟩

theorem tells_marker : Tells [.marker] [] {} :=
  ⟨rfl, .nil, .nil, rfl, rfl, rfl⟩

theorem Tells.merge {first second : List Item} {before behind : List String} {a b : Arguments}
    (told : Tells first before a) (toldNext : Tells second behind b) :
    Tells (first ++ second) (before ++ behind) (a.merge b) where
  unparsed := by simp only [Arguments.merge, told.unparsed, toldNext.unparsed]
  remaps := by
    rw [values_append]
    exact List.rel_append told.remaps toldNext.remaps
  params := by
    rw [values_append]
    exact List.rel_append told.params toldNext.params
  paramsFiles := by
    simp only [Arguments.merge, told.paramsFiles, toldNext.paramsFiles, values_append]
  logLevel := by
    simp only [Arguments.merge, told.logLevel, toldNext.logLevel, values_append,
      List.getLast?_append]
  enclave := by
    simp only [Arguments.merge, told.enclave, toldNext.enclave, values_append, List.getLast?_append]

theorem item_of_taken {flag : Flag} {token value : String} (spelled : token ∈ flag.spellings)
    (taken : flag.Takes value) :
    ∃ first, item flag token value = .ok first ∧
      Tells [.setting flag token value spelled taken] [] first := by
  cases flag with
  | remap =>
    obtain ⟨pair, assigns⟩ := taken
    refine ⟨{ remaps := [pair] }, ?_, rfl, .cons assigns .nil, .nil, rfl, rfl, rfl⟩
    simp only [item, assignment?_eq_some_iff_assigns.mpr assigns]
  | param =>
    obtain ⟨pair, assigns⟩ := taken
    refine ⟨{ params := [pair] }, ?_, rfl, .nil, .cons assigns .nil, rfl, rfl, rfl⟩
    simp only [item, assignment?_eq_some_iff_assigns.mpr assigns]
  | paramsFile => exact ⟨_, rfl, rfl, .nil, .nil, rfl, rfl, rfl⟩
  | logLevel => exact ⟨_, rfl, rfl, .nil, .nil, rfl, rfl, rfl⟩
  | enclave => exact ⟨_, rfl, rfl, .nil, .nil, rfl, rfl, rfl⟩

theorem taken_of_item {flag : Flag} {token value : String} {first : Arguments}
    (read : item flag token value = .ok first) : flag.Takes value := by
  cases flag with
  | remap | param =>
    simp only [item] at read
    split at read
    · next pair found => exact ⟨pair, assignment?_eq_some_iff_assigns.mp found⟩
    · cases read
  | paramsFile | logLevel | enclave => trivial

theorem ne_sectionEnd_of_mem_spellings {flag : Flag} {token : String}
    (spelled : token ∈ flag.spellings) : token ≠ sectionEnd := by
  rintro rfl
  cases flag <;> revert spelled <;> decide

theorem ne_sectionStart_of_mem_spellings {flag : Flag} {token : String}
    (spelled : token ∈ flag.spellings) : token ≠ sectionStart := by
  rintro rfl
  cases flag <;> revert spelled <;> decide

theorem parseSection_end (rest : List String) : parseSection (sectionEnd :: rest) = parse rest :=
  rfl

theorem parse_start (rest : List String) : parse (sectionStart :: rest) = parseSection rest :=
  rfl

theorem parseSection_setting {flag : Flag} {token value : String}
    (spelled : token ∈ flag.spellings) {first : Arguments}
    (read : item flag token value = .ok first) (rest : List String) :
    parseSection (token :: value :: rest) = (parseSection rest).map first.merge := by
  rw [parseSection.eq_def]
  simp only [ne_sectionEnd_of_mem_spellings spelled, ne_sectionStart_of_mem_spellings spelled,
    ↓reduceIte, Flag.ofToken?_eq_some.mpr spelled, read]

theorem parseSection_items (items : List Item) :
    ∃ first, Tells items [] first ∧ ∀ rest,
      parseSection (items.flatMap Item.tokens ++ rest) = (parseSection rest).map first.merge := by
  induction items with
  | nil =>
    refine ⟨{}, tells_empty, ?_⟩
    intro rest
    rw [List.flatMap_nil, List.nil_append]
    cases parseSection rest <;> simp [Except.map]
  | cons head tail ih =>
    obtain ⟨behind, toldBehind, readBehind⟩ := ih
    cases head with
    | marker =>
      refine ⟨behind, by simpa using tells_marker.merge toldBehind, ?_⟩
      intro rest
      rw [← readBehind rest]
      rfl
    | setting flag token value spelled taken =>
      obtain ⟨first, read, told⟩ := item_of_taken spelled taken
      refine ⟨first.merge behind, told.merge toldBehind, ?_⟩
      intro rest
      simp only [List.flatMap_cons, Item.tokens, List.cons_append, List.nil_append]
      rw [parseSection_setting spelled read, readBehind]
      cases parseSection rest <;> simp [Except.map, merge_assoc]

/-- A list that has a layout is read, and the reading tells what the layout holds. -/
theorem parse_tokens (layout : Layout) :
    ∃ result, parse layout.tokens = .ok result ∧
      Tells layout.items layout.plainTokens result := by
  induction layout with
  | done => exact ⟨{}, rfl, tells_empty⟩
  | plain token ordinary rest ih =>
    obtain ⟨behind, read, told⟩ := ih
    refine ⟨(plain token).merge behind, ?_, (tells_plain token).merge told⟩
    simp only [Layout.tokens, parse, ordinary, ↓reduceIte, read, Except.map]
  | enclosed items rest ih =>
    obtain ⟨behind, read, told⟩ := ih
    obtain ⟨first, toldItems, readItems⟩ := parseSection_items items
    refine ⟨first.merge behind, ?_, toldItems.merge told⟩
    rw [Layout.tokens, parse_start, readItems, parseSection_end, read]
    rfl
  | unclosed items =>
    obtain ⟨first, toldItems, readItems⟩ := parseSection_items items
    refine ⟨first, ?_, toldItems⟩
    have alone := readItems []
    rw [List.append_nil] at alone
    rw [Layout.tokens, parse_start, alone, parseSection, Except.map, merge_empty]

theorem exists_ok_of_map {α β : Type} {first : Except ArgumentError α} {change : α → β} {value : β}
    (mapped : first.map change = .ok value) : ∃ before, first = .ok before := by
  cases first with
  | error e => cases mapped
  | ok before => exact ⟨before, rfl⟩

theorem parseSection_cons_eq_ok {token : String} {rest : List String} {result : Arguments}
    (read : parseSection (token :: rest) = .ok result) :
    (token = sectionEnd ∧ parse rest = .ok result) ∨
      (token = sectionStart ∧ parseSection rest = .ok result) ∨
        ∃ (flag : Flag) (value : String) (behind : List String), rest = value :: behind ∧
          token ∈ flag.spellings ∧ flag.Takes value ∧ ∃ after, parseSection behind = .ok after := by
  rw [parseSection.eq_def] at read
  simp only at read
  split at read
  · next finish => exact Or.inl ⟨finish, read⟩
  · split at read
    · next start => exact Or.inr (Or.inl ⟨start, read⟩)
    · cases found : Flag.ofToken? token with
      | none =>
        rw [found] at read
        cases read
      | some flag =>
        cases rest with
        | nil =>
          rw [found] at read
          cases read
        | cons value behind =>
          simp only [found] at read
          split at read
          · cases read
          · next first readFirst =>
            exact Or.inr (Or.inr ⟨flag, value, behind, rfl, Flag.ofToken?_eq_some.mp found,
              taken_of_item readFirst, exists_ok_of_map read⟩)

theorem exists_layout_addItem (item : Item) {layout : Layout} {rest : List String}
    (same : layout.tokens = sectionStart :: rest) :
    ∃ longer : Layout, longer.tokens = sectionStart :: (item.tokens ++ rest) := by
  cases layout with
  | done => cases same
  | plain token ordinary behind => exact absurd (List.cons.inj same).1 ordinary
  | enclosed items behind =>
    refine ⟨.enclosed (item :: items) behind, ?_⟩
    simp only [Layout.tokens, List.cons.injEq, true_and] at same
    simp only [Layout.tokens, List.flatMap_cons, List.append_assoc, same]
  | unclosed items =>
    refine ⟨.unclosed (item :: items), ?_⟩
    simp only [Layout.tokens, List.cons.injEq, true_and] at same
    simp only [Layout.tokens, List.flatMap_cons, same]

mutual

/-- A list that is read has a layout. -/
theorem exists_layout_of_parse {result : Arguments} :
    (tokens : List String) → parse tokens = .ok result → ∃ layout : Layout, layout.tokens = tokens
  | [], _ => ⟨.done, rfl⟩
  | token :: rest, read => by
    simp only [parse] at read
    split at read
    · next start =>
      obtain ⟨layout, same⟩ := exists_layout_of_parseSection rest read
      exact ⟨layout, by rw [same, start]⟩
    · next ordinary =>
      obtain ⟨_, readRest⟩ := exists_ok_of_map read
      obtain ⟨layout, same⟩ := exists_layout_of_parse rest readRest
      exact ⟨.plain token ordinary layout, congrArg (token :: ·) same⟩

theorem exists_layout_of_parseSection {result : Arguments} :
    (tokens : List String) → parseSection tokens = .ok result →
      ∃ layout : Layout, layout.tokens = sectionStart :: tokens
  | [], _ => ⟨.unclosed [], rfl⟩
  | [token], read => by
    rcases parseSection_cons_eq_ok read with ⟨rfl, readRest⟩ | ⟨rfl, readRest⟩ |
      ⟨_, _, _, absurd, _⟩
    · exact ⟨.enclosed [] .done, rfl⟩
    · exact ⟨.unclosed [.marker], rfl⟩
    · cases absurd
  | token :: value :: rest, read => by
    rcases parseSection_cons_eq_ok read with ⟨rfl, readRest⟩ | ⟨rfl, readRest⟩ |
      ⟨flag, _, _, here, spelled, taken, _, readRest⟩
    · obtain ⟨layout, same⟩ := exists_layout_of_parse (value :: rest) readRest
      exact ⟨.enclosed [] layout, by rw [Layout.tokens, same]; rfl⟩
    · obtain ⟨layout, same⟩ := exists_layout_of_parseSection (value :: rest) readRest
      exact exists_layout_addItem .marker same
    · cases here
      obtain ⟨layout, same⟩ := exists_layout_of_parseSection rest readRest
      exact exists_layout_addItem (.setting flag token value spelled taken) same

end

/-- What can follow the items of a section: its end, or the end of the list. -/
def Closes (tail : List String) : Prop :=
  tail = [] ∨ ∃ rest, tail = sectionEnd :: rest

theorem not_closes_item (item : Item) (rest : List String) : ¬ Closes (item.tokens ++ rest) := by
  intro closes
  cases item with
  | marker =>
    rcases closes with empty | ⟨behind, here⟩
    · cases empty
    · exact absurd (List.cons.inj here).1 (by decide)
  | setting flag token value spelled taken =>
    rcases closes with empty | ⟨behind, here⟩
    · cases empty
    · exact ne_sectionEnd_of_mem_spellings spelled (List.cons.inj here).1

theorem item_tokens_injective {first second : Item} {behind after : List String}
    (same : first.tokens ++ behind = second.tokens ++ after) :
    first = second ∧ behind = after := by
  cases first with
  | marker =>
    cases second with
    | marker => exact ⟨rfl, (List.cons.inj same).2⟩
    | setting _ _ _ spelled _ =>
      exact absurd (List.cons.inj same).1.symm (ne_sectionStart_of_mem_spellings spelled)
  | setting flag token value spelled taken =>
    cases second with
    | marker => exact absurd (List.cons.inj same).1 (ne_sectionStart_of_mem_spellings spelled)
    | setting other _ _ spelledOther _ =>
      simp only [Item.tokens, List.cons_append, List.nil_append, List.cons.injEq] at same
      obtain ⟨rfl, rfl, rfl⟩ := same
      have found := Flag.ofToken?_of_mem_spellings spelled
      rw [Flag.ofToken?_of_mem_spellings spelledOther] at found
      cases found
      exact ⟨rfl, rfl⟩

theorem items_tokens_injective {first second : List Item} {behind after : List String}
    (closesBehind : Closes behind) (closesAfter : Closes after)
    (same : first.flatMap Item.tokens ++ behind = second.flatMap Item.tokens ++ after) :
    first = second ∧ behind = after := by
  induction first generalizing second with
  | nil =>
    cases second with
    | nil => exact ⟨rfl, same⟩
    | cons item rest =>
      rw [List.flatMap_nil, List.nil_append, List.flatMap_cons, List.append_assoc] at same
      exact absurd (same ▸ closesBehind) (not_closes_item item _)
  | cons head tail ih =>
    cases second with
    | nil =>
      rw [List.flatMap_nil, List.nil_append, List.flatMap_cons, List.append_assoc] at same
      exact absurd (same ▸ closesAfter) (not_closes_item head _)
    | cons item rest =>
      rw [List.flatMap_cons, List.flatMap_cons, List.append_assoc, List.append_assoc] at same
      obtain ⟨rfl, sameRest⟩ := item_tokens_injective same
      obtain ⟨rfl, sameTail⟩ := ih sameRest
      exact ⟨rfl, sameTail⟩

theorem layout_tokens_injective {first second : Layout} (same : first.tokens = second.tokens) :
    first = second := by
  induction first generalizing second with
  | done => cases second <;> first | rfl | cases same
  | plain token ordinary rest ih =>
    cases second with
    | done => cases same
    | plain other ordinaryOther restOther =>
      obtain ⟨rfl, sameRest⟩ := List.cons.inj same
      rw [ih sameRest]
    | enclosed | unclosed => exact absurd (List.cons.inj same).1 ordinary
  | enclosed items rest ih =>
    cases second with
    | done => cases same
    | plain other ordinaryOther => exact absurd (List.cons.inj same).1.symm ordinaryOther
    | enclosed others restOther =>
      obtain ⟨rfl, sameRest⟩ := items_tokens_injective (Or.inr ⟨_, rfl⟩) (Or.inr ⟨_, rfl⟩)
        (List.cons.inj same).2
      rw [ih (List.cons.inj sameRest).2]
    | unclosed others =>
      have goesOn := (List.cons.inj same).2
      rw [← List.append_nil (others.flatMap Item.tokens)] at goesOn
      cases (items_tokens_injective (Or.inr ⟨_, rfl⟩) (Or.inl rfl) goesOn).2
  | unclosed items =>
    cases second with
    | done => cases same
    | plain other ordinaryOther => exact absurd (List.cons.inj same).1.symm ordinaryOther
    | enclosed others restOther =>
      have goesOn := (List.cons.inj same).2
      rw [← List.append_nil (items.flatMap Item.tokens)] at goesOn
      cases (items_tokens_injective (Or.inl rfl) (Or.inr ⟨_, rfl⟩) goesOn).2
    | unclosed others =>
      have goesOn := (List.cons.inj same).2
      rw [← List.append_nil (items.flatMap Item.tokens),
        ← List.append_nil (others.flatMap Item.tokens)] at goesOn
      rw [(items_tokens_injective (Or.inl rfl) (Or.inl rfl) goesOn).1]

/-- Exactly the lists with a layout are read, the layout is the only one, and the reading holds the
plain tokens, the assignments split at their first `:=`, and the other values, all in their order;
of several log levels or enclaves it holds the last. -/
theorem parse_reads_grammar (tokens : List String) :
    ((∃ result, parse tokens = .ok result) ↔ ∃ layout : Layout, layout.tokens = tokens) ∧
      (∀ first second : Layout, first.tokens = tokens → second.tokens = tokens →
        first = second) ∧
      ∀ layout : Layout, layout.tokens = tokens →
        ∃ result, parse tokens = .ok result ∧ Tells layout.items layout.plainTokens result := by
  have reads (layout : Layout) (here : layout.tokens = tokens) :
      ∃ result, parse tokens = .ok result ∧ Tells layout.items layout.plainTokens result := by
    rw [← here]
    exact parse_tokens layout
  refine ⟨⟨?_, ?_⟩, ?_, reads⟩
  · intro ⟨result, read⟩
    exact exists_layout_of_parse tokens read
  · intro ⟨layout, here⟩
    obtain ⟨result, read, _⟩ := reads layout here
    exact ⟨result, read⟩
  · intro first second here there
    exact layout_tokens_injective (here.trans there.symm)

example :
    parse ["talker", "--", "--ros-args", "-e", "--", "--ros-args", "-r", "a:=b:=c", "--", "-r"] =
      .ok {
        remaps := [("a", "b:=c")]
        enclave := some "--"
        unparsed := ["talker", "--", "-r"] } := by
  rfl

end Arguments

end RosClient
