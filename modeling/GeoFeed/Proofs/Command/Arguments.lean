/-
# GeoFeed.Proofs.Command.Arguments -- what a command line says

The arguments of a command line spell a row of items, each of them an option with its value
or an input (`Spells`).  An option may be spelled in several ways, and what follows two dashes
are inputs.  An invocation has of each option the values that the items give it, in their
order, so at most one for an option that is given once (`Invocation.Says`).

Items are accepted one after the other.  What is to be shown of that is what the rest of the
items adds to an invocation (`Adds`); each item gives it one value (`Takes.adds`,
`Adds.exists_takes`).

Main statement: `Invocation.ofArguments_eq_ok_iff`.
-/
import GeoFeed.Command.Arguments
import GeoFeed.Proofs.Request.Shape

namespace GeoFeed.Command

set_option autoImplicit false

/-! ## Arguments -/

/-- The name of an option behind two dashes. -/
def Flag.longName : Flag → String
  | config => "config"
  | baseUrl => "base-url"
  | typeName => "type-name"
  | namespaceUri => "namespace"
  | outputFormat => "output-format"
  | formatOption => "format-option"
  | output => "output"

theorem Flag.ofLong?_eq_some_iff {name : List Char} {flag : Flag} :
    ofLong? name = some flag ↔ String.ofList name = flag.longName := by
  unfold ofLong?
  extract_lets text
  rw [show String.ofList name = text from rfl]
  constructor
  · intro found
    split_ifs at found
    all_goals
      obtain rfl := Option.some.inj found
      assumption
  · intro named
    rw [named]
    cases flag <;> rfl

/-- An argument that does not begin with a dash, or is nothing else. -/
def IsPlain (text : String) : Prop :=
  text = "-" ∨ text.toList.head? ≠ some '-'

/-- What an argument is by its spelling, unless it calls for help or is not known. -/
inductive Argument.Spelled : String → Argument → Prop where
  | input {text : String} (plain : IsPlain text) : Spelled text (.input text)
  | endOfOptions : Spelled "--" .endOfOptions
  | long (flag : Flag) : Spelled ("--" ++ flag.longName) (.option flag none)
  | longEquals (flag : Flag) (value : String) :
      Spelled ("--" ++ flag.longName ++ "=" ++ value) (.option flag (some value))
  | short : Spelled "-o" (.option .formatOption none)
  | shortEquals (value : String) : Spelled ("-o=" ++ value) (.option .formatOption (some value))
  | shortAtOnce {value : String} (some_ : value ≠ "") (bare : value.toList.head? ≠ some '=') :
      Spelled ("-o" ++ value) (.option .formatOption (some value))

namespace Argument

/-! ### Behind two dashes -/

theorem equals_not_mem_longName (flag : Flag) : '=' ∉ flag.longName.toList := by
  cases flag <;> decide

theorem ofLong_longName (flag : Flag) : ofLong flag.longName.toList = .option flag none := by
  cases flag <;> rfl

theorem ofLong_longName_equals (flag : Flag) (value : String) :
    ofLong (flag.longName.toList ++ '=' :: value.toList) = .option flag (some value) := by
  have cut : Text.cut? '=' (flag.longName.toList ++ '=' :: value.toList)
      = some (flag.longName.toList, value.toList) :=
    Text.cut?_eq_some_iff.2 ⟨rfl, equals_not_mem_longName flag⟩
  have named : Flag.ofLong? flag.longName.toList = some flag :=
    Flag.ofLong?_eq_some_iff.2 String.ofList_toList
  simp only [ofLong, cut, named, String.ofList_toList]

/-- What is read behind two dashes is an option, a call for help, or nothing known. -/
theorem ofLong_cases (text : List Char) :
    ofLong text = .help ∨ ofLong text = .unknown ∨
      (∃ flag : Flag, text = flag.longName.toList) ∨
      ∃ (flag : Flag) (value : String), text = flag.longName.toList ++ '=' :: value.toList := by
  unfold ofLong
  split
  · rename_i name value cut
    split
    · rename_i flag named
      have parted := (Text.cut?_eq_some_iff.1 cut).1
      refine .inr (.inr (.inr ⟨flag, String.ofList value, ?_⟩))
      rw [← Flag.ofLong?_eq_some_iff.1 named, String.toList_ofList, String.toList_ofList, parted]
    · exact .inr (.inl rfl)
  · split
    · exact .inl rfl
    · split
      · rename_i flag named
        refine .inr (.inr (.inl ⟨flag, ?_⟩))
        rw [← Flag.ofLong?_eq_some_iff.1 named, String.toList_ofList]
      · exact .inr (.inl rfl)

/-! ### Whole arguments -/

theorem ofText_long (flag : Flag) : ofText ("--" ++ flag.longName) = .option flag none := by
  cases flag <;> rfl

theorem ofText_longEquals (flag : Flag) (value : String) :
    ofText ("--" ++ flag.longName ++ "=" ++ value) = .option flag (some value) := by
  have chars : ("--" ++ flag.longName ++ "=" ++ value).toList
      = '-' :: '-' :: (flag.longName.toList ++ '=' :: value.toList) := by
    simp
  have read := ofLong_longName_equals flag value
  unfold ofText
  rw [chars]
  cases flag <;> exact read

theorem ofText_shortEquals (value : String) :
    ofText ("-o=" ++ value) = .option .formatOption (some value) := by
  have chars : ("-o=" ++ value).toList = '-' :: 'o' :: '=' :: value.toList := by simp
  unfold ofText
  rw [chars]
  simp [ofShort]

theorem ofText_shortAtOnce {value : String} (some_ : value ≠ "")
    (bare : value.toList.head? ≠ some '=') :
    ofText ("-o" ++ value) = .option .formatOption (some value) := by
  have chars : ("-o" ++ value).toList = '-' :: 'o' :: value.toList := by simp
  have kept : String.ofList value.toList = value := String.ofList_toList
  have full : value.toList ≠ [] := by simpa using some_
  unfold ofText
  rw [chars]
  cases shape : value.toList with
  | nil => exact absurd shape full
  | cons c rest =>
      rw [shape] at bare kept
      have other : c ≠ '=' := by simpa using bare
      simp [ofShort, kept, other]

theorem ofText_of_isPlain {text : String} (plain : IsPlain text) : ofText text = .input text := by
  rcases plain with rfl | other
  · rfl
  · unfold ofText
    split
    all_goals simp_all

theorem ofText_of_spelled {text : String} {argument : Argument} (spelled : Spelled text argument) :
    ofText text = argument := by
  cases spelled with
  | input plain => exact ofText_of_isPlain plain
  | endOfOptions => rfl
  | long flag => exact ofText_long flag
  | longEquals flag value => exact ofText_longEquals flag value
  | short => rfl
  | shortEquals value => exact ofText_shortEquals value
  | shortAtOnce some_ bare => exact ofText_shortAtOnce some_ bare

theorem spelled_of_ofShort {rest : List Char} {argument : Argument} (read : ofShort rest = argument)
    (known : argument ≠ .help ∧ argument ≠ .unknown) :
    Spelled (String.ofList ('-' :: rest)) argument := by
  subst read
  unfold ofShort at known ⊢
  split at known
  · exact absurd rfl known.1
  · exact .short
  · rename_i value
    have text : String.ofList ('-' :: 'o' :: '=' :: value) = "-o=" ++ String.ofList value := by
      simp [← String.toList_inj]
    rw [text]
    exact .shortEquals _
  · rename_i value full other
    have text : String.ofList ('-' :: 'o' :: value) = "-o" ++ String.ofList value := by
      simp [← String.toList_inj]
    rw [text]
    refine .shortAtOnce ?_ ?_
    · intro empty
      exact full (by simpa using empty)
    · rw [String.toList_ofList]
      intro first
      obtain ⟨more, rfl⟩ := List.head?_eq_some_iff.1 first
      exact other more rfl
  · exact absurd rfl known.2

/-- **An argument is read by its spelling.** -/
theorem ofText_eq_iff {text : String} {argument : Argument}
    (known : argument ≠ .help ∧ argument ≠ .unknown) :
    ofText text = argument ↔ Spelled text argument := by
  constructor
  · intro read
    obtain ⟨cs, rfl⟩ : ∃ cs, text = String.ofList cs := ⟨text.toList, String.ofList_toList.symm⟩
    unfold ofText at read
    rw [String.toList_ofList] at read
    split at read
    · subst read
      exact .input (.inl rfl)
    · subst read
      exact .endOfOptions
    · rename_i rest _
      subst read
      rcases ofLong_cases rest with never | never | ⟨flag, rfl⟩ | ⟨flag, value, rfl⟩
      · exact absurd never known.1
      · exact absurd never known.2
      · have text : String.ofList ('-' :: '-' :: flag.longName.toList) = "--" ++ flag.longName := by
          simp [← String.toList_inj]
        rw [text, ofLong_longName]
        exact .long flag
      · have text : String.ofList ('-' :: '-' :: (flag.longName.toList ++ '=' :: value.toList))
            = "--" ++ flag.longName ++ "=" ++ value := by
          simp [← String.toList_inj]
        rw [text, ofLong_longName_equals]
        exact .longEquals flag value
    · exact spelled_of_ofShort read known
    · rename_i plain
      subst read
      refine .input (.inr ?_)
      rw [String.toList_ofList]
      intro first
      obtain ⟨rest, rfl⟩ := List.head?_eq_some_iff.1 first
      exact plain rest rfl
  · exact ofText_of_spelled

end Argument

/-! ## Items -/

/-- What arguments on a command line come to. -/
inductive Item where
  | option (flag : Flag) (value : String)
  | input (text : String)

/-- **Arguments that spell a row of items.**  The value of an option stands in the next argument
or in the same one, and all that follows two dashes are inputs. -/
inductive Spells : List String → List Item → Prop where
  | nil : Spells [] []
  | input {text : String} {rest : List String} {items : List Item} (plain : IsPlain text)
      (more : Spells rest items) : Spells (text :: rest) (.input text :: items)
  | apart {text value : String} {flag : Flag} {rest : List String} {items : List Item}
      (spelled : Argument.Spelled text (.option flag none)) (plain : IsPlain value)
      (more : Spells rest items) : Spells (text :: value :: rest) (.option flag value :: items)
  | joined {text value : String} {flag : Flag} {rest : List String} {items : List Item}
      (spelled : Argument.Spelled text (.option flag (some value))) (more : Spells rest items) :
      Spells (text :: rest) (.option flag value :: items)
  | endOfOptions (inputs : List String) : Spells ("--" :: inputs) (inputs.map .input)

namespace Item

/-- The values that items give an option, in their order. -/
def values (flag : Flag) (items : List Item) : List String :=
  items.filterMap fun
    | option given value => if given = flag then some value else none
    | input _ => none

/-- The inputs among items. -/
def inputs (items : List Item) : List String :=
  items.filterMap fun
    | option _ _ => none
    | input text => some text

variable (flag given : Flag) (text : String) (items : List Item)

@[simp]
theorem values_nil : values flag [] = [] := rfl

@[simp]
theorem values_option : values flag (.option given text :: items)
    = if given = flag then text :: values flag items else values flag items := by
  unfold values
  by_cases same : given = flag <;> simp [same]

@[simp]
theorem values_input : values flag (.input text :: items) = values flag items := rfl

@[simp]
theorem inputs_nil : inputs [] = [] := rfl

@[simp]
theorem inputs_option : inputs (.option given text :: items) = inputs items := rfl

@[simp]
theorem inputs_input : inputs (.input text :: items) = text :: inputs items := rfl

end Item

namespace Invocation

/-- Accept an item. -/
def acceptItem (i : Invocation) : Item → Option Invocation
  | .option flag value => i.accept flag value
  | .input text => i.acceptInput text

/-- **What an invocation has from the items of its command line.** -/
structure Says (i : Invocation) (items : List Item) : Prop where
  config : Item.values .config items = i.config.toList
  baseUrl : Item.values .baseUrl items = i.baseUrl.toList
  typeNames : Item.values .typeName items = i.typeNames
  namespaceUri : Item.values .namespaceUri items = i.namespaceUri.toList
  outputFormat : Item.values .outputFormat items = i.outputFormat.toList
  options : List.Forall₂ Options.Spells (Item.values .formatOption items) i.options
  output : Item.values .output items = i.output.toList
  inputs : Item.inputs items = i.inputs
  /-- No path is empty. -/
  paths : ∀ path ∈ i.config.toList ++ i.output.toList ++ i.inputs, path ≠ ""
  typed : i.typeNames ≠ []
  supplied : i.inputs ≠ []

/-- **What the arguments of a command line say.** -/
def SaidBy (arguments : List String) (i : Invocation) : Prop :=
  ∃ items, Spells arguments items ∧ i.Says items

/-- **What accepting an item does.** -/
inductive Takes (i : Invocation) : Item → Invocation → Prop where
  | config {path : String} (full : path ≠ "") (unset : i.config = none) :
      Takes i (.option .config path) { i with config := some path }
  | baseUrl {url : String} (unset : i.baseUrl = none) :
      Takes i (.option .baseUrl url) { i with baseUrl := some url }
  | typeName (name : String) :
      Takes i (.option .typeName name) { i with typeNames := i.typeNames ++ [name] }
  | namespaceUri {uri : String} (unset : i.namespaceUri = none) :
      Takes i (.option .namespaceUri uri) { i with namespaceUri := some uri }
  | outputFormat {name : String} (unset : i.outputFormat = none) :
      Takes i (.option .outputFormat name) { i with outputFormat := some name }
  | formatOption {text : String} {option : String × String} (spells : Options.Spells text option) :
      Takes i (.option .formatOption text) { i with options := i.options ++ [option] }
  | output {path : String} (full : path ≠ "") (unset : i.output = none) :
      Takes i (.option .output path) { i with output := some path }
  | input {path : String} (full : path ≠ "") :
      Takes i (.input path) { i with inputs := i.inputs ++ [path] }

variable {i j k : Invocation} {item : Item} {items : List Item}

theorem once_eq_some_iff {old new : Option String} {value : String} :
    once old value = some new ↔ old = none ∧ new = some value := by
  cases old <;> simp [once, eq_comm]

theorem path?_eq_some_iff {text path : String} :
    path? text = some path ↔ text ≠ "" ∧ path = text := by
  by_cases empty : text.isEmpty
  · simp_all [path?]
  · have full : text ≠ "" := by simpa using empty
    simp [path?, empty, full, eq_comm]

theorem acceptItem_eq_some_iff : i.acceptItem item = some k ↔ i.Takes item k := by
  constructor
  · intro accepted
    cases item with
    | input text =>
        obtain ⟨path, kept, made⟩ := Option.bind_eq_some_iff.1 accepted
        obtain ⟨full, rfl⟩ := path?_eq_some_iff.1 kept
        cases made
        exact .input full
    | option flag value =>
        cases flag with
        | config =>
            obtain ⟨path, kept, onward⟩ := Option.bind_eq_some_iff.1 accepted
            obtain ⟨full, rfl⟩ := path?_eq_some_iff.1 kept
            obtain ⟨new, set, made⟩ := Option.bind_eq_some_iff.1 onward
            obtain ⟨unset, rfl⟩ := once_eq_some_iff.1 set
            cases made
            exact .config full unset
        | baseUrl =>
            obtain ⟨new, set, made⟩ := Option.bind_eq_some_iff.1 accepted
            obtain ⟨unset, rfl⟩ := once_eq_some_iff.1 set
            cases made
            exact .baseUrl unset
        | typeName =>
            cases accepted
            exact .typeName value
        | namespaceUri =>
            obtain ⟨new, set, made⟩ := Option.bind_eq_some_iff.1 accepted
            obtain ⟨unset, rfl⟩ := once_eq_some_iff.1 set
            cases made
            exact .namespaceUri unset
        | outputFormat =>
            obtain ⟨new, set, made⟩ := Option.bind_eq_some_iff.1 accepted
            obtain ⟨unset, rfl⟩ := once_eq_some_iff.1 set
            cases made
            exact .outputFormat unset
        | formatOption =>
            obtain ⟨option, split, made⟩ := Option.bind_eq_some_iff.1 accepted
            cases made
            exact .formatOption (Options.split?_eq_some_iff.1 split)
        | output =>
            obtain ⟨path, kept, onward⟩ := Option.bind_eq_some_iff.1 accepted
            obtain ⟨full, rfl⟩ := path?_eq_some_iff.1 kept
            obtain ⟨new, set, made⟩ := Option.bind_eq_some_iff.1 onward
            obtain ⟨unset, rfl⟩ := once_eq_some_iff.1 set
            cases made
            exact .output full unset
  · intro takes
    cases takes with
    | config full unset => simp [acceptItem, accept, path?, once, full, unset]
    | baseUrl unset => simp [acceptItem, accept, once, unset]
    | typeName name => rfl
    | namespaceUri unset => simp [acceptItem, accept, once, unset]
    | outputFormat unset => simp [acceptItem, accept, once, unset]
    | formatOption spells =>
        simp [acceptItem, accept, Options.split?_eq_some_iff.2 spells]
    | output full unset => simp [acceptItem, accept, path?, once, full, unset]
    | input full => simp [acceptItem, acceptInput, path?, full]

/-! ## Rows of items -/

/-- What items add to an invocation. -/
structure Adds (i : Invocation) (items : List Item) (j : Invocation) : Prop where
  config : i.config.toList ++ Item.values .config items = j.config.toList
  baseUrl : i.baseUrl.toList ++ Item.values .baseUrl items = j.baseUrl.toList
  typeNames : i.typeNames ++ Item.values .typeName items = j.typeNames
  namespaceUri : i.namespaceUri.toList ++ Item.values .namespaceUri items = j.namespaceUri.toList
  outputFormat : i.outputFormat.toList ++ Item.values .outputFormat items = j.outputFormat.toList
  options : ∃ more, i.options ++ more = j.options ∧
    List.Forall₂ Options.Spells (Item.values .formatOption items) more
  output : i.output.toList ++ Item.values .output items = j.output.toList
  inputs : i.inputs ++ Item.inputs items = j.inputs
  configPaths : ∀ path ∈ Item.values .config items, path ≠ ""
  outputPaths : ∀ path ∈ Item.values .output items, path ≠ ""
  inputPaths : ∀ path ∈ Item.inputs items, path ≠ ""

/-- An option that is given once has no value before this one. -/
theorem toList_append_cons_iff {old new : Option String} {value : String} {more : List String} :
    old.toList ++ value :: more = new.toList
      ↔ old = none ∧ (some value).toList ++ more = new.toList := by
  cases old with
  | none => simp
  | some first => cases new <;> simp

theorem toList_inj {old new : Option String} : old.toList = new.toList ↔ old = new := by
  cases old <;> cases new <;> simp

theorem adds_nil_iff : i.Adds [] j ↔ i = j := by
  constructor
  · intro adds
    obtain ⟨more, options, said⟩ := adds.options
    cases said
    obtain ⟨config, baseUrl, typeNames, namespaceUri, outputFormat, -, output, inputs, -, -, -⟩ := adds
    simp only [Item.values_nil, Item.inputs_nil, List.append_nil, toList_inj] at *
    cases i
    cases j
    simp_all
  · rintro rfl
    constructor <;> simp

/-- An item that is taken adds what it says, and the rest of the items adds to that. -/
theorem Takes.adds (takes : i.Takes item k) (adds : k.Adds items j) : i.Adds (item :: items) j := by
  obtain ⟨more, options, said⟩ := adds.options
  cases takes with
  | formatOption spells =>
      exact { adds with options := ⟨_ :: more, by simpa using options, .cons spells said⟩ }
  | config full unset =>
      exact { adds with
        config := toList_append_cons_iff.2 ⟨unset, adds.config⟩
        configPaths := List.forall_mem_cons.2 ⟨full, adds.configPaths⟩ }
  | output full unset =>
      exact { adds with
        output := toList_append_cons_iff.2 ⟨unset, adds.output⟩
        outputPaths := List.forall_mem_cons.2 ⟨full, adds.outputPaths⟩ }
  | baseUrl unset => exact { adds with baseUrl := toList_append_cons_iff.2 ⟨unset, adds.baseUrl⟩ }
  | namespaceUri unset =>
      exact { adds with namespaceUri := toList_append_cons_iff.2 ⟨unset, adds.namespaceUri⟩ }
  | outputFormat unset =>
      exact { adds with outputFormat := toList_append_cons_iff.2 ⟨unset, adds.outputFormat⟩ }
  | typeName name => exact { adds with typeNames := by simpa using adds.typeNames }
  | input full =>
      exact { adds with
        inputs := by simpa using adds.inputs
        inputPaths := List.forall_mem_cons.2 ⟨full, adds.inputPaths⟩ }

/-- What a row of items adds is added by its first item and then by the rest. -/
theorem Adds.exists_takes (adds : i.Adds (item :: items) j) :
    ∃ k, i.Takes item k ∧ k.Adds items j := by
  obtain ⟨more, options, said⟩ := adds.options
  cases item with
  | input path =>
      have paths := List.forall_mem_cons.1 adds.inputPaths
      exact ⟨_, .input paths.1, { adds with
        inputs := by simpa using adds.inputs
        inputPaths := paths.2 }⟩
  | option flag value =>
      cases flag with
      | config =>
          have paths := List.forall_mem_cons.1 adds.configPaths
          obtain ⟨unset, config⟩ := toList_append_cons_iff.1 adds.config
          exact ⟨_, .config paths.1 unset, { adds with config := config, configPaths := paths.2 }⟩
      | output =>
          have paths := List.forall_mem_cons.1 adds.outputPaths
          obtain ⟨unset, output⟩ := toList_append_cons_iff.1 adds.output
          exact ⟨_, .output paths.1 unset, { adds with output := output, outputPaths := paths.2 }⟩
      | baseUrl =>
          obtain ⟨unset, baseUrl⟩ := toList_append_cons_iff.1 adds.baseUrl
          exact ⟨_, .baseUrl unset, { adds with baseUrl := baseUrl }⟩
      | namespaceUri =>
          obtain ⟨unset, namespaceUri⟩ := toList_append_cons_iff.1 adds.namespaceUri
          exact ⟨_, .namespaceUri unset, { adds with namespaceUri := namespaceUri }⟩
      | outputFormat =>
          obtain ⟨unset, outputFormat⟩ := toList_append_cons_iff.1 adds.outputFormat
          exact ⟨_, .outputFormat unset, { adds with outputFormat := outputFormat }⟩
      | typeName =>
          exact ⟨_, .typeName value, { adds with typeNames := by simpa using adds.typeNames }⟩
      | formatOption =>
          obtain ⟨option, rest, rfl, spells, said⟩ : ∃ option rest, more = option :: rest ∧
              Options.Spells value option ∧
              List.Forall₂ Options.Spells (Item.values .formatOption items) rest := by
            cases said with
            | cons spells said => exact ⟨_, _, rfl, spells, said⟩
          exact ⟨_, .formatOption spells, { adds with
            options := ⟨rest, by simpa using options, said⟩ }⟩

/-- **Items are accepted exactly if an invocation has what they add.** -/
theorem foldlM_acceptItem_eq_some_iff :
    items.foldlM acceptItem i = some j ↔ i.Adds items j := by
  induction items generalizing i with
  | nil =>
      rw [adds_nil_iff, List.foldlM_nil]
      exact Option.some_inj
  | cons item items ih =>
      rw [List.foldlM_cons, Option.bind_eq_bind, Option.bind_eq_some_iff]
      constructor
      · rintro ⟨k, accepted, more⟩
        exact (acceptItem_eq_some_iff.1 accepted).adds (ih.1 more)
      · intro adds
        obtain ⟨k, takes, more⟩ := adds.exists_takes
        exact ⟨k, acceptItem_eq_some_iff.2 takes, ih.2 more⟩

theorem says_iff_adds :
    j.Says items ↔ ({} : Invocation).Adds items j ∧ j.typeNames ≠ [] ∧ j.inputs ≠ [] := by
  constructor
  · intro said
    obtain ⟨configPaths, outputPaths, inputPaths⟩ :
        (∀ path ∈ j.config.toList, path ≠ "") ∧ (∀ path ∈ j.output.toList, path ≠ "") ∧
          ∀ path ∈ j.inputs, path ≠ "" := by
      simpa only [List.mem_append, or_imp, forall_and, and_assoc] using said.paths
    exact ⟨{ said with
      options := ⟨_, rfl, said.options⟩
      configPaths := said.config ▸ configPaths
      outputPaths := said.output ▸ outputPaths
      inputPaths := said.inputs ▸ inputPaths }, said.typed, said.supplied⟩
  · rintro ⟨adds, typed, supplied⟩
    obtain ⟨more, options, spelled⟩ := adds.options
    refine { adds with options := ?_, paths := ?_, typed, supplied }
    · rw [← options]
      exact spelled
    · simp only [List.mem_append, or_imp, forall_and, and_assoc]
      exact ⟨adds.config ▸ adds.configPaths, adds.output ▸ adds.outputPaths,
        adds.inputs ▸ adds.inputPaths⟩

end Invocation

/-! ## Command lines -/

/-- **How a row of items begins is told by the first argument.** -/
theorem spells_cons_iff {text : String} {rest : List String} {items : List Item} :
    Spells (text :: rest) items ↔ match Argument.ofText text with
      | .input value => ∃ more, items = .input value :: more ∧ Spells rest more
      | .endOfOptions => items = rest.map .input
      | .help => False
      | .option flag (some value) => ∃ more, items = .option flag value :: more ∧ Spells rest more
      | .option flag none => ∃ value after more, rest = value :: after ∧ IsPlain value ∧
          items = .option flag value :: more ∧ Spells after more
      | .unknown => False := by
  constructor
  · intro spells
    cases spells with
    | input plain more =>
        rw [Argument.ofText_of_isPlain plain]
        exact ⟨_, rfl, more⟩
    | apart spelled plain more =>
        rw [Argument.ofText_of_spelled spelled]
        exact ⟨_, _, _, rfl, plain, rfl, more⟩
    | joined spelled more =>
        rw [Argument.ofText_of_spelled spelled]
        exact ⟨_, rfl, more⟩
    | endOfOptions => exact rfl
  · intro begins
    cases read : Argument.ofText text with
    | input value =>
        rw [read] at begins
        obtain ⟨more, rfl, spells⟩ := begins
        cases (Argument.ofText_eq_iff (by simp)).1 read with
        | input plain => exact .input plain spells
    | endOfOptions =>
        rw [read] at begins
        cases begins
        cases (Argument.ofText_eq_iff (by simp)).1 read
        exact .endOfOptions rest
    | help =>
        rw [read] at begins
        cases begins
    | unknown =>
        rw [read] at begins
        cases begins
    | option flag value =>
        have spelled := (Argument.ofText_eq_iff (by simp)).1 read
        rw [read] at begins
        cases value with
        | some value =>
            obtain ⟨more, rfl, spells⟩ := begins
            exact .joined spelled spells
        | none =>
            obtain ⟨value, after, more, rfl, plain, rfl, spells⟩ := begins
            exact .apart spelled plain spells

namespace Invocation

variable {i j : Invocation}

theorem orUsage_eq_ok_iff {x : Option Invocation} : orUsage x = .ok j ↔ x = some j := by
  cases x <;> simp [orUsage]

theorem orUsage_bind_eq_ok_iff {x : Option Invocation} {arguments : List String} :
    (do (← orUsage x).readArguments arguments) = .ok j
      ↔ ∃ k, x = some k ∧ k.readArguments arguments = .ok j := by
  cases x with
  | none => simp [orUsage, bind, Except.bind]
  | some k => simp [orUsage, bind, Except.bind]

/-- **Arguments are read as the items that they spell.** -/
theorem readArguments_eq_ok_iff {arguments : List String} :
    i.readArguments arguments = .ok j ↔
      ∃ items, Spells arguments items ∧ items.foldlM acceptItem i = some j := by
  fun_induction readArguments i arguments with
  | case1 i =>
      constructor
      · rintro ⟨⟩
        exact ⟨[], .nil, rfl⟩
      · rintro ⟨_, ⟨⟩, folded⟩
        cases folded
        rfl
  | case2 i text rest value read ih =>
      simp only [orUsage_bind_eq_ok_iff, spells_cons_iff, read, ih]
      constructor
      · rintro ⟨k, accepted, items, spells, folded⟩
        exact ⟨_, ⟨items, rfl, spells⟩, Option.bind_eq_some_iff.2 ⟨k, accepted, folded⟩⟩
      · rintro ⟨_, ⟨items, rfl, spells⟩, folded⟩
        obtain ⟨k, accepted, folded⟩ := Option.bind_eq_some_iff.1 folded
        exact ⟨k, accepted, items, spells, folded⟩
  | case3 i text rest read =>
      simp only [spells_cons_iff, read, orUsage_eq_ok_iff, exists_eq_left, List.foldlM_map]
      exact Iff.rfl
  | case4 i text rest read => simp [spells_cons_iff, read]
  | case5 i text rest read => simp [spells_cons_iff, read]
  | case6 i text rest flag value read ih =>
      simp only [orUsage_bind_eq_ok_iff, spells_cons_iff, read, ih]
      constructor
      · rintro ⟨k, accepted, items, spells, folded⟩
        exact ⟨_, ⟨items, rfl, spells⟩, Option.bind_eq_some_iff.2 ⟨k, accepted, folded⟩⟩
      · rintro ⟨_, ⟨items, rfl, spells⟩, folded⟩
        obtain ⟨k, accepted, folded⟩ := Option.bind_eq_some_iff.1 folded
        exact ⟨k, accepted, items, spells, folded⟩
  | case7 i text flag read next rest value behind ih =>
      simp only [orUsage_bind_eq_ok_iff, spells_cons_iff, read, ih]
      obtain ⟨plain, rfl⟩ : IsPlain next ∧ value = next := by
        cases (Argument.ofText_eq_iff (by simp)).1 behind with
        | input plain => exact ⟨plain, rfl⟩
      constructor
      · rintro ⟨k, accepted, items, spells, folded⟩
        exact ⟨_, ⟨_, _, items, rfl, plain, rfl, spells⟩,
          Option.bind_eq_some_iff.2 ⟨k, accepted, folded⟩⟩
      · rintro ⟨_, ⟨_, _, items, same, -, rfl, spells⟩, folded⟩
        obtain ⟨rfl, rfl⟩ := List.cons.inj same
        obtain ⟨k, accepted, folded⟩ := Option.bind_eq_some_iff.1 folded
        exact ⟨k, accepted, items, spells, folded⟩
  | case8 i text flag read next rest other =>
      simp only [spells_cons_iff, read]
      constructor
      · rintro ⟨⟩
      · rintro ⟨_, ⟨_, _, items, same, plain, -⟩, -⟩
        obtain ⟨rfl, rfl⟩ := List.cons.inj same
        exact absurd (Argument.ofText_of_isPlain plain) (other _)
  | case9 i text flag read => simp [spells_cons_iff, read]

/-- **A command line is accepted exactly if it says what the invocation has.** -/
theorem ofArguments_eq_ok_iff {arguments : List String} :
    ofArguments arguments = .ok i ↔ i.SaidBy arguments := by
  have read : ofArguments arguments = .ok i
      ↔ readArguments {} arguments = .ok i ∧ i.typeNames ≠ [] ∧ i.inputs ≠ [] := by
    unfold ofArguments
    cases readArguments {} arguments with
    | error refusal => simp [bind, Except.bind]
    | ok j =>
        simp only [bind, Except.bind, Except.ok.injEq]
        split
        · rename_i short
          simp only [Bool.or_eq_true, List.isEmpty_iff] at short
          constructor
          · rintro ⟨⟩
          · rintro ⟨rfl, typed, supplied⟩
            exact (short.elim typed supplied).elim
        · rename_i complete
          simp only [Bool.or_eq_true, List.isEmpty_iff, not_or] at complete
          constructor
          · rintro ⟨⟩
            exact ⟨rfl, complete⟩
          · rintro ⟨rfl, -⟩
            rfl
  rw [read, readArguments_eq_ok_iff]
  simp only [foldlM_acceptItem_eq_some_iff, SaidBy, says_iff_adds, exists_and_right, ← and_assoc]

end Invocation

end GeoFeed.Command
