import Criteria.Proofs.ArgumentUnits
import Mathlib.Tactic.MkIffOfInductiveProp

namespace Criteria

namespace ArgumentUnit

def isOption (name : OptionName) : ArgumentUnit → Bool
  | .option name' _ _ => name' = name
  | _ => false

/-- The value of an option as it is read. -/
def value? (name : OptionName) : ArgumentUnit → Option String
  | .option name' spelling value => if name' = name then some (spelling.read name value) else none
  | _ => none

/-- The value of an option as it is written. -/
def writtenValue? (name : OptionName) : ArgumentUnit → Option String
  | .option name' _ value => if name' = name then some value else none
  | _ => none

def input? : ArgumentUnit → Option String
  | .input path _ => some path
  | _ => none

def isKnown : ArgumentUnit → Bool
  | .other _ _ => false
  | _ => true

end ArgumentUnit

def OptionName.values (name : OptionName) (units : List ArgumentUnit) : List String :=
  units.filterMap (ArgumentUnit.value? name)

def OptionName.writtenValues (name : OptionName) (units : List ArgumentUnit) : List String :=
  units.filterMap (ArgumentUnit.writtenValue? name)

/-- The positional tokens. -/
def inputs (units : List ArgumentUnit) : List String := units.filterMap ArgumentUnit.input?

/-- The same units in another order, where the units of each option keep theirs. -/
structure Reorders (units us : List ArgumentUnit) : Prop where
  perm : units.Perm us
  option : ∀ name : OptionName,
    units.filter (ArgumentUnit.isOption name) = us.filter (ArgumentUnit.isOption name)

/-- What some units make of options. The last value of an option stays, and there is room for one
input. -/
@[mk_iff]
structure CompileOptions.Gathers (o : CompileOptions) (units : List ArgumentUnit)
    (o' : CompileOptions) : Prop where
  config : o'.config = (OptionName.config.values units).getLast?.getD o.config
  configGiven : o'.configGiven = (o.configGiven || units.any (ArgumentUnit.isOption .config))
  placeholder : ∃ styles,
    List.Forall₂ (fun value style => readPlaceholder value = .ok style)
      (OptionName.placeholder.values units) styles ∧
    o'.placeholder = styles.getLast?.or o.placeholder
  json : o'.json = (o.json || units.contains .json)
  input : o'.input.toList = o.input.toList ++ inputs units
  known : units.all ArgumentUnit.isKnown = true

/-! An option is read as it is written, but for repeats in a joined value. -/

theorem OptionName.values_eq_writtenValues {name : OptionName} {units : List ArgumentUnit}
    (h : ∀ value, .option name .joined value ∈ units → ¬ name.Begins value) :
    name.values units = name.writtenValues units := by
  refine List.filterMap_congr fun unit hu => ?_
  cases unit with
  | option name' spelling value =>
    by_cases hn : name' = name
    · subst hn
      cases spelling with
      | joined =>
        have hread : Spelling.joined.read name' value = value :=
          withoutRepeats_of_not_begins (h value hu)
        rw [ArgumentUnit.value?, ArgumentUnit.writtenValue?, hread]
      | separate => rfl
    · rw [ArgumentUnit.value?, ArgumentUnit.writtenValue?, if_neg hn, if_neg hn]
  | json => rfl
  | input path positional => rfl
  | other token other => rfl

theorem OptionName.values_filter (name : OptionName) (units : List ArgumentUnit) :
    name.values (units.filter (ArgumentUnit.isOption name)) = name.values units := by
  rw [values, List.filterMap_filter]
  refine List.filterMap_congr fun unit _ => ?_
  cases unit with
  | option name' spelling value => simp [ArgumentUnit.isOption, ArgumentUnit.value?]
  | json => rfl
  | input path positional => rfl
  | other token other => rfl

namespace CompileOptions

variable {o o' : CompileOptions} {units : List ArgumentUnit}

theorem gathers_nil_iff : o.Gathers [] o' ↔ o = o' := by
  constructor
  · rintro ⟨hconfig, hgiven, ⟨_, ⟨⟩, hplaceholder⟩, hjson, hinput, -⟩
    have hg : o'.configGiven = o.configGiven := hgiven.trans (Bool.or_false _)
    have hj : o'.json = o.json := hjson.trans (Bool.or_false _)
    have hi : o'.input = o.input := Option.ext fun path => by
      rw [← Option.mem_toList, hinput, inputs, List.filterMap_nil, List.append_nil,
        Option.mem_toList]
    cases o
    cases o'
    exact CompileOptions.mk.injEq .. ▸ ⟨hconfig.symm, hg.symm, hplaceholder.symm, hj.symm, hi.symm⟩
  · rintro rfl
    exact ⟨rfl, (Bool.or_false _).symm, ⟨[], .nil, rfl⟩, (Bool.or_false _).symm,
      (List.append_nil _).symm, rfl⟩

theorem gathers_config_iff (spelling : Spelling) (path : String) :
    o.Gathers (.option .config spelling path :: units) o' ↔
      (o.setConfig (spelling.read .config path)).Gathers units o' := by
  have hlast : (OptionName.config.values (.option .config spelling path :: units)).getLast?.getD
      o.config = (OptionName.config.values units).getLast?.getD (spelling.read .config path) :=
    congrArg (Option.getD · o.config) List.getLast?_cons
  have hgiven : (o.configGiven || (true || units.any (ArgumentUnit.isOption .config))) =
      (true || units.any (ArgumentUnit.isOption .config)) :=
    Bool.or_true _
  -- What is said of the other options is the same before and behind the unit.
  rw [gathers_iff, gathers_iff]
  exact and_congr (Eq.congr_right hlast) (and_congr_left' (Eq.congr_right hgiven))

theorem gathers_placeholder_iff (spelling : Spelling) (value : String) :
    o.Gathers (.option .placeholder spelling value :: units) o' ↔
      ∃ style, readPlaceholder (spelling.read .placeholder value) = .ok style ∧
        Gathers { o with placeholder := some style } units o' := by
  have hstyles (styles : List Placeholder) (style : Placeholder) :
      (style :: styles).getLast?.or o.placeholder = styles.getLast?.or (some style) := by
    rw [List.getLast?_cons, Option.or_some]
    rfl
  constructor
  · rintro ⟨hconfig, hgiven, ⟨_, hvalues, hlast⟩, hjson, hinput, hknown⟩
    cases hvalues with
    | cons hstyle hvalues =>
      exact ⟨_, hstyle, hconfig, hgiven, ⟨_, hvalues, hlast.trans (hstyles _ _)⟩, hjson, hinput,
        hknown⟩
  · rintro ⟨style, hstyle, hconfig, hgiven, ⟨styles, hvalues, hlast⟩, hjson, hinput, hknown⟩
    exact ⟨hconfig, hgiven, ⟨_, .cons hstyle hvalues, hlast.trans (hstyles _ _).symm⟩, hjson,
      hinput, hknown⟩

theorem gathers_json_iff :
    o.Gathers (.json :: units) o' ↔ Gathers { o with json := true } units o' := by
  have hjson : (o.json || (true || units.contains .json)) = (true || units.contains .json) :=
    Bool.or_true _
  rw [gathers_iff, gathers_iff]
  exact and_congr_right' (and_congr_right' (and_congr_right'
    (and_congr_left' (Eq.congr_right hjson))))

theorem Gathers.length_inputs_le (h : o.Gathers units o') :
    o.input.toList.length + (inputs units).length ≤ 1 := by
  rw [← List.length_append, ← h.input, Option.length_toList]
  split <;> decide

theorem gathers_input_iff {path : String} (h : IsPositional path) :
    o.Gathers (.input path h :: units) o' ↔
      o.input = none ∧ Gathers { o with input := some path } units o' := by
  cases hi : o.input with
  | none =>
    rw [gathers_iff, gathers_iff, hi]
    exact (and_iff_right rfl).symm
  | some first =>
    refine iff_of_false (fun hg => ?_) nofun
    have hlength := hg.length_inputs_le
    have hinputs : inputs (.input path h :: units) = path :: inputs units := rfl
    rw [hi, hinputs, Option.toList_some, List.length_singleton, List.length_cons] at hlength
    omega

theorem not_gathers_other {token : String} (h : IsOther token) :
    ¬ o.Gathers (.other token h :: units) o' :=
  fun hg => Bool.false_ne_true hg.known

/-- What a unit makes of options is what reading it makes of them. -/
theorem gathers_cons_iff (unit : ArgumentUnit) :
    o.Gathers (unit :: units) o' ↔ ∃ o₁, o.take unit = .ok o₁ ∧ o₁.Gathers units o' := by
  cases unit with
  | option name spelling value =>
    cases name with
    | config =>
      rw [gathers_config_iff]
      exact ⟨fun h => ⟨_, rfl, h⟩, fun ⟨_, ht, h⟩ => Except.ok.inj ht ▸ h⟩
    | placeholder =>
      rw [gathers_placeholder_iff]
      constructor
      · rintro ⟨style, hstyle, h⟩
        exact ⟨_, bind_eq_ok_iff.mpr ⟨style, hstyle, rfl⟩, h⟩
      · rintro ⟨o₁, ht, h⟩
        obtain ⟨style, hstyle, ⟨⟩⟩ := bind_eq_ok_iff.mp ht
        exact ⟨style, hstyle, h⟩
  | json =>
    rw [gathers_json_iff]
    exact ⟨fun h => ⟨_, rfl, h⟩, fun ⟨_, ht, h⟩ => Except.ok.inj ht ▸ h⟩
  | input path positional =>
    rw [gathers_input_iff]
    cases hi : o.input with
    | none =>
      rw [take, setInput, hi]
      exact ⟨fun h => ⟨_, rfl, h.2⟩, fun ⟨_, ht, h⟩ => ⟨rfl, Except.ok.inj ht ▸ h⟩⟩
    | some first =>
      rw [take, setInput, hi]
      exact iff_of_false nofun nofun
  | other token other => exact iff_of_false (not_gathers_other other) nofun

/-! Reading gives options if no unit asks for help and no option at the end is in want of a
value. -/

theorem read_unit_eq_compile_iff (unit : ArgumentUnit) (rest : List String) :
    o.read (unit.tokens ++ rest) = .ok (.compile o') ↔
      ∃ o₁, o.take unit = .ok o₁ ∧ o₁.read rest = .ok (.compile o') := by
  cases hunit : unit.asksForHelp with
  | false => rw [read_unit hunit, bind_eq_ok_iff]
  | true =>
    cases unit with
    | other token other =>
      have hhelp : token = "-h" ∨ token = "--help" := by
        simpa [ArgumentUnit.asksForHelp] using hunit
      have hread : o.read (token :: rest) = pure (.help .compile) := by
        unfold read
        rw [if_pos hhelp]
      rw [ArgumentUnit.tokens, List.singleton_append, hread]
      refine iff_of_false ?_ ?_
      · intro h
        cases h
      · rintro ⟨_, h, -⟩
        cases h
    | _ => cases hunit

theorem read_eq_compile_iff (rest : List String) :
    o.read (spelled units ++ rest) = .ok (.compile o') ↔
      ∃ o₁, o.Gathers units o₁ ∧ o₁.read rest = .ok (.compile o') := by
  induction units generalizing o with
  | nil => simp only [gathers_nil_iff, exists_eq_left', spelled, List.flatMap_nil, List.nil_append]
  | cons unit units ih =>
    rw [spelled_cons, List.append_assoc, read_unit_eq_compile_iff]
    simp only [ih, gathers_cons_iff]
    constructor
    · rintro ⟨o₁, htake, o₂, hgathers, hread⟩
      exact ⟨o₂, ⟨o₁, htake, hgathers⟩, hread⟩
    · rintro ⟨o₂, ⟨o₁, htake, hgathers⟩, hread⟩
      exact ⟨o₁, htake, o₂, hgathers, hread⟩

theorem read_spelled_eq_compile_iff :
    o.read (spelled units) = .ok (.compile o') ↔ o.Gathers units o' := by
  rw [← List.append_nil (spelled units), read_eq_compile_iff]
  constructor
  · rintro ⟨o₁, hgathers, ⟨⟩⟩
    exact hgathers
  · exact fun hgathers => ⟨o', hgathers, rfl⟩

theorem exists_spelled_of_read {tokens : List String}
    (h : o.read tokens = .ok (.compile o')) : ∃ units, spelled units = tokens := by
  obtain ⟨units, rfl | ⟨name, rfl⟩⟩ := exists_spelled tokens
  · exact ⟨units, rfl⟩
  · obtain ⟨o₁, -, hread⟩ := (read_eq_compile_iff _).mp h
    cases name <;> cases hread

end CompileOptions

namespace Reorders

variable {units us : List ArgumentUnit}

theorem values_eq (h : Reorders units us) (name : OptionName) :
    name.values units = name.values us := by
  rw [← name.values_filter, h.option, name.values_filter]

theorem inputs_eq (h : Reorders units us) (hlength : (inputs units).length ≤ 1) :
    inputs units = inputs us := by
  have hperm : (inputs units).Perm (inputs us) := h.perm.filterMap _
  match inputs units, hlength, hperm with
  | [], _, hperm => exact (List.nil_perm.mp hperm).symm
  | [path], _, hperm => exact List.singleton_perm.mp hperm

theorem gathers {o o' : CompileOptions} (h : Reorders units us) (hg : o.Gathers units o') :
    o.Gathers us o' where
  config := h.values_eq .config ▸ hg.config
  configGiven := h.perm.any_eq (f := ArgumentUnit.isOption .config) ▸ hg.configGiven
  placeholder := h.values_eq .placeholder ▸ hg.placeholder
  json := by rw [← h.perm.contains_eq]; exact hg.json
  input := h.inputs_eq (Nat.le_trans (Nat.le_add_left _ _) hg.length_inputs_le) ▸ hg.input
  known := h.perm.all_eq (f := ArgumentUnit.isKnown) ▸ hg.known

end Reorders

/-- What is read depends on the last value of each option, the switch and the input, so units may
change places as long as those of each option keep their order. Two inputs are never read. -/
theorem Command.read_reordered (tokens : List String) :
    (∀ o, Command.read ("where" :: tokens) = .ok (.compile o) →
      (∃ units, spelled units = tokens) ∧
      ∀ units, spelled units = tokens →
        CompileOptions.Gathers {} units o ∧
        (∀ name : OptionName,
          (∀ value, .option name .joined value ∈ units → ¬ name.Begins value) →
            name.values units = name.writtenValues units) ∧
        ∀ us, Reorders units us → Command.read ("where" :: spelled us) = .ok (.compile o)) ∧
    ∀ units rest, spelled units ++ rest = tokens → 2 ≤ (inputs units).length →
      ∀ o, Command.read ("where" :: tokens) ≠ .ok (.compile o) := by
  constructor
  · intro o h
    refine ⟨CompileOptions.exists_spelled_of_read h, ?_⟩
    rintro units rfl
    have hgathers := CompileOptions.read_spelled_eq_compile_iff.mp h
    exact ⟨hgathers, fun name => name.values_eq_writtenValues,
      fun us hus => CompileOptions.read_spelled_eq_compile_iff.mpr (hus.gathers hgathers)⟩
  · rintro units rest rfl hinputs o h
    obtain ⟨o₁, hgathers, -⟩ := (CompileOptions.read_eq_compile_iff rest).mp h
    have hlength := hgathers.length_inputs_le
    omega

/-- Values that look like a switch, the input or another option. -/
theorem Command.read_reordered_dashed :
    Command.read ["where", "tree.json", "--config", "-", "--placeholder=$", "--json",
        "--config", "--json"] =
      .ok (.compile ⟨"--json", true, some .dollar, true, some "tree.json"⟩) ∧
    Command.read ["where", "--json", "--config", "-", "--config", "--json", "tree.json",
        "--placeholder=$"] =
      .ok (.compile ⟨"--json", true, some .dollar, true, some "tree.json"⟩) ∧
    ∀ o, Command.read ["where", "-", "--config", "-", "tree.json", "-h"] ≠ .ok (.compile o) := by
  have hread : Command.read ["where", "tree.json", "--config", "-", "--placeholder=$", "--json",
      "--config", "--json"] =
      .ok (.compile ⟨"--json", true, some .dollar, true, some "tree.json"⟩) := by
    decide
  let input : ArgumentUnit := .input "tree.json" (by decide)
  let stdin : ArgumentUnit := .option .config .separate "-"
  let switch : ArgumentUnit := .option .config .separate "--json"
  let dollar : ArgumentUnit := .option .placeholder .joined "$"
  have hreorders : Reorders [input, stdin, dollar, .json, switch]
      [.json, stdin, switch, input, dollar] :=
    ⟨by decide, fun name => by cases name <;> decide⟩
  refine ⟨hread, ?_, ?_⟩
  · exact ((Command.read_reordered _).1 _ hread).2 _ rfl |>.2.2 _ hreorders
  · exact (Command.read_reordered _).2 [.input "-" (by decide), stdin, input] ["-h"] rfl (by decide)

/-- The last value of an option loses a repeat of the option that it is joined to. -/
theorem Command.read_last_repeated :
    let units : List ArgumentUnit :=
      [.option .config .separate "a.toml", .option .config .joined "--config=b.toml"]
    spelled units = ["--config", "a.toml", "--config=--config=b.toml"] ∧
    (OptionName.config.writtenValues units).getLast? = some "--config=b.toml" ∧
    Command.read ("where" :: spelled units) =
      .ok (.compile { config := "b.toml", configGiven := true }) := by
  decide

end Criteria
