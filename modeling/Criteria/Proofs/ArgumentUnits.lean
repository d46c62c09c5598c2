import Criteria.Arguments
import Criteria.Proofs.PresentEntries

namespace Criteria

/-- The options that take a value. -/
inductive OptionName where
  | config
  | placeholder
  deriving DecidableEq

def OptionName.text : OptionName → String
  | .config => "--config"
  | .placeholder => "--placeholder"

/-- Whether a text begins with the option and an equals sign. -/
def OptionName.Begins (name : OptionName) (text : String) : Prop :=
  (name.text ++ "=").toList <+: text.toList

instance (name : OptionName) (text : String) : Decidable (name.Begins text) :=
  inferInstanceAs (Decidable (_ <+: _))

/-- How an option and its value are written: as one token with an equals sign between them, or as
two. -/
inductive Spelling where
  | joined
  | separate
  deriving DecidableEq

/-- A token that names the input. -/
def IsPositional (token : String) : Prop := token = "-" ∨ token.toList.head? ≠ some '-'

instance : DecidablePred IsPositional := fun _ => inferInstanceAs (Decidable (_ ∨ _))

theorem IsPositional.ne {token other : String} (h : IsPositional token)
    (ho : ¬ IsPositional other) : token ≠ other :=
  fun he => ho (he ▸ h)

theorem IsPositional.not_begins {token : String} (h : IsPositional token) (name : OptionName) :
    ¬ name.Begins token := by
  rintro ⟨rest, hrest⟩
  rcases h with rfl | h
  · cases name <;> simp [OptionName.text] at hrest
  · rw [← hrest] at h
    cases name <;> simp [OptionName.text] at h

/-- A token that is neither the input nor part of an option, nor the switch. -/
structure IsOther (token : String) : Prop where
  dash : ¬ IsPositional token
  switch : token ≠ "--json"
  separate : ∀ name : OptionName, token ≠ name.text
  joined : ∀ name : OptionName, ¬ name.Begins token

/-- A unit of the arguments. Any other token is refused or asks for help. -/
inductive ArgumentUnit where
  | option (name : OptionName) (spelling : Spelling) (value : String)
  | json
  | input (path : String) (positional : IsPositional path)
  | other (token : String) (other : IsOther token)
  deriving DecidableEq

namespace ArgumentUnit

def tokens : ArgumentUnit → List String
  | .option name .joined value => [name.text ++ "=" ++ value]
  | .option name .separate value => [name.text, value]
  | .json => ["--json"]
  | .input path _ => [path]
  | .other token _ => [token]

def asksForHelp : ArgumentUnit → Bool
  | .other token _ => token = "-h" || token = "--help"
  | _ => false

end ArgumentUnit

/-- The arguments that some units are written as. -/
def spelled (units : List ArgumentUnit) : List String := units.flatMap ArgumentUnit.tokens

theorem spelled_cons (unit : ArgumentUnit) (units : List ArgumentUnit) :
    spelled (unit :: units) = unit.tokens ++ spelled units :=
  List.flatMap_cons

/-- A token that is not in want of a value is a unit. -/
theorem ArgumentUnit.exists_tokens_eq {token : String}
    (h : ∀ name : OptionName, token ≠ name.text) : ∃ unit : ArgumentUnit, unit.tokens = [token] := by
  by_cases hjoined : ∃ name : OptionName, name.Begins token
  · obtain ⟨name, rest, hrest⟩ := hjoined
    have htoken : name.text ++ "=" ++ String.ofList rest = token := by
      rw [← String.toList_inj, String.toList_append, String.toList_ofList, hrest]
    exact ⟨.option name .joined (String.ofList rest), congrArg (fun text => [text]) htoken⟩
  · rw [not_exists] at hjoined
    by_cases hjson : token = "--json"
    · exact ⟨.json, by rw [hjson]; rfl⟩
    · by_cases hpositional : IsPositional token
      · exact ⟨.input token hpositional, rfl⟩
      · exact ⟨.other token ⟨hpositional, hjson, h, hjoined⟩, rfl⟩

/-- Arguments are units from left to right, but for an option at the end that has no value. -/
theorem exists_spelled : ∀ tokens : List String,
    ∃ units, tokens = spelled units ∨ ∃ name : OptionName, tokens = spelled units ++ [name.text]
  | [] => ⟨[], .inl rfl⟩
  | [token] => by
    by_cases h : ∃ name : OptionName, token = name.text
    · obtain ⟨name, rfl⟩ := h
      exact ⟨[], .inr ⟨name, rfl⟩⟩
    · obtain ⟨unit, hunit⟩ := ArgumentUnit.exists_tokens_eq (not_exists.mp h)
      exact ⟨[unit], .inl (by rw [spelled_cons, hunit]; rfl)⟩
  | token :: value :: rest => by
    by_cases h : ∃ name : OptionName, token = name.text
    · obtain ⟨name, rfl⟩ := h
      obtain ⟨units, hunits⟩ := exists_spelled rest
      refine ⟨.option name .separate value :: units, ?_⟩
      rw [spelled_cons]
      exact hunits.imp (congrArg (name.text :: value :: ·))
        fun ⟨name', h'⟩ => ⟨name', congrArg (name.text :: value :: ·) h'⟩
    · obtain ⟨unit, hunit⟩ := ArgumentUnit.exists_tokens_eq (not_exists.mp h)
      obtain ⟨units, hunits⟩ := exists_spelled (value :: rest)
      refine ⟨unit :: units, ?_⟩
      rw [spelled_cons, hunit]
      exact hunits.imp (congrArg (token :: ·)) fun ⟨name', h'⟩ => ⟨name', congrArg (token :: ·) h'⟩

/-! A value that is joined to its option is read behind all repeats of the option. -/

theorem behindRepeats_append (mark : List Char) (taken cs : List Char) :
    behindRepeats mark taken.length (taken ++ cs) = behindRepeats mark 0 cs := by
  induction taken with
  | nil => rfl
  | cons c taken ih => exact ih

theorem behindRepeats_of_not_prefix {mark cs : List Char} (h : ¬ mark <+: cs) :
    behindRepeats mark 0 cs = cs := by
  cases cs with
  | nil => rfl
  | cons c cs => rw [behindRepeats, if_neg (mt List.isPrefixOf_iff_prefix.mp h)]

theorem behindRepeats_mark {mark : List Char} (h : mark ≠ []) (cs : List Char) :
    behindRepeats mark 0 (mark ++ cs) = behindRepeats mark 0 cs := by
  obtain ⟨c, more, rfl⟩ := List.exists_cons_of_ne_nil h
  rw [List.cons_append, behindRepeats, if_pos]
  · exact behindRepeats_append _ more cs
  · exact List.isPrefixOf_iff_prefix.mpr (List.prefix_append _ cs)

namespace OptionName

/-- What is left of a value behind all repeats of the option and an equals sign. -/
def withoutRepeats (name : OptionName) (value : String) : String :=
  String.ofList (behindRepeats (name.text ++ "=").toList 0 value.toList)

theorem withoutRepeats_of_not_begins {name : OptionName} {value : String}
    (h : ¬ name.Begins value) : name.withoutRepeats value = value := by
  rw [withoutRepeats, behindRepeats_of_not_prefix h, String.ofList_toList]

theorem joinedValue?_eq (name : OptionName) (token : String) :
    joinedValue? name.text token =
      if name.Begins token then some (name.withoutRepeats token) else none := by
  have hmark : name.text.toList ++ ['='] = (name.text ++ "=").toList := by
    simp
  simp only [joinedValue?, hmark, List.isPrefixOf_iff_prefix]
  rfl

theorem joinedValue?_joined (name : OptionName) (value : String) :
    joinedValue? name.text (name.text ++ "=" ++ value) = some (name.withoutRepeats value) := by
  have hbegins : name.Begins (name.text ++ "=" ++ value) := by
    rw [Begins, String.toList_append (s := name.text ++ "=")]
    exact List.prefix_append _ _
  rw [joinedValue?_eq, if_pos hbegins, withoutRepeats, String.toList_append (s := name.text ++ "="),
    behindRepeats_mark (by simp)]
  rfl

end OptionName

/-- How the value of an option is read. -/
def Spelling.read (name : OptionName) (value : String) : Spelling → String
  | .joined => name.withoutRepeats value
  | .separate => value

namespace CompileOptions

def setOption (o : CompileOptions) : OptionName → String → Except ArgumentError CompileOptions
  | .config, path => pure (o.setConfig path)
  | .placeholder, value => o.setPlaceholder value

/-- Takes in one unit. -/
def take (o : CompileOptions) : ArgumentUnit → Except ArgumentError CompileOptions
  | .option name spelling value => o.setOption name (spelling.read name value)
  | .json => pure { o with json := true }
  | .input path _ => o.setInput path
  | .other token _ => throw (.unknownArgument token)

/-- A token that is not in want of a value and asks for no help is taken in by itself. -/
theorem read_cons {token : String} (hh : token ≠ "-h") (hhelp : token ≠ "--help")
    (hname : ∀ name : OptionName, token ≠ name.text) (o : CompileOptions) (rest : List String) :
    o.read (token :: rest) = o.takeToken token >>= fun o' => o'.read rest := by
  have hconfig : token ≠ "--config" := hname .config
  have hplaceholder : token ≠ "--placeholder" := hname .placeholder
  conv_lhs => unfold read
  rw [if_neg (not_or.mpr ⟨hh, hhelp⟩), if_neg hconfig, if_neg hplaceholder]

theorem read_separate (name : OptionName) (value : String) (o : CompileOptions)
    (rest : List String) :
    o.read (name.text :: value :: rest) = o.setOption name value >>= fun o' => o'.read rest := by
  cases name with
  | config => rfl
  | placeholder => rfl

/-- A token that no option begins is the switch, the input or unknown. -/
theorem takeToken_of_not_begins {token : String} (h : ∀ name : OptionName, ¬ name.Begins token)
    (o : CompileOptions) : o.takeToken token =
      if token = "--json" then pure { o with json := true }
      else if IsPositional token then o.setInput token
      else throw (.unknownArgument token) := by
  have hnone (name : OptionName) : joinedValue? name.text token = none := by
    rw [name.joinedValue?_eq, if_neg (h name)]
  have hconfig : joinedValue? "--config" token = none := hnone .config
  have hplaceholder : joinedValue? "--placeholder" token = none := hnone .placeholder
  rw [takeToken, hconfig, hplaceholder]
  rfl

theorem takeToken_joined (name : OptionName) (value : String) (o : CompileOptions) :
    o.takeToken (name.text ++ "=" ++ value) = o.setOption name (name.withoutRepeats value) := by
  have hvalue := name.joinedValue?_joined value
  cases name with
  | config =>
    have hconfig : joinedValue? "--config" ("--config" ++ "=" ++ value) = _ := hvalue
    rw [takeToken, OptionName.text, hconfig]
    rfl
  | placeholder =>
    have hplaceholder : joinedValue? "--placeholder" ("--placeholder" ++ "=" ++ value) = _ := hvalue
    have hconfig : joinedValue? "--config" ("--placeholder" ++ "=" ++ value) = none := by
      rw [show "--config" = OptionName.config.text from rfl, OptionName.joinedValue?_eq, if_neg]
      simp [OptionName.Begins, OptionName.text]
    rw [takeToken, OptionName.text, hconfig, hplaceholder]
    rfl

theorem read_joinedToken (name : OptionName) (value : String) (o : CompileOptions)
    (rest : List String) :
    o.read ((name.text ++ "=" ++ value) :: rest) =
      o.setOption name (name.withoutRepeats value) >>= fun o' => o'.read rest := by
  rw [read_cons, takeToken_joined]
  · cases name <;> simp [← String.toList_inj, OptionName.text]
  · cases name <;> simp [← String.toList_inj, OptionName.text]
  · intro other
    cases name <;> cases other <;> simp [← String.toList_inj, OptionName.text]

theorem take_json (o : CompileOptions) : o.takeToken "--json" = o.take .json := by
  have hbegins : ∀ name : OptionName, ¬ name.Begins "--json" := by
    intro name
    cases name <;> decide
  rw [takeToken_of_not_begins hbegins, if_pos rfl]
  rfl

theorem take_input {path : String} (h : IsPositional path) (o : CompileOptions) :
    o.takeToken path = o.take (.input path h) := by
  rw [takeToken_of_not_begins h.not_begins, if_neg (h.ne (by decide)), if_pos h]
  rfl

theorem take_other {token : String} (h : IsOther token) (o : CompileOptions) :
    o.takeToken token = o.take (.other token h) := by
  rw [takeToken_of_not_begins h.joined, if_neg h.switch, if_neg h.dash]
  rfl

/-- Reading goes unit by unit until help is asked for. -/
theorem read_unit {unit : ArgumentUnit} (h : unit.asksForHelp = false) (o : CompileOptions)
    (rest : List String) :
    o.read (unit.tokens ++ rest) = o.take unit >>= fun o' => o'.read rest := by
  cases unit with
  | option name spelling value =>
    cases spelling with
    | joined => exact read_joinedToken name value o rest
    | separate => exact read_separate name value o rest
  | json =>
    rw [← take_json]
    refine read_cons (by decide) (by decide) (fun name => ?_) o rest
    cases name <;> decide
  | input path positional =>
    rw [← take_input]
    refine read_cons (positional.ne (by decide)) (positional.ne (by decide)) ?_ o rest
    intro name
    refine positional.ne ?_
    cases name <;> decide
  | other token other =>
    have hhelp := Bool.or_eq_false_iff.mp h
    rw [← take_other]
    exact read_cons (of_decide_eq_false hhelp.1) (of_decide_eq_false hhelp.2) other.separate o rest

theorem read_spelled {units : List ArgumentUnit} (h : ∀ unit ∈ units, unit.asksForHelp = false)
    (o : CompileOptions) (rest : List String) :
    o.read (spelled units ++ rest) = units.foldlM take o >>= fun o' => o'.read rest := by
  induction units generalizing o with
  | nil => rfl
  | cons unit units ih =>
    rw [List.forall_mem_cons] at h
    rw [spelled_cons, List.append_assoc, read_unit h.1, List.foldlM_cons]
    cases o.take unit with
    | error error => rfl
    | ok o' => exact ih h.2 o'

end CompileOptions

/-- An option with its value joined to it is read like the same option with the value behind it, but
for repeats of the option in the value itself. -/
theorem Command.read_joined (units : List ArgumentUnit)
    (h : ∀ unit ∈ units, unit.asksForHelp = false) (name : OptionName) (value : String)
    (rest : List String) :
    (¬ name.Begins value →
      Command.read ("where" :: (spelled units ++ (name.text ++ "=" ++ value) :: rest)) =
        Command.read ("where" :: (spelled units ++ name.text :: value :: rest))) ∧
    Command.read ("where" :: (spelled units ++ (name.text ++ "=" ++ value) :: rest)) =
      Command.read
        ("where" :: (spelled units ++ name.text :: name.withoutRepeats value :: rest)) := by
  have hread : Command.read ("where" :: (spelled units ++ (name.text ++ "=" ++ value) :: rest)) =
      Command.read
        ("where" :: (spelled units ++ name.text :: name.withoutRepeats value :: rest)) := by
    change CompileOptions.read {} _ = CompileOptions.read {} _
    rw [CompileOptions.read_spelled h, CompileOptions.read_spelled h]
    refine bind_congr fun o => ?_
    rw [CompileOptions.read_joinedToken, CompileOptions.read_separate]
  refine ⟨fun hvalue => ?_, hread⟩
  rw [hread, OptionName.withoutRepeats_of_not_begins hvalue]

/-- A value that looks like an option itself, behind units of every kind. -/
theorem Command.read_joined_dashed :
    ¬ OptionName.config.Begins "--placeholder=?" ∧
    Command.read ["where", "tree.json", "--json", "--config", "--help", "--placeholder=$",
      "--config=--placeholder=?", "-"] =
    Command.read ["where", "tree.json", "--json", "--config", "--help", "--placeholder=$",
      "--config", "--placeholder=?", "-"] := by
  have hvalue : ¬ OptionName.config.Begins "--placeholder=?" := by
    decide
  refine ⟨hvalue, ?_⟩
  have hunits : ∀ unit ∈ [ArgumentUnit.input "tree.json" (by decide), .json,
      .option .config .separate "--help", .option .placeholder .joined "$"],
      unit.asksForHelp = false := by
    decide
  exact (Command.read_joined _ hunits .config "--placeholder=?" ["-"]).1 hvalue

/-- A repeat of the option is taken off a value that is joined to it, but kept of one that stands
behind it. -/
theorem Command.read_repeated :
    Command.read ["where", "--config=--config=tree.toml"] =
      .ok (.compile { config := "tree.toml", configGiven := true }) ∧
    Command.read ["where", "--config", "--config=tree.toml"] =
      .ok (.compile { config := "--config=tree.toml", configGiven := true }) := by
  decide

end Criteria
