import Criteria.Compilation
import Criteria.Proofs.ReadNumbers

namespace Criteria

/-- What stands before and behind the last of a character in a text. -/
def splitLast (c : Char) : List Char → Option (List Char × List Char)
  | [] => none
  | d :: ds =>
    match splitLast c ds with
    | some (before, behind) => some (d :: before, behind)
    | none => if d = c then some ([], ds) else none

theorem splitLast_of_not_mem {c : Char} {cs : List Char} (h : c ∉ cs) : splitLast c cs = none := by
  induction cs with
  | nil => rfl
  | cons d ds ih =>
    rw [List.mem_cons, not_or] at h
    rw [splitLast, ih h.2]
    exact if_neg (Ne.symm h.1)

theorem splitLast_append {c : Char} (before : List Char) {behind : List Char} (h : c ∉ behind) :
    splitLast c (before ++ c :: behind) = some (before, behind) := by
  induction before with
  | nil =>
    rw [List.nil_append, splitLast, splitLast_of_not_mem h]
    exact if_pos rfl
  | cons d before ih => rw [List.cons_append, splitLast, ih]

namespace Fragment

/-- The condition and the values of a plain text: the values stand on its last line. -/
def ofPlainText? (text : String) : Option Fragment := do
  let (before, behind) ← splitLast '\n' text.toList
  let params ← (Json.read? (String.ofList behind)).bind Value.listOfJson?
  some ⟨String.ofList before, params⟩

/-- The condition and the values of an object of just these two. -/
def ofJsonText? (text : String) : Option Fragment :=
  match Json.read? text with
  | some (.object [("sql", .string sql), ("params", j)]) => (Value.listOfJson? j).map (⟨sql, ·⟩)
  | _ => none

end Fragment

/-- Whether a text holds no line break. -/
def IsOneLine (text : List Char) : Prop := '\n' ∉ text

namespace IsOneLine

theorem append {a b : List Char} (ha : IsOneLine a) (hb : IsOneLine b) : IsOneLine (a ++ b) := by
  intro h
  exact (List.mem_append.mp h).elim ha hb

theorem cons {c : Char} (hc : c ≠ '\n') {cs : List Char} (h : IsOneLine cs) :
    IsOneLine (c :: cs) := by
  intro hm
  rcases List.mem_cons.mp hm with hm | hm
  · exact hc hm.symm
  · exact h hm

theorem enclosed {opening closing : Char} (ho : opening ≠ '\n') (hc : closing ≠ '\n')
    {text : List Char} (h : IsOneLine text) : IsOneLine (opening :: text ++ [closing]) :=
  (h.cons ho).append (cons hc List.not_mem_nil)

theorem flatMap {α : Type} {f : α → List Char} {as : List α} (h : ∀ a ∈ as, IsOneLine (f a)) :
    IsOneLine (as.flatMap f) := by
  intro hm
  obtain ⟨a, ha, hm⟩ := List.mem_flatMap.mp hm
  exact h a ha hm

theorem intercalate {parts : List (List Char)} (h : ∀ part ∈ parts, IsOneLine part) :
    IsOneLine ([','].intercalate parts) := by
  cases parts with
  | nil => exact List.not_mem_nil
  | cons part parts =>
    rw [intercalate_cons_eq_flatMap]
    rw [List.forall_mem_cons] at h
    exact h.1.append (flatMap fun next hn => (h.2 next hn).cons (by decide))

end IsOneLine

theorem isOneLine_of_isNumeralChar {cs : List Char} (h : ∀ c ∈ cs, isNumeralChar c) :
    IsOneLine cs := by
  intro hm
  cases h _ hm

theorem JsonNumber.isOneLine_text (n : JsonNumber) : IsOneLine n.text := by
  have hnull : IsOneLine ['n', 'u', 'l', 'l'] := by
    unfold IsOneLine
    decide
  cases n with
  | integer n => exact isOneLine_of_isNumeralChar (isNumeralChar_of_mem_integerText n)
  | real x =>
    cases x with
    | finite negative rank =>
      exact isOneLine_of_isNumeralChar
        (style.isNumeralChar_of_mem_finiteText .double negative rank)
    | nan => exact hnull
    | infinite negative => exact hnull

namespace Json

/-- A line break inside a string is written by its escape. -/
theorem isOneLine_escaped (c : Char) : IsOneLine (escaped c) := by
  unfold IsOneLine escaped
  split
  next => decide
  next => decide
  next => decide
  next => decide
  next => decide
  next => decide
  next => decide
  next _ _ _ _ hn _ _ =>
    split
    next =>
      have hdigit (n : Nat) : '\n' ≠ Nat.digitChar n := (Nat.digitChar_ne '\n' rfl).symm
      simp [hdigit]
    next =>
      intro hm
      exact hn (List.mem_singleton.mp hm).symm

theorem isOneLine_stringText (s : String) : IsOneLine (stringText s) :=
  (IsOneLine.flatMap fun c _ => isOneLine_escaped c).enclosed (by decide) (by decide)

mutual

theorem isOneLine_compactText : ∀ j : Json, IsOneLine j.compactText
  | .null => by
    unfold IsOneLine
    decide
  | .bool b => by
    unfold IsOneLine
    cases b <;> decide
  | .number n => n.isOneLine_text
  | .string s => isOneLine_stringText s
  | .array items =>
    (IsOneLine.intercalate (isOneLine_compactItems items)).enclosed (by decide) (by decide)
  | .object members =>
    (IsOneLine.intercalate (isOneLine_compactMembers members)).enclosed (by decide) (by decide)

theorem isOneLine_compactItems : ∀ items : List Json, ∀ text ∈ compactItems items, IsOneLine text
  | [] => nofun
  | item :: rest => by
    rw [compactItems, List.forall_mem_cons]
    exact ⟨isOneLine_compactText item, isOneLine_compactItems rest⟩

theorem isOneLine_compactMembers : ∀ members : List (String × Json),
    ∀ text ∈ compactMembers members, IsOneLine text
  | [] => nofun
  | (key, value) :: rest => by
    rw [compactMembers, List.forall_mem_cons]
    have hv := (isOneLine_compactText value).cons (c := ':') (by decide)
    exact ⟨(isOneLine_stringText key).append hv, isOneLine_compactMembers rest⟩

end

end Json

namespace Value

theorem ofJson?_toJson {value : Value} (h : value.isFinite) : ofJson? value.toJson = some value := by
  cases value with
  | null => rfl
  | text s => rfl
  | int n => exact congrArg some (ofNumber_toInt n)
  | float x =>
    cases x with
    | finite negative rank => rfl
    | nan => cases h
    | infinite negative => cases h

theorem listOfJson?_listJson {values : List Value} (h : ∀ value ∈ values, value.isFinite) :
    listOfJson? (listJson values) = some values := by
  change (values.map toJson).mapM ofJson? = some values
  induction values with
  | nil => rfl
  | cons value values ih =>
    rw [List.forall_mem_cons] at h
    rw [List.map_cons, List.mapM_cons, ofJson?_toJson h.1, ih h.2]
    rfl

/-- The numbers of a list of values read back if its floating-point numbers do. -/
theorem readsBack_listJson {values : List Value}
    (h : ∀ x, Value.float x ∈ values → x.isFinite → (JsonNumber.real x).ReadsBack) :
    ∀ n ∈ (listJson values).numbers, n.ReadsBack := by
  intro n hn
  obtain ⟨j, hj, hn⟩ := Json.mem_itemNumbers.mp hn
  obtain ⟨value, hv, rfl⟩ := List.mem_map.mp hj
  cases value with
  | null => cases hn
  | text s => cases hn
  | int k =>
    rw [List.mem_singleton.mp hn]
    refine JsonNumber.readsBack_integer k.minValue_le_toInt ?_
    have hl := k.toInt_lt
    have hsize : UInt64.size = 2 ^ 64 := rfl
    omega
  | float x =>
    cases x with
    | finite negative rank =>
      rw [List.mem_singleton.mp hn]
      exact h _ hv rfl
    | nan => cases hn
    | infinite negative => cases hn

theorem depth_toJson (value : Value) : value.toJson.depth = 0 := by
  cases value with
  | float x => cases x <;> rfl
  | _ => rfl

theorem depth_listJson (values : List Value) : (listJson values).depth = 1 := by
  have hitems : Json.itemDepth (values.map toJson) = 0 := by
    induction values with
    | nil => rfl
    | cons value values ih => rw [List.map_cons, Json.itemDepth, depth_toJson, ih, Nat.max_self]
  rw [listJson, Json.depth, hitems]

end Value

section

variable {f : Fragment} (hfinite : ∀ value ∈ f.params, value.isFinite)
  (hfloats : ∀ x, Value.float x ∈ f.params → x.isFinite → (JsonNumber.real x).ReadsBack)

include hfinite hfloats

theorem Fragment.ofPlainText?_plainText : ofPlainText? f.plainText = some f := by
  have hread := Json.read?_compact (Value.readsBack_listJson hfloats)
    (Nat.le_trans (Nat.le_of_eq (Value.depth_listJson f.params)) (by decide))
  have htext : f.plainText.toList = f.sql.toList ++ '\n' :: (Value.listJson f.params).compactText := by
    simp [plainText, Json.compact]
  rw [ofPlainText?, htext, splitLast_append _ (Json.isOneLine_compactText _)]
  change ((Json.read? (Value.listJson f.params).compact).bind Value.listOfJson?).bind _ = _
  rw [hread, Option.bind_some, Value.listOfJson?_listJson hfinite, Option.bind_some,
    String.ofList_toList]

theorem Fragment.ofJsonText?_jsonText : ofJsonText? f.jsonText = some f := by
  have hnumbers : (Json.object [("sql", .string f.sql), ("params", Value.listJson f.params)]).numbers =
      (Value.listJson f.params).numbers := by
    simp [Json.numbers, Json.memberNumbers]
  have hdepth : (Json.object [("sql", .string f.sql), ("params", Value.listJson f.params)]).depth =
      2 := by
    simp [Json.depth, Json.memberDepth, Value.depth_listJson]
  have hread := Json.read?_pretty (hnumbers ▸ Value.readsBack_listJson hfloats)
    (Nat.le_trans (Nat.le_of_eq hdepth) (by decide))
  rw [ofJsonText?, jsonText, hread]
  change (Value.listOfJson? (Value.listJson f.params)).map _ = _
  rw [Value.listOfJson?_listJson hfinite]
  rfl

end

theorem run_bind_eq_ok_iff {ε α β : Type} {x : ExceptT ε Id α} {f : α → ExceptT ε Id β} {b : β} :
    (x >>= f).run = .ok b ↔ ∃ a, x.run = .ok a ∧ (f a).run = .ok b := by
  change ExceptT.bindCont f x.run = .ok b ↔ _
  cases x.run with
  | error e => exact iff_of_false nofun (fun ⟨_, h, _⟩ => nomatch h)
  | ok a => exact ⟨fun h => ⟨a, rfl, h⟩, fun ⟨_, ha, h⟩ => Except.ok.inj ha ▸ h⟩

/-- A text that compiles denotes a tree, and the values that it binds are finite. -/
theorem compileText_eq_ok {format : Format} {text : String} {f : Fragment}
    (h : compileText format text = .ok f) :
    ∃ j tree, Json.read? text = some j ∧ Where.ofJson j = .ok tree ∧
      tree.compile format = .ok f ∧ ∀ value ∈ f.params, value.isFinite := by
  unfold compileText at h
  split at h
  next => cases h
  next j hj =>
    split at h
    next fragment hf =>
      cases h
      obtain ⟨tree, ht, hf⟩ := bind_eq_ok_iff.mp hf
      refine ⟨j, tree, hj, ht, hf, ?_⟩
      obtain ⟨t, htemplate, rfl⟩ := Where.compile_eq_ok hf
      change ∀ value ∈ t.values, value.isFinite
      rw [Where.values_template htemplate]
      exact Where.isFinite_boundValues hj ht
    next => cases h

/-- Plain and as an object, a command prints the same condition with the same values, and both texts
can be read back as these. -/
theorem compileCommand_reads_back (surroundings : Surroundings Id) (options : CompileOptions)
    (out : String) (h : (compileCommand surroundings options).run = .ok out) :
    ∃ configured text f,
      (readFormat surroundings options).run = .ok configured ∧
      (readTree surroundings options).run = .ok text ∧
      compileText
        { configured with placeholder := options.placeholder.getD configured.placeholder } text =
          .ok f ∧
      out = f.text options.json ∧
      (∀ json, (compileCommand surroundings { options with json := json }).run =
        .ok (f.text json)) ∧
      ((∀ x, Value.float x ∈ f.params → x.isFinite → (JsonNumber.real x).ReadsBack) →
        Fragment.ofPlainText? (f.text false) = some f ∧
          Fragment.ofJsonText? (f.text true) = some f) := by
  obtain ⟨configured, hc, h⟩ := run_bind_eq_ok_iff.mp h
  obtain ⟨text, ht, h⟩ := run_bind_eq_ok_iff.mp h
  split at h
  next f hf =>
    cases h
    obtain ⟨_, _, _, _, _, hfinite⟩ := compileText_eq_ok hf
    refine ⟨configured, text, f, hc, ht, hf, rfl, fun json => ?_, fun hfloats => ⟨?_, ?_⟩⟩
    · refine run_bind_eq_ok_iff.mpr ⟨configured, hc, run_bind_eq_ok_iff.mpr ⟨text, ht, ?_⟩⟩
      simp only [hf]
      rfl
    · exact Fragment.ofPlainText?_plainText hfinite hfloats
    · exact Fragment.ofJsonText?_jsonText hfinite hfloats
  next => cases h

def harvestNotation : String := "[\x7b\"ripe\\nkiwi\": [0.5, null], \"name\": \"k\\n\"\x7d]"

def harvest : Surroundings Id := ⟨fun _ => .error .notFound, .ok harvestNotation⟩

def harvestText : String :=
  "((ripe\nkiwi IS NULL OR ripe\nkiwi IN (?)) AND name = ?)\n[0.5,\"k\\n\"]"

def half : Binary64 := .ofRatio .double false 1 2

theorem eq_ok_of_toOption {ε α : Type} {x : Except ε α} {a : α} (h : x.toOption = some a) :
    x = .ok a := by
  cases x with
  | error e => cases h
  | ok b => exact congrArg Except.ok (Option.some.inj h)

theorem compileCommand_reads_back_harvest :
    (compileCommand harvest {}).run = .ok harvestText ∧
      ∃ f, harvestText = f.text false ∧ f.params = [.float half, .text "k\n"] ∧
        Fragment.ofPlainText? (f.text false) = some f ∧
        Fragment.ofJsonText? (f.text true) = some f := by
  have hrun : (compileCommand harvest {}).run = .ok harvestText :=
    eq_ok_of_toOption (by decide +kernel)
  obtain ⟨configured, text, f, hc, ht, hf, hout, _, hread⟩ :=
    compileCommand_reads_back harvest {} harvestText hrun
  cases (show Except.ok {} = Except.ok configured from hc)
  cases (show Except.ok harvestNotation = Except.ok text from ht)
  have hparams : f.params = [.float half, .text "k\n"] := by
    have hcompiled : (compileText {} harvestNotation).toOption.map Fragment.params =
        some [.float half, .text "k\n"] := by
      decide +kernel
    rw [show compileText {} harvestNotation = .ok f from hf] at hcompiled
    exact Option.some.inj hcompiled
  refine ⟨hrun, f, hout, hparams, hread fun x hx _ => ?_⟩
  rw [hparams] at hx
  have hhalf : x = half := by
    simpa using hx
  rw [hhalf]
  decide +kernel

end Criteria
