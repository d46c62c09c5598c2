import Criteria.Proofs.FilterRetention

namespace Criteria

/-- The terms of a level, with their connectives between them. -/
def levelTemplate (indent depth : Nat) : List (Connective × Term) → Template
  | [] => []
  | (_, first) :: rest => first.template indent depth ++ linkedTemplate indent depth rest

/-- A level with `depth` levels around it, behind `offset` bound values. -/
def levelText (format : Format) (depth offset : Nat) (nodes : List Node) :
    Except BuildError Fragment := do
  checkShape nodes
  return (levelTemplate format.indent depth (← linkedTerms .and nodes)).fragment
    format.placeholder offset

/-- An operand of such a level, on its own. -/
def Node.ownText (format : Format) (depth offset : Nat) (node : Node) :
    Except BuildError Fragment := do
  return (((← node.term?).map (Term.template format.indent depth)).getD []).fragment
    format.placeholder offset

namespace Fragment

/-- A nested level in its parentheses; one without text has none. -/
def enclosed (indent depth : Nat) (f : Fragment) : Fragment :=
  if f.sql = "" then f
  else
    ⟨"(\n" ++ blanks (indent * (depth + 1)) ++ f.sql ++ ("\n" ++ blanks (indent * depth) ++ ")"),
      f.params⟩

end Fragment

theorem Clause.template_eq_levelTemplate (indent : Nat) (links : List (Connective × Term)) :
    ((Clause.ofLinked? links).map (Clause.template indent)).getD [] =
      levelTemplate indent 0 links := by
  cases links <;> rfl

theorem Where.compile_eq_levelText (tree : Where) (format : Format) (offset : Nat) :
    tree.compile format offset = levelText format 0 offset tree.nodes := by
  rw [levelText]
  cases hs : checkShape tree.nodes with
  | error error =>
    rw [Where.compile, Where.template, Where.clause?, hs]
    rfl
  | ok =>
    cases hl : linkedTerms .and tree.nodes with
    | error error =>
      rw [Where.compile, Where.template, Where.clause?, hs, hl]
      rfl
    | ok links =>
      have hc : tree.clause? = .ok (Clause.ofLinked? links) := by
        rw [Where.clause?, hs, hl]
        rfl
      rw [Where.compile_of_clause? hc, Clause.template_eq_levelTemplate]
      rfl

theorem startsWithText_levelTemplate (indent depth : Nat) (link : Connective × Term)
    (links : List (Connective × Term)) :
    (levelTemplate indent depth (link :: links)).StartsWithText :=
  (link.2.startsWithText indent depth).append _

theorem Term.fragment_block (format : Format) (depth offset : Nat) (first : Term)
    (rest : List (Connective × Term)) :
    ((Term.block first rest).template format.indent depth).fragment format.placeholder offset =
      ((first.template format.indent (depth + 1) ++
        linkedTemplate format.indent (depth + 1) rest).fragment format.placeholder offset).enclosed
          format.indent depth := by
  have hne := ((first.startsWithText format.indent (depth + 1)).append
    (linkedTemplate format.indent (depth + 1) rest)).sql_ne_empty format.placeholder offset
  rw [Fragment.enclosed, if_neg (by exact hne), Term.template]
  simp only [Template.fragment, Template.sql, Template.sql_append, Template.values_text,
    Template.values_append, Template.values_nil, List.append_nil, String.append_assoc,
    String.append_empty]

theorem Node.ownText_nested (format : Format) (depth offset : Nat) (nodes : List Node) :
    (Node.nested nodes).ownText format depth offset =
      (levelText format (depth + 1) offset nodes).map (Fragment.enclosed format.indent depth) := by
  rw [Node.ownText, levelText, Node.term?]
  cases checkShape nodes with
  | error error => rfl
  | ok =>
    cases linkedTerms .and nodes with
    | error error => rfl
    | ok links =>
      cases links with
      | nil => rfl
      | cons link rest => exact congrArg Except.ok (Term.fragment_block format depth offset _ rest)

theorem Node.isConnective_iff {node : Node} :
    node.isConnective ↔ ∃ c, node = .connective c := by
  cases node <;> simp [isConnective]

/-! A level as a text that grows. A connective is appended as soon as it is met; an operand without
text takes the connective back that stands at the end by then. -/

/-- Without the keyword, blanks around it, at its end. -/
def trimConnective (text : String) : String :=
  match [Connective.and, .or].find? fun c => c.separator.toList.isSuffixOf text.toList with
  | some c => String.ofList (text.toList.take (text.length - c.separator.length))
  | none => text

namespace Fragment

/-- Nothing is joined to a text that has not begun. -/
def connect (f : Fragment) (c : Connective) : Fragment :=
  if f.sql = "" then f else ⟨f.sql ++ c.separator, f.params⟩

def add (f own : Fragment) : Fragment :=
  if own.sql = "" then ⟨trimConnective f.sql, f.params⟩
  else ⟨f.sql ++ own.sql, f.params ++ own.params⟩

theorem params_connect (f : Fragment) (c : Connective) : (f.connect c).params = f.params := by
  rw [connect]
  split
  next => rfl
  next => rfl

end Fragment

mutual

def Node.grown (format : Format) (depth offset : Nat) : Node → Except BuildError Fragment
  | .group g => (Node.group g).ownText format depth offset
  | .connective _ => pure ⟨"", []⟩
  | .nested nodes => do
    checkShape nodes
    return (← grow format (depth + 1) offset ⟨"", []⟩ nodes).enclosed format.indent depth

def grow (format : Format) (depth offset : Nat) (text : Fragment) :
    List Node → Except BuildError Fragment
  | [] => pure text
  | .connective c :: rest => grow format depth offset (text.connect c) rest
  | node :: rest => do
    let own ← node.grown format depth (offset + text.params.length)
    grow format depth offset (text.add own) rest

end

theorem find?_separator (text : String) (c : Connective) :
    ([Connective.and, .or].find? fun d =>
      d.separator.toList.isSuffixOf (text ++ c.separator).toList) = some c := by
  have hs : c.separator.toList <:+ (text ++ c.separator).toList := by
    rw [String.toList_append]
    exact List.suffix_append _ _
  cases c with
  | and =>
    have h := List.isSuffixOf_iff_suffix.mpr hs
    rw [List.find?_cons, h]
  | or =>
    -- the two keywords with their blanks are no ends of each other
    have hand : ¬ Connective.and.separator.toList <:+ (text ++ Connective.or.separator).toList := by
      intro ha
      have hor := List.suffix_of_suffix_length_le hs ha (by decide)
      revert hor
      decide
    have hf : Connective.and.separator.toList.isSuffixOf
        (text ++ Connective.or.separator).toList = false := by
      rw [Bool.eq_false_iff]
      exact fun h => hand (List.isSuffixOf_iff_suffix.mp h)
    have h := List.isSuffixOf_iff_suffix.mpr hs
    rw [List.find?_cons, hf, List.find?_cons, h]

/-- Whatever a text holds, a connective that was appended to it is what is taken back. -/
theorem trimConnective_append (text : String) (c : Connective) :
    trimConnective (text ++ c.separator) = text := by
  have hlength : (text ++ c.separator).length - c.separator.length = text.toList.length := by
    rw [String.length_append, String.length_toList]
    omega
  rw [trimConnective, find?_separator]
  simp only [hlength, String.toList_append, List.take_left', String.ofList_toList]

theorem trimConnective_empty : trimConnective "" = "" := by
  decide

theorem Fragment.trimConnective_connect (f : Fragment) (c : Connective) :
    trimConnective (f.connect c).sql = f.sql := by
  by_cases hf : f.sql = ""
  · rw [connect, if_pos hf, hf, trimConnective_empty]
  · rw [connect, if_neg hf, trimConnective_append]

/-- A connective whose operand has no text leaves no trace. -/
theorem Fragment.add_connect_of_empty (f : Fragment) (c : Connective) {own : Fragment}
    (h : own.sql = "") : (f.connect c).add own = f := by
  rw [add, if_pos h, f.trimConnective_connect, f.params_connect]

theorem linkedTemplate_append (indent depth : Nat) (a b : List (Connective × Term)) :
    linkedTemplate indent depth (a ++ b) =
      linkedTemplate indent depth a ++ linkedTemplate indent depth b := by
  induction a with
  | nil => rfl
  | cons link a ih => simp only [List.cons_append, linkedTemplate, ih, List.append_assoc]

theorem levelTemplate_append (indent depth : Nat) {a : List (Connective × Term)} (h : a ≠ [])
    (b : List (Connective × Term)) :
    levelTemplate indent depth (a ++ b) =
      levelTemplate indent depth a ++ linkedTemplate indent depth b := by
  obtain ⟨link, a, rfl⟩ := List.exists_cons_of_ne_nil h
  rw [List.cons_append, levelTemplate, linkedTemplate_append, levelTemplate, List.append_assoc]

section

variable (format : Format) (depth offset : Nat)

/-- What an operand asks for, as text. -/
def termText (term : Option Term) : Fragment :=
  ((term.map (Term.template format.indent depth)).getD []).fragment format.placeholder offset

/-- A level up to some operand, by what the operands ask for. -/
def reached (done : List (Connective × Term)) : Fragment :=
  (levelTemplate format.indent depth done).fragment format.placeholder offset

theorem sql_reached_ne_empty {done : List (Connective × Term)} (h : done ≠ []) :
    (reached format depth offset done).sql ≠ "" := by
  obtain ⟨link, links, rfl⟩ := List.exists_cons_of_ne_nil h
  exact (startsWithText_levelTemplate format.indent depth link links).sql_ne_empty
    format.placeholder offset

theorem reached_append_singleton {done : List (Connective × Term)} (h : done ≠ [])
    (c : Connective) (t : Term) :
    reached format depth offset (done ++ [(c, t)]) =
      ⟨(reached format depth offset done).sql ++ c.separator ++
          (termText format depth (offset + (reached format depth offset done).params.length)
            (some t)).sql,
        (reached format depth offset done).params ++
          (termText format depth (offset + (reached format depth offset done).params.length)
            (some t)).params⟩ := by
  rw [reached, levelTemplate_append _ _ h]
  simp only [linkedTemplate, List.append_nil, Template.fragment, reached, termText, Option.map_some,
    Option.getD_some, Template.sql_append, Template.values_append, Template.sql,
    Template.values_text, String.append_assoc]

/-- An operand and the connective before it, added to a level. -/
theorem add_connect_reached (done : List (Connective × Term)) (c : Connective)
    (term : Option Term) :
    ((reached format depth offset done).connect c).add
        (termText format depth (offset + (reached format depth offset done).params.length) term) =
      reached format depth offset (done ++ (term.map (c, ·)).toList) := by
  cases term with
  | none =>
    rw [Fragment.add_connect_of_empty _ _ rfl, Option.map_none, Option.toList_none,
      List.append_nil]
  | some t =>
    have hown := (t.startsWithText format.indent depth).sql_ne_empty format.placeholder
      (offset + (reached format depth offset done).params.length)
    rw [Fragment.add, if_neg (by exact hown)]
    by_cases hd : done = []
    · subst hd
      simp only [Fragment.connect, reached, levelTemplate, termText, Template.fragment,
        Template.sql, Template.values_nil, if_true, Option.map_some, Option.getD_some,
        Option.toList_some, List.nil_append, linkedTemplate, List.append_nil, String.empty_append,
        List.length_nil, Nat.add_zero]
    · have hne := sql_reached_ne_empty format depth offset hd
      rw [Fragment.connect, if_neg hne, Option.map_some, Option.toList_some,
        reached_append_singleton _ _ _ hd]

end

theorem Node.ownText_of_term? {node : Node} {term : Option Term} (h : node.term? = .ok term)
    (format : Format) (depth offset : Nat) :
    node.ownText format depth offset = .ok (termText format depth offset term) := by
  rw [ownText, h]
  rfl

theorem Node.ownText_of_term?_error {node : Node} {error : BuildError}
    (h : node.term? = .error error) (format : Format) (depth offset : Nat) :
    node.ownText format depth offset = .error error := by
  rw [ownText, h]
  rfl

theorem grow_cons {node : Node} (h : ¬ node.isConnective) (format : Format) (depth offset : Nat)
    (text : Fragment) (rest : List Node) :
    grow format depth offset text (node :: rest) =
      node.grown format depth (offset + text.params.length) >>= fun own =>
        grow format depth offset (text.add own) rest := by
  refine grow.eq_3 format depth offset text node rest ?_
  rintro c rfl
  exact h rfl

/-- A level, if its first operand is grown and what follows joins on. -/
theorem grow_of_first {format : Format} {depth offset : Nat} {first : Node} {rest : List Node}
    (ha : Alternates (first :: rest))
    (hfirst : first.grown format depth offset = first.ownText format depth offset)
    (hrest : ∀ done, grow format depth offset (reached format depth offset done) rest =
      (linkedTerms .and rest).map fun terms => reached format depth offset (done ++ terms)) :
    grow format depth offset ⟨"", []⟩ (first :: rest) =
      levelText format depth offset (first :: rest) := by
  obtain ⟨hf, _⟩ := alternates_cons_iff.mp ha
  rw [grow_cons hf, levelText, checkShape_eq_ok_iff.mpr ha, linkedTerms_cons hf]
  change first.grown format depth offset >>= _ = _
  rw [hfirst]
  cases ht : first.term? with
  | error error =>
    rw [Node.ownText_of_term?_error ht]
    rfl
  | ok term =>
    have hadd : Fragment.add ⟨"", []⟩ (termText format depth offset term) =
        reached format depth offset (term.map (.and, ·)).toList :=
      add_connect_reached format depth offset [] .and term
    rw [Node.ownText_of_term? ht]
    change grow format depth offset (Fragment.add _ (termText ..)) rest = _
    rw [hadd, hrest]
    cases linkedTerms .and rest with
    | error error => rfl
    | ok terms => rfl

mutual

theorem Node.grown_eq_ownText (format : Format) : ∀ (node : Node) (depth offset : Nat),
    ¬ node.isConnective → node.grown format depth offset = node.ownText format depth offset
  | .group g, depth, offset, _ => by
    rw [Node.grown]
  | .connective c, _, _, h => absurd rfl h
  | .nested [], depth, offset, _ => by
    rw [Node.grown, Node.ownText_nested]
    rfl
  | .nested (first :: rest), depth, offset, _ => by
    rw [Node.grown, Node.ownText_nested]
    cases hs : checkShape (first :: rest) with
    | error error =>
      rw [levelText, hs]
      rfl
    | ok =>
      have ha := checkShape_eq_ok_iff.mp hs
      obtain ⟨hf, hl⟩ := alternates_cons_iff.mp ha
      have hlevel := grow_of_first ha (first.grown_eq_ownText format (depth + 1) offset hf)
        fun done => grow_eq_reached format rest (depth + 1) offset .and done hl
      change grow .. >>= _ = _
      rw [hlevel]
      cases levelText format (depth + 1) offset (first :: rest) <;> rfl

theorem grow_eq_reached (format : Format) : ∀ (nodes : List Node) (depth offset : Nat)
    (before : Connective) (done : List (Connective × Term)), Links nodes →
    grow format depth offset (reached format depth offset done) nodes =
      (linkedTerms before nodes).map fun terms => reached format depth offset (done ++ terms)
  | [], depth, offset, before, done, _ => by
    rw [grow, linkedTerms]
    change _ = Except.ok (reached format depth offset (done ++ []))
    rw [List.append_nil]
    rfl
  | [_], _, _, _, _, h => by
    cases h
  | .group _ :: _ :: _, _, _, _, _, h => by
    cases h
  | .nested _ :: _ :: _, _, _, _, _, h => by
    cases h
  | .connective c :: operand :: rest, depth, offset, before, done, h => by
    cases h with
    | cons ho hr =>
      have hown := operand.grown_eq_ownText format depth
        (offset + ((reached format depth offset done).connect c).params.length) ho
      rw [grow, grow_cons ho, hown, linkedTerms, linkedTerms_cons ho]
      cases ht : operand.term? with
      | error error =>
        rw [Node.ownText_of_term?_error ht]
        rfl
      | ok term =>
        have hrest := grow_eq_reached format rest depth offset c
          (done ++ (term.map (c, ·)).toList) hr
        rw [Node.ownText_of_term? ht, Fragment.params_connect]
        change grow format depth offset (Fragment.add _ (termText ..)) rest = _
        rw [add_connect_reached, hrest]
        cases linkedTerms c rest with
        | error error => rfl
        | ok terms =>
          change Except.ok (reached format depth offset (_ ++ terms)) = _
          rw [List.append_assoc]
          rfl

end

/-- A level that grows comes out as the level that is put together from what its operands ask for.
-/
theorem grow_eq_levelText {nodes : List Node} (h : Alternates nodes) (format : Format)
    (depth offset : Nat) :
    grow format depth offset ⟨"", []⟩ nodes = levelText format depth offset nodes := by
  obtain ⟨first, rest, rfl⟩ := List.exists_cons_of_ne_nil h.ne_nil
  obtain ⟨hf, hl⟩ := alternates_cons_iff.mp h
  exact grow_of_first h (first.grown_eq_ownText format depth offset hf)
    fun done => grow_eq_reached format rest depth offset .and done hl

/-! A level as the texts of its operands. -/

/-- The operands of a level, each with the connective right before it; `before` stands before the
first element. -/
def linkedOperands (before : Connective) : List Node → List (Connective × Node)
  | [] => []
  | .connective c :: rest => linkedOperands c rest
  | node :: rest => (before, node) :: linkedOperands before rest

/-- Operands on their own, each behind the values that those before it bind. -/
def ownTexts (format : Format) (depth : Nat) :
    Nat → List (Connective × Node) → Except BuildError (List (Connective × Fragment))
  | _, [] => pure []
  | offset, (c, operand) :: rest => do
    let own ← operand.ownText format depth offset
    return (c, own) :: (← ownTexts format depth (offset + own.params.length) rest)

def surviving (texts : List (Connective × Fragment)) : List (Connective × Fragment) :=
  texts.filter fun text => text.2.sql ≠ ""

/-- Texts one after the other, with the connective of each but the first before it. -/
def joinTexts : List (Connective × Fragment) → Fragment
  | [] => ⟨"", []⟩
  | (_, first) :: rest =>
    ⟨first.sql ++ String.join (rest.map fun text => " " ++ text.1.keyword ++ " " ++ text.2.sql),
      first.params ++ rest.flatMap fun text => text.2.params⟩

theorem linkedOperands_cons {before : Connective} {node : Node} (h : ¬ node.isConnective)
    (rest : List Node) :
    linkedOperands before (node :: rest) = (before, node) :: linkedOperands before rest := by
  refine linkedOperands.eq_3 before node rest ?_
  rintro c rfl
  exact h rfl

section

variable (format : Format) (depth : Nat)

def termTexts : Nat → List (Connective × Term) → List (Connective × Fragment)
  | _, [] => []
  | offset, (c, t) :: rest =>
    (c, termText format depth offset (some t)) ::
      termTexts (offset + (t.template format.indent depth).values.length) rest

theorem linkedTemplate_eq_join (offset : Nat) (links : List (Connective × Term)) :
    (linkedTemplate format.indent depth links).sql format.placeholder offset =
        String.join ((termTexts format depth offset links).map fun text =>
          " " ++ text.1.keyword ++ " " ++ text.2.sql) ∧
      (linkedTemplate format.indent depth links).values =
        (termTexts format depth offset links).flatMap fun text => text.2.params := by
  induction links generalizing offset with
  | nil => exact ⟨rfl, rfl⟩
  | cons link links ih =>
    obtain ⟨c, t⟩ := link
    obtain ⟨hsql, hvalues⟩ := ih (offset + (t.template format.indent depth).values.length)
    constructor
    · rw [linkedTemplate, Template.sql, Template.sql_append, hsql, termTexts, List.map_cons,
        String.join_cons, Connective.separator, ← String.append_assoc]
      rfl
    · rw [linkedTemplate, Template.values_text, Template.values_append, hvalues, termTexts,
        List.flatMap_cons]
      rfl

theorem reached_eq_joinTexts (offset : Nat) (links : List (Connective × Term)) :
    reached format depth offset links = joinTexts (termTexts format depth offset links) := by
  cases links with
  | nil => rfl
  | cons link links =>
    obtain ⟨c, t⟩ := link
    obtain ⟨hsql, hvalues⟩ := linkedTemplate_eq_join format depth
      (offset + (t.template format.indent depth).values.length) links
    rw [reached, levelTemplate, Template.fragment, Template.sql_append, Template.values_append,
      hsql, hvalues, termTexts, joinTexts]
    rfl

theorem surviving_cons_of_empty {own : Fragment} (h : own.sql = "") (c : Connective)
    (texts : List (Connective × Fragment)) : surviving ((c, own) :: texts) = surviving texts := by
  rw [surviving, List.filter_cons_of_neg (by simpa using h)]
  rfl

theorem surviving_cons {own : Fragment} (h : own.sql ≠ "") (c : Connective)
    (texts : List (Connective × Fragment)) :
    surviving ((c, own) :: texts) = (c, own) :: surviving texts := by
  rw [surviving, List.filter_cons_of_pos (by simpa using h)]
  rfl

theorem surviving_cons_termText (offset : Nat) (c : Connective) (term : Option Term)
    {texts : List (Connective × Fragment)} {terms : List (Connective × Term)}
    (h : surviving texts =
      termTexts format depth (offset + (termText format depth offset term).params.length) terms) :
    surviving ((c, termText format depth offset term) :: texts) =
      termTexts format depth offset ((term.map (c, ·)).toList ++ terms) := by
  cases term with
  | none =>
    rw [surviving_cons_of_empty rfl, h]
    rfl
  | some t =>
    have hne := (t.startsWithText format.indent depth).sql_ne_empty format.placeholder offset
    rw [surviving_cons hne, h]
    rfl

/-- The operands with a text are those that ask for something. -/
theorem map_surviving_ownTexts (nodes : List Node) (before : Connective) (offset : Nat) :
    (ownTexts format depth offset (linkedOperands before nodes)).map surviving =
      (linkedTerms before nodes).map (termTexts format depth offset) := by
  induction nodes generalizing before offset with
  | nil =>
    rw [linkedOperands, ownTexts, linkedTerms]
    rfl
  | cons node rest ih =>
    by_cases hc : node.isConnective
    · obtain ⟨c, rfl⟩ := Node.isConnective_iff.mp hc
      rw [linkedOperands, linkedTerms, ih]
    · rw [linkedOperands_cons hc, linkedTerms_cons hc, ownTexts]
      cases ht : node.term? with
      | error error =>
        rw [Node.ownText_of_term?_error ht]
        rfl
      | ok term =>
        have hrest := ih before (offset + (termText format depth offset term).params.length)
        rw [Node.ownText_of_term? ht]
        cases ho : ownTexts format depth
            (offset + (termText format depth offset term).params.length)
            (linkedOperands before rest) with
        | error error =>
          cases hl : linkedTerms before rest with
          | error error' =>
            rw [ho, hl] at hrest
            cases hrest
            change Except.map surviving (ownTexts .. >>= _) = _
            rw [ho]
            rfl
          | ok terms =>
            rw [ho, hl] at hrest
            cases hrest
        | ok texts =>
          cases hl : linkedTerms before rest with
          | error error =>
            rw [ho, hl] at hrest
            cases hrest
          | ok terms =>
            rw [ho, hl] at hrest
            change Except.map surviving (ownTexts .. >>= _) = _
            rw [ho]
            exact congrArg Except.ok
              (surviving_cons_termText format depth offset before term (Except.ok.inj hrest))

/-- A level is made of its operands with a text, joined by the connectives before them. -/
theorem levelText_eq_joinTexts {nodes : List Node} (h : Alternates nodes) (offset : Nat) :
    levelText format depth offset nodes =
      (ownTexts format depth offset (linkedOperands .and nodes)).map
        fun texts => joinTexts (surviving texts) := by
  have hreached : levelText format depth offset nodes =
      (linkedTerms .and nodes).map (reached format depth offset) := by
    rw [levelText, checkShape_eq_ok_iff.mpr h]
    cases linkedTerms .and nodes <;> rfl
  calc
    levelText format depth offset nodes
    _ = ((linkedTerms .and nodes).map (termTexts format depth offset)).map joinTexts := by
      rw [hreached, funext (reached_eq_joinTexts format depth offset)]
      cases linkedTerms .and nodes <;> rfl
    _ = ((ownTexts format depth offset (linkedOperands .and nodes)).map surviving).map
        joinTexts := by
      rw [map_surviving_ownTexts]
    _ = (ownTexts format depth offset (linkedOperands .and nodes)).map
        fun texts => joinTexts (surviving texts) := by
      cases ownTexts format depth offset (linkedOperands .and nodes) <;> rfl

end

theorem grow_append (format : Format) (depth offset : Nat) (text : Fragment) (a b : List Node) :
    grow format depth offset text (a ++ b) =
      grow format depth offset text a >>= fun text => grow format depth offset text b := by
  induction a generalizing text with
  | nil =>
    rw [List.nil_append, grow]
    rfl
  | cons node a ih =>
    by_cases hc : node.isConnective
    · obtain ⟨c, rfl⟩ := Node.isConnective_iff.mp hc
      rw [List.cons_append, grow, grow, ih]
    · rw [List.cons_append, grow_cons hc, grow_cons hc]
      cases node.grown format depth (offset + text.params.length) with
      | error error => rfl
      | ok own => exact ih (text.add own)

theorem Alternates.before_operand {before after : List Node} {operand : Node}
    (h : Alternates (before ++ operand :: after)) (ho : ¬ operand.isConnective) :
    before = [] ∨ ∃ earlier c, before = earlier ++ [.connective c] := by
  rcases List.eq_nil_or_concat' before with hb | ⟨earlier, last, rfl⟩
  · exact .inl hb
  · have hlength : (earlier ++ [last] ++ operand :: after).length =
        earlier.length + 1 + (after.length + 1) := by
      rw [List.length_append, List.length_append, List.length_singleton, List.length_cons]
    have hoperand := h.2 (earlier.length + 1) (by omega)
    have hlast := h.2 earlier.length (by omega)
    have hodd : earlier.length % 2 = 1 := by
      by_contra hn
      refine ho ?_
      simpa using hoperand.mpr (by omega)
    have hc : last.isConnective := by
      simpa using hlast.mpr hodd
    obtain ⟨c, rfl⟩ := Node.isConnective_iff.mp hc
    exact .inr ⟨earlier, c, rfl⟩

/-- When an operand is met, its level is empty or ends with the connective right before it, and that
is all that trimming takes back. -/
theorem trimConnective_of_grow {before after : List Node} {operand : Node}
    (h : Alternates (before ++ operand :: after)) (ho : ¬ operand.isConnective) {format : Format}
    {depth offset : Nat} {text : Fragment}
    (ht : grow format depth offset ⟨"", []⟩ before = .ok text) :
    before = [] ∧ text = ⟨"", []⟩ ∧ trimConnective text.sql = "" ∨
      ∃ earlier c prior, before = earlier ++ [.connective c] ∧
        grow format depth offset ⟨"", []⟩ earlier = .ok prior ∧ text = prior.connect c ∧
        trimConnective text.sql = prior.sql := by
  rcases h.before_operand ho with rfl | ⟨earlier, c, rfl⟩
  · rw [grow] at ht
    cases ht
    exact .inl ⟨rfl, rfl, trimConnective_empty⟩
  · rw [grow_append] at ht
    obtain ⟨prior, hp, ht⟩ := bind_eq_ok_iff.mp ht
    rw [grow, grow] at ht
    cases ht
    exact .inr ⟨earlier, c, prior, rfl, hp, rfl, prior.trimConnective_connect c⟩

theorem Node.ownText_group (g : Group) (format : Format) (depth offset : Nat) :
    (Node.group g).ownText format depth offset = (Where.ofGroup g).compile format offset := by
  have hs : checkShape [.group g] = .ok () := by
    rfl
  have hg : ¬ (Node.group g).isConnective := nofun
  rw [Where.compile_eq_levelText, Where.ofGroup, levelText, hs, linkedTerms_cons hg, linkedTerms,
    Node.ownText, Node.term?]
  cases ht : g.term? with
  | error error => rfl
  | ok term =>
    obtain ⟨conditions, _, rfl⟩ := Group.term?_eq_ok ht
    cases conditions with
    | nil => rfl
    | cons first rest =>
      have hlevel : levelTemplate format.indent 0 [(.and, .group first rest)] =
          (Term.group first rest).template format.indent depth := by
        rw [levelTemplate, linkedTemplate, List.append_nil, Term.template, Term.template]
      change _ = Except.ok ((levelTemplate format.indent 0 [(.and, .group first rest)]).fragment
        format.placeholder offset)
      rw [hlevel]
      rfl

/-- A level is the texts of its operands, those that have none left out with the connectives before
them; the same text comes about if connectives are appended and taken back. Trees and nested trees
are such levels, and what a group asks for is the same at every depth. -/
theorem levelText_joins (format : Format) :
    (∀ (tree : Where) (offset : Nat),
      tree.compile format offset = levelText format 0 offset tree.nodes) ∧
    (∀ (g : Group) (depth offset : Nat),
      (Node.group g).ownText format depth offset = (Where.ofGroup g).compile format offset) ∧
    (∀ (nodes : List Node) (depth offset : Nat),
      (Node.nested nodes).ownText format depth offset =
        (levelText format (depth + 1) offset nodes).map (Fragment.enclosed format.indent depth)) ∧
    ∀ nodes : List Node, Alternates nodes → ∀ depth offset : Nat,
      levelText format depth offset nodes =
        (ownTexts format depth offset (linkedOperands .and nodes)).map
          (fun texts => joinTexts (surviving texts)) ∧
      levelText format depth offset nodes = grow format depth offset ⟨"", []⟩ nodes ∧
      ∀ before operand after, nodes = before ++ operand :: after → ¬ operand.isConnective →
        ∀ text, grow format depth offset ⟨"", []⟩ before = .ok text →
          before = [] ∧ text = ⟨"", []⟩ ∧ trimConnective text.sql = "" ∨
          ∃ earlier c prior, before = earlier ++ [.connective c] ∧
            grow format depth offset ⟨"", []⟩ earlier = .ok prior ∧ text = prior.connect c ∧
            trimConnective text.sql = prior.sql := by
  refine ⟨fun tree => tree.compile_eq_levelText format, fun g => Node.ownText_group g format,
    fun nodes depth offset => Node.ownText_nested format depth offset nodes, ?_⟩
  intro nodes ha depth offset
  refine ⟨levelText_eq_joinTexts format depth ha offset,
    (grow_eq_levelText ha format depth offset).symm, ?_⟩
  rintro before operand after rfl ho text ht
  exact trimConnective_of_grow ha ho ht

/-- Columns whose names end like connectives, between operands that ask for nothing. -/
def joiningFruits : List Node :=
  [.group {}, .connective .or, .group (Group.withOperand {} "fruit OR " (.scalar .null)),
    .connective .and, .nested [.group {}, .connective .or, .group {}], .connective .or,
    .group (Group.withOperand {} "ripe AND " (.scalar (.int 1))), .connective .and, .group {}]

theorem levelText_joins_joiningFruits :
    Alternates joiningFruits ∧
      (Where.mk joiningFruits).compile ⟨.dollar, 2⟩ 2 =
        .ok ⟨"fruit OR  IS NULL OR ripe AND  = $3", [.int 1]⟩ ∧
      grow ⟨.dollar, 2⟩ 0 2 ⟨"", []⟩ joiningFruits =
        .ok ⟨"fruit OR  IS NULL OR ripe AND  = $3", [.int 1]⟩ := by
  have ha : Alternates joiningFruits := checkShape_eq_ok_iff.mp rfl
  have hown : ownTexts ⟨.dollar, 2⟩ 0 2 (linkedOperands .and joiningFruits) =
      .ok [(.and, ⟨"", []⟩), (.or, ⟨"fruit OR  IS NULL", []⟩), (.and, ⟨"", []⟩),
        (.or, ⟨"ripe AND  = $3", [.int 1]⟩), (.and, ⟨"", []⟩)] := by
    rfl
  obtain ⟨hcompile, _, _, hlevel⟩ := levelText_joins ⟨.dollar, 2⟩
  obtain ⟨hjoin, hgrow, _⟩ := hlevel joiningFruits ha 0 2
  have htext : levelText ⟨.dollar, 2⟩ 0 2 joiningFruits =
      .ok ⟨"fruit OR  IS NULL OR ripe AND  = $3", [.int 1]⟩ := by
    rw [hjoin, hown]
    rfl
  exact ⟨ha, (hcompile _ 2).trans htext, hgrow ▸ htext⟩

end Criteria
