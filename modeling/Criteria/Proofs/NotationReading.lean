import Criteria.Proofs.Notation

namespace Criteria

/-! Readers return what is denoted, and nothing else. -/

theorem Connective.ofText?_eq_some_iff {text : String} {c : Connective} :
    ofText? text = some c ↔ text ∈ c.spellings := by
  unfold ofText?
  split
  next h => rcases h with rfl | rfl <;> cases c <;> simp [spellings]
  next h =>
    split
    next h' => rcases h' with rfl | rfl <;> cases c <;> simp [spellings]
    next h' => cases c <;> simp_all [spellings]

theorem Connective.read_eq_ok_iff {text : String} {c : Connective} :
    Connective.read text = .ok c ↔ text ∈ c.spellings := by
  rw [← ofText?_eq_some_iff, read]
  cases h : ofText? text with
  | none => exact iff_of_false nofun nofun
  | some found => exact ⟨fun e => congrArg some (Except.ok.inj e), fun e => by cases e; rfl⟩

namespace Value

theorem read_eq_ok_iff {j : Json} {value : Value} :
    Value.read j = .ok value ↔ j.DenotesValue value := by
  constructor
  · intro h
    cases j with
    | null => cases h; exact .null
    | number n => cases h; exact denotes_ofNumber n
    | string s => cases h; exact .text s
    | _ => cases h
  · intro h
    cases h with
    | null => rfl
    | text s => rfl
    | integer n => exact congrArg Except.ok (ofNumber_toInt n)
    | wide hw => exact congrArg Except.ok (ofNumber_wide hw)
    | real x => rfl

theorem readElement_eq_ok_iff {j : Json} {value : Value} :
    Value.readElement j = .ok value ↔ j.DenotesValue value := by
  rw [← read_eq_ok_iff]
  cases j with
  | array items => exact iff_of_false nofun nofun
  | object members => exact iff_of_false nofun nofun
  | _ => exact Iff.rfl

end Value

theorem Operand.read_eq_ok_iff {j : Json} {operand : Operand} :
    Operand.read j = .ok operand ↔ j.DenotesOperand operand := by
  constructor
  · intro h
    by_cases ha : ∃ items, j = .array items
    · obtain ⟨items, rfl⟩ := ha
      obtain ⟨values, hv, h⟩ := bind_eq_ok_iff.mp h
      cases h
      exact .list ((mapM_eq_ok_iff.mp hv).imp fun _ _ => Value.readElement_eq_ok_iff.mp)
    · rw [read.eq_2 j fun items hj => ha ⟨items, hj⟩] at h
      obtain ⟨value, hv, h⟩ := bind_eq_ok_iff.mp h
      cases h
      exact .scalar (Value.read_eq_ok_iff.mp hv)
  · intro h
    cases h with
    | scalar hv =>
      have hr := Value.read_eq_ok_iff.mpr hv
      rw [read.eq_2 j]
      · exact bind_eq_ok_iff.mpr ⟨_, hr, rfl⟩
      · rintro items rfl
        cases hv
    | list hv =>
      have hr := mapM_eq_ok_iff.mpr (hv.imp fun _ _ => Value.readElement_eq_ok_iff.mpr)
      exact bind_eq_ok_iff.mpr ⟨_, hr, rfl⟩

namespace Group

theorem readEntry_eq_ok_iff {member : String × Json} {entry : String × Option Operand} :
    readEntry member = .ok entry ↔ entry.1 = member.1 ∧
      ∃ operand, entry.2 = some operand ∧ member.2.DenotesOperand operand := by
  rw [readEntry]
  constructor
  · intro h
    split at h
    next operand ho =>
      cases h
      exact ⟨rfl, operand, rfl, Operand.read_eq_ok_iff.mp ho⟩
    next => cases h
  · rintro ⟨hk, operand, hs, hd⟩
    rw [Operand.read_eq_ok_iff.mpr hd]
    exact congrArg Except.ok (Prod.ext hk.symm hs.symm)

theorem read_eq_ok_iff {members : List (String × Json)} {g : Group} :
    Group.read members = .ok g ↔ Json.DenotesGroup members g := by
  have hpairs (entries : List (String × Option Operand)) :
      (Keyed.ofList members).entries.mapM readEntry = .ok entries ↔
        List.Forall₂ (fun member entry => entry.1 = member.1 ∧
          ∃ operand, entry.2 = some operand ∧ member.2.DenotesOperand operand)
          (Keyed.lastValues members) entries := by
    rw [mapM_eq_ok_iff, Keyed.entries_ofList]
    simp only [readEntry_eq_ok_iff]
  constructor
  · intro h
    obtain ⟨entries, he, h⟩ := bind_eq_ok_iff.mp h
    cases h
    have hd := (hpairs entries).mp he
    rwa [Json.DenotesGroup,
      Keyed.entries_ofList_of_nodup (nodup_keys_of_forall₂ (hd.imp fun _ _ h => h.1))]
  · intro h
    refine bind_eq_ok_iff.mpr ⟨g.entries, (hpairs g.entries).mpr h, ?_⟩
    rw [Keyed.ofList_entries]
    rfl

end Group

namespace Where

theorem map_eq_ok_iff {α β ε : Type} {f : α → β} {x : Except ε α} {b : β} :
    f <$> x = .ok b ↔ ∃ a, x = .ok a ∧ f a = b := by
  cases x with
  | error e => exact ⟨nofun, fun ⟨_, h, _⟩ => nomatch h⟩
  | ok a => simp [Functor.map, Except.map]

theorem readNode_string_eq_ok_iff {index : Nat} {text : String} {node : Node} :
    readNode index (.string text) = .ok node ↔ (Json.string text).DenotesElement node := by
  rw [readNode, map_eq_ok_iff]
  constructor
  · rintro ⟨c, hc, rfl⟩
    exact .inl ⟨c, rfl, text, Connective.read_eq_ok_iff.mp hc, rfl⟩
  · rintro (⟨c, rfl, _, ht, h⟩ | h)
    · cases h
      exact ⟨c, Connective.read_eq_ok_iff.mpr ht, rfl⟩
    · cases h

theorem readNode_object_eq_ok_iff {index : Nat} {members : List (String × Json)} {node : Node} :
    readNode index (.object members) = .ok node ↔ (Json.object members).DenotesElement node := by
  rw [readNode, map_eq_ok_iff]
  constructor
  · rintro ⟨g, hg, rfl⟩
    exact .inr (.group (Group.read_eq_ok_iff.mp hg))
  · rintro (h | h)
    · exact absurd h.isString Bool.false_ne_true
    · cases h with
      | group hg => exact ⟨_, Group.read_eq_ok_iff.mpr hg, rfl⟩

/-- A level, the elements from an index on, and one element: each is read as the nodes that it
denotes. -/
theorem readLevel_eq_ok_iff :
    (∀ j nodes, readLevel j = .ok nodes ↔ j.DenotesLevel nodes) ∧
    (∀ index items nodes, readNodes index items = .ok nodes ↔ Json.DenotesFrom index items nodes) ∧
    ∀ index j node, readNode index j = .ok node ↔ j.DenotesElement node := by
  apply readLevel.mutual_induct (fun j => ∀ nodes, readLevel j = .ok nodes ↔ j.DenotesLevel nodes)
    (fun index items => ∀ nodes, readNodes index items = .ok nodes ↔
      Json.DenotesFrom index items nodes)
    (fun index j => ∀ node, readNode index j = .ok node ↔ j.DenotesElement node)
  -- cases 1 and 2: a level is an array
  case case1 =>
    intro items ih nodes
    rw [readLevel, bind_eq_ok_iff, Json.denotesLevel_array_iff, ← ih]
    exact ⟨fun ⟨_, hl, hr⟩ => ⟨checkLength_eq_ok_iff.mp hl, hr⟩,
      fun ⟨hl, hr⟩ => ⟨(), checkLength_eq_ok_iff.mpr hl, hr⟩⟩
  case case2 =>
    intro j hj nodes
    rw [readLevel.eq_2 j hj]
    refine ⟨nofun, ?_⟩
    rintro ⟨⟩
    exact absurd rfl (hj _)
  -- cases 3 to 7 are those of an element; an array is one if it wraps a level
  case case3 => exact fun _ _ _ => readNode_string_eq_ok_iff
  case case4 => exact fun _ _ _ => readNode_object_eq_ok_iff
  case case5 =>
    intro index inner ih node
    rw [readNode, map_eq_ok_iff]
    constructor
    · rintro ⟨nodes, hn, rfl⟩
      exact .inr (.nested ((ih nodes).mp hn))
    · rintro (h | h)
      · exact absurd h.isString Bool.false_ne_true
      · cases h with
        | nested hl => exact ⟨_, (ih _).mpr hl, rfl⟩
  case case6 =>
    intro index items hi node
    rw [readNode.eq_4 index items hi]
    refine ⟨nofun, ?_⟩
    rintro (h | h)
    · exact absurd h.isString Bool.false_ne_true
    · cases h
      exact absurd rfl (hi _)
  case case7 =>
    intro index j hs ho hi ha node
    rw [readNode.eq_5 index j hs ho hi ha]
    refine ⟨nofun, ?_⟩
    rintro (⟨_, _, _, _, rfl⟩ | h)
    · exact absurd rfl (hs _)
    · cases h with
      | group _ => exact absurd rfl (ho _)
      | nested _ => exact absurd rfl (hi _)
  -- cases 8 and 9: the elements of a level, each judged by its index before it is read
  case case8 =>
    intro index nodes
    rw [readNodes, Json.denotesFrom_nil_iff]
    exact ⟨fun h => (Except.ok.inj h).symm, fun h => congrArg Except.ok h.symm⟩
  case case9 =>
    intro index item rest ih ihRest nodes
    rw [readNodes, bind_eq_ok_iff, Json.denotesFrom_cons_iff]
    constructor
    · rintro ⟨_, hp, h⟩
      obtain ⟨node, hn, h⟩ := bind_eq_ok_iff.mp h
      obtain ⟨nodes', hr, h⟩ := bind_eq_ok_iff.mp h
      cases h
      have ha := Json.denotesAt_iff.mpr ⟨checkPosition_eq_ok_iff.mp hp, (ih node).mp hn⟩
      exact ⟨node, nodes', rfl, ha, (ihRest nodes').mp hr⟩
    · rintro ⟨node, nodes', rfl, ha, hr⟩
      obtain ⟨hp, hn⟩ := Json.denotesAt_iff.mp ha
      refine ⟨(), checkPosition_eq_ok_iff.mpr hp, bind_eq_ok_iff.mpr ⟨node, (ih node).mpr hn, ?_⟩⟩
      exact bind_eq_ok_iff.mpr ⟨nodes', (ihRest nodes').mpr hr, rfl⟩

theorem ofJson_eq_ok_iff {j : Json} {tree : Where} :
    ofJson j = .ok tree ↔ j.DenotesLevel tree.nodes := by
  rw [ofJson, map_eq_ok_iff, ← readLevel_eq_ok_iff.1]
  exact ⟨fun ⟨_, hn, h⟩ => h ▸ hn, fun h => ⟨tree.nodes, h, rfl⟩⟩

end Where

/-! What is written out denotes what it was written from. -/

def Value.isFinite : Value → Bool
  | .float x => x.isFinite
  | .null | .int _ | .text _ => true

def Operand.isFinite (operand : Operand) : Bool := operand.values.all Value.isFinite

mutual

/-- Every entry has an operand, and its numbers are finite. -/
def Node.isWritable : Node → Bool
  | .group g => g.entries.all fun entry => entry.2.any Operand.isFinite
  | .connective _ => true
  | .nested nodes => allWritable nodes

def allWritable : List Node → Bool
  | [] => true
  | node :: rest => node.isWritable && allWritable rest

end

theorem Value.denotes_toJson {value : Value} (h : value.isFinite) :
    value.toJson.DenotesValue value := by
  cases value with
  | null => exact .null
  | int n => exact .integer n
  | text s => exact .text s
  | float x =>
    cases x with
    | finite negative rank => exact .real _
    | _ => cases h

theorem Operand.denotes_toJson {operand : Operand} (h : operand.isFinite) :
    (Operand.toJson (some operand)).DenotesOperand operand := by
  have hv : ∀ value ∈ operand.values, value.toJson.DenotesValue value :=
    fun value hm => Value.denotes_toJson (List.all_eq_true.mp h value hm)
  cases operand with
  | scalar value => exact .scalar (hv value (List.mem_singleton_self value))
  | list values => exact .list (List.forall₂_map_left_iff.mpr (List.forall₂_same.mpr hv))

theorem Group.denotes_toJson {g : Group} (h : (Node.group g).isWritable) :
    g.toJson.DenotesPart (.group g) := by
  rw [Node.isWritable, List.all_eq_true] at h
  refine .group ?_
  rw [Json.DenotesGroup, Keyed.lastValues_of_nodup, List.forall₂_map_left_iff, List.forall₂_same]
  · rintro ⟨key, operand⟩ he
    have hf := h _ he
    cases operand with
    | none => cases hf
    | some operand => exact ⟨rfl, operand, rfl, Operand.denotes_toJson hf⟩
  · rw [List.map_map]
    exact g.nodup_keys

theorem Connective.denotes_toJson (c : Connective) :
    (Node.connective c).toJson.DenotesConnective (.connective c) := by
  rw [Node.toJson]
  refine ⟨c, rfl, c.keyword, ?_, rfl⟩
  cases c <;> decide

theorem Node.listToJson_eq_map (nodes : List Node) : listToJson nodes = nodes.map toJson := by
  induction nodes with
  | nil => rw [listToJson, List.map_nil]
  | cons node rest ih => rw [listToJson, List.map_cons, ih]

theorem denotesLevel_toJson {nodes : List Node} (ha : Alternates nodes)
    (h : ∀ node ∈ nodes, node.toJson.DenotesElement node) :
    (Json.array (Node.listToJson nodes)).DenotesLevel nodes := by
  rw [Node.listToJson_eq_map, Json.denotesLevel_array_iff, List.length_map]
  refine ⟨ha.1, by rw [List.length_map], fun i hi hi' => ?_⟩
  have hd := h nodes[i] (List.getElem_mem hi')
  rw [Nat.zero_add, List.getElem_map, Json.denotesAt_iff]
  exact ⟨hd.isString_iff.trans (ha.2 i hi'), hd⟩

mutual

theorem Node.denotes_toJson : ∀ node : Node, node.WellShaped → node.isWritable →
    node.toJson.DenotesElement node
  | .group g, _, hf => by
    rw [Node.toJson]
    exact .inr (Group.denotes_toJson hf)
  | .connective c, _, _ => .inl c.denotes_toJson
  | .nested nodes, hw, hf => by
    rw [Node.WellShaped] at hw
    rw [Node.isWritable] at hf
    rw [Node.toJson]
    exact .inr (.nested (denotesLevel_toJson hw.1 (denotes_listToJson nodes hw.2 hf)))

theorem denotes_listToJson : ∀ nodes : List Node, AllWellShaped nodes → allWritable nodes →
    ∀ node ∈ nodes, node.toJson.DenotesElement node
  | [], _, _ => fun _ h => nomatch h
  | first :: rest, hw, hf => by
    obtain ⟨hfirst, hrest⟩ := Bool.and_eq_true_iff.mp hf
    rw [List.forall_mem_cons]
    exact ⟨first.denotes_toJson hw.1 hfirst, denotes_listToJson rest hw.2 hrest⟩

end

namespace Where

theorem ofJson_toJson {tree : Where} (hw : tree.WellShaped) (hf : allWritable tree.nodes) :
    ofJson tree.toJson = .ok tree :=
  ofJson_eq_ok_iff.mpr (denotesLevel_toJson hw.1 (denotes_listToJson tree.nodes hw.2 hf))

/-- Exactly the notation is read: as the tree that it denotes, and as the tree that was written out,
if that is well-shaped, has no absent entries and holds finite numbers. -/
theorem ofJson_faithful :
    (∀ j : Json, (∃ tree, ofJson j = .ok tree) ↔ j.IsLevel) ∧
    (∀ (j : Json) (tree : Where), ofJson j = .ok tree ↔ j.DenotesLevel tree.nodes) ∧
    ∀ tree : Where, tree.WellShaped → allWritable tree.nodes → ofJson tree.toJson = .ok tree := by
  refine ⟨fun j => ?_, fun j tree => ofJson_eq_ok_iff, fun tree hw hf => ofJson_toJson hw hf⟩
  rw [Json.isLevel_iff]
  constructor
  · rintro ⟨tree, h⟩
    exact ⟨tree.nodes, ofJson_eq_ok_iff.mp h⟩
  · rintro ⟨nodes, h⟩
    exact ⟨⟨nodes⟩, ofJson_eq_ok_iff.mpr h⟩

def notedFruits : Where :=
  ((Where.ofGroup (Group.withOperand {} "!id" (.list [.int (-5), .null]))).orNested
    ((Where.ofGroup {}).and (Group.withOperand {} "%name" (.scalar (.text "k%"))))).and
    (Group.withOperand {} "<weight" (.scalar (.float (.finite true ⟨7, by decide⟩))))

theorem ofJson_faithful_notedFruits :
    notedFruits.WellShaped ∧ allWritable notedFruits.nodes ∧
      ofJson notedFruits.toJson = .ok notedFruits := by
  have hc : ∃ clause, notedFruits.clause? = .ok clause := ⟨_, rfl⟩
  have hw : notedFruits.WellShaped := hc.elim fun _ => Where.wellShaped_of_clause?
  have hf : allWritable notedFruits.nodes := by
    rfl
  exact ⟨hw, hf, ofJson_faithful.2.2 notedFruits hw hf⟩

end Where

end Criteria
