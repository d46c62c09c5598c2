import Criteria.Proofs.Offences
import Criteria.TreeNotation

namespace Criteria

/-- What is wrong with an element that stands out of place at an index. -/
def ShapeFault.atIndex (index : Nat) : ShapeFault :=
  if index % 2 = 1 then .missingConnective index else .misplacedConnective index

theorem checkPosition_of_misplaced {index : Nat} {isConnective : Bool}
    (h : ¬ (isConnective ↔ index % 2 = 1)) :
    checkPosition index isConnective = .error (.shape (.atIndex index)) := by
  unfold checkPosition ShapeFault.atIndex
  by_cases hodd : index % 2 = 1
  · have hc : ¬ isConnective := fun hc => h (iff_of_true hc hodd)
    rw [if_pos ⟨hodd, hc⟩, if_pos hodd]
    rfl
  · have hc : isConnective := by
      by_contra hc
      exact h (iff_of_false hc hodd)
    have heven : index % 2 = 0 := by omega
    rw [if_neg fun ho => hodd ho.1, if_pos ⟨heven, hc⟩, if_neg hodd]
    rfl

/-- The first of some flags that is up at an even index or down at an odd one; the flags stand from
`index` on. -/
def FirstMisplaced (index : Nat) (flags : List Bool) (i : Nat) : Prop :=
  (∃ h : i < flags.length, ¬ (flags[i] ↔ (index + i) % 2 = 1)) ∧
    ∀ k (h : k < flags.length), k < i → (flags[k] ↔ (index + k) % 2 = 1)

theorem firstMisplaced_zero_iff {index : Nat} {flag : Bool} {flags : List Bool} :
    FirstMisplaced index (flag :: flags) 0 ↔ ¬ (flag ↔ index % 2 = 1) := by
  constructor
  · rintro ⟨⟨_, h⟩, _⟩
    exact h
  · intro h
    exact ⟨⟨Nat.zero_lt_succ _, h⟩, fun k _ hk => absurd hk k.not_lt_zero⟩

theorem firstMisplaced_succ_iff {index i : Nat} {flag : Bool} {flags : List Bool} :
    FirstMisplaced index (flag :: flags) (i + 1) ↔
      (flag ↔ index % 2 = 1) ∧ FirstMisplaced (index + 1) flags i := by
  have hshift : ∀ k, index + (k + 1) = index + 1 + k := by
    omega
  constructor
  · rintro ⟨⟨hi, hm⟩, hp⟩
    refine ⟨hp 0 (Nat.zero_lt_succ _) (Nat.zero_lt_succ _), ⟨by simpa using hi, ?_⟩, ?_⟩
    · rwa [List.getElem_cons_succ, hshift] at hm
    · intro k hk hki
      have h := hp (k + 1) (by simpa using hk) (by omega)
      rwa [List.getElem_cons_succ, hshift] at h
  · rintro ⟨hflag, ⟨hi, hm⟩, hp⟩
    refine ⟨⟨by simpa using hi, ?_⟩, ?_⟩
    · rwa [List.getElem_cons_succ, hshift]
    · intro k hk hki
      cases k with
      | zero => exact hflag
      | succ k =>
        have h := hp k (by simpa using hk) (by omega)
        rwa [List.getElem_cons_succ, hshift]

theorem exists_firstMisplaced {index : Nat} {flags : List Bool}
    (h : ∃ i, ∃ hi : i < flags.length, ¬ (flags[i] ↔ (index + i) % 2 = 1)) :
    ∃ i, FirstMisplaced index flags i := by
  induction flags generalizing index with
  | nil =>
    obtain ⟨i, hi, _⟩ := h
    exact absurd hi i.not_lt_zero
  | cons flag flags ih =>
    by_cases hflag : flag ↔ index % 2 = 1
    · obtain ⟨i, hi, hm⟩ := h
      cases i with
      | zero => exact absurd hflag hm
      | succ i =>
        have hrest : ∃ i, ∃ hi : i < flags.length, ¬ (flags[i] ↔ (index + 1 + i) % 2 = 1) := by
          refine ⟨i, by simpa using hi, ?_⟩
          rwa [List.getElem_cons_succ, show index + (i + 1) = index + 1 + i by omega] at hm
        obtain ⟨j, hj⟩ := ih hrest
        exact ⟨j + 1, firstMisplaced_succ_iff.mpr ⟨hflag, hj⟩⟩
    · exact ⟨0, firstMisplaced_zero_iff.mpr hflag⟩

/-- The error of the first element whose content is at fault; the elements stand from `index` on. -/
def firstContentFault? (index : Nat) (items : List Json) : Option BuildError :=
  (items.zipIdx index).findSome? fun place => failure? (Where.readNode place.2 place.1)

theorem firstContentFault?_cons (index : Nat) (item : Json) (rest : List Json) :
    firstContentFault? index (item :: rest) =
      (failure? (Where.readNode index item)).or (firstContentFault? (index + 1) rest) := by
  rw [firstContentFault?, List.zipIdx_cons, List.findSome?_cons]
  cases failure? (Where.readNode index item) with
  | none => rfl
  | some error => rfl

/-- Up to the first element out of place, each is read before the next one is judged. -/
theorem readNodes_of_firstMisplaced {index i : Nat} {items : List Json}
    (h : FirstMisplaced index (items.map Json.isString) i) :
    Where.readNodes index items =
      .error ((firstContentFault? index (items.take i)).getD (.shape (.atIndex (index + i)))) := by
  induction items generalizing index i with
  | nil =>
    obtain ⟨⟨hi, _⟩, _⟩ := h
    exact absurd hi i.not_lt_zero
  | cons item rest ih =>
    rw [List.map_cons] at h
    cases i with
    | zero =>
      rw [Where.readNodes, checkPosition_of_misplaced (firstMisplaced_zero_iff.mp h)]
      rfl
    | succ i =>
      obtain ⟨hplace, hrest⟩ := firstMisplaced_succ_iff.mp h
      rw [Where.readNodes, checkPosition_eq_ok_iff.mpr hplace, List.take_succ_cons,
        firstContentFault?_cons]
      cases hnode : Where.readNode index item with
      | error error => rfl
      | ok node =>
        have hread := ih hrest
        rw [show index + 1 + i = index + (i + 1) by omega] at hread
        rw [failure?, Option.none_or, hread]
        rfl

theorem checkAlternation_of_firstMisplaced {index i : Nat} {nodes : List Node}
    (h : FirstMisplaced index (nodes.map Node.isConnective) i) :
    checkAlternation index nodes = .error (.shape (.atIndex (index + i))) := by
  induction nodes generalizing index i with
  | nil =>
    obtain ⟨⟨hi, _⟩, _⟩ := h
    exact absurd hi i.not_lt_zero
  | cons node rest ih =>
    rw [List.map_cons] at h
    cases i with
    | zero =>
      rw [checkAlternation, checkPosition_of_misplaced (firstMisplaced_zero_iff.mp h)]
      rfl
    | succ i =>
      obtain ⟨hplace, hrest⟩ := firstMisplaced_succ_iff.mp h
      have hcheck := ih hrest
      rw [show index + 1 + i = index + (i + 1) by omega] at hcheck
      rw [checkAlternation, checkPosition_eq_ok_iff.mpr hplace]
      exact hcheck

theorem checkLength_of_even {length : Nat} (h : length % 2 = 0) :
    checkLength length = .error (.shape .evenLength) :=
  if_pos h

namespace Where

theorem compile_of_checkShape {tree : Where} {error : BuildError}
    (h : checkShape tree.nodes = .error error) (format : Format) (offset : Nat) :
    tree.compile format offset = .error error := by
  rw [compile, template, clause?, h]
  rfl

/-- An even number of elements is refused before any of them is looked at. With an odd number the
first element out of place is refused, as in a level that was put together by hand, unless the
content of an element before it is at fault: elements are judged and read in one go. -/
theorem ofJson_of_misplaced (items : List Json) (nodes : List Node)
    (hnodes : nodes.map Node.isConnective = items.map Json.isString) (format : Format)
    (offset : Nat) :
    (items.length % 2 = 0 →
      ofJson (.array items) = .error (.shape .evenLength) ∧
      (Where.mk nodes).compile format offset = .error (.shape .evenLength)) ∧
    (items.length % 2 = 1 →
      ((∃ i, ∃ h : i < items.length, ¬ (items[i].isString ↔ i % 2 = 1)) →
        ∃ i, FirstMisplaced 0 (items.map Json.isString) i) ∧
      ∀ i, FirstMisplaced 0 (items.map Json.isString) i →
        (Where.mk nodes).compile format offset = .error (.shape (.atIndex i)) ∧
        ofJson (.array items) =
          .error ((firstContentFault? 0 (items.take i)).getD (.shape (.atIndex i)))) := by
  have hlength : nodes.length = items.length := by
    simpa using congrArg List.length hnodes
  constructor
  · intro heven
    refine ⟨?_, compile_of_checkShape ?_ format offset⟩
    · rw [ofJson, readLevel, checkLength_of_even heven]
      rfl
    · rw [checkShape, checkLength_of_even (hlength ▸ heven)]
      rfl
  · intro hodd
    constructor
    · rintro ⟨i, hi, hm⟩
      refine exists_firstMisplaced ⟨i, by simpa using hi, ?_⟩
      rwa [List.getElem_map, Nat.zero_add]
    · intro i hfirst
      refine ⟨compile_of_checkShape ?_ format offset, ?_⟩
      · have h := checkAlternation_of_firstMisplaced (hnodes ▸ hfirst)
        rw [Nat.zero_add] at h
        rw [checkShape, checkLength_eq_ok_iff.mpr (hlength ▸ hodd)]
        exact h
      · have h := readNodes_of_firstMisplaced hfirst
        rw [Nat.zero_add] at h
        rw [ofJson, readLevel, checkLength_eq_ok_iff.mpr hodd]
        change Where.mk <$> readNodes 0 items = _
        rw [h]
        rfl

/-- A missing connective, with a misspelled one and a boolean behind it that are not looked at. -/
def looseFruits : List Json :=
  [.object [("ripe", .null)], .string "or", .object [], .object [("ripe", .bool true)],
    .string "nand"]

theorem ofJson_of_misplaced_looseFruits :
    FirstMisplaced 0 (looseFruits.map Json.isString) 3 ∧
      (Where.mk [.group {}, .connective .or, .group {}, .group {}, .connective .and]).compile =
        .error (.shape (.missingConnective 3)) ∧
      ofJson (.array looseFruits) = .error (.shape (.missingConnective 3)) := by
  have hfirst : FirstMisplaced 0 (looseFruits.map Json.isString) 3 :=
    ⟨⟨by decide, by decide⟩, by decide⟩
  have hnodes : [Node.group {}, .connective .or, .group {}, .group {}, .connective .and].map
      Node.isConnective = looseFruits.map Json.isString := by
    rfl
  have hread : firstContentFault? 0 (looseFruits.take 3) = none := by
    rfl
  have h := ((ofJson_of_misplaced looseFruits _ hnodes {} 0).2 rfl).2 3 hfirst
  rw [hread] at h
  exact ⟨hfirst, h⟩

/-- A misspelled connective is reported although a connective is missing behind it, which is what a
level with connectives in the same places is refused for. -/
theorem ofJson_of_misspelled :
    ofJson (.array [.object [], .string "xor", .object [], .object [], .object []]) =
      .error (.connective "xor") ∧
    (Where.mk [.group {}, .connective .or, .group {}, .group {}, .group {}]).compile =
      .error (.shape (.missingConnective 3)) := by
  constructor
  · rfl
  · rfl

end Where

end Criteria
