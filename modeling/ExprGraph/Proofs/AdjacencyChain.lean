import ExprGraph.Proofs.Adjacency
import Mathlib.Data.List.Nodup

/-!
Chains of neighbouring addresses.  Going on to the next element counts up by exactly one and stops
at the last offset there is, so a chain of any length is a stretch of one buffer, and none comes
back to where it started.  Main statement: `chain_consecutive`.
-/

namespace ExprGraph.Address

/-- The addresses are a stretch of one buffer that begins with the first of them, with offsets that
are counted in exact integers. -/
structure Consecutive (first : Address) (rest : List Address) : Prop where
  buffer : ∀ address ∈ first :: rest, address.buffer = first.buffer
  element : ∀ address ∈ first :: rest, address.element = first.element
  displaced : ∀ (index : Nat) (address : Address), (first :: rest)[index]? = some address →
    address = first.withOffset (.ofInt (first.offset.toInt + index)) ∧
      address.offset.toInt = first.offset.toInt + index
  last : ∃ last, (first :: rest)[rest.length]? = some last ∧
    last = first.withOffset (.ofInt (first.offset.toInt + rest.length))
  bounded : first.offset.toInt + rest.length ≤ Int64.maxValue.toInt
  distinct : (first :: rest).Nodup
  noReturn : ∀ address ∈ rest, address ≠ first ∧ address.isPriorTo first = false

structure Neighbours (address : Address) : Prop where
  next_unique : ∀ first second : Address, address.isPriorTo first = true →
    address.isPriorTo second = true → first = second
  previous_unique : ∀ first second : Address, first.isPriorTo address = true →
    second.isPriorTo address = true → first = second
  next_iff : (∃ next, address.isPriorTo next = true) ↔
    address.offset.toInt < Int64.maxValue.toInt
  previous_iff : (∃ previous : Address, previous.isPriorTo address = true) ↔
    Int64.minValue.toInt < address.offset.toInt

theorem sameStorage_iff (left right : Address) :
    left.sameStorage right = true ↔ left.buffer = right.buffer ∧ left.element = right.element := by
  simp [sameStorage]

theorem eq_of_storage_of_offset {left right : Address} (same : left.sameStorage right = true)
    (offset : left.offset.toInt = right.offset.toInt) : left = right := by
  obtain ⟨buffer, element⟩ := (sameStorage_iff left right).mp same
  have sameOffset := Int64.toInt_inj.mp offset
  cases left
  cases right
  cases buffer
  cases element
  cases sameOffset
  rfl

theorem eq_withOffset {first address : Address} {offset : Int}
    (same : first.sameStorage address = true) (isOffset : address.offset.toInt = offset) :
    address = first.withOffset (.ofInt offset) := by
  have below := address.offset.toInt_lt
  have above := address.offset.le_toInt
  refine (eq_of_storage_of_offset ?_ ?_).symm
  · exact same
  · rw [withOffset, Int64.toInt_ofInt_of_le (by omega) (by omega), isOffset]

theorem exists_displaced (address : Address) (offset : Int) (low : -0x8000000000000000 ≤ offset)
    (high : offset < 0x8000000000000000) :
    ∃ other : Address, address.sameStorage other = true ∧ other.sameStorage address = true ∧
      other.offset.toInt = offset :=
  ⟨address.withOffset (.ofInt offset), by simp [sameStorage_iff, withOffset],
    by simp [sameStorage_iff, withOffset], Int64.toInt_ofInt_of_le (by omega) (by omega)⟩

section

variable {first : Address} {rest : List Address}

theorem offset_of_chain
    (chain : (first :: rest).IsChain (fun before after => before.isPriorTo after = true)) :
    ∀ (index : Nat) (address : Address), (first :: rest)[index]? = some address →
      first.sameStorage address = true ∧
        address.offset.toInt = first.offset.toInt + index := by
  induction rest generalizing first with
  | nil =>
      intro index address found
      cases index with
      | zero =>
          obtain rfl := Option.some.inj found
          simp [sameStorage_iff]
      | succ index => cases found
  | cons second rest ih =>
      obtain ⟨prior, later⟩ := List.isChain_cons_cons.mp chain
      obtain ⟨storage, next⟩ := (isPriorTo_iff first second).mp prior
      intro index address found
      cases index with
      | zero =>
          obtain rfl := Option.some.inj found
          simp [sameStorage_iff]
      | succ index =>
          obtain ⟨same, offset⟩ := ih later index address found
          rw [sameStorage_iff] at same storage ⊢
          refine ⟨⟨storage.1.trans same.1, storage.2.trans same.2⟩, ?_⟩
          omega

theorem nodup_of_chain
    (chain : (first :: rest).IsChain (fun before after => before.isPriorTo after = true)) :
    (first :: rest).Nodup := by
  rw [List.nodup_iff_getElem?_ne_getElem?]
  intro index later before bound same
  have isLater := List.getElem?_eq_getElem bound
  have offset := (offset_of_chain chain later _ isLater).2
  have sameOffset := (offset_of_chain chain index _ (same.trans isLater)).2
  omega

theorem consecutive_of_chain
    (chain : (first :: rest).IsChain (fun before after => before.isPriorTo after = true)) :
    first.Consecutive rest := by
  have displaced := offset_of_chain chain
  have storage : ∀ address ∈ first :: rest, first.sameStorage address = true := by
    intro address member
    obtain ⟨index, found⟩ := List.mem_iff_getElem?.mp member
    exact (displaced index address found).1
  have distinct := nodup_of_chain chain
  have isLast : (first :: rest)[rest.length]? = some ((first :: rest)[rest.length]) :=
    List.getElem?_eq_getElem (by simp)
  obtain ⟨sameLast, lastOffset⟩ := displaced _ _ isLast
  constructor
  case buffer =>
    intro address member
    exact ((sameStorage_iff _ _).mp (storage address member)).1.symm
  case element =>
    intro address member
    exact ((sameStorage_iff _ _).mp (storage address member)).2.symm
  case displaced =>
    intro index address found
    obtain ⟨same, offset⟩ := displaced index address found
    exact ⟨eq_withOffset same offset, offset⟩
  case last => exact ⟨_, isLast, eq_withOffset sameLast lastOffset⟩
  case bounded =>
    have below := (first :: rest)[rest.length].offset.toInt_lt
    rw [Int64.toInt_maxValue]
    omega
  case distinct => exact distinct
  case noReturn =>
    intro address member
    obtain ⟨index, found⟩ := List.mem_iff_getElem?.mp member
    have offset := (displaced (index + 1) address found).2
    constructor
    · rintro rfl
      exact (List.nodup_cons.mp distinct).1 member
    · -- The first address would have to stand one place behind a later one.
      rw [Bool.eq_false_iff]
      intro closes
      have next := ((isPriorTo_iff _ _).mp closes).2
      omega

end

theorem neighbours (address : Address) : address.Neighbours where
  next_unique := by
    intro first second isFirst isSecond
    obtain ⟨one, next⟩ := (isPriorTo_iff _ _).mp isFirst
    obtain ⟨other, nextAgain⟩ := (isPriorTo_iff _ _).mp isSecond
    rw [sameStorage_iff] at one other
    apply eq_of_storage_of_offset
    · exact (sameStorage_iff _ _).mpr ⟨one.1.symm.trans other.1, one.2.symm.trans other.2⟩
    · exact next.trans nextAgain.symm
  previous_unique := by
    intro first second isFirst isSecond
    obtain ⟨one, next⟩ := (isPriorTo_iff _ _).mp isFirst
    obtain ⟨other, nextAgain⟩ := (isPriorTo_iff _ _).mp isSecond
    rw [sameStorage_iff] at one other
    apply eq_of_storage_of_offset
    · exact (sameStorage_iff _ _).mpr ⟨one.1.trans other.1.symm, one.2.trans other.2.symm⟩
    · omega
  next_iff := by
    have above := address.offset.le_toInt
    rw [Int64.toInt_maxValue]
    constructor
    · rintro ⟨next, prior⟩
      have offset := ((isPriorTo_iff _ _).mp prior).2
      have below := next.offset.toInt_lt
      omega
    · intro notLast
      obtain ⟨next, same, _, offset⟩ := exists_displaced address
        (address.offset.toInt + 1) (by omega) (by omega)
      exact ⟨next, (isPriorTo_iff _ _).mpr ⟨same, offset⟩⟩
  previous_iff := by
    have below := address.offset.toInt_lt
    rw [Int64.toInt_minValue]
    constructor
    · rintro ⟨previous, prior⟩
      have offset := ((isPriorTo_iff _ _).mp prior).2
      have above := previous.offset.le_toInt
      omega
    · intro notFirst
      obtain ⟨previous, _, same, offset⟩ := exists_displaced address
        (address.offset.toInt - 1) (by omega) (by omega)
      exact ⟨previous, (isPriorTo_iff _ _).mpr ⟨same, by omega⟩⟩

/-- A chain of any length is a stretch of one buffer and never wraps around; and every address has
at most one neighbour on each side, none only at the two ends of the offsets. -/
theorem chain_consecutive (first : Address) (rest : List Address)
    (chain : (first :: rest).IsChain (fun before after => before.isPriorTo after = true)) :
    first.Consecutive rest ∧ ∀ address : Address, address.Neighbours :=
  ⟨consecutive_of_chain chain, neighbours⟩

def lastElements : List Address :=
  [⟨"x", .float32, Int64.maxValue - 1⟩, ⟨"x", .float32, Int64.maxValue⟩]

theorem lastElements_consecutive :
    (⟨"x", .float32, Int64.maxValue - 2⟩ :: lastElements).IsChain
        (fun before after => before.isPriorTo after = true) ∧
      Consecutive ⟨"x", .float32, Int64.maxValue - 2⟩ lastElements ∧
        ∀ address : Address, address.Neighbours :=
  ⟨by decide, chain_consecutive _ _ (by decide)⟩

end ExprGraph.Address
