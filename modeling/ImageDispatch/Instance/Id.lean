import ImageDispatch.Text.Record

/-!
# Instance ids

An id is a number that is not negative: the index of a slot in its low ten bits, and the
generation of the slot in the 21 bits above.

* `InstanceId.place?`: the slot and the generation that a raw number names, if it is not negative.
* `place?_compose`, `compose_of_place?`: places and ids correspond.
-/

namespace ImageDispatch

/-- Number of slots in an instance table. -/
def slotCount : Nat := 1024

/-- Number of generations of a slot, as many as numbers of 21 bits, after which they start again. -/
def generationCount : Nat := 0x200000

/-- The index of a slot. -/
abbrev SlotIndex := Fin slotCount

/-- The generation of a slot. It wraps around. -/
abbrev Generation := Fin generationCount

instance : @NeZero Nat Zero.ofOfNat0 slotCount := ⟨by decide⟩

instance : @NeZero Nat Zero.ofOfNat0 generationCount := ⟨by decide⟩

namespace InstanceId

/-- The id of no instance, to which an id is reset when its instance is destroyed. -/
def invalid : Int32 := -1

/-- The id of a slot in a generation. -/
def compose (index : SlotIndex) (generation : Generation) : Int32 :=
  Int32.ofNat (generation.val * slotCount + index.val)

/-- The slot and the generation in an id, unless it is negative. -/
def place? (id : Int32) : Option (SlotIndex × Generation) :=
  if id < 0 then none
  else
    let n := id.toNatClampNeg
    some (⟨n % slotCount, Nat.mod_lt _ (by decide)⟩,
      ⟨n / slotCount % generationCount, Nat.mod_lt _ (by decide)⟩)

/-- The record form. -/
def repr (id : Int32) : String :=
  match place? id with
  | some (index, generation) => Text.tagged "InstanceId" s!"{index.val}v{generation.val}"
  | none => "InstanceId(invalid)"

theorem number_lt (index : SlotIndex) (generation : Generation) :
    generation.val * slotCount + index.val < generationCount * slotCount := by
  have h₁ := index.isLt
  have h₂ := generation.isLt
  simp only [slotCount, generationCount] at h₁ h₂ ⊢
  omega

theorem toInt_compose (index : SlotIndex) (generation : Generation) :
    (compose index generation).toInt = ↑(generation.val * slotCount + index.val) := by
  have h := number_lt index generation
  rw [compose, Int32.toInt_ofNat_of_lt h]

/-- An id that was composed names its slot and its generation. -/
theorem place?_compose (index : SlotIndex) (generation : Generation) :
    place? (compose index generation) = some (index, generation) := by
  have ht := toInt_compose index generation
  have hneg : ¬ compose index generation < 0 := by
    rw [Int32.lt_iff_toInt_lt, ht]
    simp
    omega
  have hn : (compose index generation).toNatClampNeg = generation.val * slotCount + index.val := by
    rw [← Int32.toNat_toInt, ht, Int.toNat_natCast]
  have h₁ := index.isLt
  have h₂ := generation.isLt
  simp only [slotCount, generationCount] at h₁ h₂
  rw [place?, if_neg hneg]
  exact congrArg some (Prod.ext (Fin.ext (by simp only [hn, slotCount]; omega))
    (Fin.ext (by simp only [hn, slotCount, generationCount]; omega)))

/-- Only the composed id names a slot and a generation. -/
theorem compose_of_place? {id : Int32} {index : SlotIndex} {generation : Generation}
    (h : place? id = some (index, generation)) : compose index generation = id := by
  unfold place? at h
  split at h
  · cases h
  · rename_i hneg
    simp only [Option.some.injEq, Prod.mk.injEq] at h
    obtain ⟨rfl, rfl⟩ := h
    have hlt := id.toInt_lt
    rw [Int32.lt_iff_toInt_lt] at hneg
    have h0 : (0 : Int32).toInt = 0 := by decide
    rw [h0] at hneg
    apply Int32.toInt_inj.1
    rw [toInt_compose]
    simp only [slotCount, generationCount, ← Int32.toNat_toInt]
    omega

end InstanceId

end ImageDispatch
