/-! Lists that are reserved as a whole before they are filled. A list of so many values can only be
reserved when the bytes of all of them stay within the limit, whether it is ever filled or not. How
much memory there is beside the limit is not counted. -/
namespace CommittedChoice

/-- The bytes that a list takes for each of its values, on a machine of 64 bits. -/
class Stored (α : Type) where
  bytes : Nat

/-- Values of a type without content take no room. -/
instance : Stored Unit := ⟨0⟩

instance : Stored Char := ⟨4⟩

/-- An address, a length and a capacity, as for a list. -/
instance : Stored String := ⟨24⟩

instance {α : Type} : Stored (List α) := ⟨24⟩

/-- The largest distance between two addresses of 64 bits. -/
def storageLimit : Nat := 0x7fffffffffffffff

def Reservable (α : Type) [Stored α] (times : Nat) : Prop :=
  times * Stored.bytes α ≤ storageLimit

instance {α : Type} [Stored α] {times : Nat} : Decidable (Reservable α times) :=
  inferInstanceAs (Decidable (_ ≤ _))

theorem Reservable.mono {α : Type} [Stored α] {fewer times : Nat} (known : Reservable α times)
    (less : fewer ≤ times) : Reservable α fewer :=
  Nat.le_trans (Nat.mul_le_mul_right _ less) known

end CommittedChoice
