set_option autoImplicit false

/-! # Sizes

Sizes, ranks and element counts are natural numbers of at most 64 bits. This file holds the
bound `maxSize`, the ways in which a list of sizes is multiplied, and the two ways in which it is
written.

`product` knows no bound. `checkedProduct` multiplies from left to right and fails as soon as a
partial product passes the bound; `saturatingProduct` stays at the bound instead. A zero hides what
stands after it from the check, but not what stands before it: `[0, 2 ^ 63, 4]` has the checked
product `0`, and `[2 ^ 63, 4, 0]` has none.
-/

namespace TensorScan

/-- The largest size: `2 ^ 64 - 1`. -/
def maxSize : Nat := 0xFFFF_FFFF_FFFF_FFFF

/-- The largest number of a signed 64-bit axis: `2 ^ 63 - 1`. -/
def maxAxis : Nat := 0x7FFF_FFFF_FFFF_FFFF

/-- The product of two sizes, if it is a size. -/
def checkedMul (a b : Nat) : Option Nat := if a * b ≤ maxSize then some (a * b) else none

/-- The product of two sizes, cut off at the largest size. -/
def saturatingMul (a b : Nat) : Nat := min (a * b) maxSize

/-- The product of a list of sizes, however large. -/
def product (sizes : List Nat) : Nat := sizes.foldr (· * ·) 1

/-- The product of a list of sizes, if every partial product from the left is a size. -/
def checkedProduct (sizes : List Nat) : Option Nat := sizes.foldlM checkedMul 1

/-- The product of a list of sizes, cut off at the largest size after every factor. -/
def saturatingProduct (sizes : List Nat) : Nat := sizes.foldl saturatingMul 1

theorem checkedMul_eq_some {a b n : Nat} :
    checkedMul a b = some n ↔ a * b = n ∧ n ≤ maxSize := by
  unfold checkedMul
  constructor
  · intro h
    split at h
    · rename_i hle
      obtain rfl := Option.some.inj h
      exact ⟨rfl, hle⟩
    · contradiction
  · rintro ⟨rfl, hle⟩
    exact if_pos hle

theorem checkedMul_eq_none {a b : Nat} : checkedMul a b = none ↔ maxSize < a * b := by
  simp [checkedMul]

@[simp] theorem checkedProduct_nil : checkedProduct [] = some 1 := rfl

/-- The sizes in square brackets, with `separator` between them. -/
def bracketed (separator : String) (sizes : List Nat) : String :=
  "[" ++ separator.intercalate (sizes.map toString) ++ "]"

/-- The form of a list of sizes in descriptors and displays: `[2,3]`. -/
def compactSizes (sizes : List Nat) : String := bracketed "," sizes

/-- The form of a list of sizes in error messages: `[2, 3]`. -/
def spacedSizes (sizes : List Nat) : String := bracketed ", " sizes

end TensorScan
