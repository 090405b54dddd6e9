/-! Signed 64-bit numbers. Addresses are computed exactly, and a result that does not fit is refused
where it arises. -/
namespace ExEditor

/-- Largest number of an address, one below the 63rd power of two. -/
def maxWord : Int := 9223372036854775807

/-- Smallest number of an address. -/
def minWord : Int := -maxWord - 1

/-- A number that fits into 64 signed bits. -/
def word? (n : Int) : Option Int := if minWord ≤ n ∧ n ≤ maxWord then some n else none

theorem word?_eq_some_iff {n m : Int} : word? n = some m ↔ n = m ∧ minWord ≤ n ∧ n ≤ maxWord := by
  by_cases h : minWord ≤ n ∧ n ≤ maxWord
  · simp only [word?, h, and_self, ↓reduceIte, Option.some.injEq, and_true]
  · simp only [word?, h, ↓reduceIte, and_false, reduceCtorEq]

end ExEditor
