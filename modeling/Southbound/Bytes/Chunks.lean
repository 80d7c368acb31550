/-!
# Cutting a list into pieces of one length

`chunks n xs` cuts `xs` into pieces of `n` elements, the last one being shorter when `n` does not
divide the length. Nothing is lost (`flatten_chunks`).
-/

namespace Southbound

variable {α : Type}

/-- The pieces of `xs`, of `n` elements each but for the last. A length of 0 counts as 1. -/
def chunks (n : Nat) : List α → List (List α)
  | [] => []
  | x :: xs => (x :: xs.take (n - 1)) :: chunks n (xs.drop (n - 1))
termination_by xs => xs.length
decreasing_by
  simp only [List.length_drop, List.length_cons]
  omega

@[simp] theorem chunks_nil (n : Nat) : chunks n ([] : List α) = [] := by rw [chunks]

/-- The pieces put together again are the list. -/
@[simp] theorem flatten_chunks (n : Nat) (xs : List α) : (chunks n xs).flatten = xs := by
  fun_induction chunks n xs with
  | case1 => rfl
  | case2 x xs ih => simp [ih]

end Southbound
