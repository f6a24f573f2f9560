import Mathlib.Data.List.Sort
import Mathlib.Order.Bounds.Basic

/-! # Sets kept as a prefix and its exceptions

A set in a linear order is kept as the least element outside it, below which everything
belongs to it, and the increasing list of its elements above that one.
-/

namespace Vime.Foundation

variable {α : Type u} [LinearOrder α]

structure Compacts (members : Set α) (cursor : α) (sparse : List α) : Prop where
  increasing : sparse.Pairwise (· < ·)
  above : ∀ element ∈ sparse, cursor < element
  covers : ∀ element, element < cursor ∨ element ∈ sparse ↔ element ∈ members

namespace Compacts

variable {members others : Set α} {cursor otherCursor : α} {sparse otherSparse : List α}

theorem isLeast (compacts : Compacts members cursor sparse) :
    IsLeast {element | element ∉ members} cursor := by
  constructor
  · intro member
    rcases (compacts.covers cursor).mpr member with below | listed
    · exact lt_irrefl cursor below
    · exact lt_irrefl cursor (compacts.above cursor listed)
  · intro element notMember
    apply le_of_not_gt
    intro below
    exact notMember ((compacts.covers element).mp (Or.inl below))

theorem unique (compacts : Compacts members cursor sparse)
    (other : Compacts members otherCursor otherSparse) :
    cursor = otherCursor ∧ sparse = otherSparse := by
  have sameCursor := compacts.isLeast.unique other.isLeast
  subst sameCursor
  refine ⟨rfl, compacts.increasing.eq_of_mem_iff other.increasing fun element => ?_⟩
  have covered := (compacts.covers element).trans (other.covers element).symm
  constructor
  · intro listed
    rcases covered.mp (Or.inr listed) with below | otherListed
    · exact absurd below (compacts.above element listed).not_gt
    · exact otherListed
  · intro listed
    rcases covered.mpr (Or.inr listed) with below | otherListed
    · exact absurd below (other.above element listed).not_gt
    · exact otherListed

end Compacts

end Vime.Foundation
