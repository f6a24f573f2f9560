import Vime.Foundation.Masks

/-! # Mixtures of an old and a new list

An update in place that is cut anywhere leaves, at every position, the old or the new value.
Updating a mixture again leaves a mixture.
-/

namespace Vime.Foundation

section Mixtures

variable {α : Type u}

/-- Every value of the third list stands there in the first or in the second one. -/
inductive Mixture : List α → List α → List α → Prop
  | nil : Mixture [] [] []
  | cons {old new value : α} {olds news values : List α} :
      value = old ∨ value = new → Mixture olds news values →
        Mixture (old :: olds) (new :: news) (value :: values)

namespace Mixture

theorem ofOld : ∀ {old new : List α}, old.length = new.length → Mixture old new old
  | [], [], _ => .nil
  | _ :: _, _ :: _, same => .cons (.inl rfl) (ofOld (Nat.succ.inj same))

theorem ofNew : ∀ {old new : List α}, old.length = new.length → Mixture old new new
  | [], [], _ => .nil
  | _ :: _, _ :: _, same => .cons (.inr rfl) (ofNew (Nat.succ.inj same))

theorem length_eq {old new values : List α} (mixture : Mixture old new values) :
    values.length = new.length := by
  induction mixture with
  | nil => rfl
  | cons _ _ induction => rw [List.length_cons, List.length_cons, induction]

theorem old_length_eq {old new values : List α} (mixture : Mixture old new values) :
    old.length = new.length := by
  induction mixture with
  | nil => rfl
  | cons _ _ induction => rw [List.length_cons, List.length_cons, induction]

theorem eq_of_same {old values : List α} (mixture : Mixture old old values) : values = old := by
  induction values generalizing old with
  | nil =>
      cases mixture
      rfl
  | cons value rest induction =>
      cases mixture with
      | cons isEither more =>
          rw [or_self] at isEither
          rw [isEither, induction more]

/-- Where nothing changes a mixture has the new value. -/
theorem agreesOff [DecidableEq α] {old new values : List α} (mixture : Mixture old new values) :
    AgreesOff (List.zipWith (fun newValue oldValue => decide (newValue ≠ oldValue)) new old)
      values new := by
  induction mixture with
  | nil => exact .nil
  | @cons old new value _ _ _ isEither _ induction =>
      rw [List.zipWith_cons_cons]
      by_cases changed : new ≠ old
      · rw [decide_eq_true changed]
        exact .masked value new induction
      · have same := not_not.mp changed
        have isNew : value = new := by
          rcases isEither with isOld | isNew
          · rw [isOld, same]
          · exact isNew
        rw [decide_eq_false changed, isNew]
        exact .kept new induction

end Mixture

/-- `current` after some of its values are overwritten with those of `final`. -/
def overwriteSome : (Nat → Bool) → List α → List α → List α
  | written, current :: rest, final :: later =>
      (if written 0 then final else current) ::
        overwriteSome (fun position => written (position + 1)) rest later
  | _, _, _ => []

@[simp] theorem overwriteSome_all {current final : List α} (same : current.length = final.length) :
    overwriteSome (fun _ => true) current final = final := by
  induction current generalizing final with
  | nil => rw [List.eq_nil_of_length_eq_zero same.symm, overwriteSome.eq_def]
  | cons value rest induction =>
      cases final with
      | nil => cases same
      | cons new later =>
          rw [overwriteSome, if_pos rfl, induction (Nat.succ.inj same)]

theorem Mixture.overwriteSome {old new current final : List α}
    (before : Mixture old new current) (after : Mixture old new final) :
    ∀ written : Nat → Bool, Mixture old new (overwriteSome written current final) := by
  induction before generalizing final with
  | nil =>
      cases after
      exact fun _ => .nil
  | cons isEither _ induction =>
      intro written
      cases after with
      | cons finalIsEither rest =>
          rw [Foundation.overwriteSome]
          refine .cons ?_ (induction rest _)
          by_cases isWritten : written 0 = true
          · rw [if_pos isWritten]
            exact finalIsEither
          · rw [if_neg isWritten]
            exact isEither

end Mixtures

/-! ## Differences of bytes -/

def xorBytes (region diff : List UInt8) : List UInt8 :=
  List.zipWith (fun byte change => byte ^^^ change) region diff

theorem xor_difference_old (old new : UInt8) : old ^^^ (new ^^^ old) = new := by
  rw [UInt8.xor_comm new old, ← UInt8.xor_assoc, UInt8.xor_self, UInt8.zero_xor]

theorem xor_difference_new (old new : UInt8) : new ^^^ (new ^^^ old) = old := by
  rw [← UInt8.xor_assoc, UInt8.xor_self, UInt8.zero_xor]

theorem Mixture.xorBytes {old new current : List UInt8} (mixture : Mixture old new current) :
    Mixture old new (xorBytes current (Foundation.xorBytes new old)) := by
  induction mixture with
  | nil => exact .nil
  | @cons old new value _ _ _ isEither _ induction =>
      refine .cons ?_ induction
      rcases isEither with isOld | isNew
      · right
        rw [isOld]
        exact xor_difference_old old new
      · left
        rw [isNew]
        exact xor_difference_new old new

theorem xorBytes_difference {old new : List UInt8} (same : old.length = new.length) :
    xorBytes old (xorBytes new old) = new := by
  induction old generalizing new with
  | nil =>
      rw [List.eq_nil_of_length_eq_zero same.symm]
      rfl
  | cons byte rest induction =>
      cases new with
      | nil => cases same
      | cons newByte later =>
          have step := induction (Nat.succ.inj same)
          rw [xorBytes, xorBytes, List.zipWith_cons_cons, List.zipWith_cons_cons,
            xor_difference_old]
          rw [xorBytes, xorBytes] at step
          rw [step]

theorem length_xorBytes {region diff : List UInt8} (same : region.length = diff.length) :
    (xorBytes region diff).length = region.length := by
  rw [xorBytes, List.length_zipWith, same, Nat.min_self]

theorem xorBytes_eq_zero {old new : List UInt8} (same : old.length = new.length) :
    (∀ byte ∈ xorBytes new old, byte = 0) ↔ new = old := by
  induction old generalizing new with
  | nil =>
      rw [List.eq_nil_of_length_eq_zero same.symm]
      simp [xorBytes]
  | cons byte rest induction =>
      cases new with
      | nil => cases same
      | cons newByte later =>
          have step := induction (Nat.succ.inj same)
          rw [xorBytes] at step
          rw [xorBytes, List.zipWith_cons_cons, List.forall_mem_cons, step, List.cons.injEq,
            UInt8.xor_eq_zero_iff]

end Vime.Foundation
