import Vime.Foundation.LittleEndian
import Vime.Foundation.Masks
import Vime.Foundation.Python

/-! # Overwrite deltas

`overwrite_encode` of `vime/utils/disk_delta.py` and the `apply_overwrite` of the engine
patch. Counts and positions travel as 32-bit words, so the delta rebuilds the new bytes
exactly if both fit.
-/

namespace Vime.Utils

open Vime.Foundation

/-- The supported releases store a Python integer that a dtype cannot hold differently. -/
inductive NumpyRelease where
  | numpy1
  | numpy2
  deriving DecidableEq, Repr

/-- `np.array([value], "<u4")`. -/
def NumpyRelease.u4 : NumpyRelease → Nat → Except PyException Nat
  -- wraps, with a deprecation warning
  | .numpy1, value => .ok (value % 2 ^ 32)
  | .numpy2, value => if value < 2 ^ 32 then .ok value else .error .overflowError

def changedMask (new old : List UInt8) : List Bool :=
  List.zipWith (fun newByte oldByte => decide (newByte ≠ oldByte)) new old

def overwriteEncode (numpy : NumpyRelease) (new : List UInt8) (changedMask : List Bool) :
    Except PyException (List UInt8) := do
  -- `astype` wraps in every release.
  let pos := (maskPositions 0 changedMask).map (· % 2 ^ 32)
  let size ← numpy.u4 pos.length
  pure (leBytes 4 size ++ pos.flatMap (leBytes 4) ++ compress new changedMask)

/-- `np.frombuffer(buffer, dtype="<u4")`. -/
def frombufferU4 (buffer : List UInt8) : Except PyException (List Nat) := do
  raiseIf (buffer.length % 4 ≠ 0)
    (.valueError "buffer size must be a multiple of element size")
  pure (words 4 (buffer.length / 4) buffer)

/-- `region[positions] = values`: a single value is broadcast. -/
def assign (region : List UInt8) (positions : List Nat) (values : List UInt8) :
    Except PyException (List UInt8) := do
  raiseIf (∃ position ∈ positions, region.length ≤ position) .indexError
  raiseIf (values.length ≠ positions.length ∧ values.length ≠ 1)
    (.valueError "shape mismatch")
  let broadcast :=
    if values.length = positions.length then values
    else positions.flatMap fun _ => values
  pure (scatter region (positions.zip broadcast))

def applyOverwrite (checksum : List UInt8 → String) (name : String) (region delta : List UInt8)
    (expected : String) : Except PyException (List UInt8 × List String) := do
  let count := ofLeBytes (slice delta 0 4)
  let positionsEnd := 4 + 4 * count
  let positions ← frombufferU4 (slice delta 4 (positionsEnd : Int))
  let written ← assign region positions (sliceFrom delta (positionsEnd : Int))
  pure (written, if checksum written ≠ expected then [name] else [])

/-! ## What a delta can write -/

theorem frombufferU4_lt {buffer : List UInt8} {positions : List Nat}
    (read : frombufferU4 buffer = .ok positions) :
    ∀ position ∈ positions, position < 2 ^ 32 := by
  rcases raiseIf_bind_eq_ok.mp read with ⟨_, returned⟩
  rw [← Except.ok.inj returned]
  exact words_lt 4 _ buffer

theorem assign_eq_ok {region values written : List UInt8} {positions : List Nat} :
    assign region positions values = .ok written →
      (values.length = positions.length ∨ values.length = 1) ∧
        ∃ broadcast, written = scatter region (positions.zip broadcast) := by
  intro assigned
  rcases raiseIf_bind_eq_ok.mp assigned with ⟨_, more⟩
  rcases raiseIf_bind_eq_ok.mp more with ⟨shapes, returned⟩
  refine ⟨?_, _, (Except.ok.inj returned).symm⟩
  by_contra neither
  rw [not_or] at neither
  exact shapes neither

theorem applyOverwrite_beyond {checksum : List UInt8 → String} {name expected : String}
    {region delta written : List UInt8} {mismatches : List String}
    (applied : applyOverwrite checksum name region delta expected = .ok (written, mismatches))
    {position : Nat} (beyond : 2 ^ 32 ≤ position) : written[position]? = region[position]? := by
  rcases bind_eq_ok.mp applied with ⟨positions, read, more⟩
  rcases bind_eq_ok.mp more with ⟨assigned, assignedEq, returned⟩
  rw [pure_eq_ok, Except.ok.injEq, Prod.mk.injEq] at returned
  rcases (assign_eq_ok assignedEq).2 with ⟨broadcast, scattered⟩
  rw [← returned.1, scattered]
  apply getElem?_scatter
  intro entry member same
  have below := frombufferU4_lt read entry.1 (List.of_mem_zip member).1
  omega

/-! ## Reading an encoded delta -/

section Encoded

variable (pos : List Nat) (values : List UInt8) (size : Nat)

def deltaBytes : List UInt8 := leBytes 4 size ++ pos.flatMap (leBytes 4) ++ values

theorem slice_deltaBytes_size : slice (deltaBytes pos values size) 0 4 = leBytes 4 size := by
  have cut := slice_natCast (deltaBytes pos values size) 0 4
  rw [List.drop_zero, deltaBytes, List.append_assoc,
    List.take_left' (length_leBytes 4 size)] at cut
  rw [deltaBytes, List.append_assoc]
  exact cut

theorem frombufferU4_deltaBytes (counted : size = pos.length)
    (small : ∀ position ∈ pos, position < 2 ^ 32) :
    frombufferU4 (slice (deltaBytes pos values size) 4 ((4 + 4 * size : Nat) : Int)) =
      .ok pos := by
  have buffer : slice (deltaBytes pos values size) 4 ((4 + 4 * size : Nat) : Int) =
      pos.flatMap (leBytes 4) := by
    have cut := slice_natCast (deltaBytes pos values size) 4 (4 + 4 * size)
    have whole : (leBytes 4 size ++ pos.flatMap (leBytes 4)).length = 4 + 4 * size := by
      rw [List.length_append, length_leBytes, length_flatMap_leBytes, counted]
    rw [deltaBytes, List.take_left' whole, List.drop_left' (length_leBytes 4 size)] at cut
    exact cut
  have readBack := words_flatMap 4 [] pos
  rw [List.append_nil] at readBack
  rw [buffer, frombufferU4, raiseIf, length_flatMap_leBytes, Nat.mul_mod_right,
    if_neg (by simp), ok_bind, pure_eq_ok, Nat.mul_div_cancel_left _ (by decide), readBack]
  have unchanged : pos.map (· % 256 ^ 4) = pos := by
    have kept : ∀ position ∈ pos, position % 256 ^ 4 = position := fun position member =>
      Nat.mod_eq_of_lt (small position member)
    rw [List.map_congr_left kept, List.map_id']
  rw [unchanged]

theorem sliceFrom_deltaBytes (counted : size = pos.length) :
    sliceFrom (deltaBytes pos values size) ((4 + 4 * size : Nat) : Int) = values := by
  have whole : (leBytes 4 size ++ pos.flatMap (leBytes 4)).length = 4 + 4 * size := by
    rw [List.length_append, length_leBytes, length_flatMap_leBytes, counted]
  rw [sliceFrom_natCast, deltaBytes, List.drop_left' whole]

theorem applyOverwrite_wrapped {checksum : List UInt8 → String} {name expected : String}
    {region : List UInt8} {result : List UInt8 × List String}
    (sized : values.length = pos.length) (wrapped : size = pos.length % 2 ^ 32)
    (applied : applyOverwrite checksum name region (deltaBytes pos values size) expected =
      .ok result) : pos.length < 2 ^ 32 := by
  have isWord : size < 2 ^ 32 := wrapped ▸ Nat.mod_lt _ (by decide)
  have count : ofLeBytes (slice (deltaBytes pos values size) 0 4) = size := by
    rw [slice_deltaBytes_size, ofLeBytes_leBytes]
    exact Nat.mod_eq_of_lt isWord
  rw [applyOverwrite, count] at applied
  rcases bind_eq_ok.mp applied with ⟨positions, read, more⟩
  rcases bind_eq_ok.mp more with ⟨assigned, assignedEq, _⟩
  have total : (deltaBytes pos values size).length = 4 + 4 * pos.length + pos.length := by
    rw [deltaBytes, List.length_append, List.length_append, length_leBytes,
      length_flatMap_leBytes, sized]
  have announced : positions.length = size := by
    rcases raiseIf_bind_eq_ok.mp read with ⟨_, returned⟩
    have cut : slice (deltaBytes pos values size) 4 ((4 + 4 * size : Nat) : Int) =
        ((deltaBytes pos values size).take (4 + 4 * size)).drop 4 := slice_natCast _ 4 _
    rw [← Except.ok.inj returned, length_words, cut, List.length_drop, List.length_take, total]
    omega
  have left : (sliceFrom (deltaBytes pos values size) ((4 + 4 * size : Nat) : Int)).length =
      4 + 4 * pos.length + pos.length - (4 + 4 * size) := by
    rw [sliceFrom_natCast, List.length_drop, total]
  have shapes := (assign_eq_ok assignedEq).1
  rw [announced, left] at shapes
  omega

theorem applyOverwrite_deltaBytes {checksum : List UInt8 → String} {name expected : String}
    {region : List UInt8} (counted : size = pos.length) (isWord : size < 2 ^ 32)
    (sized : values.length = pos.length)
    (inside : ∀ position ∈ pos, position < region.length)
    (small : ∀ position ∈ pos, position < 2 ^ 32) :
    applyOverwrite checksum name region (deltaBytes pos values size) expected =
      .ok (scatter region (pos.zip values),
        if checksum (scatter region (pos.zip values)) ≠ expected then [name] else []) := by
  have count : ofLeBytes (slice (deltaBytes pos values size) 0 4) = size := by
    rw [slice_deltaBytes_size, ofLeBytes_leBytes]
    exact Nat.mod_eq_of_lt isWord
  have assigned : assign region pos values = .ok (scatter region (pos.zip values)) := by
    rw [assign, raiseIf, if_neg, ok_bind, raiseIf, if_neg, ok_bind, if_pos sized, pure_eq_ok]
    · exact fun shapes => shapes.1 sized
    · rintro ⟨position, member, outside⟩
      exact Nat.not_lt.mpr outside (inside position member)
  rw [applyOverwrite, count, frombufferU4_deltaBytes pos values size counted small, ok_bind,
    sliceFrom_deltaBytes pos values size counted, assigned, ok_bind, pure_eq_ok]

end Encoded

/-! ## Losslessness -/

/-- The delta rebuilds the new bytes, again if it is applied twice, and no mismatch is
reported. -/
def Lossless (numpy : NumpyRelease) (checksum : List UInt8 → String) (name : String)
    (old new : List UInt8) : Prop :=
  ∃ delta, overwriteEncode numpy new (changedMask new old) = .ok delta ∧
    applyOverwrite checksum name old delta (checksum new) = .ok (new, []) ∧
    applyOverwrite checksum name new delta (checksum new) = .ok (new, [])

section Lossless

variable {numpy : NumpyRelease} {checksum : List UInt8 → String} {name : String}
  {old new : List UInt8}

theorem mem_changedPositions (same : old.length = new.length) {position : Nat} :
    position ∈ maskPositions 0 (changedMask new old) ↔ new[position]? ≠ old[position]? := by
  rw [mem_maskPositions, changedMask, Nat.sub_zero, List.getElem?_zipWith]
  by_cases inside : position < new.length
  · rw [List.getElem?_eq_getElem inside, List.getElem?_eq_getElem (same ▸ inside)]
    simp
  · rw [List.getElem?_eq_none (Nat.not_lt.mp inside),
      List.getElem?_eq_none (same ▸ Nat.not_lt.mp inside)]
    simp

theorem length_compress_changed (same : old.length = new.length) :
    (compress new (changedMask new old)).length =
      (maskPositions 0 (changedMask new old)).length := by
  rw [length_maskPositions, length_compress]
  rw [changedMask, List.length_zipWith, same, Nat.min_self]

theorem Lossless.position_lt (lossless : Lossless numpy checksum name old new)
    {position : Nat} (changed : new[position]? ≠ old[position]?) : position < 2 ^ 32 := by
  rcases lossless with ⟨delta, _, applied, _⟩
  by_contra beyond
  exact changed (applyOverwrite_beyond applied (Nat.not_lt.mp beyond))

theorem overwriteEncode_eq {delta : List UInt8}
    (encoded : overwriteEncode numpy new (changedMask new old) = .ok delta) :
    ∃ size, numpy.u4 (maskPositions 0 (changedMask new old)).length = .ok size ∧
      delta = deltaBytes ((maskPositions 0 (changedMask new old)).map (· % 2 ^ 32))
        (compress new (changedMask new old)) size := by
  rcases bind_eq_ok.mp encoded with ⟨size, sizeEq, returned⟩
  rw [List.length_map] at sizeEq
  exact ⟨size, sizeEq, (Except.ok.inj returned).symm⟩

theorem Lossless.count_lt (same : old.length = new.length)
    (lossless : Lossless numpy checksum name old new) :
    (maskPositions 0 (changedMask new old)).length < 2 ^ 32 := by
  rcases lossless with ⟨delta, encoded, applied, _⟩
  rcases overwriteEncode_eq encoded with ⟨size, sizeEq, deltaEq⟩
  cases numpy with
  | numpy1 =>
      rw [deltaEq] at applied
      have counted := applyOverwrite_wrapped _ _ _ ?_ ?_ applied
      · rwa [List.length_map] at counted
      · rw [List.length_map]
        exact length_compress_changed same
      · rw [List.length_map]
        exact (Except.ok.inj sizeEq).symm
  | numpy2 =>
      rw [NumpyRelease.u4] at sizeEq
      by_cases small : (maskPositions 0 (changedMask new old)).length < 2 ^ 32
      · exact small
      · rw [if_neg small] at sizeEq
        cases sizeEq

theorem NumpyRelease.u4_small {value : Nat} (small : value < 2 ^ 32) :
    numpy.u4 value = .ok value := by
  cases numpy with
  | numpy1 => rw [NumpyRelease.u4, Nat.mod_eq_of_lt small]
  | numpy2 => rw [NumpyRelease.u4, if_pos small]

/-- If count and positions fit, the delta writes `new` over every region that agrees with
it where nothing changed. -/
theorem lossless_of_small (same : old.length = new.length)
    (positions : ∀ position, new[position]? ≠ old[position]? → position < 2 ^ 32)
    (count : (maskPositions 0 (changedMask new old)).length < 2 ^ 32) :
    Lossless numpy checksum name old new := by
  have small : ∀ position ∈ maskPositions 0 (changedMask new old), position < 2 ^ 32 :=
    fun position member => positions position ((mem_changedPositions same).mp member)
  have unwrapped : (maskPositions 0 (changedMask new old)).map (· % 2 ^ 32) =
      maskPositions 0 (changedMask new old) := by
    rw [List.map_congr_left fun position member => Nat.mod_eq_of_lt (small position member),
      List.map_id']
  have inside : ∀ position ∈ maskPositions 0 (changedMask new old), position < new.length := by
    intro position member
    have changed := (mem_changedPositions same).mp member
    by_contra outside
    apply changed
    rw [List.getElem?_eq_none (Nat.not_lt.mp outside),
      List.getElem?_eq_none (same ▸ Nat.not_lt.mp outside)]
  have applies : ∀ region : List UInt8, region.length = new.length →
      AgreesOff (changedMask new old) region new →
        applyOverwrite checksum name region
          (deltaBytes (maskPositions 0 (changedMask new old))
            (compress new (changedMask new old))
            (maskPositions 0 (changedMask new old)).length) (checksum new) =
          .ok (new, []) := by
    intro region sized agrees
    have written := scatter_compress agrees []
    rw [List.nil_append, List.nil_append, List.length_nil] at written
    rw [applyOverwrite_deltaBytes _ _ _ rfl count (length_compress_changed same)
      (fun position member => sized ▸ inside position member) small, written,
      if_neg (fun differs => differs rfl)]
  refine ⟨_, ?_, applies old same (AgreesOff.differing old new same),
    applies new rfl (AgreesOff.refl _ new ?_)⟩
  · rw [overwriteEncode, List.length_map, NumpyRelease.u4_small count, ok_bind, unwrapped,
      pure_eq_ok, deltaBytes]
  · rw [changedMask, List.length_zipWith, same, Nat.min_self]

end Lossless

/-- The encoding is lossless exactly for the pairs whose changed positions, and their
number, fit into 32 bits. -/
theorem overwrite_lossless_iff (numpy : NumpyRelease) (checksum : List UInt8 → String)
    (name : String) (old new : List UInt8) (same : old.length = new.length) :
    Lossless numpy checksum name old new ↔
      (∀ position, new[position]? ≠ old[position]? → position < 2 ^ 32) ∧
        (changedMask new old).count true < 2 ^ 32 := by
  rw [← length_maskPositions 0]
  constructor
  · intro lossless
    exact ⟨fun position changed => lossless.position_lt changed, lossless.count_lt same⟩
  · rintro ⟨positions, count⟩
    exact lossless_of_small same positions count

theorem overwrite_lossless_oneByte :
    ([1, 2, 3] : List UInt8).length = ([1, 5, 3] : List UInt8).length ∧
      ∀ checksum : List UInt8 → String, Lossless .numpy2 checksum "w" [1, 2, 3] [1, 5, 3] := by
  refine ⟨rfl, fun checksum => ?_⟩
  apply (overwrite_lossless_iff .numpy2 checksum "w" [1, 2, 3] [1, 5, 3] rfl).mpr
  refine ⟨fun position changed => ?_, by decide⟩
  match position with
  | 0 | 1 | 2 => omega
  | _ + 3 => exact absurd rfl changed

theorem not_lossless_lastByte (numpy : NumpyRelease) (checksum : List UInt8 → String)
    (name : String) {length : Nat} (long : 2 ^ 32 ≤ length) :
    ¬ Lossless numpy checksum name (List.replicate length 0 ++ [0])
      (List.replicate length 0 ++ [1]) := by
  intro lossless
  have position : length < 2 ^ 32 := by
    apply lossless.position_lt
    rw [List.getElem?_append_right (by rw [List.length_replicate]),
      List.getElem?_append_right (by rw [List.length_replicate]), List.length_replicate,
      Nat.sub_self]
    decide
  omega

/-- One changed byte after 4 GiB is written at position 0. -/
theorem overwrite_loses_lastByte :
    (List.replicate (2 ^ 32) 0 ++ [0] : List UInt8).length =
        (List.replicate (2 ^ 32) 0 ++ [1] : List UInt8).length ∧
      ∀ (numpy : NumpyRelease) (checksum : List UInt8 → String) (name : String),
        ¬ Lossless numpy checksum name (List.replicate (2 ^ 32) 0 ++ [0])
          (List.replicate (2 ^ 32) 0 ++ [1]) := by
  constructor
  · rw [List.length_append, List.length_append, List.length_singleton, List.length_singleton]
  · intro numpy checksum name
    exact not_lossless_lastByte numpy checksum name (Nat.le_refl (2 ^ 32))

end Vime.Utils
