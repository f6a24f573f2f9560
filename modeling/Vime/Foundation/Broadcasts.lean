import Vime.Foundation.Execution

/-! # Broadcasts between processes

Every process runs its own list of broadcasts. One is executed when it stands first in the list
of every member of its group, and gives every member what the source holds. Lists that are
projections of one common order never block each other: in whatever order the groups proceed,
every run goes on until all broadcasts are done, and gives what the common order gives.
-/

namespace Vime.Foundation

/-- `broadcast(values of keys, src=source, group=members)`. -/
structure Broadcast (ρ : Type u) (κ : Type v) where
  members : List ρ
  source : ρ
  keys : List κ
  deriving DecidableEq, Repr

/-- What every process holds; `none` is memory that nothing was written to. -/
abbrev Memories (ρ : Type u) (κ : Type v) (ν : Type w) := ρ → κ → Option ν

section Broadcasts

variable {ρ : Type u} {κ : Type v} {ν : Type w}

namespace Broadcast

/-- The source holds everything that it sends. -/
def Sound (op : Broadcast ρ κ) (memory : Memories ρ κ ν) : Prop :=
  ∀ key ∈ op.keys, (memory op.source key).isSome

def Apart (op other : Broadcast ρ κ) : Prop := ∀ process ∈ op.members, process ∉ other.members

theorem Apart.symm {op other : Broadcast ρ κ} (apart : op.Apart other) : other.Apart op :=
  fun process inOther inOp => apart process inOp inOther

end Broadcast

def Sourced (ops : List (Broadcast ρ κ)) : Prop := ∀ op ∈ ops, op.source ∈ op.members

theorem Sourced.of_append {before after : List (Broadcast ρ κ)} {op : Broadcast ρ κ}
    (sourced : Sourced (before ++ op :: after)) :
    Sourced before ∧ op.source ∈ op.members ∧ Sourced (before ++ after) := by
  have inWhole : ∀ other, other ∈ before ∨ other = op ∨ other ∈ after →
      other.source ∈ other.members := by
    intro other member
    apply sourced
    rw [List.mem_append, List.mem_cons]
    exact member
  refine ⟨fun other member => inWhole other (.inl member), inWhole op (.inr (.inl rfl)), ?_⟩
  intro other member
  rcases List.mem_append.mp member with early | late
  · exact inWhole other (.inl early)
  · exact inWhole other (.inr (.inr late))

variable [DecidableEq ρ] [DecidableEq κ]

namespace Broadcast

def transfer (op : Broadcast ρ κ) (memory : Memories ρ κ ν) : Memories ρ κ ν :=
  fun process key =>
    if process ∈ op.members ∧ key ∈ op.keys then memory op.source key else memory process key

theorem transfer_of_not_mem {op : Broadcast ρ κ} {process : ρ} (outside : process ∉ op.members)
    (memory : Memories ρ κ ν) : op.transfer memory process = memory process := by
  funext key
  rw [transfer, if_neg fun both => outside both.1]

theorem transfer_comm {op other : Broadcast ρ κ} (apart : op.Apart other)
    (opSource : op.source ∈ op.members) (otherSource : other.source ∈ other.members)
    (memory : Memories ρ κ ν) :
    op.transfer (other.transfer memory) = other.transfer (op.transfer memory) := by
  funext process key
  by_cases inOp : process ∈ op.members
  · have untouched : ∀ member ∈ op.members, other.transfer memory member = memory member :=
      fun member inGroup => transfer_of_not_mem (apart member inGroup) memory
    rw [transfer_of_not_mem (apart process inOp)]
    simp only [transfer.eq_def op, untouched _ opSource, untouched _ inOp]
  · have untouched : ∀ member, member ∉ op.members → op.transfer memory member = memory member :=
      fun member outside => transfer_of_not_mem outside memory
    rw [transfer_of_not_mem inOp]
    simp only [transfer.eq_def other, untouched _ (apart.symm other.source otherSource),
      untouched _ inOp]

theorem sound_transfer {op other : Broadcast ρ κ} (apart : op.Apart other)
    (opSource : op.source ∈ op.members) (memory : Memories ρ κ ν) :
    op.Sound (other.transfer memory) ↔ op.Sound memory := by
  rw [Sound, Sound, transfer_of_not_mem (apart op.source opSource)]

end Broadcast

/-! ## One order of all broadcasts -/

def project (ops : List (Broadcast ρ κ)) (process : ρ) : List (Broadcast ρ κ) :=
  ops.filter fun op => process ∈ op.members

def runAll (ops : List (Broadcast ρ κ)) (memory : Memories ρ κ ν) : Memories ρ κ ν :=
  ops.foldl (fun memory op => op.transfer memory) memory

def AllSound : List (Broadcast ρ κ) → Memories ρ κ ν → Prop
  | [], _ => True
  | op :: rest, memory => op.Sound memory ∧ AllSound rest (op.transfer memory)

theorem runAll_move {before : List (Broadcast ρ κ)} {op : Broadcast ρ κ}
    (after : List (Broadcast ρ κ)) (apart : ∀ other ∈ before, op.Apart other)
    (sourced : Sourced before) (opSource : op.source ∈ op.members) (memory : Memories ρ κ ν) :
    runAll (before ++ op :: after) memory = runAll (before ++ after) (op.transfer memory) := by
  induction before generalizing memory with
  | nil => rfl
  | cons first before induction =>
      have later := induction (fun other member => apart other (List.mem_cons_of_mem _ member))
        (fun other member => sourced other (List.mem_cons_of_mem _ member)) (first.transfer memory)
      have swapped := Broadcast.transfer_comm (apart first List.mem_cons_self) opSource
        (sourced first List.mem_cons_self) memory
      rw [swapped] at later
      exact later

theorem allSound_move {before : List (Broadcast ρ κ)} {op : Broadcast ρ κ}
    {after : List (Broadcast ρ κ)} (apart : ∀ other ∈ before, op.Apart other)
    (sourced : Sourced before) (opSource : op.source ∈ op.members) {memory : Memories ρ κ ν}
    (sound : AllSound (before ++ op :: after) memory) :
    op.Sound memory ∧ AllSound (before ++ after) (op.transfer memory) := by
  induction before generalizing memory with
  | nil => exact sound
  | cons first before induction =>
      have firstApart := apart first List.mem_cons_self
      have firstSource := sourced first List.mem_cons_self
      rcases induction (fun other member => apart other (List.mem_cons_of_mem _ member))
        (fun other member => sourced other (List.mem_cons_of_mem _ member)) sound.2 with
          ⟨opSound, later⟩
      rw [Broadcast.transfer_comm firstApart opSource firstSource] at later
      exact ⟨(Broadcast.sound_transfer firstApart opSource memory).mp opSound,
        (Broadcast.sound_transfer firstApart.symm firstSource memory).mpr sound.1, later⟩

omit [DecidableEq κ] in
theorem exists_first {op : Broadcast ρ κ} (someMember : op.members ≠ []) :
    ∀ {ops : List (Broadcast ρ κ)},
      (∀ process ∈ op.members, (project ops process).head? = some op) →
      ∃ before after, ops = before ++ op :: after ∧ ∀ other ∈ before, op.Apart other
  | [], next => by
      rcases List.exists_mem_of_ne_nil _ someMember with ⟨process, isMember⟩
      cases next process isMember
  | first :: rest, next => by
      by_cases apart : op.Apart first
      · have later : ∀ process ∈ op.members, (project rest process).head? = some op := by
          intro process isMember
          rw [← next process isMember, project, project,
            List.filter_cons_of_neg (by simpa using apart process isMember)]
        rcases exists_first someMember later with ⟨before, after, split, allApart⟩
        refine ⟨first :: before, after, by rw [split, List.cons_append], ?_⟩
        exact List.forall_mem_cons.mpr ⟨apart, allApart⟩
      · have shared : ∃ process ∈ op.members, process ∈ first.members := by
          by_contra none
          exact apart fun process inOp inFirst => none ⟨process, inOp, inFirst⟩
        rcases shared with ⟨process, inOp, inFirst⟩
        have isNext := next process inOp
        rw [project, List.filter_cons_of_pos (by simpa using inFirst), List.head?_cons] at isNext
        exact ⟨[], rest, by rw [Option.some.inj isNext, List.nil_append], by simp⟩

/-! ## What the processes hold -/

def heldAfter (ops : List (Broadcast ρ κ)) (held : ρ → κ → Prop) (process : ρ) (key : κ) : Prop :=
  held process key ∨ ∃ op ∈ ops, process ∈ op.members ∧ key ∈ op.keys

def Provided (held : ρ → κ → Prop) : List (Broadcast ρ κ) → Prop
  | [] => True
  | op :: rest => (∀ key ∈ op.keys, held op.source key) ∧ Provided (heldAfter [op] held) rest

section Held

variable {held more : ρ → κ → Prop} {ops later : List (Broadcast ρ κ)}

omit [DecidableEq ρ] [DecidableEq κ] in
theorem heldAfter_cons (op : Broadcast ρ κ) (process : ρ) (key : κ) :
    heldAfter (op :: ops) held process key ↔ heldAfter ops (heldAfter [op] held) process key := by
  simp only [heldAfter, List.mem_cons, List.not_mem_nil, or_false, exists_eq_left, or_assoc,
    or_and_right, exists_or]

omit [DecidableEq ρ] [DecidableEq κ] in
theorem Provided.mono (provided : Provided held ops)
    (holds : ∀ process key, held process key → more process key) : Provided more ops := by
  induction ops generalizing held more with
  | nil => trivial
  | cons op rest induction =>
      refine ⟨fun key isKey => holds _ _ (provided.1 key isKey), induction provided.2 ?_⟩
      exact fun process key => Or.imp_left (holds process key)

omit [DecidableEq ρ] [DecidableEq κ] in
theorem Provided.append (first : Provided held ops) (second : Provided (heldAfter ops held) later) :
    Provided held (ops ++ later) := by
  induction ops generalizing held with
  | nil => exact second.mono fun process key holds => holds.resolve_right (by simp)
  | cons op rest induction =>
      refine ⟨first.1, induction first.2 (second.mono fun process key holds => ?_)⟩
      exact (heldAfter_cons op process key).mp holds

omit [DecidableEq ρ] [DecidableEq κ] in
theorem provided_of_forall (holds : ∀ op ∈ ops, ∀ key ∈ op.keys, held op.source key) :
    Provided held ops := by
  induction ops generalizing held with
  | nil => trivial
  | cons op rest induction =>
      refine ⟨holds op List.mem_cons_self, induction fun other member key isKey => Or.inl ?_⟩
      exact holds other (List.mem_cons_of_mem _ member) key isKey

omit [DecidableEq ρ] [DecidableEq κ] in
theorem provided_flatMap {items : List α} {block : α → List (Broadcast ρ κ)}
    (provided : ∀ item ∈ items, Provided held (block item)) :
    Provided held (items.flatMap block) := by
  induction items with
  | nil => trivial
  | cons item rest induction =>
      rw [List.flatMap_cons]
      apply (provided item List.mem_cons_self).append
      exact (induction fun other member => provided other (List.mem_cons_of_mem _ member)).mono
        fun process key => Or.inl

theorem isSome_transfer {op : Broadcast ρ κ} {memory : Memories ρ κ ν} (sound : op.Sound memory)
    (holds : ∀ process key, held process key → (memory process key).isSome) (process : ρ) (key : κ)
    (after : heldAfter [op] held process key) : (op.transfer memory process key).isSome := by
  rw [Broadcast.transfer]
  split
  · rename_i inside
    exact sound key inside.2
  · rename_i outside
    rcases after with before | ⟨other, isOp, inside⟩
    · exact holds process key before
    · rw [List.mem_singleton.mp isOp] at inside
      exact absurd inside outside

theorem Provided.allSound (provided : Provided held ops) {memory : Memories ρ κ ν}
    (holds : ∀ process key, held process key → (memory process key).isSome) :
    AllSound ops memory ∧
      ∀ process key, heldAfter ops held process key → (runAll ops memory process key).isSome := by
  induction ops generalizing held memory with
  | nil => exact ⟨trivial, fun process key after => holds _ _ (after.resolve_right (by simp))⟩
  | cons op rest induction =>
      have sound : op.Sound memory := fun key isKey => holds _ _ (provided.1 key isKey)
      rcases induction provided.2 (isSome_transfer sound holds) with ⟨later, after⟩
      refine ⟨⟨sound, later⟩, fun process key holdsAfter => ?_⟩
      exact after process key ((heldAfter_cons op process key).mp holdsAfter)

theorem runAll_origin {origin : ρ → κ → ν → Prop} {memory : Memories ρ κ ν}
    (passes : ∀ op ∈ ops, ∀ key ∈ op.keys, ∀ process ∈ op.members, ∀ value,
      origin op.source key value → origin process key value)
    (holds : ∀ process key value, memory process key = some value → origin process key value) :
    ∀ process key value, runAll ops memory process key = some value →
      origin process key value := by
  induction ops generalizing memory with
  | nil => exact holds
  | cons op rest induction =>
      have next : ∀ process key value, op.transfer memory process key = some value →
          origin process key value := by
        intro process key value found
        rw [Broadcast.transfer] at found
        split at found
        · rename_i inside
          exact passes op List.mem_cons_self key inside.2 process inside.1 value
            (holds _ _ _ found)
        · exact holds _ _ _ found
      exact induction (fun other member => passes other (List.mem_cons_of_mem _ member)) next

end Held

/-! ## Groups with a leader -/

omit [DecidableEq κ] in
theorem project_flatMap_leaders {leaders : List ρ} {process leader : ρ}
    (distinct : leaders.Nodup) (isLeader : leader ∈ leaders)
    {block : ρ → List (Broadcast ρ κ)}
    (own : ∀ op ∈ block leader, process ∈ op.members)
    (others : ∀ other ∈ leaders, other ≠ leader → ∀ op ∈ block other, process ∉ op.members) :
    project (leaders.flatMap block) process = block leader := by
  rcases List.append_of_mem isLeader with ⟨before, after, rfl⟩
  have nowhere : ∀ part : List ρ, (∀ other ∈ part, other ∈ before ++ leader :: after) →
      leader ∉ part → (part.flatMap block).filter (fun op => process ∈ op.members) = [] := by
    intro part within without
    rw [List.filter_eq_nil_iff]
    intro op isOp
    rcases List.mem_flatMap.mp isOp with ⟨other, inPart, inBlock⟩
    have different : other ≠ leader := fun same => without (same ▸ inPart)
    simpa using others other (within other inPart) different op inBlock
  have alone := List.nodup_append.mp distinct
  have notBefore : leader ∉ before := fun member =>
    alone.2.2 leader member leader List.mem_cons_self rfl
  have notAfter : leader ∉ after := (List.nodup_cons.mp alone.2.1).1
  rw [project, List.flatMap_append, List.flatMap_cons, List.filter_append, List.filter_append,
    nowhere before (fun other member => List.mem_append_left _ member) notBefore,
    nowhere after
      (fun other member => List.mem_append_right _ (List.mem_cons_of_mem _ member)) notAfter,
    List.nil_append, List.append_nil, List.filter_eq_self]
  intro op isOp
  simpa using own op isOp

/-! ## Runs of all processes -/

structure BroadcastState (ρ : Type u) (κ : Type v) (ν : Type w) where
  programs : ρ → List (Broadcast ρ κ)
  memory : Memories ρ κ ν

namespace BroadcastState

def step (state : BroadcastState ρ κ ν) (op : Broadcast ρ κ) : Option (BroadcastState ρ κ ν) :=
  if op.members ≠ [] ∧ ∀ process ∈ op.members, (state.programs process).head? = some op then
    some
      { programs := fun process =>
          if process ∈ op.members then (state.programs process).tail
          else state.programs process
        memory := op.transfer state.memory }
  else none

/-- What is left of the common order in a state; `final` is what it gives in the end. -/
structure Remains (final : Memories ρ κ ν) (rest : List (Broadcast ρ κ))
    (state : BroadcastState ρ κ ν) : Prop where
  programs : ∀ process, state.programs process = project rest process
  sourced : Sourced rest
  sound : AllSound rest state.memory
  gives : runAll rest state.memory = final

variable {final : Memories ρ κ ν} {rest : List (Broadcast ρ κ)} {state later : BroadcastState ρ κ ν}
  {op : Broadcast ρ κ}

theorem Remains.step (remains : Remains final rest state) (steps : state.step op = some later) :
    op.Sound state.memory ∧
      ∃ less, less.length + 1 = rest.length ∧ Remains final less later := by
  rw [BroadcastState.step] at steps
  split at steps
  · rename_i enabled
    have next : ∀ process ∈ op.members, (project rest process).head? = some op :=
      fun process isMember => remains.programs process ▸ enabled.2 process isMember
    rcases exists_first enabled.1 next with ⟨before, after, rfl, apart⟩
    rcases remains.sourced.of_append with ⟨sourced, opSource, less⟩
    rcases allSound_move apart sourced opSource remains.sound with ⟨opSound, sound⟩
    refine ⟨opSound, before ++ after, by simp [Nat.add_assoc], ?_⟩
    rw [← Option.some.inj steps]
    refine
      { programs := ?_
        sourced := less
        sound := sound
        gives := (runAll_move after apart sourced opSource state.memory).symm.trans
          remains.gives }
    intro process
    dsimp only
    rw [remains.programs process, project, project, List.filter_append, List.filter_append]
    by_cases isMember : process ∈ op.members
    · have skipped : before.filter (fun other => process ∈ other.members) = [] := by
        rw [List.filter_eq_nil_iff]
        intro other inBefore
        simpa using apart other inBefore process isMember
      rw [if_pos isMember, skipped, List.filter_cons_of_pos (by simpa using isMember)]
      rfl
    · rw [if_neg isMember, List.filter_cons_of_neg (by simpa using isMember)]
  · cases steps

theorem Remains.progress (remains : Remains final (op :: rest) state) :
    ∃ later, state.step op = some later := by
  have opSource := remains.sourced op List.mem_cons_self
  rw [BroadcastState.step, if_pos]
  · exact ⟨_, rfl⟩
  · refine ⟨List.ne_nil_of_mem opSource, fun process isMember => ?_⟩
    rw [remains.programs process, project, List.filter_cons_of_pos (by simpa using isMember),
      List.head?_cons]

theorem Remains.run {ops actions : List (Broadcast ρ κ)} {initial : BroadcastState ρ κ ν}
    (remains : Remains final ops initial)
    (ran : runActions BroadcastState.step (fun _ _ => True) initial actions = some state) :
    ∃ rest, actions.length + rest.length = ops.length ∧ Remains final rest state := by
  apply runActions_invariant (fun actions state =>
    ∃ rest, actions.length + rest.length = ops.length ∧ Remains final rest state)
    ⟨ops, Nat.zero_add _, remains⟩ _ ran
  intro actions state action later _ holds _ steps
  rcases holds with ⟨rest, counted, remains⟩
  rcases (remains.step steps).2 with ⟨less, shorter, remainsLess⟩
  refine ⟨less, ?_, remainsLess⟩
  rw [List.length_append, List.length_singleton]
  omega

end BroadcastState

end Broadcasts

end Vime.Foundation
