import Vime.Foundation.Python

/-! # Publications of the sample codec

How `SampleCodec` of `vime/data/codec.py` cuts the tensors of a value into
publications and hands the publications of several values to the payload store
in batches. The store is a parameter.
-/

namespace Vime.Data

open Vime.Foundation

variable {State Ref Record : Type}

/-- A dependency is the position of a publication in the same list or a stored
reference. -/
inductive Dependency (Ref : Type) where
  | position (index : Nat)
  | stored (ref : Ref)
  deriving DecidableEq, Repr

structure Publication (Ref Record : Type) where
  records : List Record
  dependencies : List (Dependency Ref) := []
  deriving DecidableEq, Repr

structure Manifest (Ref Record : Type) where
  records : List Record
  dependencies : List Ref
  deriving DecidableEq, Repr

structure PayloadStore (State Ref Record : Type) where
  publishMany : State → List (Publication Ref Record) → String →
    Except PyException (List Ref × State)
  manifest : State → Ref → Option (Manifest Ref Record)

/-! ## Assembly of one value -/

/-- Where the root record finds a blob: the index of a dependency and the ordinal
of the blob among its records. -/
structure BlobPosition where
  dependency : Nat
  ordinal : Nat
  deriving DecidableEq, Repr

/-- A visited value: its blobs, the references it depends on, and the record that
encodes its tree once the positions of the blobs are known. -/
structure Visited (Ref Record : Type) where
  blobs : List Record
  dependencies : List Ref
  root : List BlobPosition → Record

structure Assembly (Ref Record : Type) where
  dependencies : List (Dependency Ref)
  publications : List (Publication Ref Record) := []
  positions : List BlobPosition := []

/-- The loop cutting blobs into publications of at most `limit` records. -/
def assembleBlobs (limit : Nat) :
    (fuel : Nat) → List Record → Assembly Ref Record → Assembly Ref Record
  | 0, _, assembly => assembly
  | fuel + 1, blobs, assembly =>
      if blobs.isEmpty then assembly
      else
        let chunk := blobs.take limit
        assembleBlobs limit fuel (blobs.drop limit)
          { dependencies := assembly.dependencies ++
              [.position assembly.publications.length]
            publications := assembly.publications ++ [{ records := chunk }]
            positions := assembly.positions ++ (List.range chunk.length).map fun ordinal =>
              { dependency := assembly.dependencies.length, ordinal := ordinal } }

def Visited.assembly (visited : Visited Ref Record) (maxRecords : Nat) :
    Assembly Ref Record :=
  assembleBlobs (maxRecords - 1) visited.blobs.length visited.blobs
    { dependencies := visited.dependencies.map .stored }

def Visited.prepare (visited : Visited Ref Record) (maxRecords : Nat) :
    List (Publication Ref Record) :=
  let assembly := visited.assembly maxRecords
  assembly.publications ++
    [{ records := [visited.root assembly.positions]
       dependencies := assembly.dependencies }]

/-! ## Batches -/

def Publication.size (publication : Publication Ref Record) : Nat :=
  publication.records.length + 1

/-- How many further publications fit beside `count` records. -/
def fitting (maxRecords : Nat) : (count : Nat) → List (Publication Ref Record) → Nat
  | _, [] => 0
  | count, publication :: rest =>
      if maxRecords < count + publication.size then 0
      else fitting maxRecords (count + publication.size) rest + 1

def batchLength (maxRecords : Nat) : List (Publication Ref Record) → Nat
  | [] => 0
  | publication :: rest => fitting maxRecords publication.size rest + 1

/-- A dependency as seen from a batch that starts at `start`. -/
def placeDependency (start : Nat) (refs : List Ref) :
    Dependency Ref → Except PyException (Dependency Ref)
  | .position index =>
      if index < start then .stored <$> itemAt refs index
      else .ok (.position (index - start))
  | .stored ref => .ok (.stored ref)

def placePublication (start : Nat) (refs : List Ref) (publication : Publication Ref Record) :
    Except PyException (Publication Ref Record) := do
  let dependencies ← publication.dependencies.mapM (placeDependency start refs)
  pure { records := publication.records, dependencies := dependencies }

/-- The loop of `_publish` over the publications that are left. -/
def publishFrom (store : PayloadStore State Ref Record) (maxRecords : Nat)
    (submissionId : String) :
    (fuel start : Nat) → List (Publication Ref Record) → List Ref → State →
      Except PyException (List Ref × State)
  | 0, _, _, refs, state => .ok (refs, state)
  | fuel + 1, start, rest, refs, state =>
      if rest.isEmpty then .ok (refs, state)
      else do
        let count := batchLength maxRecords rest
        let batch ← (rest.take count).mapM (placePublication start refs)
        let published ← store.publishMany state batch s!"{submissionId}:part:{start}"
        publishFrom store maxRecords submissionId fuel (start + count) (rest.drop count)
          (refs ++ published.1) published.2

def publish (store : PayloadStore State Ref Record) (maxRecords : Nat)
    (publications : List (Publication Ref Record)) (submissionId : String) (state : State) :
    Except PyException (List Ref × State) :=
  publishFrom store maxRecords submissionId publications.length 0 publications [] state

/-! ## Bundles -/

def Dependency.shift (offset : Nat) : Dependency Ref → Dependency Ref
  | .position index => .position (index + offset)
  | .stored ref => .stored ref

def Publication.shift (offset : Nat) (publication : Publication Ref Record) :
    Publication Ref Record where
  records := publication.records
  dependencies := publication.dependencies.map (Dependency.shift offset)

def bundle (maxRecords : Nat) (values : List (Visited Ref Record)) :
    List (Publication Ref Record) × List Nat :=
  values.foldl
    (fun bundled visited =>
      let publications := bundled.1 ++
        (visited.prepare maxRecords).map (Publication.shift bundled.1.length)
      (publications, bundled.2 ++ [publications.length - 1]))
    ([], [])

def publishMany (store : PayloadStore State Ref Record) (maxRecords : Nat)
    (values : List (Visited Ref Record × String)) (state : State) :
    Except PyException (List Ref × State) := do
  let bundled := bundle maxRecords (values.map Prod.fst)
  let first ← itemAt (values.map Prod.snd) 0
  let published ← publish store maxRecords bundled.1 s!"bundle:{first}" state
  let roots ← bundled.2.mapM (itemAt published.1)
  pure (roots, published.2)

end Vime.Data
