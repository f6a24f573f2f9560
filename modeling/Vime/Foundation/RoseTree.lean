import Mathlib.Data.List.Perm.Subperm
import Mathlib.Data.List.Nodup

/-! # Rose trees addressed by child positions

Trees whose nodes carry a label and an ordered list of children. A node is
named by the list of child positions leading to it, so that a mutable tree can
be followed through in-place updates of single nodes.
-/

namespace Vime.Foundation

inductive RoseTree (α : Type u) where
  | node (label : α) (children : List (RoseTree α))

namespace RoseTree

def label : RoseTree α → α
  | .node label _ => label

def children : RoseTree α → List (RoseTree α)
  | .node _ children => children

@[simp] theorem label_node (label : α) (children : List (RoseTree α)) :
    (RoseTree.node label children).label = label := rfl

@[simp] theorem children_node (label : α) (children : List (RoseTree α)) :
    (RoseTree.node label children).children = children := rfl

/-! ## Labels and leaf paths -/

mutual
def labels : RoseTree α → List α
  | .node label children => label :: forestLabels children

def forestLabels : List (RoseTree α) → List α
  | [] => []
  | tree :: rest => tree.labels ++ forestLabels rest
end

mutual
def leafPaths : RoseTree α → List (List α)
  | .node label [] => [[label]]
  | .node label (child :: rest) =>
      (child.leafPaths ++ forestLeafPaths rest).map (label :: ·)

def forestLeafPaths : List (RoseTree α) → List (List α)
  | [] => []
  | tree :: rest => tree.leafPaths ++ forestLeafPaths rest
end

@[simp] theorem labels_node (label : α) (children : List (RoseTree α)) :
    (RoseTree.node label children).labels = label :: forestLabels children := by
  rw [labels]

@[simp] theorem forestLabels_nil : forestLabels ([] : List (RoseTree α)) = [] := by
  rw [forestLabels]

@[simp] theorem forestLabels_cons (tree : RoseTree α) (rest : List (RoseTree α)) :
    forestLabels (tree :: rest) = tree.labels ++ forestLabels rest := by
  rw [forestLabels]

@[simp] theorem forestLabels_append (left right : List (RoseTree α)) :
    forestLabels (left ++ right) = forestLabels left ++ forestLabels right := by
  induction left with
  | nil => simp
  | cons tree rest induction => simp [induction]

mutual
theorem leafPaths_sublist : ∀ (tree : RoseTree α) (path : List α),
    path ∈ tree.leafPaths → path.Sublist tree.labels
  | .node label [], path, member => by
      have single : path = [label] := by simpa [leafPaths] using member
      subst single
      simp
  | .node label (child :: rest), path, member => by
      rw [leafPaths, List.mem_map] at member
      rcases member with ⟨tail, tailMem, rfl⟩
      rw [labels_node, forestLabels_cons]
      apply List.Sublist.cons_cons
      rcases List.mem_append.mp tailMem with inChild | inRest
      · exact (leafPaths_sublist child tail inChild).trans
          (List.sublist_append_left _ _)
      · exact (forestLeafPaths_sublist rest tail inRest).trans
          (List.sublist_append_right _ _)

theorem forestLeafPaths_sublist : ∀ (forest : List (RoseTree α)) (path : List α),
    path ∈ forestLeafPaths forest → path.Sublist (forestLabels forest)
  | [], path, member => by simp [forestLeafPaths] at member
  | tree :: rest, path, member => by
      rw [forestLeafPaths] at member
      rw [forestLabels_cons]
      rcases List.mem_append.mp member with inTree | inRest
      · exact (leafPaths_sublist tree path inTree).trans
          (List.sublist_append_left _ _)
      · exact (forestLeafPaths_sublist rest path inRest).trans
          (List.sublist_append_right _ _)
end

/-! ## Updates at an address -/

def subtreeAt (tree : RoseTree α) : List Nat → Option (RoseTree α)
  | [] => some tree
  | index :: rest => tree.children[index]?.bind fun child => child.subtreeAt rest

def modifyAt (transform : RoseTree α → RoseTree α) (tree : RoseTree α) :
    List Nat → RoseTree α
  | [] => transform tree
  | index :: rest =>
      .node tree.label
        (tree.children.modify index fun child => modifyAt transform child rest)

def addChildAt (tree : RoseTree α) (address : List Nat) (child : RoseTree α) :
    RoseTree α :=
  tree.modifyAt (fun node => .node node.label (node.children ++ [child])) address

def relabelAt (tree : RoseTree α) (address : List Nat) (relabel : α → α) :
    RoseTree α :=
  tree.modifyAt (fun node => .node (relabel node.label) node.children) address

theorem labels_eq (tree : RoseTree α) :
    tree.labels = tree.label :: forestLabels tree.children := by
  cases tree
  simp

theorem forestLabels_modify_subperm (transform : RoseTree α → RoseTree α)
    (extra : List α)
    (bounded : ∀ tree, (transform tree).labels.Subperm (extra ++ tree.labels)) :
    ∀ (forest : List (RoseTree α)) (index : Nat),
      (forestLabels (forest.modify index transform)).Subperm
        (extra ++ forestLabels forest)
  | [], index => by simp
  | tree :: rest, 0 => by
      rw [List.modify_zero_cons, forestLabels_cons, forestLabels_cons,
        ← List.append_assoc]
      exact (List.subperm_append_right _).mpr (bounded tree)
  | tree :: rest, index + 1 => by
      have later := forestLabels_modify_subperm transform extra bounded rest index
      rw [List.modify_succ_cons, forestLabels_cons, forestLabels_cons]
      have grown := (List.subperm_append_left tree.labels).mpr later
      refine grown.trans (List.Perm.subperm ?_)
      rw [← List.append_assoc, ← List.append_assoc]
      exact List.perm_append_comm.append_right _

theorem labels_modifyAt_subperm (transform : RoseTree α → RoseTree α)
    (extra : List α)
    (bounded : ∀ tree, (transform tree).labels.Subperm (extra ++ tree.labels)) :
    ∀ (address : List Nat) (tree : RoseTree α),
      (tree.modifyAt transform address).labels.Subperm (extra ++ tree.labels)
  | [], tree => bounded tree
  | index :: rest, tree => by
      have inForest := forestLabels_modify_subperm
        (fun child => modifyAt transform child rest) extra
        (labels_modifyAt_subperm transform extra bounded rest)
        tree.children index
      rw [modifyAt, labels_node, tree.labels_eq]
      refine ((List.subperm_cons tree.label).mpr inForest).trans
        (List.Perm.subperm ?_)
      exact List.perm_middle.symm

theorem labels_addChildAt_subperm (tree : RoseTree α) (address : List Nat)
    (child : RoseTree α) :
    (tree.addChildAt address child).labels.Subperm (child.labels ++ tree.labels) := by
  apply labels_modifyAt_subperm
  intro node
  rw [labels_node, node.labels_eq, forestLabels_append, forestLabels_cons,
    forestLabels_nil, List.append_nil, ← List.cons_append]
  exact List.perm_append_comm.subperm

theorem forestLabels_map_modify (transform : RoseTree α → RoseTree α)
    (project : α → β)
    (preserved : ∀ tree, (transform tree).labels.map project = tree.labels.map project) :
    ∀ (forest : List (RoseTree α)) (index : Nat),
      (forestLabels (forest.modify index transform)).map project =
        (forestLabels forest).map project
  | [], index => by simp
  | tree :: rest, 0 => by simp [preserved tree]
  | tree :: rest, index + 1 => by
      simp [forestLabels_map_modify transform project preserved rest index]

theorem labels_map_relabelAt (relabel : α → α) (project : α → β)
    (preserved : ∀ label, project (relabel label) = project label) :
    ∀ (address : List Nat) (tree : RoseTree α),
      (tree.relabelAt address relabel).labels.map project = tree.labels.map project
  | [], tree => by
      rw [relabelAt, modifyAt, labels_node, tree.labels_eq]
      simp [preserved]
  | index :: rest, tree => by
      have inForest := forestLabels_map_modify
        (fun child => child.relabelAt rest relabel) project
        (labels_map_relabelAt relabel project preserved rest)
        tree.children index
      rw [relabelAt, modifyAt, labels_node, tree.labels_eq, List.map_cons,
        List.map_cons]
      exact congrArg (project tree.label :: ·) inForest

theorem forall_forestLabels_modify (transform : RoseTree α → RoseTree α)
    (holds : α → Prop)
    (preserved : ∀ tree, (∀ label ∈ tree.labels, holds label) →
      ∀ label ∈ (transform tree).labels, holds label) :
    ∀ (forest : List (RoseTree α)) (index : Nat),
      (∀ label ∈ forestLabels forest, holds label) →
      ∀ label ∈ forestLabels (forest.modify index transform), holds label
  | [], index, initial => by simp
  | tree :: rest, 0, initial => by
      simp only [forestLabels_cons, List.mem_append, List.modify_zero_cons] at *
      rintro label (inTree | inRest)
      · exact preserved tree (fun other member => initial other (.inl member)) label inTree
      · exact initial label (.inr inRest)
  | tree :: rest, index + 1, initial => by
      simp only [forestLabels_cons, List.mem_append, List.modify_succ_cons] at *
      rintro label (inTree | inRest)
      · exact initial label (.inl inTree)
      · exact forall_forestLabels_modify transform holds preserved rest index
          (fun other member => initial other (.inr member)) label inRest

theorem forall_labels_relabelAt (relabel : α → α) (holds : α → Prop)
    (preserved : ∀ label, holds label → holds (relabel label)) :
    ∀ (address : List Nat) (tree : RoseTree α),
      (∀ label ∈ tree.labels, holds label) →
      ∀ label ∈ (tree.relabelAt address relabel).labels, holds label
  | [], tree, initial => by
      rw [tree.labels_eq] at initial
      rw [relabelAt, modifyAt, labels_node]
      simp only [List.forall_mem_cons] at initial ⊢
      exact ⟨preserved _ initial.1, initial.2⟩
  | index :: rest, tree, initial => by
      rw [tree.labels_eq] at initial
      rw [relabelAt, modifyAt, labels_node]
      simp only [List.forall_mem_cons] at initial ⊢
      exact ⟨initial.1, forall_forestLabels_modify
        (fun child => child.relabelAt rest relabel) holds
        (forall_labels_relabelAt relabel holds preserved rest)
        tree.children index initial.2⟩

end RoseTree

end Vime.Foundation
