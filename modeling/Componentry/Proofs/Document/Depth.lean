import Mathlib.Data.List.Basic
import Componentry.Proofs.Document.Nesting

/-!
# Nodes at any depth

`Node.inner` stops at mount blocks, because rendering does.  A document as data has nodes there,
too, and what is said of all its nodes includes them.

* `Node.children` — the nodes directly in a node, those of a mount block included.
* `Node.subnodes` — a node and all nodes below it, each in front of what it holds.
* `Document.nodes` — all nodes of a document.
-/

namespace Componentry

/-- The nodes that stand directly in a node. -/
def Node.children : Node → List Node
  | .onMount children => children
  | node => node.inner

lemma Node.inner_children {node child : Node} (h : child ∈ node.inner) : child ∈ node.children := by
  cases node with
  | onMount children => exact absurd h (by simp [inner])
  | _ => exact h

/-- What stands in a node is smaller than the node. -/
lemma Node.sizeOf_children {node child : Node} (h : child ∈ node.children) :
    sizeOf child < sizeOf node := by
  cases node with
  | onMount children =>
      have hsize : sizeOf child < sizeOf children := List.sizeOf_lt_of_mem h
      simp only [onMount.sizeOf_spec]
      omega
  | _ => exact sizeOf_inner h

/-- A node and all nodes below it. -/
def Node.subnodes (node : Node) : List Node :=
  node :: node.children.attach.flatMap fun child => child.1.subnodes
termination_by sizeOf node
decreasing_by exact Node.sizeOf_children child.2

lemma Node.subnodes_eq (node : Node) :
    node.subnodes = node :: node.children.flatMap Node.subnodes := by
  rw [subnodes]
  congr 1
  conv_rhs => rw [← List.attach_map_subtype_val node.children, List.flatMap_map]

lemma Node.self_mem_subnodes (node : Node) : node ∈ node.subnodes := by
  rw [subnodes_eq]
  exact List.mem_cons_self

/-- What stands in a node below another one is below it, too. -/
lemma Node.children_mem_subnodes {node found child : Node} (h : found ∈ node.subnodes)
    (hchild : child ∈ found.children) : child ∈ node.subnodes := by
  rw [subnodes_eq] at h ⊢
  refine List.mem_cons_of_mem _ (List.mem_flatMap.mpr ?_)
  rcases List.mem_cons.mp h with rfl | h
  · exact ⟨child, hchild, child.self_mem_subnodes⟩
  · obtain ⟨inner, hinner, h⟩ := List.mem_flatMap.mp h
    exact ⟨inner, hinner, children_mem_subnodes h hchild⟩
termination_by sizeOf node
decreasing_by exact Node.sizeOf_children hinner

/-- All nodes of a document. -/
def Document.nodes (document : Document) : List Node :=
  document.body.flatMap Node.subnodes

lemma Document.mem_nodes_of_body {document : Document} {node : Node} (h : node ∈ document.body) :
    node ∈ document.nodes :=
  List.mem_flatMap.mpr ⟨node, h, node.self_mem_subnodes⟩

lemma Document.mem_nodes_of_children {document : Document} {node child : Node}
    (h : node ∈ document.nodes) (hchild : child ∈ node.children) : child ∈ document.nodes := by
  obtain ⟨top, htop, h⟩ := List.mem_flatMap.mp h
  exact List.mem_flatMap.mpr ⟨top, htop, Node.children_mem_subnodes h hchild⟩

end Componentry
