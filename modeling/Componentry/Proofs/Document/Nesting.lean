import Mathlib.Tactic.Common
import Componentry.Document.Outline

/-!
# Nodes inside of nodes

`Node` is nested through three kinds of lists, so plain `induction` does not apply to it.  This file
supplies the principle that the theory of rendering uses instead.

* `Node.inner` — the nodes directly inside of a node.  The children of a mount block are not among
  them: they are what it runs.
* `Node.induction` — to prove a property of every node, prove it of a node whose inner nodes have
  it.
* `Node.visited_eq` — the outline of a node is the node, followed by the outlines of its inner
  nodes.
-/

namespace Componentry

/-- The nodes directly inside of a node. -/
def Node.inner : Node → List Node
  | .ifBlock _ children => children
  | .loop _ _ children => children
  | .async _ _ done failed loading _ _ => done ++ failed ++ loading
  | .router routes => routes.flatMap Route.children
  | .switch _ cases => cases.flatMap Case.children
  | .slotContent _ element => [element]
  | .component _ _ children => children
  | .fragment children => children
  | _ => []

/-- An inner node is smaller than the node around it. -/
lemma Node.sizeOf_inner {node child : Node} (h : child ∈ node.inner) :
    sizeOf child < sizeOf node := by
  cases node with
  | async promise key done failed loading doneAlias failedAlias =>
      simp only [inner, List.mem_append] at h
      rcases h with (h | h) | h
      · have := List.sizeOf_lt_of_mem h; simp only [async.sizeOf_spec]; omega
      · have := List.sizeOf_lt_of_mem h; simp only [async.sizeOf_spec]; omega
      · have := List.sizeOf_lt_of_mem h; simp only [async.sizeOf_spec]; omega
  | router routes =>
      obtain ⟨⟨path, boundAs, children⟩, hroute, hchild⟩ := List.mem_flatMap.mp h
      have h1 := List.sizeOf_lt_of_mem hroute
      have h2 : sizeOf child < sizeOf children := List.sizeOf_lt_of_mem hchild
      simp only [Route.mk.sizeOf_spec] at h1
      simp only [router.sizeOf_spec]
      omega
  | switch discriminant cases =>
      obtain ⟨⟨value, children⟩, hcase, hchild⟩ := List.mem_flatMap.mp h
      have h1 := List.sizeOf_lt_of_mem hcase
      have h2 : sizeOf child < sizeOf children := List.sizeOf_lt_of_mem hchild
      simp only [Case.mk.sizeOf_spec] at h1
      simp only [switch.sizeOf_spec]
      omega
  | slotContent name element =>
      rw [List.mem_singleton.mp h]
      simp only [slotContent.sizeOf_spec]
      omega
  | ifBlock _ _ | loop _ _ _ | component _ _ _ | fragment _ =>
      have := List.sizeOf_lt_of_mem h
      simp [inner] at this ⊢
      omega
  | _ => simp [inner] at h

/-- **Induction over nodes.**  In the step the property is known of every inner node. -/
@[elab_as_elim]
theorem Node.induction {motive : Node → Prop}
    (step : ∀ node : Node, (∀ child ∈ node.inner, motive child) → motive node) :
    ∀ node, motive node := by
  intro node
  exact step node fun child _ => Node.induction step child
termination_by node => sizeOf node
decreasing_by exact Node.sizeOf_inner ‹_›

/-! ## Outlines -/

lemma visitedNodes_eq_flatMap (nodes : List Node) :
    visitedNodes nodes = nodes.flatMap Node.visited := by
  induction nodes with
  | nil => simp [visitedNodes]
  | cons node rest ih => simp [visitedNodes, ih]

lemma visitedRoutes_eq_flatMap (routes : List (Route Node)) :
    visitedRoutes routes = (routes.flatMap Route.children).flatMap Node.visited := by
  induction routes with
  | nil => simp [visitedRoutes]
  | cons route rest ih => simp [visitedRoutes, visitedNodes_eq_flatMap, ih]

lemma visitedCases_eq_flatMap (cases : List (Case Node)) :
    visitedCases cases = (cases.flatMap Case.children).flatMap Node.visited := by
  induction cases with
  | nil => simp [visitedCases]
  | cons c rest ih => simp [visitedCases, visitedNodes_eq_flatMap, ih]

/-- The outline of a node is the node, followed by the outlines of its inner nodes. -/
theorem Node.visited_eq (node : Node) : node.visited = node :: node.inner.flatMap Node.visited := by
  cases node <;>
    simp [visited, inner, visitedNodes_eq_flatMap, visitedRoutes_eq_flatMap,
      visitedCases_eq_flatMap]

/-- Outlines reach a node directly, or through an inner node. -/
lemma Node.mem_visited {node found : Node} :
    found ∈ node.visited ↔ found = node ∨ ∃ child ∈ node.inner, found ∈ child.visited := by
  rw [visited_eq, List.mem_cons, List.mem_flatMap]

end Componentry
