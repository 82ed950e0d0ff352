import MessageLint.Tree.Basic

/-!
# MessageLint — walking a tree

One depth-first pass over a tree. Every node is entered before its children and left after them;
visitors are called for the kinds of node and the phases they subscribe to.

The pass keeps a list of tasks and takes one step per task. A tree whose root is its own child has
no finite pass; `walk?` then has no answer.
-/

namespace MessageLint

/-- The two times at which a pass meets a node. -/
inductive Phase where
  | enter
  | exit
deriving DecidableEq, Repr

/-- The name shown to users. -/
def Phase.name : Phase → String
  | enter => "enter"
  | exit => "exit"

/-- One meeting of the pass with a node. It also serves as a task that remains to be done. -/
structure Event where
  phase : Phase
  node : NodeId
deriving DecidableEq, Repr

namespace Tree

/-- Works through the tasks in order: a node that exists is entered, and then its children come
before its own exit. No answer if `fuel` steps do not suffice. -/
def walkTasks? (t : Tree) : Nat → List Event → Option (List Event)
  | _, [] => some []
  | 0, _ :: _ => none
  | fuel + 1, task :: rest =>
    match t.get? task.node, task.phase with
    | none, _ => t.walkTasks? fuel rest
    | some _, .exit => (t.walkTasks? fuel rest).map (task :: ·)
    | some node, .enter =>
      (t.walkTasks? fuel
        (node.children.map (Event.mk .enter) ++ ⟨.exit, task.node⟩ :: rest)).map (task :: ·)

/-- The events of the pass from the root. A pass that ends meets each node at most twice, so the
steps allowed are enough for every pass that ends. -/
def walk? (t : Tree) : Option (List Event) :=
  match t.root? with
  | none => some []
  | some root => t.walkTasks? (2 * t.size + 1) [⟨.enter, root⟩]

end Tree

/-- A listener on passes, with what it yields when it is called. -/
structure Visitor (α : Type) where
  /-- The kinds and phases it is called for; once for each time a pair is listed. -/
  subscriptions : List (Kind × Phase)
  respond : Phase → NodeId → List α

/-- Whom to call for which kind and phase: one entry for each subscription, with the index of the
visitor that made it. -/
abbrev Routes := List ((Kind × Phase) × Nat)

namespace Routes

/-- The routes of a list of visitors, in their order. -/
def ofVisitors {α : Type} (visitors : List (Visitor α)) : Routes :=
  visitors.zipIdx.flatMap fun (visitor, index) => visitor.subscriptions.map (·, index)

/-- The visitors to call for a kind and a phase, in the order of their entries. -/
def called (routes : Routes) (kind : Kind) (phase : Phase) : List Nat :=
  (routes.filter (·.1 == (kind, phase))).map (·.2)

end Routes

namespace Tree

/-- What the visitors yield for one event, in the order of the routes. -/
def dispatch {α : Type} (t : Tree) (visitors : List (Visitor α)) (routes : Routes)
    (event : Event) : List α :=
  match t.kind? event.node with
  | none => []
  | some kind =>
    (routes.called kind event.phase).flatMap fun index =>
      match visitors[index]? with
      | none => []
      | some visitor => visitor.respond event.phase event.node

/-- What the visitors yield during one pass; no answer if the pass never ends. -/
def traverse? {α : Type} (t : Tree) (visitors : List (Visitor α)) : Option (List α) :=
  t.walk?.map fun events => events.flatMap (t.dispatch visitors (.ofVisitors visitors))

end Tree

end MessageLint
