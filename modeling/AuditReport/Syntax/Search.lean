import AuditReport.Syntax.Node

/-!
# The outermost enclosing node

A search for the outermost node of a kind that encloses a range of the source. Nodes whose own range
does not enclose it are left with all that is below them; nodes without a range are passed through.
`enclosing` works on a list of nodes that are still to be looked at, `search` follows the tree.
Main statement: they agree.
-/
namespace AuditReport.Syntax

mutual

def Node.size : Node → Nat
  | .compact _ _ _ cs => 1 + sizes cs
  | .legacy _ cs => 1 + sizes cs
  | .unwalkable _ => 1

def sizes : List Node → Nat
  | [] => 0
  | n :: ns => n.size + sizes ns

end

theorem sizes_append (ns ms : List Node) : sizes (ns ++ ms) = sizes ns + sizes ms := by
  induction ns with
  | nil => simp [sizes]
  | cons n ns ih => simp [sizes, ih, Nat.add_assoc]

theorem Node.size_pos (n : Node) : 0 < n.size := by
  cases n <;> simp only [Node.size] <;> omega

theorem sizes_children {n : Node} {cs : List Node} (h : n.children = .ok cs) :
    sizes cs < n.size := by
  cases n <;> simp only [Node.children, Except.ok.injEq, reduceCtorEq] at h
  all_goals
    subst h
    simp only [Node.size]
    omega

inductive Step where
  /-- The node lies elsewhere. -/
  | leave
  /-- The node is the one that is looked for. -/
  | take
  /-- The answer, if any, lies below. -/
  | descend
  deriving DecidableEq, Repr

def Node.step (kind : String) (start length : Int) (n : Node) : Step :=
  match n.range with
  | none => .descend
  | some r =>
    if r.encloses start length then
      if n.kind = some kind then .take else .descend
    else .leave

/-- The first node found when the given ones are looked at in order. -/
def enclosing (kind : String) (start length : Int) : List Node → Except Fault (Option Node)
  | [] => .ok none
  | n :: pending =>
    match n.step kind start length with
    | .leave => enclosing kind start length pending
    | .take => .ok (some n)
    | .descend =>
      match _listed : n.children with
      | .error e => .error e
      | .ok cs => enclosing kind start length (cs ++ pending)
termination_by pending => sizes pending
decreasing_by
  · have := n.size_pos
    simp only [sizes]
    omega
  · have := sizes_children (by assumption : n.children = .ok cs)
    simp only [sizes, sizes_append]
    omega

mutual

def Node.search (kind : String) (start length : Int) : Node → Except Fault (Option Node)
  | .compact l t f cs =>
    match (Node.compact l t f cs).step kind start length with
    | .leave => .ok none
    | .take => .ok (some (.compact l t f cs))
    | .descend => searchAll kind start length cs
  | .legacy l cs =>
    match (Node.legacy l cs).step kind start length with
    | .leave => .ok none
    | .take => .ok (some (.legacy l cs))
    | .descend => searchAll kind start length cs
  | .unwalkable l =>
    match (Node.unwalkable l).step kind start length with
    | .leave => .ok none
    | .take => .ok (some (.unwalkable l))
    | .descend => .error (.defect .notIterable)

def searchAll (kind : String) (start length : Int) : List Node → Except Fault (Option Node)
  | [] => .ok none
  | n :: ns =>
    match n.search kind start length with
    | .ok none => searchAll kind start length ns
    | found => found

end

theorem Node.search_eq (kind : String) (start length : Int) (n : Node) :
    n.search kind start length =
      match n.step kind start length with
      | .leave => .ok none
      | .take => .ok (some n)
      | .descend =>
        match n.children with
        | .error e => .error e
        | .ok cs => searchAll kind start length cs := by
  cases n <;> simp only [Node.search, Node.children]

theorem searchAll_append (kind : String) (start length : Int) (ns ms : List Node) :
    searchAll kind start length (ns ++ ms) =
      match searchAll kind start length ns with
      | .ok none => searchAll kind start length ms
      | found => found := by
  induction ns with
  | nil => simp [searchAll]
  | cons n ns ih =>
    simp only [List.cons_append, searchAll]
    cases n.search kind start length with
    | error e => rfl
    | ok found => cases found with
      | none => exact ih
      | some m => rfl

theorem enclosing_eq_searchAll (kind : String) (start length : Int) (pending : List Node) :
    enclosing kind start length pending = searchAll kind start length pending := by
  fun_induction enclosing kind start length pending with
  | case1 => rfl
  | case2 n pending h ih => simp only [searchAll, Node.search_eq, h, ih]
  | case3 n pending h => simp only [searchAll, Node.search_eq, h]
  | case4 n pending h e hc => simp only [searchAll, Node.search_eq, h, hc]
  | case5 n pending h cs hc ih =>
    rw [ih, searchAll_append]
    simp only [searchAll, Node.search_eq, h, hc]

/-- The outermost node of a kind in a tree that encloses a range. -/
def Node.findEnclosing (root : Node) (kind : String) (start length : Int) :
    Except Fault (Option Node) :=
  enclosing kind start length [root]

theorem Node.findEnclosing_eq_search (root : Node) (kind : String) (start length : Int) :
    root.findEnclosing kind start length = root.search kind start length := by
  simp only [Node.findEnclosing, enclosing_eq_searchAll, searchAll]
  cases root.search kind start length with
  | error e => rfl
  | ok found => cases found <;> rfl

end AuditReport.Syntax
