import UsageMeter.Proofs.Command.Outcome

/-!
A command as a tree of nodes: each place where an interceptor executes a command, and each function
that counts its calls. What the bodies give when nobody counts decides which nodes are reached, and
the nodes are listed in the order in which they complete.
-/
namespace UsageMeter

/-! ## Nodes -/

/-- What becomes of a node: its turn never comes, or it is refused, or its target is called. -/
inductive Fate where
  | unreached | refused | invoked
deriving DecidableEq

/-- A node of a tree, at a path from the root. -/
structure Node where
  path : List Nat
  watcher : Interceptor
  name : Option String
  fate : Fate
deriving DecidableEq

/-- The fate of a command that an interceptor has or has not come to. -/
def Command.fate (c : Command) (entered : Bool) : Fate :=
  if !entered then .unreached else if c.enter.isOk then .invoked else .refused

/-- The fate of a function that counts its calls. -/
def calledFate (invoked : Bool) : Fate :=
  if invoked then .invoked else .unreached

mutual

/-- The nodes in a command, those below a node before it. Nothing is invoked unless the command is
`entered`. -/
def Command.nodes (c : Command) (path : List Nat) (entered : Bool) (use : Use) (args : List Value)
    (named : List (String × Value)) : List Node :=
  match c with
  | .function _ _ body => body.nodes path 0 entered args named
  | .method _ body => body.nodes path 0 entered args named
  | .preset body => body.nodes path 0 entered args named
  | .coroutine _ body => body.nodes path 0 (entered && use = .await) args named
  | .object _ nature execute call body =>
    body.nodes path 0 (entered && slotFor use nature execute call = .body) args named
  | .counted i explicit target =>
    let invoked := entered && (startCounted explicit target use).isOk
    target.nodes (path ++ [0]) invoked (if use = .await then .await else .call) args named ++
      [⟨path, i, resolvedName? explicit target, calledFate invoked⟩]
  | .builtin _ => []
  | .classItself _ => []
  | .value _ => []

/-- The nodes in a body, whose parts are numbered from `k` on. -/
def Body.nodes (b : Body) (path : List Nat) (k : Nat) (entered : Bool) (args : List Value)
    (named : List (String × Value)) : List Node :=
  match b with
  | .finish _ => []
  | .execute i c cargs rest =>
    (c.nodes (path ++ [k] ++ [0]) (entered && c.enter.isOk) .execute cargs [] ++
      [⟨path ++ [k], i, c.name?, c.fate entered⟩]) ++
      rest.nodes path (k + 1)
        (entered && (c.unlessRefused (c.bare .execute cargs [])).isOk) args named
  | .call c rest =>
    c.nodes (path ++ [k]) entered .call [] [] ++
      rest.nodes path (k + 1) (entered && (c.bare .call [] []).isOk) args named
  | .await c rest =>
    c.nodes (path ++ [k]) entered .await [] [] ++
      rest.nodes path (k + 1) (entered && (c.bare .await [] []).isOk) args named

end

/-! ## Order -/

theorem not_prefix_of_below {p q : List Nat} {k : Nat} (h : p ++ [k] <+: q) : ¬q <+: p := by
  intro hq
  have hle := (h.trans hq).length_le
  rw [List.length_append, List.length_singleton] at hle
  omega

theorem not_prefix_of_apart {p a b : List Nat} {i j : Nat} (hij : i ≠ j) (ha : p ++ [i] <+: a)
    (hb : p ++ [j] <+: b) : ¬a <+: b := by
  intro hab
  have hp : p ++ [i] <+: p ++ [j] := List.prefix_of_prefix_length_le (ha.trans hab) hb (by simp)
  have he : p ++ [i] = p ++ [j] := hp.eq_of_length (by simp)
  exact hij (by simpa using he)

mutual

theorem Command.prefix_path (c : Command) (path : List Nat) (entered : Bool) (use : Use)
    (args : List Value) (named : List (String × Value)) :
    ∀ n ∈ c.nodes path entered use args named, path <+: n.path := by
  intro n hn
  have below : ∀ {k : Nat}, path ++ [k] <+: n.path → path <+: n.path :=
    fun h => (List.prefix_append path _).trans h
  cases c with
  | function _ _ body | method _ body | preset body | coroutine _ body | object _ _ _ _ body =>
    rw [Command.nodes] at hn
    obtain ⟨j, -, hj⟩ := body.prefix_path path 0 _ args named n hn
    exact below hj
  | counted i explicit target =>
    rw [Command.nodes] at hn
    obtain hn | hn := List.mem_append.1 hn
    · exact below (target.prefix_path _ _ _ args named n hn)
    · cases List.mem_singleton.1 hn
      exact List.prefix_rfl
  | builtin _ | classItself _ | value _ => simp [Command.nodes] at hn

theorem Body.prefix_path (b : Body) (path : List Nat) (k : Nat) (entered : Bool)
    (args : List Value) (named : List (String × Value)) :
    ∀ n ∈ b.nodes path k entered args named, ∃ j, k ≤ j ∧ path ++ [j] <+: n.path := by
  intro n hn
  cases b with
  | finish e => simp [Body.nodes] at hn
  | execute i c cargs rest =>
    rw [Body.nodes] at hn
    obtain hn | hn := List.mem_append.1 hn
    · obtain hn | hn := List.mem_append.1 hn
      · have hc := c.prefix_path _ _ _ cargs [] n hn
        exact ⟨k, Nat.le_refl k, (List.prefix_append _ _).trans hc⟩
      · cases List.mem_singleton.1 hn
        exact ⟨k, Nat.le_refl k, List.prefix_rfl⟩
    · obtain ⟨j, hj, hp⟩ := rest.prefix_path path (k + 1) _ args named n hn
      exact ⟨j, by omega, hp⟩
  | call c rest | await c rest =>
    rw [Body.nodes] at hn
    obtain hn | hn := List.mem_append.1 hn
    · exact ⟨k, Nat.le_refl k, c.prefix_path _ _ _ [] [] n hn⟩
    · obtain ⟨j, hj, hp⟩ := rest.prefix_path path (k + 1) _ args named n hn
      exact ⟨j, by omega, hp⟩

end

/-- No node stands before a node above it, and none occurs twice. -/
def PostOrder (nodes : List Node) : Prop :=
  nodes.Pairwise fun earlier later => ¬earlier.path <+: later.path

theorem PostOrder.concat {below : List Node} {node : Node} (hb : PostOrder below)
    (hp : ∀ n ∈ below, node.path ++ [0] <+: n.path) : PostOrder (below ++ [node]) := by
  refine List.pairwise_append.2 ⟨hb, List.pairwise_singleton _ _, ?_⟩
  intro a ha b hb
  rw [List.mem_singleton.1 hb]
  exact not_prefix_of_below (hp a ha)

theorem PostOrder.append {front back : List Node} {path : List Nat} {k : Nat}
    (hf : PostOrder front) (hb : PostOrder back) (hk : ∀ n ∈ front, path ++ [k] <+: n.path)
    (hj : ∀ n ∈ back, ∃ j, k + 1 ≤ j ∧ path ++ [j] <+: n.path) : PostOrder (front ++ back) := by
  refine List.pairwise_append.2 ⟨hf, hb, ?_⟩
  intro a ha b hb
  obtain ⟨j, hkj, hp⟩ := hj b hb
  have hne : k ≠ j := by omega
  exact not_prefix_of_apart hne (hk a ha) hp

mutual

theorem Command.postOrder_nodes (c : Command) (path : List Nat) (entered : Bool) (use : Use)
    (args : List Value) (named : List (String × Value)) :
    PostOrder (c.nodes path entered use args named) := by
  cases c with
  | function _ _ body | method _ body | preset body | coroutine _ body | object _ _ _ _ body =>
    rw [Command.nodes]
    exact body.postOrder_nodes path 0 _ args named
  | counted i explicit target =>
    rw [Command.nodes]
    exact (target.postOrder_nodes _ _ _ args named).concat (target.prefix_path _ _ _ args named)
  | builtin _ | classItself _ | value _ =>
    rw [Command.nodes]
    exact List.Pairwise.nil

theorem Body.postOrder_nodes (b : Body) (path : List Nat) (k : Nat) (entered : Bool)
    (args : List Value) (named : List (String × Value)) :
    PostOrder (b.nodes path k entered args named) := by
  cases b with
  | finish e =>
    rw [Body.nodes]
    exact List.Pairwise.nil
  | execute i c cargs rest =>
    rw [Body.nodes]
    have hc := c.prefix_path (path ++ [k] ++ [0]) (entered && c.enter.isOk) .execute cargs []
    refine PostOrder.append ?_ (rest.postOrder_nodes path (k + 1) _ args named) ?_
      (rest.prefix_path path (k + 1) _ args named)
    · exact (c.postOrder_nodes _ _ _ cargs []).concat hc
    · intro n hn
      obtain hn | hn := List.mem_append.1 hn
      · exact (List.prefix_append _ _).trans (hc n hn)
      · cases List.mem_singleton.1 hn
        exact List.prefix_rfl
  | call c rest | await c rest =>
    rw [Body.nodes]
    exact (c.postOrder_nodes _ _ _ [] []).append (rest.postOrder_nodes path (k + 1) _ args named)
      (c.prefix_path _ _ _ [] []) (rest.prefix_path path (k + 1) _ args named)

end

/-! ## What is not entered -/

mutual

/-- In a command whose turn never comes, nothing is invoked. -/
theorem Command.fate_of_not_entered (c : Command) (path : List Nat) (use : Use)
    (args : List Value) (named : List (String × Value)) :
    ∀ n ∈ c.nodes path false use args named, n.fate = .unreached := by
  intro n hn
  cases c with
  | function _ _ body | method _ body | preset body | coroutine _ body | object _ _ _ _ body =>
    rw [Command.nodes] at hn
    exact body.fate_of_not_entered path 0 args named n hn
  | counted i explicit target =>
    rw [Command.nodes] at hn
    obtain hn | hn := List.mem_append.1 hn
    · exact target.fate_of_not_entered _ _ args named n hn
    · rw [List.mem_singleton.1 hn]
      rfl
  | builtin _ | classItself _ | value _ => simp [Command.nodes] at hn

theorem Body.fate_of_not_entered (b : Body) (path : List Nat) (k : Nat) (args : List Value)
    (named : List (String × Value)) :
    ∀ n ∈ b.nodes path k false args named, n.fate = .unreached := by
  intro n hn
  cases b with
  | finish e => simp [Body.nodes] at hn
  | execute i c cargs rest =>
    rw [Body.nodes] at hn
    obtain hn | hn := List.mem_append.1 hn
    · obtain hn | hn := List.mem_append.1 hn
      · exact c.fate_of_not_entered _ _ cargs [] n hn
      · rw [List.mem_singleton.1 hn]
        rfl
    · exact rest.fate_of_not_entered path (k + 1) args named n hn
  | call c rest | await c rest =>
    rw [Body.nodes] at hn
    obtain hn | hn := List.mem_append.1 hn
    · exact c.fate_of_not_entered _ _ [] [] n hn
    · exact rest.fate_of_not_entered path (k + 1) args named n hn

end

end UsageMeter
