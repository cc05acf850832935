import UsageMeter.Proofs.Command.Tree
import UsageMeter.Proofs.Hub
import UsageMeter.Proofs.Registry.Reach

/-!
Executions settle node by node. Running a tree gives what its bodies give when nothing is counted,
and leaves one record and one span for each invoked node, in the order in which the nodes complete.
-/
namespace UsageMeter

/-- What executions can be counted in: a tracker, in whatever state. -/
def Hub.Tracks (h : Hub) (i : Nat) : Prop :=
  (h.registry i).Reachable ∧ (h.registry i).tracker = true

/-- What tells a node's span: its name and its tracer. -/
def Span.label (x : Span) : String × String :=
  (x.name, x.tracer)

namespace Node

/-- The name that a node adds to the counts of a tracker. -/
def counted? (t : Nat) (n : Node) : Option String :=
  if n.fate = .invoked ∧ n.watcher.tracker = t then n.name else none

/-- The hub after the completion of a node. -/
def settle (h : Hub) (n : Node) : Hub :=
  match n.fate, n.name with
  | .invoked, some name => (h.stepRegistry n.watcher.tracker (.record name)).1
  | _, _ => h

/-- The span that a node finishes, if any. -/
def labels (n : Node) : List (String × String) :=
  if n.fate = .invoked then [(spanName n.name, n.watcher.tracer)] else []

theorem settle_of_not_invoked {n : Node} (hn : n.fate ≠ .invoked) (h : Hub) : n.settle h = h := by
  unfold settle
  split
  · next hf _ => exact absurd hf hn
  · rfl

theorem foldl_settle_of_not_invoked {nodes : List Node} (hn : ∀ n ∈ nodes, n.fate ≠ .invoked)
    (h : Hub) : nodes.foldl settle h = h := by
  induction nodes with
  | nil => rfl
  | cons n nodes ih =>
    rw [List.foldl_cons, settle_of_not_invoked (hn n (by simp))]
    exact ih fun m hm => hn m (by simp [hm])

theorem registry_settle {n : Node} {h : Hub} (ht : h.Tracks n.watcher.tracker) (t : Nat) :
    (n.settle h).registry t =
      (n.counted? t).elim (h.registry t) fun name =>
        (Registry.step (.record name) (h.registry t)).1 := by
  obtain ⟨path, watcher, name, fate⟩ := n
  cases fate with
  | unreached | refused => simp [settle, counted?]
  | invoked =>
    cases name with
    | none => simp [settle, counted?]
    | some name =>
      have hlt := Hub.lt_of_tracker ht.2
      by_cases hw : watcher.tracker = t
      · subst hw
        have hs := h.registry_setRegistry_self hlt
        simp [settle, counted?, Hub.stepRegistry, hs]
      · have hs := h.registry_setRegistry_of_ne hw
        simp [settle, counted?, Hub.stepRegistry, hs, hw]

end Node

theorem Hub.Tracks.settle {h : Hub} {t : Nat} (ht : h.Tracks t) {n : Node}
    (hn : h.Tracks n.watcher.tracker) : (n.settle h).Tracks t := by
  rw [Hub.Tracks, Node.registry_settle hn]
  cases n.counted? t with
  | none => exact ht
  | some name => exact ⟨ht.1.step _, (Registry.tracker_step _ _).trans ht.2⟩

theorem Hub.Tracks.settled {nodes : List Node} {h : Hub} {t : Nat} (ht : h.Tracks t)
    (hn : ∀ n ∈ nodes, h.Tracks n.watcher.tracker) : (nodes.foldl Node.settle h).Tracks t := by
  induction nodes generalizing h with
  | nil => exact ht
  | cons n nodes ih =>
    have hw : h.Tracks n.watcher.tracker := hn n (by simp)
    exact ih (ht.settle hw) fun m hm => (hn m (by simp [hm])).settle hw

/-! ## What a part of a run leaves -/

/-- A part of a run that passes some nodes: what it gives, and what the nodes leave behind. -/
structure Settles (s : Recorder) (nodes : List Node) (result : Outcome)
    (out : Recorder × Outcome) : Prop where
  outcome : out.2 = result
  hub : out.1.hub = nodes.foldl Node.settle s.hub
  spans : out.1.spans.map Span.label = s.spans.map Span.label ++ nodes.flatMap Node.labels

namespace Settles
variable {s : Recorder} {nodes more : List Node} {result other : Outcome}
  {out next : Recorder × Outcome}

theorem nothing (s : Recorder) (result : Outcome) : Settles s [] result (s, result) :=
  ⟨rfl, rfl, by simp⟩

theorem append (h : Settles s nodes result out) (hm : Settles out.1 more other next) :
    Settles s (nodes ++ more) other next := by
  refine ⟨hm.outcome, ?_, ?_⟩
  · rw [hm.hub, h.hub, List.foldl_append]
  · rw [hm.spans, h.spans, List.flatMap_append, List.append_assoc]

theorem append_idle (h : Settles s nodes result out) (hm : ∀ n ∈ more, n.fate ≠ .invoked) :
    Settles s (nodes ++ more) result out := by
  refine ⟨h.outcome, ?_, ?_⟩
  · rw [List.foldl_append, Node.foldl_settle_of_not_invoked hm, h.hub]
  · have hnone : more.flatMap Node.labels = [] := by
      rw [List.flatMap_eq_nil_iff]
      intro n hn
      rw [Node.labels, if_neg (hm n hn)]
    rw [List.flatMap_append, hnone, List.append_nil, h.spans]

theorem append_unreached (h : Settles s nodes result out)
    (hm : ∀ n ∈ more, n.fate = .unreached) : Settles s (nodes ++ more) result out := by
  refine h.append_idle ?_
  intro n hn
  rw [hm n hn]
  decide

theorem unreached (s : Recorder) (result : Outcome) (hn : ∀ n ∈ nodes, n.fate = .unreached) :
    Settles s nodes result (s, result) :=
  (nothing s result).append_unreached hn

theorem unreached_concat (s : Recorder) (result : Outcome) {node : Node}
    (hn : ∀ n ∈ nodes, n.fate = .unreached) (hnode : node.fate ≠ .invoked) :
    Settles s (nodes ++ [node]) result (s, result) := by
  refine (unreached s result hn).append_idle ?_
  intro n hmem
  rwa [List.mem_singleton.1 hmem]

theorem mapError (h : Settles s nodes result out) (f : Raised → Raised) :
    Settles s nodes (result.mapError f) (out.1, out.2.mapError f) :=
  ⟨by rw [h.outcome], h.hub, h.spans⟩

theorem tracks (h : Settles s nodes result out) {t : Nat} (ht : s.hub.Tracks t)
    (hn : ∀ n ∈ nodes, s.hub.Tracks n.watcher.tracker) : out.1.hub.Tracks t := by
  rw [h.hub]
  exact ht.settled hn

end Settles

theorem label_failing (x : Span) (e : Raised) (description : String → String) :
    (x.failing e description).label = x.label := by
  rw [Span.failing]
  cases e.text? with
  | error other => rfl
  | ok text =>
    dsimp only
    split <;> rfl

/-- The span of an execution that was counted: what it was told of how its command ended, and what
the exception that left it, if any, added at its end. -/
def Span.finished (name parent : Option String) (tracer : String) (result : Outcome) : Span :=
  ((Span.opened name parent tracer).told result).passed (result.mapError Raised.whenRead)

theorem label_finished (name parent : Option String) (tracer : String) (result : Outcome) :
    (Span.finished name parent tracer result).label = (spanName name, tracer) := by
  have hpassed : ∀ (x : Span) (r : Outcome), (x.passed r).label = x.label := by
    intro x r
    cases r with
    | ok reply => rfl
    | error e =>
      rw [Span.passed]
      split
      · exact label_failing x e _
      · rfl
  rw [Span.finished, hpassed]
  cases result with
  | ok reply => rfl
  | error e =>
    rw [Span.told]
    split
    · rw [label_failing]
      rfl
    · rfl

/-- In a tracker, an execution is counted and its span finished; its result goes through, but for an
exception whose text cannot be read. -/
theorem Recorder.close_of_tracks {s : Recorder} {i : Interceptor} (ht : s.hub.Tracks i.tracker)
    (name parent : Option String) (result : Outcome) :
    s.close i name parent result = ((s.count i.tracker name).1.finish
      (Span.finished name parent i.tracer result), result.mapError Raised.leaving) := by
  have hleaving : (result.mapError Raised.whenRead).mapError Raised.whenRead =
      result.mapError Raised.leaving := by
    cases result <;> rfl
  have hcount : (s.count i.tracker name).2 = none := by
    cases name with
    | none => rfl
    | some name =>
      have ha : (s.hub.stepRegistry i.tracker (.record name)).2.1 = .nothing := by
        change Registry.Answer.ofRecord ((s.hub.registry i.tracker).record name).2 = _
        rw [Registry.record_eq_of_tracker ht.2]
        rfl
      simp only [count, ha]
  rw [close, ← hleaving]
  generalize s.count i.tracker name = counted at hcount
  obtain ⟨s', failure⟩ := counted
  cases hcount
  rfl

theorem Recorder.close_settles {s : Recorder} {i : Interceptor} (ht : s.hub.Tracks i.tracker)
    (path : List Nat) (name parent : Option String) (result : Outcome) :
    Settles s [⟨path, i, name, .invoked⟩] (result.mapError Raised.leaving)
      (s.close i name parent result) := by
  rw [close_of_tracks ht]
  refine ⟨rfl, ?_, ?_⟩
  · cases name <;> rfl
  · cases name <;> simp [count, finish, Node.labels, label_finished]

theorem Settles.close {s : Recorder} {nodes : List Node} {result : Outcome}
    {out : Recorder × Outcome} (h : Settles s nodes result out) {i : Interceptor}
    (ht : out.1.hub.Tracks i.tracker) (path : List Nat) (name parent : Option String) :
    Settles s (nodes ++ [⟨path, i, name, .invoked⟩]) (result.mapError Raised.leaving)
      (out.1.close i name parent out.2) := by
  refine h.append ?_
  rw [← h.outcome]
  exact Recorder.close_settles ht path name parent out.2

/-! ## Runs -/

theorem Command.name?_of_enter {c : Command} {name : Option String} (h : c.enter = .ok name) :
    c.name? = name := by
  rw [enter] at h
  split at h
  · cases h
  · split at h
    · cases h
    · rw [name?, h]
      rfl

theorem resolvedName?_of_startCounted {explicit name : Option String} {target : Command}
    {use : Use} (h : startCounted explicit target use = .ok name) :
    resolvedName? explicit target = name := by
  rw [startCounted] at h
  split at h
  · cases h
  · next hw =>
    cases hm : target.made with
    | error e =>
      rw [hm] at hw
      cases hw
    | ok _ =>
      rw [hm] at hw
      split at h
      · cases h
      · cases h
        rw [resolvedName?, show resolvedName explicit target = .ok name from hw]
        rfl

theorem Body.run_execute (i : Interceptor) (c : Command) (cargs : List Value) (rest : Body)
    (parent : Option String) (args : List Value) (named : List (String × Value)) (s : Recorder) :
    (Body.execute i c cargs rest).run parent args named s =
      match i.execute c parent cargs [] s with
      | (s, .error e) => (s, .error e)
      | (s, .ok _) => rest.run parent args named s := by
  rw [Body.run, Interceptor.execute]
  cases c.enter <;> rfl

/-- What an interceptor passes on to the caller. -/
def Command.executed (c : Command) (args : List Value) (named : List (String × Value)) : Outcome :=
  c.unlessRefused ((c.outcome .execute args named).mapError Raised.leaving)

/-- An execution settles what its command settles, and then its own node unless it is refused. -/
theorem Interceptor.execute_settles {i : Interceptor} {c : Command} (path : List Nat)
    {args : List Value} {named : List (String × Value)} {s : Recorder} (parent : Option String)
    (hc : (∀ n ∈ c.nodes (path ++ [0]) true .execute args named,
        s.hub.Tracks n.watcher.tracker) →
      Settles s (c.nodes (path ++ [0]) true .execute args named) (c.outcome .execute args named)
        (c.apply .execute (some (spanName c.name?)) args named s))
    (ht : ∀ n ∈ c.nodes (path ++ [0]) c.enter.isOk .execute args named ++
      [⟨path, i, c.name?, c.fate true⟩], s.hub.Tracks n.watcher.tracker) :
    Settles s (c.nodes (path ++ [0]) c.enter.isOk .execute args named ++
        [⟨path, i, c.name?, c.fate true⟩])
      (c.executed args named) (i.execute c parent args named s) := by
  rw [Interceptor.execute, Command.executed, Command.unlessRefused, Command.fate] at *
  cases hr : c.enter with
  | error e =>
    have hbelow := c.fate_of_not_entered (path ++ [0]) .execute args named
    exact Settles.unreached_concat s _ hbelow (by simp [Except.isOk, Except.toBool])
  | ok name =>
    rw [hr] at ht
    obtain rfl := Command.name?_of_enter hr
    have hbelow := hc fun n hn => ht n (List.mem_append_left _ hn)
    have htracks := hbelow.tracks (ht _ (List.mem_append_right _ (List.mem_singleton.2 rfl)))
      fun n hn => ht n (List.mem_append_left _ hn)
    exact hbelow.close htracks path c.name? parent

/-- The rest of a body follows what gave no exception, and is not entered after one. -/
theorem Settles.followed {s : Recorder} {front : List Node} {result : Outcome} {entered : Bool}
    {out : Recorder × Outcome} {rest : Body} {path : List Nat} {k : Nat} {parent : Option String}
    {args : List Value} {named : List (String × Value)} :
    result.isOk = entered → Settles s front result out →
    (∀ s' : Recorder,
      (∀ n ∈ rest.nodes path k true args named, s'.hub.Tracks n.watcher.tracker) →
        Settles s' (rest.nodes path k true args named) (rest.outcome args named)
          (rest.run parent args named s')) →
    (∀ n ∈ front ++ rest.nodes path k entered args named, s.hub.Tracks n.watcher.tracker) →
    Settles s (front ++ rest.nodes path k entered args named)
      (match result with
        | .error e => .error e
        | .ok _ => rest.outcome args named)
      (match out with
        | (s, .error e) => (s, .error e)
        | (s, .ok _) => rest.run parent args named s) := by
  intro he h hrest ht
  have hfront : ∀ n ∈ front, s.hub.Tracks n.watcher.tracker :=
    fun n hn => ht n (List.mem_append_left _ hn)
  obtain ⟨s', last⟩ := out
  cases he
  cases h.outcome
  cases last with
  | error e =>
    exact h.append_unreached (rest.fate_of_not_entered path k args named)
  | ok reply =>
    refine h.append (hrest s' ?_)
    intro n hn
    exact h.tracks (ht n (List.mem_append_right _ hn)) hfront

/-- Whether an exception ends a body does not depend on whether executions are counted. -/
theorem Command.isOk_outcome (c : Command) (use : Use) (args : List Value)
    (named : List (String × Value)) :
    (c.outcome use args named).isOk = (c.bare use args named).isOk :=
  (c.outcome_alike use args named).isOk_eq

theorem Command.isOk_executed (c : Command) (args : List Value) (named : List (String × Value)) :
    (c.executed args named).isOk = (c.unlessRefused (c.bare .execute args named)).isOk := by
  have h := c.isOk_outcome .execute args named
  rw [executed, unlessRefused, unlessRefused]
  cases c.enter with
  | error e => rfl
  | ok name =>
    rw [← h]
    cases c.outcome .execute args named <;> rfl

mutual

/-- By induction on the tree. What a part leaves in the hub keeps all trackers, so the hypothesis
that the nodes report to trackers passes from each part to the next. -/
theorem Command.apply_settles (c : Command) (path : List Nat) (use : Use) (parent : Option String)
    (args : List Value) (named : List (String × Value)) (s : Recorder)
    (ht : ∀ n ∈ c.nodes path true use args named, s.hub.Tracks n.watcher.tracker) :
    Settles s (c.nodes path true use args named) (c.outcome use args named)
      (c.apply use parent args named s) := by
  cases c with
  | function _ _ body | method _ body | preset body =>
    rw [Command.nodes] at ht ⊢
    rw [Command.outcome, Command.gives, Command.apply]
    exact body.run_settles path 0 parent args named s ht
  | coroutine _ body =>
    rw [Command.nodes] at ht ⊢
    rw [Command.outcome, Command.gives, Command.apply]
    by_cases hu : use = .await
    · subst hu
      exact (body.run_settles path 0 parent args named s ht).mapError Raised.leavingCoroutine
    · simp only [hu, decide_false, Bool.and_false, if_false]
      exact Settles.unreached s _ (body.fate_of_not_entered path 0 args named)
  | object className nature execute call body =>
    rw [Command.nodes] at ht ⊢
    rw [Command.outcome, Command.gives, Command.apply]
    by_cases hslot : slotFor use nature execute call = .body
    · simp only [hslot, decide_true, Bool.and_true, if_true] at ht ⊢
      exact body.run_settles path 0 parent args named s ht
    · simp only [hslot, decide_false, Bool.and_false, if_false]
      exact Settles.unreached s _ (body.fate_of_not_entered path 0 args named)
  | counted i explicit target =>
    rw [Command.nodes] at ht ⊢
    rw [Command.outcome, Command.gives, Command.apply]
    cases hs : startCounted explicit target use with
    -- not to be called, or not before it is awaited: nothing below is entered
    | error result =>
      have hbelow := target.fate_of_not_entered (path ++ [0])
        (if use = .await then .await else .call) args named
      exact Settles.unreached_concat s _ hbelow (by simp [calledFate, Except.isOk, Except.toBool])
    | ok name =>
      rw [hs] at ht
      obtain rfl := resolvedName?_of_startCounted hs
      have hbelow := target.apply_settles (path ++ [0]) (if use = .await then .await else .call)
        (some (spanName (resolvedName? explicit target))) args named s
        fun n hn => ht n (List.mem_append_left _ hn)
      have htracks := hbelow.tracks (ht _ (List.mem_append_right _ (List.mem_singleton.2 rfl)))
        fun n hn => ht n (List.mem_append_left _ hn)
      exact hbelow.close htracks path (resolvedName? explicit target) parent
  | builtin b =>
    rw [Command.nodes, Command.outcome, Command.gives, Command.apply]
    exact Settles.nothing s _
  | classItself name =>
    rw [Command.nodes, Command.outcome, Command.gives, Command.apply]
    cases args.isEmpty && named.isEmpty <;> exact Settles.nothing s _
  | value v =>
    rw [Command.nodes, Command.outcome, Command.gives, Command.apply]
    exact Settles.nothing s _

theorem Body.run_settles (b : Body) (path : List Nat) (k : Nat) (parent : Option String)
    (args : List Value) (named : List (String × Value)) (s : Recorder)
    (ht : ∀ n ∈ b.nodes path k true args named, s.hub.Tracks n.watcher.tracker) :
    Settles s (b.nodes path k true args named) (b.outcome args named)
      (b.run parent args named s) := by
  cases b with
  | finish e =>
    rw [Body.nodes, Body.outcome, Body.gives, Body.run]
    exact Settles.nothing s _
  | execute i c cargs rest =>
    rw [Body.nodes] at ht ⊢
    rw [Body.outcome, Body.gives, Body.run_execute]
    have hc := Interceptor.execute_settles (path ++ [k]) parent
      (c.apply_settles (path ++ [k] ++ [0]) .execute (some (spanName c.name?)) cargs [] s)
      fun n hn => ht n (List.mem_append_left _ hn)
    exact Settles.followed (c.isOk_executed cargs []) hc
      (rest.run_settles path (k + 1) parent args named) ht
  | call c rest =>
    rw [Body.nodes] at ht ⊢
    rw [Body.outcome, Body.gives, Body.run]
    have hc := c.apply_settles (path ++ [k]) .call parent [] [] s
      fun n hn => ht n (List.mem_append_left _ hn)
    exact Settles.followed (c.isOk_outcome .call [] []) hc
      (rest.run_settles path (k + 1) parent args named) ht
  | await c rest =>
    rw [Body.nodes] at ht ⊢
    rw [Body.outcome, Body.gives, Body.run]
    have hc := c.apply_settles (path ++ [k]) .await parent [] [] s
      fun n hn => ht n (List.mem_append_left _ hn)
    exact Settles.followed (c.isOk_outcome .await [] []) hc
      (rest.run_settles path (k + 1) parent args named) ht

end

end UsageMeter
