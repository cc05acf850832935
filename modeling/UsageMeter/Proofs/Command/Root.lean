import UsageMeter.Proofs.Command.Completion

/-!
Whole trees. A tree is started by an interceptor or by calling a function that counts its calls;
each tracker then has one more for each invoked node of its own under the node's name.
-/
namespace UsageMeter

/-- How a tree is started. -/
inductive Root where
  | executed (i : Interceptor) (c : Command)
  | called (i : Interceptor) (explicit : Option String) (target : Command)

namespace Root

def run (r : Root) (parent : Option String) (args : List Value) (named : List (String × Value))
    (s : Recorder) : Recorder × Outcome :=
  match r with
  | .executed i c => i.execute c parent args named s
  | .called i explicit target =>
    (Command.counted i explicit target).apply .call parent args named s

/-- What the tree gives when nothing is counted. A command that an interceptor refuses, or that
bears no name to be read, fails all the same. -/
def bare (r : Root) (args : List Value) (named : List (String × Value)) : Outcome :=
  match r with
  | .executed _ c => c.unlessRefused (c.bare .execute args named)
  | .called i explicit target => (Command.counted i explicit target).bare .call args named

/-- The texts of all exceptions that the bodies in the tree raise can be read. -/
def readable : Root → Bool
  | .executed _ c => c.readable
  | .called _ _ target => target.readable

/-- What the tree gives when its executions are counted. -/
def outcome (r : Root) (args : List Value) (named : List (String × Value)) : Outcome :=
  match r with
  | .executed _ c => c.executed args named
  | .called i explicit target => (Command.counted i explicit target).outcome .call args named

theorem outcome_alike (r : Root) (args : List Value) (named : List (String × Value)) :
    Outcome.Alike (r.readable = true) (r.bare args named) (r.outcome args named) := by
  cases r with
  | executed i c =>
    exact (c.leaving_alike .execute args named).unlessRefused c fun e => Command.readable_of_enter
  | called i explicit target =>
    have h := (Command.counted i explicit target).outcome_alike .call args named
    rwa [Command.readable] at h

/-- All nodes of the tree in order of completion, the root last. -/
def nodes (r : Root) (args : List Value) (named : List (String × Value)) : List Node :=
  match r with
  | .executed i c =>
    c.nodes [0] c.enter.isOk .execute args named ++ [⟨[], i, c.name?, c.fate true⟩]
  | .called i explicit target => (Command.counted i explicit target).nodes [] true .call args named

theorem postOrder_nodes (r : Root) (args : List Value) (named : List (String × Value)) :
    PostOrder (r.nodes args named) := by
  cases r with
  | executed i c =>
    exact (c.postOrder_nodes [0] _ .execute args named).concat
      (c.prefix_path [0] _ .execute args named)
  | called i explicit target =>
    exact (Command.counted i explicit target).postOrder_nodes [] true .call args named

theorem run_settles (r : Root) (parent : Option String) (args : List Value)
    (named : List (String × Value)) (s : Recorder)
    (ht : ∀ n ∈ r.nodes args named, s.hub.Tracks n.watcher.tracker) :
    Settles s (r.nodes args named) (r.outcome args named) (r.run parent args named s) := by
  cases r with
  | executed i c =>
    have hc := c.apply_settles [0] .execute (some (spanName c.name?)) args named s
    exact Interceptor.execute_settles [] parent hc ht
  | called i explicit target =>
    exact (Command.counted i explicit target).apply_settles [] .call parent args named s ht

end Root

theorem registry_settled {nodes : List Node} {h : Hub}
    (hn : ∀ n ∈ nodes, h.Tracks n.watcher.tracker) (t : Nat) :
    (nodes.foldl Node.settle h).registry t =
      Registry.run ((nodes.filterMap (Node.counted? t)).map .record) (h.registry t) := by
  induction nodes generalizing h with
  | nil => rfl
  | cons n nodes ih =>
    have hw : h.Tracks n.watcher.tracker := hn n (by simp)
    have hrest : ∀ m ∈ nodes, (n.settle h).Tracks m.watcher.tracker :=
      fun m hm => (hn m (by simp [hm])).settle hw
    rw [List.foldl_cons, ih hrest, Node.registry_settle hw, List.filterMap_cons]
    cases n.counted? t <;> rfl

theorem count_counted (nodes : List Node) (t : Nat) (name : String) :
    (nodes.filterMap (Node.counted? t)).count name =
      nodes.countP fun n => n.fate = .invoked ∧ n.watcher.tracker = t ∧ n.name = some name := by
  rw [List.count_filterMap]
  apply List.countP_congr
  intro n _
  unfold Node.counted?
  split
  · next h => simp [h.1, h.2]
  · next h =>
    simp only [beq_iff_eq, reduceCtorEq, decide_eq_true_eq, false_iff]
    exact fun hall => h ⟨hall.1, hall.2.1⟩

/-- Running a tree whose nodes all report to trackers gives the value that its bodies give when
nothing is counted, and if the texts of the exceptions that they raise can be read, it gives exactly
the same exception as well. The nodes complete in order, those below a node before it, and each
whose target was called leaves one span and, if it has a name, one record in its own tracker, also
where its target cannot be called. So a tracker has one more under a name for each such node of its
own of that name and nothing for any other node, and new names stand in the order in which the first
nodes of these names completed. -/
theorem executions_counted_at_completion (root : Root) (parent : Option String)
    (args : List Value) (named : List (String × Value)) (s : Recorder)
    (ht : ∀ n ∈ root.nodes args named, s.hub.Tracks n.watcher.tracker) :
    let nodes := root.nodes args named
    let out := root.run parent args named s
    (∀ reply, out.2 = .ok reply ↔ root.bare args named = .ok reply) ∧
    (root.readable = true → out.2 = root.bare args named) ∧
    PostOrder nodes ∧
    out.1.hub = nodes.foldl Node.settle s.hub ∧
    out.1.spans.map Span.label = s.spans.map Span.label ++ nodes.flatMap Node.labels ∧
    ∀ t, s.hub.Tracks t →
      (out.1.hub.registry t).names =
        ((s.hub.registry t).names ++ nodes.filterMap (Node.counted? t)).eraseDups ∧
      ∀ name, (out.1.hub.registry t).get name = (s.hub.registry t).get name +
        nodes.countP fun n => n.fate = .invoked ∧ n.watcher.tracker = t ∧ n.name = some name := by
  intro nodes out
  have hs : Settles s nodes (root.outcome args named) out :=
    root.run_settles parent args named s ht
  have halike := root.outcome_alike args named
  rw [← hs.outcome] at halike
  refine ⟨halike.ok_iff, halike.eq, root.postOrder_nodes args named, hs.hub, hs.spans, ?_⟩
  intro t htt
  obtain ⟨hnames, hget⟩ := htt.1.sound.run_records htt.2 (nodes.filterMap (Node.counted? t))
  rw [hs.hub, registry_settled ht]
  refine ⟨hnames, fun name => ?_⟩
  rw [hget, count_counted]

/-- A deployment that executes and calls others until it executes a class, which is refused. -/
def failingDeployment : Root :=
  let i : Interceptor := ⟨0, defaultTracer⟩
  let done : Body := .finish (.returns .null)
  .executed i (.object "DeployCmd" .plain .body .absent
    (.execute i (.function "prepare" false done) []
    (.call (.counted ⟨1, defaultTracer⟩ (some "Audit") (.function "log" false done))
    (.execute i (.function anonymousFunction false done) []
    (.execute i (.classItself "DeployCmd") []
    (.execute i (.function "finish" false done) [] done))))))

theorem failing_deployment_counted :
    let s : Recorder := ⟨⟨[Registry.emptyTracker, Registry.emptyTracker], []⟩, [], []⟩
    let out := failingDeployment.run none [] [] s
    out.2 = .error (typeError "Pass a DeployCmd instance, not the class itself") ∧
    (out.1.hub.registry 0).names = ["prepare", "DeployCmd"] ∧
    (out.1.hub.registry 0).get "DeployCmd" = 1 ∧ (out.1.hub.registry 0).get "finish" = 0 ∧
    (out.1.hub.registry 1).names = ["Audit"] := by
  intro s out
  have htracks : ∀ i, i < 2 → s.hub.Tracks i := by
    intro i hi
    have he : s.hub.registry i = Registry.emptyTracker := by
      obtain _ | _ | i := i
      · rfl
      · rfl
      · omega
    rw [Hub.Tracks, he]
    exact ⟨⟨Registry.commandKind, true, [], rfl⟩, rfl⟩
  have hnodes : ∀ n ∈ failingDeployment.nodes [] [], n.watcher.tracker < 2 := by decide +kernel
  obtain ⟨-, houtcome, -, -, -, hcounts⟩ := executions_counted_at_completion failingDeployment none
    [] [] s fun n hn => htracks _ (hnodes n hn)
  obtain ⟨hnames, hget⟩ := hcounts 0 (htracks 0 (by decide))
  obtain ⟨hother, -⟩ := hcounts 1 (htracks 1 (by decide))
  refine ⟨houtcome rfl, hnames.trans ?_, (hget _).trans ?_, (hget _).trans ?_, hother.trans ?_⟩
  · decide +kernel
  · decide +kernel
  · decide +kernel
  · decide +kernel

/-- A job that raises an exception whose text raises another, one that has nothing to call but data,
and one that binds as functions do and bears no name. -/
def mutedJob : Root :=
  .executed ⟨0, defaultTracer⟩ (.object "Job" .plain .body .absent
    (.finish (.raises (.mute "ValueError" true (.saying "RuntimeError" "no text" true)))))

def hollowJob : Root :=
  .executed ⟨0, defaultTracer⟩ (.object "Job" .plain .absent .data (.finish .echoes))

def namelessJob : Command :=
  .object "Hook" (.binding none) .absent .body (.finish (.returns .null))

/-- The caller gets another exception than the job raised; a job of which nothing can run is counted;
and a job that gives a value when it is called fails for its name when it is executed. -/
theorem muted_job_replaced :
    let s : Recorder := ⟨⟨[Registry.emptyTracker], []⟩, [], []⟩
    let muted := mutedJob.run none [] [] s
    let hollow := hollowJob.run none [] [] s
    let nameless := (Root.executed ⟨0, defaultTracer⟩ namelessJob).run none [] [] s
    mutedJob.bare [] [] =
      .error (.mute "ValueError" true (.saying "RuntimeError" "no text" true)) ∧
    muted.2 = .error (.saying "RuntimeError" "no text" true) ∧ muted.2 ≠ mutedJob.bare [] [] ∧
    hollow.2 = .error (typeError "'int' object is not callable") ∧
    (hollow.1.hub.registry 0).pairs = [("Job", 1)] ∧
    namelessJob.bare .call [] [] = .ok (.value .null) ∧
    nameless.2 = .error (missingName "Hook") ∧ (nameless.1.hub.registry 0).pairs = [] := by
  intro s muted hollow nameless
  have hbare : mutedJob.bare [] [] =
      .error (.mute "ValueError" true (.saying "RuntimeError" "no text" true)) := rfl
  have hmuted : muted.2 = .error (.saying "RuntimeError" "no text" true) := rfl
  refine ⟨hbare, hmuted, ?_, rfl, by decide +kernel, rfl, rfl, by decide +kernel⟩
  rw [hbare, hmuted]
  simp

end UsageMeter
