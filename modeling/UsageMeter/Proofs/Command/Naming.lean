import UsageMeter.Proofs.Command.Spans
import UsageMeter.Proofs.Command.Wrapping

/-!
Names of commands. An object is counted under the name of its class, and of a dotted name only the
last component counts. Every name that comes out is its own last component, so a tracker that is fed
by interceptors, and by functions to which nobody gave a name, lists no other names.
-/
namespace UsageMeter

/-! ## Names of instances -/

/-- What is no text, no routine and no class is named after its class. -/
theorem Command.named_of_instance {c : Command} (ht : c.ownText? = none)
    (hr : c.isRoutine = false) (hc : c.isClass = false) :
    c.named = (Command.classItself c.typeName).named := by
  have hq : c.qualifiedName = .ok c.typeName := by
    rw [qualifiedName, ht, hr, hc]
    rfl
  rw [named, hq]
  rfl

/-! ## Keys of a tracker -/

/-- The node of an execution that came to its end. -/
def Execution.node (e : Execution) : Node :=
  ⟨[], e.watcher, e.name, .invoked⟩

namespace Recorder
variable {s : Recorder} {es : List Execution} {t : Nat}

theorem hub_replays (hes : ∀ e ∈ es, s.hub.Tracks e.watcher.tracker) :
    (es.foldl replay s).hub = (es.map Execution.node).foldl Node.settle s.hub := by
  induction es generalizing s with
  | nil => rfl
  | cons e es ih =>
    have he : s.hub.Tracks e.watcher.tracker := hes e (by simp)
    have hrest : ∀ e' ∈ es, (s.replay e).hub.Tracks e'.watcher.tracker :=
      fun e' hm => tracks_replay (hes e' (by simp [hm])) he
    rw [List.foldl_cons, ih hrest, hub_replay he]
    rfl

/-- A tracker lists the names that it had and those of the executions that it watched. -/
theorem mem_names_replays (ht : s.hub.Tracks t)
    (hes : ∀ e ∈ es, s.hub.Tracks e.watcher.tracker) {name : String} :
    name ∈ ((es.foldl replay s).hub.registry t).names ↔
      name ∈ (s.hub.registry t).names ∨
        ∃ e ∈ es, e.watcher.tracker = t ∧ e.name = some name := by
  have hnodes : ∀ n ∈ es.map Execution.node, s.hub.Tracks n.watcher.tracker := by
    intro n hn
    obtain ⟨e, he, rfl⟩ := List.mem_map.1 hn
    exact hes e he
  obtain ⟨hnames, -⟩ := ht.1.sound.run_records ht.2
    ((es.map Execution.node).filterMap (Node.counted? t))
  rw [hub_replays hes, registry_settled hnodes, hnames, List.mem_eraseDups, List.mem_append,
    List.filterMap_map, List.mem_filterMap]
  simp [Node.counted?, Execution.node]

end Recorder

/-- A plain object, its class, the name of the class and that name after a qualifier are all counted
under one name, and so is everything that is no text, no routine and no class. A name under which
something is counted is normal, and the normal names are those that are counted as they are. So in
every state of any launches, that is after any number of their executions, a tracker lists normal
names only if it listed none before, and nobody gave a name to the functions that count their calls
in it. -/
theorem counted_names_normal :
    (∀ (className qualifier : String) (execute call : Slot) (body : Body),
      let name := countedName? className
      (Command.object className .plain execute call body).named = .ok name ∧
      (Command.classItself className).named = .ok name ∧
      (Command.value (.str className)).named = .ok name ∧
      (Command.value (.str (qualifier ++ "." ++ className))).named = .ok name) ∧
    (∀ c : Command, c.ownText? = none → c.isRoutine = false → c.isClass = false →
      c.named = (Command.classItself c.typeName).named) ∧
    (∀ (c : Command) (name : String), c.named = .ok (some name) → NormalName name) ∧
    (∀ name, NormalName name ↔ (Command.value (.str name)).named = .ok (some name)) ∧
    ∀ (launches : List Launch) (t : Nat) (s : Recorder), s.hub.Tracks t →
      (s.hub.registry t).names = [] →
      (∀ e ∈ launches.flatMap Launch.executions, s.hub.Tracks e.watcher.tracker) →
      (∀ l ∈ launches, l.selfNamed t = true) →
      let executions := launches.flatMap Launch.executions
      Launch.runAll launches s = executions.foldl Recorder.replay s ∧
      ∀ ended remaining, executions = ended ++ remaining →
        ∀ name ∈ ((ended.foldl Recorder.replay s).hub.registry t).names, NormalName name := by
  refine ⟨?_, fun c => c.named_of_instance, ?_, ?_, ?_⟩
  · intro className qualifier execute call body name
    exact ⟨rfl, rfl, rfl, congrArg Except.ok (countedName?_dotted qualifier className)⟩
  · intro c name h
    refine Command.normal_of_name? (c := c) ?_
    rw [Command.name?, h]
    rfl
  · intro name
    have hnamed : (Command.value (.str name)).named = .ok (countedName? name) := rfl
    rw [hnamed, Except.ok.injEq]
    exact countedName?_eq_self_iff.symm
  · intro launches t s ht hempty htracks hself executions
    refine ⟨Launch.runAll_eq_replay launches htracks, fun ended remaining he name hname => ?_⟩
    have hended : ∀ e ∈ ended, e ∈ executions := fun e hm => he ▸ List.mem_append_left _ hm
    rw [Recorder.mem_names_replays ht fun e hm => htracks e (hended e hm), hempty] at hname
    obtain ⟨e, hm, hw, hn⟩ := hname.resolve_left List.not_mem_nil
    obtain ⟨l, hl, hel⟩ := List.mem_flatMap.1 (hended e hm)
    have hnamed := l.named_executions t e hel
    rw [hself l hl] at hnamed
    exact hnamed.normal hw hn

/-- A job of a class with a dotted name that calls a function, and something anonymous. -/
def nightlyJobs : List Launch :=
  let i : Interceptor := ⟨0, defaultTracer⟩
  let done : Body := .finish (.returns .null)
  [.executed i (.object "jobs.Cleanup" .plain .body .absent
      (.call (.counted i none (.function "purge" false done)) done)) [] [],
    .executed i (.function anonymousFunction false done) [] [],
    .called i (some "") (.coroutine "report" done) [] []]

theorem nightly_jobs_named :
    let s : Recorder := ⟨⟨[Registry.emptyTracker], []⟩, [], []⟩
    (Command.value (.str "jobs.Cleanup")).named = (Command.classItself "Cleanup").named ∧
    ((Launch.runAll nightlyJobs s).hub.registry 0).names = ["purge", "Cleanup", "report"] ∧
    NormalName "Cleanup" ∧ ¬NormalName "jobs.Cleanup" := by
  intro s
  have ht : s.hub.Tracks 0 := ⟨⟨Registry.commandKind, true, [], rfl⟩, rfl⟩
  have hwatchers : ∀ e ∈ nightlyJobs.flatMap Launch.executions, e.watcher.tracker = 0 := by
    decide +kernel
  obtain ⟨hinstance, -, -, hnormal, hruns⟩ := counted_names_normal
  obtain ⟨-, hclass, -, hdotted⟩ := hinstance "Cleanup" "jobs" .absent .absent (.finish .echoes)
  obtain ⟨hrun, hkeys⟩ := hruns nightlyJobs 0 s ht rfl
    (fun e hm => by rwa [hwatchers e hm]) (by decide)
  have hnames : ((Launch.runAll nightlyJobs s).hub.registry 0).names =
      ["purge", "Cleanup", "report"] := by
    decide +kernel
  have hcleanup := hkeys _ [] (List.append_nil _).symm "Cleanup" (by rw [← hrun, hnames]; simp)
  refine ⟨hdotted.trans hclass.symm, hnames, hcleanup, fun h => ?_⟩
  exact absurd h.undotted (by decide)

/-- A text is not named after its class, and an instance of a class that binds as functions do is
named after itself or has no name. -/
theorem text_named_by_itself :
    let hook := fun name => Command.object "Hook" (.binding name) .body .absent (.finish .echoes)
    (Command.value (.str "abc")).typeName = "str" ∧
    (Command.classItself "str").named = .ok (some "str") ∧
    (Command.value (.str "abc")).named = .ok (some "abc") ∧
    (Command.classItself "Hook").named = .ok (some "Hook") ∧
    (hook (some "sync")).named = .ok (some "sync") ∧
    (hook none).named =
      .error (.saying "AttributeError" "'Hook' object has no attribute '__name__'" true) := by
  intro hook
  exact ⟨rfl, rfl, rfl, rfl, rfl, by decide +kernel⟩

end UsageMeter
