import UsageMeter.Export.Observations
import UsageMeter.Proofs.Hub
import UsageMeter.Proofs.Registry.Reach
import UsageMeter.Service.Basic

/-!
Rejected increments. An increment is rejected exactly when it is no integer from zero up, and a
rejected one leaves what registering the name alone would have left: nothing new if the name is
known, else the name at the end with the value zero.
-/
namespace UsageMeter.Registry
variable {r : Registry}

theorem increment_cases (r : Registry) (name : String) (v : Value) :
    (Acceptable v ∧ (r.increment name v).2 = .ok ()) ∨
      (¬Acceptable v ∧ ∃ e, r.increment name v = ((r.register name).1, .error e)) := by
  rw [increment_eq]
  obtain ⟨k, hk, -, hv⟩ | ⟨e, he, -, hv⟩ :=
    incrementAt_cases (r.register name).1 (r.register name).2 v
  · exact Or.inl ⟨hv, by rw [hk]⟩
  · exact Or.inr ⟨hv, e, he⟩

theorem increment_eq_error_iff (r : Registry) (name : String) (v : Value) :
    (∃ e, (r.increment name v).2 = .error e) ↔ ¬Acceptable v := by
  obtain ⟨hv, hk⟩ | ⟨hv, e, he⟩ := increment_cases r name v
  · rw [hk]
    simp [hv]
  · rw [he]
    simp [hv]

theorem increment_fst_of_rejected (r : Registry) (name : String) {v : Value}
    (hv : ¬Acceptable v) : (r.increment name v).1 = (r.register name).1 := by
  obtain ⟨ha, -⟩ | ⟨-, e, he⟩ := increment_cases r name v
  · exact absurd ha hv
  · rw [he]

theorem Sound.register_of_mem (h : r.Sound) {name : String} (hm : name ∈ r.names) :
    (r.register name).1 = r := by
  rw [h.mem_names_iff, contains, Option.isSome_iff_exists] at hm
  obtain ⟨i, hi⟩ := hm
  rw [register_of_some hi]

theorem Sound.size_eq (h : r.Sound) : r.size = r.names.length := by
  rw [h.names_eq, List.length_map]
  rfl

/-- What is seen of a registry after a new name was registered. -/
theorem Sound.register_of_not_mem (h : r.Sound) {name : String} (hm : name ∉ r.names) :
    let r' := (r.register name).1
    r'.pairs = r.pairs ++ [(name, 0)] ∧ r'.snapshot.toList = r.snapshot.toList ++ [(name, 0)] ∧
      r'.names = r.names ++ [name] ∧ r'.size = r.size + 1 := by
  intro r'
  have hsound : r'.Sound := h.register name
  have hnames : r'.names = r.names ++ [name] := by
    rw [h.names_register, enlist, if_neg hm]
  have hzero : r.get name = 0 := by
    rw [h.names_eq, ← find?_eq_none_iff] at hm
    exact get_eq_zero_of_find?_eq_none hm
  have hpairs : r'.pairs = r.pairs ++ [(name, 0)] := by
    rw [hsound.pairs_eq, hnames, h.pairs_eq, List.map_append, List.map_cons, List.map_nil,
      h.get_register, hzero]
    congr 1
    exact List.map_congr_left fun n _ => by rw [h.get_register]
  refine ⟨hpairs, ?_, hnames, ?_⟩
  · rw [Table.toList, Table.toList, hsound.entries_snapshot, h.entries_snapshot, hpairs]
  · rw [hsound.size_eq, h.size_eq, hnames, List.length_append]
    rfl

theorem observe_append {i : Export.Instrument} {h h' : Hub} {more : List (String × Nat)}
    (hmore : (h'.registry i.registry).snapshot.toList =
      (h.registry i.registry).snapshot.toList ++ more) :
    i.observe h' = i.observe h ++ more.map fun e => ⟨e.2, (i.label, e.1)⟩ := by
  rw [Export.Instrument.observe, Export.Instrument.observe, hmore, List.map_append]

/-- The metric family of a collector with one more sample. -/
def withSample (families : List Export.Family) (name : String) : List Export.Family :=
  match families with
  | commands :: metrics :: rest =>
    commands :: ⟨metrics.name, metrics.type, metrics.documentation,
      metrics.samples ++ [⟨metrics.name ++ "_total", [("metric", name)], 0⟩]⟩ :: rest
  | families => families

theorem collect_append {c : Export.Collector} {h h' : Hub} {name : String}
    (hcommands : h'.registry c.commands = h.registry c.commands) (hfacts : h'.facts = h.facts)
    (hmore : (h'.registry c.metrics).snapshot.toList =
      (h.registry c.metrics).snapshot.toList ++ [(name, 0)]) :
    c.collect h' = withSample (c.collect h) name := by
  have hswitch : ∀ f, h'.factsAt f = h.factsAt f := by
    intro f
    rw [Hub.factsAt, hfacts, Hub.factsAt]
  simp only [Export.Collector.collect, Export.counterFamily, withSample, hcommands, hmore, hswitch,
    List.map_append, List.map_cons, List.map_nil]

/-- A rejected increment of a name that is not registered yet leaves the name behind. -/
theorem rejected_increment_registers :
    let r := made metricKind false
    r.Reachable ∧ (r.increment "jobs" (.int (-1))).2 = .error (.negative (-1)) ∧
      r.names = [] ∧ (r.increment "jobs" (.int (-1))).1.names = ["jobs"] ∧
      (r.increment "jobs" (.int (-1))).1 ≠ r :=
  ⟨⟨metricKind, false, [], rfl⟩, rfl, rfl, rfl, by decide⟩

/-- In every reachable registry and for every name, an increment is rejected exactly when it is no
integer from zero up. A rejected one changes nothing if the name is registered; else it leaves what
registering the name leaves, with the name at the end and the value zero, and with every other name,
place and value as before. The same holds through a service that records into the registry. -/
theorem rejected_increment_adds_name_at_most (h : Hub) (s : Service) (r : Registry)
    (hr : r.Reachable) (hs : h.registry s.metrics = r) (hi : s.metrics < h.registries.length)
    (name : String) (v : Value) :
    let r' := (r.increment name v).1
    let out := Service.step (.recordMetric name v) h s
    ((∃ e, (r.increment name v).2 = .error e) ↔ ¬∃ i : Int, 0 ≤ i ∧ v = .int i) ∧
    ((∃ e, out.answer = .rejected e) ↔ ¬∃ i : Int, 0 ≤ i ∧ v = .int i) ∧
    ((∃ e, (r.increment name v).2 = .error e) →
      r' = (r.register name).1 ∧
      (∀ other, r'.get other = r.get other) ∧
      (name ∈ r.names → r' = r ∧ out.hub = h) ∧
      (name ∉ r.names → r'.pairs = r.pairs ++ [(name, 0)] ∧
        r'.snapshot.toList = r.snapshot.toList ++ [(name, 0)] ∧
        r'.names = r.names ++ [name] ∧ r'.size = r.size + 1 ∧
        ∀ i : Export.Instrument, i.registry = s.metrics →
          i.observe out.hub = i.observe h ++ [⟨0, (i.label, name)⟩]) ∧
      (name ∉ r.names → ∀ c : Export.Collector, c.metrics = s.metrics → c.commands ≠ s.metrics →
        c.collect out.hub = withSample (c.collect h) name) ∧
      out.hub.registry s.metrics = r' ∧ out.hub.facts = h.facts ∧ out.service = s ∧
      ∀ j, j ≠ s.metrics → out.hub.registry j = h.registry j) := by
  intro r' out
  have hsound := hr.sound
  have hhub : out.hub = h.setRegistry s.metrics r' := by
    change h.setRegistry s.metrics ((h.registry s.metrics).increment name v).1 = _
    rw [hs]
  have hanswer : out.answer = .ofRegistry (.ofIncrement (r.increment name v).2) := by
    change Service.Answer.ofRegistry
      (.ofIncrement ((h.registry s.metrics).increment name v).2) = _
    rw [hs]
  have hput : out.hub.registry s.metrics = r' := by
    rw [hhub, Hub.registry_setRegistry_self h hi]
  refine ⟨increment_eq_error_iff r name v, ?_, ?_⟩
  · rw [hanswer]
    refine Iff.trans ?_ (increment_eq_error_iff r name v)
    cases (r.increment name v).2 <;> simp [Answer.ofIncrement, Service.Answer.ofRegistry]
  · intro he
    have hreg : r' = (r.register name).1 :=
      increment_fst_of_rejected r name ((increment_eq_error_iff r name v).1 he)
    have hfacts : out.hub.facts = h.facts := by
      rw [hhub]
      rfl
    have hothers : ∀ j, j ≠ s.metrics → out.hub.registry j = h.registry j := by
      intro j hj
      rw [hhub, Hub.registry_setRegistry_of_ne h (Ne.symm hj)]
    have hmore : name ∉ r.names → ∀ j, j = s.metrics → (out.hub.registry j).snapshot.toList =
        (h.registry j).snapshot.toList ++ [(name, 0)] := by
      rintro hm j rfl
      rw [hput, hs, hreg]
      exact (hsound.register_of_not_mem hm).2.1
    refine ⟨hreg, ?_, ?_, ?_, ?_, hput, hfacts, rfl, hothers⟩
    · intro other
      rw [hreg, hsound.get_register]
    · intro hm
      have hsame : r' = r := hreg.trans (hsound.register_of_mem hm)
      refine ⟨hsame, ?_⟩
      rw [hhub, hsame, ← hs, Hub.setRegistry_registry]
    · intro hm
      have hnew := hsound.register_of_not_mem hm
      rw [← hreg] at hnew
      obtain ⟨hpairs, hlist, hnames, hsize⟩ := hnew
      exact ⟨hpairs, hlist, hnames, hsize, fun i hi => observe_append (hmore hm _ hi)⟩
    · intro hm c hmetrics hcommands
      exact collect_append (hothers _ hcommands) hfacts (hmore hm _ hmetrics)

theorem rejected_metrics_listed :
    let r := run [.increment "jobs" (.int 4)] (made metricKind false)
    let h : Hub := ⟨[emptyTracker, r], [Facts.initial]⟩
    let s : Service := ⟨⟨.null, .null, "", "", ⟨"", ""⟩, ⟨"", ""⟩, none, none⟩, 0, 1, 0⟩
    let known := Service.step (.recordMetric "jobs" (.int (-1))) h s
    let unknown := Service.step (.recordMetric "flags" (.bool true)) h s
    known.hub = h ∧ (unknown.hub.registry 1).pairs = [("jobs", 4), ("flags", 0)] := by
  intro r h s known unknown
  have hr : r.Reachable := ⟨metricKind, false, _, rfl⟩
  obtain ⟨-, -, hknown⟩ := rejected_increment_adds_name_at_most h s r hr rfl (by decide) "jobs"
    (.int (-1))
  obtain ⟨-, -, hunknown⟩ := rejected_increment_adds_name_at_most h s r hr rfl (by decide) "flags"
    (.bool true)
  obtain ⟨-, -, hsame, -⟩ := hknown ⟨_, rfl⟩
  obtain ⟨-, -, -, hadded, -, hput, -⟩ := hunknown ⟨_, rfl⟩
  refine ⟨(hsame (by decide)).2, ?_⟩
  rw [hput, (hadded (by decide)).1]
  rfl

end UsageMeter.Registry
