import Mathlib.Algebra.Ring.Int.Defs
import UsageMeter.Proofs.Service.Parts

/-!
Reports as functions of the past. Each part of a report is described by the operations that came
before it and by nothing else, and a service over registries of its own reports just that.
-/
namespace UsageMeter.Service

namespace Op

def isReset : Op → Bool
  | .reset => true
  | _ => false

/-- Whether an operation starts the counts of commands anew. -/
def endsCommands : Op → Bool
  | .drainCommands | .reset => true
  | _ => false

/-- Whether an operation starts the totals of metrics anew. -/
def endsMetrics : Op → Bool
  | .drainMetrics | .reset => true
  | _ => false

def command? : Op → Option String
  | .recordCommand name => some name
  | _ => none

def metric? : Op → Option String
  | .recordMetric name _ => some name
  | _ => none

/-- What an operation adds to a metric. -/
def adds (name : String) : Op → Int
  | .recordMetric n v => if n = name then accepted v else 0
  | _ => 0

def webapp? : Op → Option String
  | .addWebapp name => some name
  | _ => none

def switch? : Op → Option Bool
  | .setEnabled v => some v.truth
  | _ => none

def static? : Op → Option StaticData
  | .setStatic d => some d
  | _ => none

/-- The licence that an operation sets, alone or with all static data. -/
def license? : Op → Option (Option License)
  | .setLicense license => some license
  | .setStatic d => some d.license
  | _ => none

/-- The server that an operation sets, alone or with all static data. -/
def server? : Op → Option (Option Component)
  | .setServer server => some server
  | .setStatic d => some d.server
  | _ => none

end Op

/-! ## The reference -/

/-- What the last operation that set something set it to, or how it started. -/
def latest {α : Type} (set? : Op → Option α) (start : α) (past : List Op) : α :=
  ((past.filterMap set?).getLast?).getD start

def staticAfter (start : StaticData) (past : List Op) : StaticData :=
  let d := latest Op.static? start past
  ⟨d.installation, d.productName, d.productVersion, d.productEdition, d.database, d.jdk,
    latest Op.server? start.server past, latest Op.license? start.license past⟩

/-- The web applications added since the last reset; those of the start are there until then. -/
def webappsAfter (start : Webapps) (past : List Op) : Webapps :=
  ((since Op.isReset past).filterMap Op.webapp?).foldl Webapps.insert
    (if past.any Op.isReset then .empty else start)

def factsAfter (start : Facts) (past : List Op) : Facts :=
  ⟨webappsAfter start.webapps past, latest Op.switch? start.enabled past⟩

/-- Commands in the order in which they were first recorded since the last reset, with the number
of records since the last reset or drain. -/
def commandsAfter (past : List Op) : Table Int :=
  .listing ((since Op.isReset past).filterMap Op.command?) fun name =>
    ((since Op.endsCommands past).filterMap Op.command?).count name

/-- Metrics in the order in which they were first asked for since the last reset, with the sum of
what was accepted since the last reset or drain. -/
def metricsAfter (past : List Op) : Table Int :=
  .listing ((since Op.isReset past).filterMap Op.metric?) fun name =>
    ((since Op.endsMetrics past).map (Op.adds name)).sum

/-- The report under the given identities. -/
def reportAfter (static : StaticData) (facts : Facts) (past : List Op)
    (installation name : String) : Report :=
  let d := staticAfter static past
  let f := factsAfter facts past
  ⟨installation, ⟨name, d.productVersion, d.productEdition,
    ⟨d.database, d.jdk, d.server, d.license, commandsAfter past, metricsAfter past, f.webapps,
      f.enabled⟩⟩⟩

/-- An identity that can be reported: a text with something in it. -/
def Named (v : Value) : Prop :=
  ∃ text, v = .str text ∧ Text.isBlankText text = false

/-! ## Static data and facts -/

theorem latest_concat {α : Type} (set? : Op → Option α) (start : α) (past : List Op) (op : Op) :
    latest set? start (past ++ [op]) = (set? op).getD (latest set? start past) := by
  rw [latest, latest, List.filterMap_append]
  cases h : set? op with
  | none => simp [h]
  | some a => simp [h]

theorem foldl_onStatic (start : StaticData) (past : List Op) :
    past.foldl Op.onStatic start = staticAfter start past := by
  induction past using List.reverseRecOn with
  | nil => rfl
  | append_singleton past op ih =>
    rw [List.foldl_append, ih]
    simp only [staticAfter, latest_concat]
    cases op <;> rfl

theorem webappsAfter_reset (start : Webapps) (past : List Op) :
    webappsAfter start (past ++ [.reset]) = .empty := by
  have ha : (past ++ [Op.reset]).any Op.isReset = true := by simp [Op.isReset]
  rw [webappsAfter, since_concat_ends past rfl, ha]
  rfl

theorem webappsAfter_concat (start : Webapps) (past : List Op) {op : Op}
    (hr : op.isReset = false) : webappsAfter start (past ++ [op]) =
      ([op].filterMap Op.webapp?).foldl Webapps.insert (webappsAfter start past) := by
  have ha : (past ++ [op]).any Op.isReset = past.any Op.isReset := by simp [hr]
  rw [webappsAfter, since_concat past hr, ha, List.filterMap_append, List.foldl_append]
  rfl

theorem mem_names_foldl_insert {names : List String} {w : Webapps} {app : String} :
    app ∈ (names.foldl Webapps.insert w).names.toList ↔ app ∈ names ∨ app ∈ w.names.toList := by
  induction names generalizing w with
  | nil => simp
  | cons name names ih =>
    have hinsert : app ∈ (w.insert name).names.toList ↔ app = name ∨ app ∈ w.names.toList :=
      NameSet.mem_place
    rw [List.foldl_cons, ih, hinsert, List.mem_cons, or_assoc, or_left_comm]

theorem others_foldl_insert (names : List String) (w : Webapps) :
    (names.foldl Webapps.insert w).others = w.others := by
  induction names generalizing w with
  | nil => rfl
  | cons name names ih => exact ih (w.insert name)

/-- An application is there if it was registered since the last reset, or from the start if there
was none. -/
theorem mem_webappsAfter {start : Webapps} {past : List Op} {app : String} :
    app ∈ (webappsAfter start past).names.toList ↔
      app ∈ (since Op.isReset past).filterMap Op.webapp? ∨
        past.any Op.isReset = false ∧ app ∈ start.names.toList := by
  rw [webappsAfter, mem_names_foldl_insert]
  cases past.any Op.isReset <;> simp [Webapps.empty, NameSet.empty, NameSet.toList]

theorem others_webappsAfter (start : Webapps) (past : List Op) :
    (webappsAfter start past).others = if past.any Op.isReset then [] else start.others := by
  rw [webappsAfter, others_foldl_insert]
  split <;> rfl

theorem foldl_onFacts (start : Facts) (past : List Op) :
    past.foldl Op.onFacts start = factsAfter start past := by
  induction past using List.reverseRecOn with
  | nil => rfl
  | append_singleton past op ih =>
    rw [List.foldl_append, ih, factsAfter, factsAfter, latest_concat]
    cases op with
    | reset =>
      rw [webappsAfter_reset]
      rfl
    | _ =>
      rw [webappsAfter_concat start.webapps past rfl]
      rfl

/-! ## Counts -/

theorem counts_snapshot {r : Registry} (h : r.Sound) {calls : List String} {value : String → Int}
    (hn : r.names = calls.eraseDups) (hv : ∀ name, (r.get name : Int) = value name) :
    r.snapshot.counts = Table.listing calls value := by
  apply Table.ext_entries
  simp only [Table.counts, Table.map, Table.mapNamed, Table.listing, h.entries_snapshot, h.pairs_eq,
    hn, List.map_map]
  apply List.map_congr_left
  intro name _
  simp [← hv]

/-- How operations feed a registry: a reset clears it, others that end a period drain it, and the
rest call for a name and add to it, or leave it alone. -/
structure Feeds (tracker : Bool) (ask : Op → Option Registry.Op) (ends : Op → Bool)
    (call? : Op → Option String) (adds : String → Op → Int) : Prop where
  clears : ∀ op, op.isReset = true → ask op = some .clear ∧ ends op = true
  drains : ∀ op, op.isReset = false → ends op = true → ask op = some .drainAll ∧ call? op = none
  counts : ∀ op, ends op = false → ∀ r : Registry, r.Sound → r.tracker = tracker →
    (Registry.run (ask op).toList r).names = (call? op).elim r.names (enlist r.names) ∧
      ∀ name, ((Registry.run (ask op).toList r).get name : Int) = r.get name + adds name op

theorem Feeds.run {tracker : Bool} {ask : Op → Option Registry.Op} {ends : Op → Bool}
    {call? : Op → Option String} {adds : String → Op → Int}
    (hf : Feeds tracker ask ends call? adds) {r : Registry} (ht : r.tracker = tracker)
    (he : r.entries = []) (past : List Op) :
    (Registry.run (past.filterMap ask) r).names =
        ((since Op.isReset past).filterMap call?).eraseDups ∧
      ∀ name, ((Registry.run (past.filterMap ask) r).get name : Int) =
        ((since ends past).map (adds name)).sum := by
  induction past using List.reverseRecOn with
  | nil =>
    refine ⟨?_, fun name => ?_⟩
    · simp [Registry.run, (Registry.sound_of_entries_eq_nil he).names_eq, he]
    · simp [Registry.run, Registry.get, Registry.find?, he]
  | append_singleton past op ih =>
    have hs := Registry.sound_run (Registry.sound_of_entries_eq_nil he) (past.filterMap ask)
    have ht' := (Registry.tracker_run (past.filterMap ask) r).trans ht
    have hlast : Registry.run ((past ++ [op]).filterMap ask) r =
        Registry.run (ask op).toList (Registry.run (past.filterMap ask) r) := by
      rw [List.filterMap_append, Registry.run_append]
      cases h : ask op <;> simp [h]
    rw [hlast]
    generalize Registry.run (past.filterMap ask) r = r' at ih hs ht'
    obtain ⟨hnames, hget⟩ := ih
    cases hr : op.isReset with
    | true =>
      obtain ⟨hask, hends⟩ := hf.clears op hr
      rw [since_concat_ends past hr, since_concat_ends past hends, hask]
      exact ⟨rfl, fun _ => rfl⟩
    | false =>
      rw [filterMap_since_concat call? past hr]
      cases hends : ends op with
      | true =>
        obtain ⟨hask, hcall⟩ := hf.drains op hr hends
        rw [since_concat_ends past hends, hask, hcall]
        refine ⟨?_, fun name => congrArg Int.ofNat (hs.get_drainAll name)⟩
        change r'.drainAll.1.names = _
        rw [hs.names_drainAll, hnames, Option.toList_none, List.append_nil]
      | false =>
        obtain ⟨hn, hg⟩ := hf.counts op hends r' hs ht'
        rw [since_concat past hends]
        refine ⟨?_, fun name => ?_⟩
        · rw [hn, hnames]
          cases call? op with
          | none => simp
          | some n => exact (eraseDups_concat _ n).symm
        · rw [hg, hget, List.map_append, List.sum_append, List.map_singleton,
            List.sum_singleton]

/-- One for each record of a name. -/
def Op.records (name : String) (op : Op) : Int :=
  if op.command? = some name then 1 else 0

theorem feeds_commands :
    Feeds true Op.forCommands? Op.endsCommands Op.command? Op.records where
  clears op h := by
    cases op with
    | reset => exact ⟨rfl, rfl⟩
    | _ => simp [Op.isReset] at h
  drains op h he := by
    cases op with
    | drainCommands => exact ⟨rfl, rfl⟩
    | reset => simp [Op.isReset] at h
    | _ => simp [Op.endsCommands] at he
  counts op he r hs ht := by
    cases op with
    | recordCommand n =>
      change (r.record n).1.names = _ ∧ ∀ name, ((r.record n).1.get name : Int) = _
      refine ⟨hs.names_record ht n, fun name => ?_⟩
      rw [hs.get_record ht]
      by_cases hn : n = name
      · simp [Op.records, Op.command?, hn]
      · simp [Op.records, Op.command?, hn]
    | drainCommands | reset => simp [Op.endsCommands] at he
    | _ => exact ⟨rfl, fun _ => (Int.add_zero _).symm⟩

theorem feeds_metrics (tracker : Bool) :
    Feeds tracker Op.forMetrics? Op.endsMetrics Op.metric? Op.adds where
  clears op h := by
    cases op with
    | reset => exact ⟨rfl, rfl⟩
    | _ => simp [Op.isReset] at h
  drains op h he := by
    cases op with
    | drainMetrics => exact ⟨rfl, rfl⟩
    | reset => simp [Op.isReset] at h
    | _ => simp [Op.endsMetrics] at he
  counts op he r hs _ := by
    cases op with
    | recordMetric n v =>
      change (r.increment n v).1.names = _ ∧ ∀ name, ((r.increment n v).1.get name : Int) = _
      refine ⟨hs.names_increment n v, fun name => ?_⟩
      rw [hs.get_increment]
      simp only [Op.adds, eq_comm]
    | drainMetrics | reset => simp [Op.endsMetrics] at he
    | _ => exact ⟨rfl, fun _ => (Int.add_zero _).symm⟩

theorem sum_records (name : String) (past : List Op) :
    (past.map (Op.records name)).sum = (past.filterMap Op.command?).count name := by
  induction past with
  | nil => rfl
  | cons op past ih =>
    rw [List.map_cons, List.sum_cons, ih, Op.records, List.filterMap_cons]
    cases op.command? with
    | none => simp
    | some n =>
      by_cases hn : n = name
      · simp [hn, Int.add_comm]
      · simp [hn]

end UsageMeter.Service
