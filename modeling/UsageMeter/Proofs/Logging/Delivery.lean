import Mathlib.Data.List.Nodup
import UsageMeter.Logging.Standard
import UsageMeter.Proofs.Logging.Handing
import UsageMeter.Proofs.Logging.Tree

/-!
Delivery of log calls. A logger that carries a handler does not propagate, so that a call reaches
the handlers of one logger only: the first on its way to the root that does not propagate.
-/
namespace UsageMeter.Logging
namespace Router

/-! ## Runs -/

/-- What can happen to loggers and setups. -/
inductive Op where
  | get (name : String)
  | configure (destination : Option Destination) (static : StaticData)
    (extra : List (String × Value)) (level : Int) (loggerName : String)
  | attach (i : Nat) (name : String)
  | shutdown (i : Nat)
  | log (c : Call)

def step (op : Op) (r : Router) : Router :=
  match op with
  | .get name => r.touch name
  | .configure destination static extra level loggerName =>
    match r.configure destination static extra level loggerName with
    | .ok (r', _) => r'
    | .error _ => r
  | .attach i name => r.attach i name
  | .shutdown i => r.shutdown i
  | .log c => (r.log c).1

def run (ops : List Op) (r : Router) : Router :=
  ops.foldl (fun r op => r.step op) r

theorem setups_log (r : Router) (c : Call) : (r.log c).1.setups = r.setups := by
  rw [log_fst, setups_deliverAll]
  rfl

theorem sdk_attach (r : Router) (i : Nat) (name : String) : (r.attach i name).sdk = r.sdk := by
  rw [attach]
  cases (r.touch name).setups[i]? <;> rfl

theorem sdk_shutdown (r : Router) (i : Nat) : (r.shutdown i).sdk = r.sdk := by
  rw [shutdown]
  cases r.setups[i]? with
  | none => rfl
  | some s => cases hc : (r.logger s.loggerName).handlers.contains i <;> simp only [hc] <;> rfl

theorem sdk_step (r : Router) (op : Op) : (r.step op).sdk = r.sdk := by
  cases op with
  | get name => rfl
  | configure destination static extra level loggerName =>
    cases destination with
    | none => rfl
    | some d => exact sdk_attach _ r.setups.length loggerName
  | attach i name => exact r.sdk_attach i name
  | shutdown i => exact r.sdk_shutdown i
  | log c =>
    rw [step, log_fst, sdk_deliverAll]
    rfl

/-- The library stays the same. -/
theorem sdk_run (r : Router) (ops : List Op) : (r.run ops).sdk = r.sdk := by
  induction ops generalizing r with
  | nil => rfl
  | cons op ops ih => exact (ih (r.step op)).trans (r.sdk_step op)

/-- No logger carries a handler, whatever its level and whether it propagates or not. -/
structure Fresh (r : Router) : Prop where
  shaped : r.loggers.Shaped
  bare : ∀ e ∈ r.loggers.entries, e.2.handlers = []

/-- No logger carries a handler twice, and one that carries any does not propagate. -/
structure Sound (r : Router) : Prop where
  shaped : r.loggers.Shaped
  distinct : ∀ name, (r.logger name).handlers.Nodup
  cuts : ∀ name, (r.logger name).handlers ≠ [] → (r.logger name).propagate = false

theorem Fresh.handlers_eq_nil {r : Router} (h : r.Fresh) (name : String) :
    (r.logger name).handlers = [] := by
  rw [logger, Loggers.find]
  cases hg : r.loggers.get? (canonical name) with
  | none => rfl
  | some l => exact h.bare _ (Table.mem_entries_of_get? hg)

theorem Fresh.touch {r : Router} (h : r.Fresh) (name : String) : (r.touch name).Fresh :=
  ⟨h.shaped.create name, Loggers.handlers_create h.bare name⟩

theorem Fresh.sound {r : Router} (h : r.Fresh) : r.Sound := by
  refine ⟨h.shaped, fun name => ?_, fun name hne => absurd (h.handlers_eq_nil name) hne⟩
  rw [h.handlers_eq_nil]
  exact List.nodup_nil

namespace Sound
variable {r : Router}

/-- Only the loggers matter. -/
theorem of_loggers_eq (h : r.Sound) {r' : Router} (he : r'.loggers = r.loggers) : r'.Sound := by
  have hl : ∀ name, r'.logger name = r.logger name := fun name => by rw [logger, he, logger]
  refine ⟨he ▸ h.shaped, fun name => ?_, fun name => ?_⟩
  · rw [hl]
    exact h.distinct name
  · rw [hl]
    exact h.cuts name

theorem touch (h : r.Sound) (name : String) : (r.touch name).Sound := by
  refine ⟨h.shaped.create name, fun other => ?_, fun other => ?_⟩
  · obtain ⟨parent, he⟩ := Loggers.find_create r.loggers name other
    rw [logger, Router.touch, loggers_withLoggers, he]
    exact h.distinct other
  · obtain ⟨parent, he⟩ := Loggers.find_create r.loggers name other
    rw [logger, Router.touch, loggers_withLoggers, he]
    exact h.cuts other

theorem setLogger (h : r.Sound) {name : String} {l : Logger}
    (hp : l.parent = (r.logger name).parent) (hd : l.handlers.Nodup)
    (hc : l.handlers ≠ [] → l.propagate = false) : (r.setLogger name l).Sound := by
  have hfind : ∀ other, (r.setLogger name l).logger other =
      if canonical other = canonical name then l else r.logger other :=
    fun other => Loggers.find_put r.loggers name l other
  refine ⟨h.shaped.put hp, fun other => ?_, fun other => ?_⟩
  · rw [hfind]
    split
    · exact hd
    · exact h.distinct other
  · rw [hfind]
    split
    · exact hc
    · exact h.cuts other

theorem attach (h : r.Sound) (i : Nat) (name : String) : (r.attach i name).Sound := by
  have ht := h.touch name
  rw [Router.attach]
  cases (r.touch name).setups[i]? with
  | none => exact ht
  | some s =>
    refine ht.setLogger rfl ?_ fun _ => rfl
    by_cases hc : ((r.touch name).logger name).handlers.contains i = true
    · simp only [hc, if_true]
      exact ht.distinct name
    · have hn : i ∉ ((r.touch name).logger name).handlers := fun hm =>
        hc (List.contains_iff_mem.2 hm)
      simp only [hc, Bool.false_eq_true, if_false]
      rw [← List.concat_eq_append]
      exact (ht.distinct name).concat hn

theorem configure (h : r.Sound) {destination : Option Destination} {static : StaticData}
    {extra : List (String × Value)} {level : Int} {loggerName : String} {r' : Router} {i : Nat}
    (hc : r.configure destination static extra level loggerName = .ok (r', i)) : r'.Sound := by
  cases destination with
  | none => cases hc
  | some d =>
    cases hc
    have hnew : ∀ setups, (r.withSetups setups).Sound := fun _ => h.of_loggers_eq rfl
    exact (hnew _).attach r.setups.length loggerName

theorem shutdown (h : r.Sound) (i : Nat) : (r.shutdown i).Sound := by
  rw [Router.shutdown]
  cases r.setups[i]? with
  | none => exact h
  | some s =>
    by_cases hc : (r.logger s.loggerName).handlers.contains i = true
    · simp only [hc, if_true]
      let l := r.logger s.loggerName
      have hcut : l.handlers.erase i ≠ [] → l.propagate = false := by
        intro hne
        refine h.cuts s.loggerName fun he => hne ?_
        rw [he, List.erase_nil]
      have hset : (r.setLogger s.loggerName
          ⟨l.level, l.propagate, l.handlers.erase i, l.parent, l.listened⟩).Sound :=
        h.setLogger rfl ((h.distinct s.loggerName).erase i) hcut
      exact hset.of_loggers_eq rfl
    · simp only [hc, Bool.false_eq_true, if_false]
      exact h.of_loggers_eq rfl

theorem log (h : r.Sound) (c : Call) : (r.log c).1.Sound := by
  refine (h.touch c.logger).of_loggers_eq ?_
  rw [log_fst, loggers_deliverAll]

theorem step (h : r.Sound) (op : Op) : (r.step op).Sound := by
  cases op with
  | get name => exact h.touch name
  | configure destination static extra level loggerName =>
    rw [Router.step]
    split
    · next r' i hc => exact h.configure hc
    · exact h
  | attach i name => exact h.attach i name
  | shutdown i => exact h.shutdown i
  | log c => exact h.log c

theorem run (h : r.Sound) (ops : List Op) : (r.run ops).Sound := by
  induction ops generalizing r with
  | nil => exact h
  | cons op ops ih => exact ih (h.step op)

end Sound

/-! ## The way of a call -/

/-- The first of some loggers that does not propagate. -/
def gate? (r : Router) (names : List String) : Option String :=
  names.find? fun name => !(r.logger name).propagate

/-- The first level that one of some loggers sets. -/
def levelAlong (r : Router) (names : List String) : Int :=
  ((names.map fun name => (r.logger name).level).find? (· ≠ levelUnset)).getD levelUnset

/-- The handlers that a call reaches are those of one logger. -/
theorem Sound.flatMap_along {r : Router} (h : r.Sound) (names : List String) :
    (r.along names).flatMap Logger.handlers =
      ((r.gate? names).map fun name => (r.logger name).handlers).getD [] := by
  induction names with
  | nil => rfl
  | cons name names ih =>
    rw [along, gate?, List.find?_cons]
    cases hp : (r.logger name).propagate with
    | false => simp
    | true =>
      have hn : (r.logger name).handlers = [] := by
        by_contra hne
        rw [h.cuts name hne] at hp
        cases hp
      simpa [hn, gate?] using ih

theorem Sound.nodup_reached {r : Router} (h : r.Sound) (name : String) :
    (r.reached name).Nodup := by
  rw [reached, passed, h.flatMap_along]
  cases r.gate? (r.loggers.lineage name) with
  | none => exact List.nodup_nil
  | some n => exact h.distinct n

theorem lets_iff (r : Router) (name : String) (level : Int) :
    r.lets name level = true ↔
      0 < level ∧ r.levelAlong (r.loggers.lineage name) ≤ level := by
  rw [lets, Bool.and_eq_true, decide_eq_true_eq, decide_eq_true_eq]
  rfl

/-- What a call hands over to one setup. -/
def handedTo (r : Router) (c : Call) (i : Nat) : List Delivered :=
  ((r.handedBy c).filter fun e => e.1 = i).map Prod.snd

theorem length_handedTo (r : Router) (c : Call) (i : Nat) :
    (r.handedTo c i).length = ((r.handedBy c).map Prod.fst).count i := by
  rw [handedTo, List.length_map, List.count, List.countP_map, ← List.countP_eq_length_filter]
  refine List.countP_congr fun e _ => ?_
  simp

theorem map_fst_handedBy_sublist (r : Router) (c : Call) :
    ((r.handedBy c).map Prod.fst).Sublist ((r.touch c.logger).reached c.logger) := by
  rw [handedBy]
  cases (r.touch c.logger).lets c.logger c.level with
  | false => exact List.nil_sublist _
  | true =>
    cases c.record with
    | error e => exact List.nil_sublist _
    | ok record =>
      cases hh : ((r.touch c.logger).hear c.logger record).isOk with
      | false => simp [hh]
      | true => simpa [hh] using map_fst_handed_sublist _ c.level _ record

theorem Sound.length_handedTo_le {r : Router} (h : r.Sound) (c : Call) (i : Nat) :
    (r.handedTo c i).length ≤ 1 := by
  rw [length_handedTo]
  have hn := (h.touch c.logger).nodup_reached c.logger
  exact List.nodup_iff_count_le_one.1 (hn.sublist (r.map_fst_handedBy_sublist c)) i

end Router

/-- What is documented of shutting a processor down: nothing more comes through it, and what passes
records to another exporter does not end with it. -/
structure Sdk.Ending (sdk : Sdk) : Prop where
  own : ∀ p, sdk.ends p p = true
  apart : ∀ p q, p.exporter ≠ q.exporter → sdk.ends p q = false

namespace Router
variable {r : Router} {i : Nat} {s : Setup}

end Router

/-- An installation that says nothing about its environment. -/
def plainInstallation : StaticData :=
  ⟨.str "e-1", .str "Engine", "", "", ⟨"", ""⟩, ⟨"", ""⟩, none, none⟩

namespace Router

theorem Fresh.foldl_touch {r : Router} (h : r.Fresh) (names : List String) :
    (r.withLoggers (names.foldl Loggers.create r.loggers)).Fresh := by
  induction names generalizing r with
  | nil => exact h
  | cons name names ih => exact ih (h.touch name)

theorem fresh_initial (sdk : Sdk) : (initial sdk).Fresh := by
  let root : Loggers := Table.ofList [(rootName, ⟨30, true, [], none, false⟩)]
  have hshaped : root.Shaped := ⟨by decide, by decide⟩
  have hbare : ∀ e ∈ root.entries, e.2.handlers = [] := by decide
  have hroot : (⟨sdk, root, [], []⟩ : Router).Fresh := ⟨hshaped, hbare⟩
  exact hroot.foldl_touch _

/-- The start of a program that has configured nothing of the library. -/
def plain : Router :=
  initial (.standard "1.0.0")

theorem fresh_plain : plain.Fresh :=
  fresh_initial _

end Router

/-- A call without attributes of its own. -/
def plainCall (logger : String) (level : Int) (msg : String) : Call :=
  ⟨logger, level, .str msg, [], [], .int 0, .null, .null⟩

namespace Router

end Router

end UsageMeter.Logging
