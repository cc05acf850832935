import Mathlib.Data.List.Chain
import UsageMeter.Proofs.Service.Reads

/-!
The switch and its log. Whatever is done on a site, the messages about a switch are the history of
that switch: one for each time that it really moved, and nothing else moves it or says that it did.
-/
namespace UsageMeter

/-- The message that a switch was set so. -/
def switchMessage (enabled : Bool) : String :=
  (Event.switched enabled).message

/-- At the level and by the logger of messages about a switch. -/
def Event.isTransition (e : Event) : Bool :=
  e.level == "INFO" && e.logger == "engine_telemetry.telemetry.state"

/-! ## Messages -/

theorem switchMessage_inj {a b : Bool} : switchMessage a = switchMessage b ↔ a = b := by
  cases a <;> cases b <;> decide

theorem switchMessage_beq_enabled (b : Bool) : (switchMessage b == "Telemetry enabled") = b := by
  cases b <;> decide

theorem head?_toList_append {s : String} {c : Char} (h : s.toList.head? = some c) (t : String) :
    (s ++ t).toList.head? = some c := by
  rw [String.toList_append, List.head?_append, h, Option.some_or]

namespace Event

theorem isTransition_switched (b : Bool) : (switched b).isTransition = true :=
  rfl

/-- No other event has such a message, at whatever level and by whatever logger. -/
theorem message_eq_iff {e : Event} {b : Bool} :
    e.message = switchMessage b ↔ e = .switched b := by
  constructor
  · intro h
    have hfirst : ∀ c, e.message.toList.head? = some c → c = 'T' := by
      intro c hc
      have ht : (switchMessage b).toList.head? = some 'T' := by
        cases b <;> rfl
      rw [← h, hc] at ht
      exact Option.some.inj ht
    -- Another event's message opens with another letter, but for a reset, which is read to its end.
    cases e with
    | switched c => rw [switchMessage_inj.1 h]
    | reset => cases b <;> exact absurd h (by decide)
    | registered _ _ =>
      refine absurd (hfirst 'R' ?_) (by decide)
      exact head?_toList_append (head?_toList_append (head?_toList_append rfl _) _) _
    | cleared _ =>
      refine absurd (hfirst 'C' ?_) (by decide)
      exact head?_toList_append (head?_toList_append rfl _) _
    | staticReplaced _ =>
      refine absurd (hfirst 'R' ?_) (by decide)
      exact head?_toList_append rfl _
  · rintro rfl
    rfl

theorem isTransition_of_words {e : Event} (h : e.isTransition = true ∨
    e.message = "Telemetry enabled" ∨ e.message = "Telemetry disabled") :
    e.isTransition = true := by
  rcases h with h | h | h
  · exact h
  · rw [(message_eq_iff (b := true)).1 h, isTransition_switched]
  · rw [(message_eq_iff (b := false)).1 h, isTransition_switched]

end Event

/-! ## Histories of a switch -/

/-- A log that tells how a switch came from one position to another, with a message for each move
to the opposite one. -/
inductive Recounts : Bool → List String → Bool → Prop
  | silent (b : Bool) : Recounts b [] b
  | moved {b now : Bool} {log : List String} :
      Recounts (!b) log now → Recounts b (switchMessage (!b) :: log) now

namespace Recounts
variable {start now : Bool} {log : List String}

theorem named (h : Recounts start log now) :
    ∀ m ∈ log, m = "Telemetry enabled" ∨ m = "Telemetry disabled" := by
  induction h with
  | silent _ => exact fun m hm => absurd hm List.not_mem_nil
  | @moved b _ _ _ ih =>
    intro m hm
    rcases List.mem_cons.1 hm with rfl | hm
    · cases b
      · exact Or.inl rfl
      · exact Or.inr rfl
    · exact ih m hm

theorem isChain_cons (h : Recounts start log now) :
    (switchMessage start :: log).IsChain (· ≠ ·) := by
  induction h with
  | silent _ => exact .singleton _
  | @moved b _ _ _ ih =>
    refine .cons_cons ?_ ih
    intro hsame
    cases b <;> exact absurd (switchMessage_inj.1 hsame) (by decide)

theorem first (h : Recounts start log now) :
    ∀ m ∈ log.head?, m = if start then "Telemetry disabled" else "Telemetry enabled" := by
  intro m hm
  cases h with
  | silent _ => cases hm
  | moved _ =>
    cases hm
    cases start <;> rfl

theorem last (h : Recounts start log now) :
    now = log.getLast?.elim start (· == "Telemetry enabled") := by
  induction h with
  | silent _ => rfl
  | @moved b now log _ ih =>
    rw [List.getLast?_cons]
    cases hlast : log.getLast? with
    | none =>
      rw [hlast] at ih
      exact ih.trans (switchMessage_beq_enabled (!b)).symm
    | some m =>
      rw [hlast] at ih
      exact ih

end Recounts

/-! ## What sets a switch -/

def Facts.Op.switch? : Op → Option Bool
  | .setEnabled v => some v.truth
  | _ => none

/-- What is said when a switch is set, if it is. -/
def switchEvents (enabled : Bool) (set? : Option Bool) : List Event :=
  match set? with
  | some b => if enabled = b then [] else [.switched b]
  | none => []

theorem switchEvents_opposite (enabled : Bool) : switchEvents enabled (some !enabled) =
    [.switched !enabled] := by
  cases enabled <;> rfl

theorem switchEvents_of_ne {enabled : Bool} {set? : Option Bool} (h : set? ≠ some !enabled) :
    switchEvents enabled set? = [] ∧ set?.getD enabled = enabled := by
  cases set? with
  | none => exact ⟨rfl, rfl⟩
  | some b =>
    have hb : enabled = b := by
      cases enabled <;> cases b <;> simp at h ⊢
    exact ⟨if_pos hb, hb.symm⟩

namespace Facts

theorem enabled_step (op : Op) (f : Facts) : (step op f).1.enabled = op.switch?.getD f.enabled := by
  cases op <;> rfl

theorem filter_switching (f : Facts) (v : Value) :
    (f.switching v).filter Event.isTransition = switchEvents f.enabled (some v.truth) := by
  rw [Facts.switching, switchEvents]
  split
  · rfl
  · rw [List.filter_cons_of_pos (Event.isTransition_switched _), List.filter_nil]

theorem filter_events (op : Op) (f : Facts) :
    (events op f).filter Event.isTransition = switchEvents f.enabled op.switch? := by
  cases op with
  | setEnabled v => exact f.filter_switching v
  | _ => rfl

end Facts

/-- Registries say nothing about a switch. -/
theorem Registry.filter_events (op : Op) (r : Registry) :
    (events op r).filter Event.isTransition = [] := by
  have hregistering : ∀ name, (r.registering name).filter Event.isTransition = [] := by
    intro name
    rw [Registry.registering]
    split <;> rfl
  cases op with
  | register name | increment name _ => exact hregistering name
  | record name =>
    rw [events]
    split
    · exact hregistering name
    · rfl
  | _ => rfl

namespace Service

theorem enabled_onFacts (op : Op) (f : Facts) :
    (op.onFacts f).enabled = op.switch?.getD f.enabled := by
  cases op <;> rfl

theorem filter_events (op : Op) (h : Hub) (s : Service) :
    (step op h s).events.filter Event.isTransition =
      switchEvents (h.factsAt s.facts).enabled op.switch? := by
  cases op with
  | setEnabled v => exact (h.factsAt s.facts).filter_switching v
  | recordCommand name => exact Registry.filter_events (.record name) (h.registry s.commands)
  | recordMetric name v => exact Registry.filter_events (.increment name v) (h.registry s.metrics)
  | reset =>
    change (Registry.events .clear _ ++ Registry.events .clear _ ++ [Event.reset]).filter _ = _
    rw [List.filter_append, List.filter_append, Registry.filter_events, Registry.filter_events]
    rfl
  | report =>
    rw [step]
    cases s.reportNow h <;> rfl
  | _ => rfl

/-- A service has one way to the facts. -/
theorem factsAt_step_setFacts (op : Op) (h : Hub) (s : Service) (i : Nat) :
    (step op h s).hub.factsAt i =
      (h.setFacts s.facts (op.onFacts (h.factsAt s.facts))).factsAt i := by
  cases op with
  | setEnabled _ | addWebapp _ | reset => rfl
  | report =>
    change _ = (h.setFacts s.facts (h.factsAt s.facts)).factsAt i
    rw [(step_report h s).1, h.setFacts_factsAt]
  | _ =>
    change h.factsAt i = (h.setFacts s.facts (h.factsAt s.facts)).factsAt i
    rw [h.setFacts_factsAt]

end Service

/-! ## The switch of a site's facts -/

namespace Site

/-- What an operation sets a switch to. -/
def Op.switch? : Op → Option Bool
  | .facts _ op => op.switch?
  | .service _ op => op.switch?
  | _ => none

/-- The number of the facts that an operation is on, directly or through a service. -/
def Op.facts? (site : Site) : Op → Option Nat
  | .facts i _ => some i
  | .service k _ => (site.services[k]?).map Service.facts
  | _ => none

def enabledAt (i : Nat) (site : Site) : Bool :=
  (site.hub.factsAt i).enabled

/-- The operation sets the switch of some facts to what it is not. -/
def Op.Flips (i : Nat) (site : Site) (op : Op) : Prop :=
  op.facts? site = some i ∧ op.switch? = some !site.enabledAt i

/-- The messages about the switch of some facts that an operation on them logs. -/
def transitions (i : Nat) (op : Op) (site : Site) : List String :=
  if op.facts? site = some i then
    ((step op site).events.filter Event.isTransition).map Event.message
  else []

/-- The messages about the switch of some facts in a run, in order. -/
def transitionLog (i : Nat) : List Op → Site → List String
  | [], _ => []
  | op :: ops, site => transitions i op site ++ transitionLog i ops (step op site).after

theorem transitionLog_append (i : Nat) (u v : List Op) (site : Site) :
    transitionLog i (u ++ v) site = transitionLog i u site ++ transitionLog i v (run u site) := by
  induction u generalizing site with
  | nil => rfl
  | cons op u ih =>
    rw [List.cons_append, transitionLog, transitionLog, ih, List.append_assoc]
    rfl

variable {site : Site} {i : Nat}

theorem length_facts_step (op : Op) (site : Site) :
    (step op site).after.hub.facts.length = site.hub.facts.length := by
  cases op with
  | facts _ _ => exact Hub.length_setFacts _ _ _
  | service k sop =>
    rw [step]
    cases site.services[k]? with
    | none => rfl
    | some s => exact Service.length_facts_step sop site.hub s
  | _ => rfl

theorem length_facts_run (ops : List Op) (site : Site) :
    (run ops site).hub.facts.length = site.hub.facts.length := by
  induction ops generalizing site with
  | nil => rfl
  | cons op ops ih => exact (ih (step op site).after).trans (length_facts_step op site)

theorem filter_events_step (op : Op) (site : Site) :
    (step op site).events.filter Event.isTransition =
      (op.facts? site).elim [] fun j => switchEvents (site.enabledAt j) op.switch? := by
  cases op with
  | registry _ rop => exact Registry.filter_events rop _
  | facts _ fop => exact Facts.filter_events fop _
  | service k sop =>
    rw [step, Op.facts?]
    cases site.services[k]? with
    | none => rfl
    | some s => exact Service.filter_events sop site.hub s
  | _ => rfl

/-- An operation on some facts does what it does to their switch, and any other leaves it. -/
theorem enabledAt_step (hi : i < site.hub.facts.length) (op : Op) :
    (step op site).after.enabledAt i =
      if op.facts? site = some i then op.switch?.getD (site.enabledAt i) else site.enabledAt i := by
  cases op with
  | facts j fop =>
    change ((site.hub.setFacts j (Facts.step fop (site.hub.factsAt j)).1).factsAt i).enabled = _
    rw [Hub.factsAt_setFacts hi]
    by_cases hj : j = i
    · subst hj
      simp [Op.facts?, Op.switch?, enabledAt, Facts.enabled_step]
    · simp [Op.facts?, enabledAt, hj]
  | service k sop =>
    rw [step, Op.facts?]
    cases site.services[k]? with
    | none => rfl
    | some s =>
      change ((Service.step sop site.hub s).hub.factsAt i).enabled = _
      rw [Service.factsAt_step_setFacts, Hub.factsAt_setFacts hi]
      by_cases hs : s.facts = i
      · subst hs
        simp [Op.switch?, enabledAt, Service.enabled_onFacts]
      · simp [enabledAt, hs]
  | _ => rfl

theorem step_of_flips (hi : i < site.hub.facts.length) {op : Op} (hf : op.Flips i site) :
    transitions i op site = [switchMessage !site.enabledAt i] ∧
      (step op site).after.enabledAt i = !site.enabledAt i := by
  obtain ⟨hfacts, hswitch⟩ := hf
  constructor
  · rw [transitions, if_pos hfacts, filter_events_step, hfacts, hswitch, Option.elim_some,
      switchEvents_opposite]
    rfl
  · rw [enabledAt_step hi, if_pos hfacts, hswitch, Option.getD_some]

theorem step_of_not_flips (hi : i < site.hub.facts.length) {op : Op} (hf : ¬op.Flips i site) :
    transitions i op site = [] ∧ (step op site).after.enabledAt i = site.enabledAt i := by
  by_cases hfacts : op.facts? site = some i
  · obtain ⟨hnone, hsame⟩ := switchEvents_of_ne fun hswitch => hf ⟨hfacts, hswitch⟩
    constructor
    · rw [transitions, if_pos hfacts, filter_events_step, hfacts, Option.elim_some, hnone]
      rfl
    · rw [enabledAt_step hi, if_pos hfacts, hsame]
  · constructor
    · rw [transitions, if_neg hfacts]
    · rw [enabledAt_step hi, if_neg hfacts]

/-- Whoever reads the log can ascribe each message about a switch to an operation that moved it. -/
theorem flips_of_mem_events {op : Op} {e : Event} (he : e ∈ (step op site).events)
    (ht : e.isTransition = true) :
    ∃ j, op.Flips j site ∧ e = .switched !site.enabledAt j := by
  have hmem : e ∈ (step op site).events.filter Event.isTransition := List.mem_filter.2 ⟨he, ht⟩
  rw [filter_events_step] at hmem
  cases hfacts : op.facts? site with
  | none =>
    rw [hfacts] at hmem
    cases hmem
  | some j =>
    rw [hfacts, Option.elim_some] at hmem
    by_cases hswitch : op.switch? = some !site.enabledAt j
    · rw [hswitch, switchEvents_opposite, List.mem_singleton] at hmem
      exact ⟨j, ⟨hfacts, hswitch⟩, hmem⟩
    · rw [(switchEvents_of_ne hswitch).1] at hmem
      cases hmem

/-- In every run the log recounts the way of the switch. -/
theorem recounts_transitionLog (hi : i < site.hub.facts.length) (ops : List Op) :
    Recounts (site.enabledAt i) (transitionLog i ops site) ((run ops site).enabledAt i) := by
  induction ops generalizing site with
  | nil => exact .silent _
  | cons op ops ih =>
    -- The rest is told from the switch as this operation leaves it.
    have hlength : i < (step op site).after.hub.facts.length := by rwa [length_facts_step]
    have hrest := ih hlength
    by_cases hf : op.Flips i site
    · obtain ⟨htold, hafter⟩ := step_of_flips hi hf
      rw [hafter] at hrest
      rw [transitionLog, htold]
      exact .moved hrest
    · obtain ⟨hnone, hafter⟩ := step_of_not_flips hi hf
      rw [hafter] at hrest
      rw [transitionLog, hnone]
      exact hrest

/-- A switch on a site, in whatever state, and any operations on the site, also on other facts. The
messages about the switch say that it was enabled or disabled, one after the other in turn, and the
first says the opposite of how the switch was at the start. At every point the switch is as the last
message says, or as it was at the start if there is none, and later messages only come after. An
operation that sets the switch to what it is not logs just the message of that and moves it; any
other logs no such message and leaves it. And every event at the level and by the logger of these
messages, or in their words, is the one of an operation that moves a switch. -/
theorem log_tells_switch (hi : i < site.hub.facts.length) (ops : List Op) :
    let start := site.enabledAt i
    let log := transitionLog i ops site
    (∀ m ∈ log, m = "Telemetry enabled" ∨ m = "Telemetry disabled") ∧
    log.IsChain (· ≠ ·) ∧
    (∀ m ∈ log.head?, m = if start then "Telemetry disabled" else "Telemetry enabled") ∧
    (∀ past rest, ops = past ++ rest →
      let told := transitionLog i past site
      let now := run past site
      log = told ++ transitionLog i rest now ∧
      now.enabledAt i = told.getLast?.elim start (· == "Telemetry enabled")) ∧
    ∀ past op rest, ops = past ++ op :: rest →
      let now := run past site
      let next := (step op now).after
      (op.Flips i now → transitions i op now = [switchMessage !now.enabledAt i] ∧
        next.enabledAt i = !now.enabledAt i) ∧
      (¬op.Flips i now → transitions i op now = [] ∧ next.enabledAt i = now.enabledAt i) ∧
      ∀ e ∈ (step op now).events,
        (e.isTransition = true ∨ e.message = "Telemetry enabled" ∨
          e.message = "Telemetry disabled") →
        ∃ j, op.Flips j now ∧ e = .switched !now.enabledAt j := by
  intro start log
  have h := recounts_transitionLog hi ops
  refine ⟨h.named, h.isChain_cons.tail, h.first, ?_, ?_⟩
  · rintro past rest rfl told now
    exact ⟨transitionLog_append i past rest site, (recounts_transitionLog hi past).last⟩
  · rintro past op rest rfl now next
    have hnow : i < now.hub.facts.length := by rwa [length_facts_run]
    refine ⟨step_of_flips hnow, step_of_not_flips hnow, fun e he hwords => ?_⟩
    exact flips_of_mem_events he (Event.isTransition_of_words hwords)

/-- A text is true whatever it says, and an empty list is false. -/
theorem repeated_enabling_told_once :
    let ops : List Op := [.service 0 (.setEnabled (.str "false")), .facts 0 (.setEnabled (.int 1)),
      .facts 0 (.addWebapp "cockpit"), .service 0 .reset, .service 0 .report,
      .facts 0 (.setEnabled (.list []))]
    0 < sampleSite.hub.facts.length ∧
    transitionLog 0 ops sampleSite = ["Telemetry enabled", "Telemetry disabled"] ∧
    (transitionLog 0 ops sampleSite).IsChain (· ≠ ·) ∧
    (run (ops.take 5) sampleSite).enabledAt 0 = true ∧
    (run ops sampleSite).enabledAt 0 = false ∧
    transitions 0 (.facts 0 (.setEnabled (.int 1))) (run (ops.take 1) sampleSite) = [] := by
  intro ops
  have hi : 0 < sampleSite.hub.facts.length := by decide
  obtain ⟨-, hchain, -, hlast, hstep⟩ := log_tells_switch hi ops
  have hfive : transitionLog 0 (ops.take 5) sampleSite = ["Telemetry enabled"] := by
    decide +kernel
  have hall : transitionLog 0 ops sampleSite = ["Telemetry enabled", "Telemetry disabled"] := by
    decide +kernel
  refine ⟨hi, hall, hchain, ?_, ?_, ?_⟩
  · rw [(hlast (ops.take 5) (ops.drop 5) rfl).2, hfive]
    decide
  · rw [(hlast ops [] ops.append_nil.symm).2, hall]
    decide
  · have hsilent : ¬Op.Flips 0 (run (ops.take 1) sampleSite) (.facts 0 (.setEnabled (.int 1))) := by
      rintro ⟨-, hswitch⟩
      exact absurd hswitch (by decide +kernel)
    exact ((hstep (ops.take 1) _ (ops.drop 2) rfl).2.1 hsilent).1

end Site
end UsageMeter
