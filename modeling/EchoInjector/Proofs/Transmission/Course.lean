import Mathlib.Data.List.Infix
import EchoInjector.Proofs.Transmission.Progress

/-!
# The course of a transmission

`Transmission.resume` says what comes of a transmission. This module also says how it comes
about: which looks at the stop flag and which sends happen on the way, and in which order.

A transmission goes from one **moment** to the next, and each step is one **event**: the loop looks
at the flag, a pause looks at it, a send succeeds or fails. `Step` has the rules. A look uses up one
quiet look, and where none is left the flag is found raised; a send is only made where the loop has
just found the flag lowered. A **course** is a list of events that leads from one moment to another.

* `exists_course`: from every moment in front of a look there is a course to the end, and it ends
  with the effect of `resume`.
* `Course.unique`: steps are determined (`Step.deterministic`), so there is no other course.

Whatever holds of all courses from the beginning to an end therefore holds of the transmission
(`exists_tells`). Nothing is presupposed about the medium.
-/

namespace EchoInjector.Transmission

variable {σ : Type}

/-! ### Events -/

/-- One thing that happens in a transmission. -/
inductive Event
  /-- The loop looks at the stop flag in front of a send, and finds it raised or not. -/
  | look (raised : Bool)
  /-- A pause looks at the stop flag. -/
  | pauseLook (raised : Bool)
  /-- A send succeeds, with some number of octets sent. -/
  | sent (octets : Nat)
  /-- A send fails. -/
  | failed (cause : Failure)
  deriving DecidableEq, Repr

namespace Event

/-- Whether the event is a send, successful or not. -/
def isSend : Event → Bool
  | .sent _ | .failed _ => true
  | .look _ | .pauseLook _ => false

/-- Whether the event is a look of a pause. -/
def isPause : Event → Bool
  | .pauseLook _ => true
  | .look _ | .sent _ | .failed _ => false

/-- Whether nothing can follow the event: the loop finds the flag raised, or a send fails. -/
def isFinal : Event → Bool
  | .look raised => raised
  | .failed _ => true
  | .pauseLook _ | .sent _ => false

/-- What a look finds. -/
def finding? : Event → Option Bool
  | .look raised | .pauseLook raised => some raised
  | .sent _ | .failed _ => none

/-- The number of octets that a successful send reports. -/
def octets? : Event → Option Nat
  | .sent octets => some octets
  | .look _ | .pauseLook _ | .failed _ => none

end Event

/-- What the looks find, in order. -/
def looks (events : List Event) : List Bool := events.filterMap Event.finding?

/-- What the successful sends report, in order. -/
def deliveries (events : List Event) : List Nat := events.filterMap Event.octets?

@[simp] theorem looks_append (xs ys : List Event) : looks (xs ++ ys) = looks xs ++ looks ys :=
  List.filterMap_append

@[simp] theorem deliveries_append (xs ys : List Event) :
    deliveries (xs ++ ys) = deliveries xs ++ deliveries ys :=
  List.filterMap_append

/-- Only a look adds to what the looks find. -/
theorem looks_concat_none {past : List Event} {e : Event} (he : e.finding? = none) :
    looks (past ++ [e]) = looks past := by
  have hnone : looks [e] = [] := by simp [looks, he]
  rw [looks_append, hnone, List.append_nil]

theorem looks_concat_some {past : List Event} {e : Event} {found : Bool}
    (he : e.finding? = some found) : looks (past ++ [e]) = looks past ++ [found] := by
  have hsome : looks [e] = [found] := by simp [looks, he]
  rw [looks_append, hsome]

/-- Only a successful send adds to the deliveries. -/
theorem deliveries_concat {past : List Event} {e : Event} (he : e.octets? = none) :
    deliveries (past ++ [e]) = deliveries past := by
  have hnone : deliveries [e] = [] := by simp [deliveries, he]
  rw [deliveries_append, hnone, List.append_nil]

theorem deliveries_concat_sent (past : List Event) (octets : Nat) :
    deliveries (past ++ [.sent octets]) = deliveries past ++ [octets] :=
  deliveries_append _ _

theorem length_deliveries_sent (past : List Event) (octets : Nat) :
    (deliveries (past ++ [.sent octets])).length = (deliveries past).length + 1 := by
  rw [deliveries_concat_sent, List.length_append]
  rfl

/-! ### Moments and steps -/

/-- Where a transmission stands. -/
inductive Stage
  /-- In front of the loop's look at the stop flag, and of some looks of a pause before it. -/
  | waiting (looks : Nat)
  /-- In front of a send; the loop has just found the flag lowered. -/
  | sending
  /-- At the end. -/
  | over (result : Except Failure Tally)

/-- The stage behind a send: the end if the limit is reached, otherwise a pause. -/
def Stage.afterSend (count polls : Nat) (t : Tally) : Stage :=
  if count ≠ 0 ∧ t.sent = count then .over (.ok t) else .waiting polls

/-- A transmission at one moment. -/
structure Moment (σ : Type) where
  stage : Stage
  /-- The number of further looks that find the stop flag lowered. -/
  quiet : Nat
  /-- The number of sends so far. -/
  sent : Nat
  /-- The state of the medium. -/
  state : σ
  /-- The records written so far. -/
  log : List Log.Record

/-- The effect of a transmission that is at its end. -/
def Moment.effect? (m : Moment σ) : Option (Effect σ Tally) :=
  match m.stage with
  | .over result => some ⟨result, m.state, m.log⟩
  | .waiting _ | .sending => none

/-- The record of one send. -/
def sentRecord (medium : String) (octets sent : Nat) : Log.Record :=
  ⟨.info, .sending, sentNote octets medium sent⟩

section Steps

variable (medium : String) (transmit : Action σ Delivery) (count polls : Nat)

/-- One **step** of a transmission, with the event that happens in it. -/
inductive Step : Moment σ → Event → Moment σ → Prop
  /-- A pause goes on as long as its looks find the flag lowered. -/
  | pauseOn {looks quiet sent : Nat} {s : σ} {log : List Log.Record} :
      Step ⟨.waiting (looks + 1), quiet + 1, sent, s, log⟩ (.pauseLook false)
        ⟨.waiting looks, quiet, sent, s, log⟩
  /-- A pause ends early when one of its looks finds the flag raised. -/
  | pauseEnd {looks sent : Nat} {s : σ} {log : List Log.Record} :
      Step ⟨.waiting (looks + 1), 0, sent, s, log⟩ (.pauseLook true)
        ⟨.waiting 0, 0, sent, s, log⟩
  /-- The loop sends if it finds the flag lowered. -/
  | lowered {quiet sent : Nat} {s : σ} {log : List Log.Record} :
      Step ⟨.waiting 0, quiet + 1, sent, s, log⟩ (.look false)
        ⟨.sending, quiet, sent, s, log⟩
  /-- The loop ends if it finds the flag raised. -/
  | raised {sent : Nat} {s : σ} {log : List Log.Record} :
      Step ⟨.waiting 0, 0, sent, s, log⟩ (.look true)
        ⟨.over (.ok ⟨sent, 0⟩), 0, sent, s, log ++ [interruption sent]⟩
  /-- A send that succeeds is counted and recorded. -/
  | sent {quiet sent : Nat} {s s' : σ} {d : Delivery} {log said : List Log.Record}
      (transmitted : transmit.run s = ⟨.ok d, s', said⟩) :
      Step ⟨.sending, quiet, sent, s, log⟩ (.sent d.octets)
        ⟨.afterSend count polls ⟨sent + 1, d.left quiet⟩, d.left quiet, sent + 1, s',
          log ++ said ++ [sentRecord medium d.octets (sent + 1)]⟩
  /-- A send that fails ends the transmission. -/
  | failed {quiet sent : Nat} {s s' : σ} {e : Failure} {log said : List Log.Record}
      (transmitted : transmit.run s = ⟨.error e, s', said⟩) :
      Step ⟨.sending, quiet, sent, s, log⟩ (.failed e)
        ⟨.over (.error e), quiet, sent, s', log ++ said⟩

/-- A **course**: the events that lead from one moment to another, step by step. -/
inductive Course : Moment σ → List Event → Moment σ → Prop
  | nil {m : Moment σ} : Course m [] m
  | cons {m m' m'' : Moment σ} {e : Event} {events : List Event}
      (step : Step medium transmit count polls m e m') (rest : Course m' events m'') :
      Course m (e :: events) m''

/-- The events **tell** of an effect: they lead from the beginning of a transmission to an end
with this effect. -/
def Tells (quiet : Nat) (s : σ) (events : List Event) (effect : Effect σ Tally) : Prop :=
  ∃ last, Course medium transmit count polls ⟨.waiting 0, quiet, 0, s, []⟩ events last ∧
    last.effect? = some effect

end Steps

section Facts

variable {medium : String} {transmit : Action σ Delivery} {count polls : Nat}

/-! ### One course and no other -/

/-- Each moment has at most one step. -/
theorem Step.deterministic {m m₁ m₂ : Moment σ} {e₁ e₂ : Event}
    (h₁ : Step medium transmit count polls m e₁ m₁)
    (h₂ : Step medium transmit count polls m e₂ m₂) : e₁ = e₂ ∧ m₁ = m₂ := by
  cases h₁ with
  | pauseOn | pauseEnd | lowered | raised =>
    cases h₂
    exact ⟨rfl, rfl⟩
  | sent ht₁ =>
    cases h₂ with
    | sent ht₂ =>
      cases ht₁.symm.trans ht₂
      exact ⟨rfl, rfl⟩
    | failed ht₂ => cases ht₁.symm.trans ht₂
  | failed ht₁ =>
    cases h₂ with
    | sent ht₂ => cases ht₁.symm.trans ht₂
    | failed ht₂ =>
      cases ht₁.symm.trans ht₂
      exact ⟨rfl, rfl⟩

/-- There is no step from an end. -/
theorem Step.effect?_eq_none {m m' : Moment σ} {e : Event}
    (h : Step medium transmit count polls m e m') : m.effect? = none := by
  cases h <;> rfl

/-- Two courses from one moment to an end are the same. -/
theorem Course.unique {m m₁ m₂ : Moment σ} {xs ys : List Event} {e₁ e₂ : Effect σ Tally}
    (h₁ : Course medium transmit count polls m xs m₁)
    (h₂ : Course medium transmit count polls m ys m₂)
    (hend₁ : m₁.effect? = some e₁) (hend₂ : m₂.effect? = some e₂) : xs = ys ∧ e₁ = e₂ := by
  -- the courses go on together: where one is at its end, the other has no step either
  induction h₁ generalizing ys with
  | nil =>
    cases h₂ with
    | nil => exact ⟨rfl, Option.some.inj (hend₁.symm.trans hend₂)⟩
    | cons step₂ =>
      rw [step₂.effect?_eq_none] at hend₁
      cases hend₁
  | cons step₁ _ ih =>
    cases h₂ with
    | nil =>
      rw [step₁.effect?_eq_none] at hend₂
      cases hend₂
    | cons step₂ rest₂ =>
      obtain ⟨rfl, rfl⟩ := step₁.deterministic step₂
      obtain ⟨rfl, heffect⟩ := ih rest₂ hend₁
      exact ⟨rfl, heffect⟩

/-- One course behind another. -/
theorem Course.append {m m' m'' : Moment σ} {xs ys : List Event}
    (h : Course medium transmit count polls m xs m')
    (h' : Course medium transmit count polls m' ys m'') :
    Course medium transmit count polls m (xs ++ ys) m'' := by
  induction h with
  | nil => exact h'
  | cons step _ ih => exact .cons step (ih h')

end Facts

section Existence

variable (medium : String) (transmit : Action σ Delivery) (count polls : Nat)

/-- A pause leads to the loop's next look. -/
theorem exists_pause (looks quiet sent : Nat) (s : σ) (log : List Log.Record) :
    ∃ events, Course medium transmit count polls ⟨.waiting looks, quiet, sent, s, log⟩ events
      ⟨.waiting 0, quiet - looks, sent, s, log⟩ := by
  induction looks generalizing quiet with
  | zero => exact ⟨[], .nil⟩
  | succ looks ih =>
    cases quiet with
    | zero =>
      rw [Nat.zero_sub]
      exact ⟨_, .cons .pauseEnd .nil⟩
    | succ quiet =>
      obtain ⟨events, hpause⟩ := ih quiet
      rw [Nat.add_sub_add_right]
      exact ⟨_, .cons .pauseOn hpause⟩

/-- **The course of a transmission** leads to the effect that `resume` says. -/
theorem exists_course (quiet sent : Nat) (s : σ) (log : List Log.Record) :
    ∃ events last,
      Course medium transmit count polls ⟨.waiting 0, quiet, sent, s, log⟩ events last ∧
        let effect := (resume medium transmit count polls quiet sent).run s
        last.effect? = some { effect with log := log ++ effect.log } := by
  -- the recursion is that of `resume`: a send and its pause may use up many quiet looks
  induction quiet using Nat.strongRecOn generalizing sent s log with
  | ind quiet ih =>
    cases quiet with
    | zero =>
      refine ⟨_, _, .cons .raised .nil, ?_⟩
      rw [resume]
      rfl
    | succ quiet =>
      rw [resume]
      cases hsend : transmit.run s with
      | mk result s' said =>
        cases result with
        | error e =>
          rw [Action.run_bind_error hsend]
          exact ⟨_, _, .cons .lowered (.cons (.failed hsend) .nil), rfl⟩
        | ok d =>
          rw [Action.run_bind_ok hsend, Action.run_bind_ok (Action.run_say _ _ _ _)]
          have hsent : Step medium transmit count polls ⟨.sending, quiet, sent, s, log⟩
              (.sent d.octets) _ := .sent hsend
          by_cases hlimit : count ≠ 0 ∧ sent + 1 = count
          · rw [if_pos hlimit]
            rw [Stage.afterSend, if_pos hlimit] at hsent
            refine ⟨_, _, .cons .lowered (.cons hsent .nil), ?_⟩
            simp [Moment.effect?, sentRecord]
          · rw [if_neg hlimit]
            rw [Stage.afterSend, if_neg hlimit] at hsent
            have hleft : d.left quiet ≤ quiet := d.left_le quiet
            obtain ⟨pause, hpause⟩ := exists_pause medium transmit count polls polls (d.left quiet)
              (sent + 1) s' (log ++ said ++ [sentRecord medium d.octets (sent + 1)])
            obtain ⟨events, last, hrest, hlast⟩ := ih (d.left quiet - polls) (by omega) (sent + 1)
              s' (log ++ said ++ [sentRecord medium d.octets (sent + 1)])
            refine ⟨_, last, .cons .lowered (.cons hsent (hpause.append hrest)), ?_⟩
            rw [hlast]
            simp [sentRecord]

/-- The events of a transmission tell of its effect, and of no other; and no other events do. -/
theorem exists_tells (quiet : Nat) (s : σ) :
    ∃ events, ∀ xs effect, Tells medium transmit count polls quiet s xs effect ↔
      xs = events ∧ effect = (resume medium transmit count polls quiet 0).run s := by
  obtain ⟨events, last, hcourse, hlast⟩ :=
    exists_course medium transmit count polls quiet 0 s []
  refine ⟨events, fun xs effect => ⟨?_, ?_⟩⟩
  · rintro ⟨last', hcourse', hlast'⟩
    obtain ⟨rfl, rfl⟩ := hcourse'.unique hcourse hlast' hlast
    exact ⟨rfl, rfl⟩
  · rintro ⟨rfl, rfl⟩
    exact ⟨last, hcourse, hlast⟩

end Existence

end EchoInjector.Transmission
