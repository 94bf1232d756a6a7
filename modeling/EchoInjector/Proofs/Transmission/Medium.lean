import EchoInjector.Transmission

/-!
# What a transmission takes over from its medium

The loop looks at the stop flag, counts and writes records, but it touches the state only through
its medium. Two properties of an action therefore carry over from the medium to a whole
transmission, whatever its limit, its pauses and the schedule of the flag:

* an action **keeps** a fact about the state if the fact holds behind it, be it behind a success or
  behind a failure (`Action.Keeps`, `Transmission.send_keeps`);
* an action **extends** another one if it works on a larger state, of which it treats one part just
  as the other one does, with the same values and the same records (`Action.Extends`,
  `Transmission.send_extends`). A medium may keep accounts of its own without disturbing anything.
-/

namespace EchoInjector

open Wire

namespace Action

variable {σ τ α β : Type}

/-! ### Keeping a fact -/

/-- An action **keeps** a fact about the state, whether it succeeds or fails. -/
def Keeps (P : σ → Prop) (x : Action σ α) : Prop := ∀ s, P s → P (x.run s).state

variable {P : σ → Prop}

theorem keeps_pure (a : α) : (pure a : Action σ α).Keeps P := fun _ h => h

theorem keeps_say (level : Log.Level) (topic : Log.Topic) (text : String) :
    (say level topic text : Action σ Unit).Keeps P := fun _ h => h

theorem Keeps.bind {x : Action σ α} {f : α → Action σ β} (hx : x.Keeps P)
    (hf : ∀ a, (f a).Keeps P) : (x >>= f).Keeps P := by
  intro s hs
  have hnext := hx s hs
  cases hrun : x.run s with
  | mk result t log =>
    rw [hrun] at hnext
    cases result with
    | error e => rwa [run_bind_error hrun]
    | ok a =>
      rw [run_bind_ok hrun]
      exact hf a t hnext

/-! ### Working on a larger state -/

/-- An action **extends** another one if it does to a part of its state what the other one does to
the whole of its own, with the same result and the same records. -/
def Extends (part : σ → τ) (x : Action σ α) (y : Action τ α) : Prop :=
  ∀ s, y.run (part s) = ⟨(x.run s).result, part (x.run s).state, (x.run s).log⟩

variable {part : σ → τ}

theorem extends_pure (a : α) : (pure a : Action σ α).Extends part (pure a) := fun _ => rfl

theorem extends_say (level : Log.Level) (topic : Log.Topic) (text : String) :
    (say level topic text : Action σ Unit).Extends part (say level topic text) := fun _ => rfl

theorem Extends.bind {x : Action σ α} {y : Action τ α} {f : α → Action σ β} {g : α → Action τ β}
    (hx : x.Extends part y) (hf : ∀ a, (f a).Extends part (g a)) :
    (x >>= f).Extends part (y >>= g) := by
  intro s
  have hy := hx s
  cases hrun : x.run s with
  | mk result t log =>
    rw [hrun] at hy
    cases result with
    | error e => rw [run_bind_error hrun, run_bind_error hy]
    | ok a => rw [run_bind_ok hrun, run_bind_ok hy, hf a t]

end Action

namespace Transmission

variable {σ τ : Type} {medium : String} {count : Nat}

/-- The loop keeps what each send keeps. -/
theorem resume_keeps {P : σ → Prop} {transmit : Action σ Delivery} (h : transmit.Keeps P)
    (polls quiet sent : Nat) : (resume medium transmit count polls quiet sent).Keeps P := by
  -- the recursion is on the quiet looks, of which one send may use up many
  induction quiet using Nat.strongRecOn generalizing sent with
  | ind quiet ih =>
    cases quiet with
    | zero =>
      rw [resume]
      exact (Action.keeps_say _ _ _).bind fun _ => Action.keeps_pure _
    | succ quiet =>
      rw [resume]
      refine h.bind fun d => (Action.keeps_say _ _ _).bind fun _ => ?_
      split
      · exact Action.keeps_pure _
      · have hleft : d.left quiet ≤ quiet := d.left_le quiet
        exact ih _ (by omega) _

/-- **A transmission keeps what each of its sends keeps.** -/
theorem send_keeps {P : σ → Prop} {transmit : Octets → Action σ Delivery} {octets : Octets}
    (h : (transmit octets).Keeps P) (interval quiet : Nat) :
    (send medium transmit octets count interval quiet).Keeps P :=
  resume_keeps h _ _ _

/-- The loop over a medium that extends another one extends the loop over that. -/
theorem resume_extends {part : σ → τ} {transmit : Action σ Delivery} {base : Action τ Delivery}
    (h : transmit.Extends part base) (polls quiet sent : Nat) :
    (resume medium transmit count polls quiet sent).Extends part
      (resume medium base count polls quiet sent) := by
  induction quiet using Nat.strongRecOn generalizing sent with
  | ind quiet ih =>
    cases quiet with
    | zero =>
      rw [resume, resume]
      exact (Action.extends_say _ _ _).bind fun _ => Action.extends_pure _
    | succ quiet =>
      rw [resume, resume]
      refine h.bind fun d => (Action.extends_say _ _ _).bind fun _ => ?_
      split
      · exact Action.extends_pure _
      · have hleft : d.left quiet ≤ quiet := d.left_le quiet
        exact ih _ (by omega) _

/-- **A transmission over a medium that keeps accounts of its own** does the same to the medium
below, and is answered and recorded alike. -/
theorem send_extends {part : σ → τ} {transmit : Octets → Action σ Delivery}
    {base : Octets → Action τ Delivery} {octets : Octets}
    (h : (transmit octets).Extends part (base octets)) (interval quiet : Nat) :
    (send medium transmit octets count interval quiet).Extends part
      (send medium base octets count interval quiet) :=
  resume_extends h _ _ _

end Transmission

end EchoInjector
