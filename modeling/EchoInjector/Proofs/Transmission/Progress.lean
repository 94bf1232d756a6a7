import EchoInjector.Transmission

/-!
# What sending repeatedly comes to

`Transmission.resume` sends in a loop and can end in three ways: a send fails, the limit is
reached, or the stop flag is found raised. `resume_eq_ok` is the **rule of the loop** for the two
good ends. Whatever one successful send preserves, as long as the limit is not reached, holds in
the end; and an end before the limit is one in which the flag was found raised, with the record of
that as the last one. The rule holds for every medium and every state it works on.

`FoundRaised` says of a flag that it was found raised, in terms of its schedule.
-/

namespace EchoInjector.Transmission

variable {σ : Type}

/-- The record of an interruption behind some number of sends. -/
def interruption (sent : Nat) : Log.Record :=
  ⟨.info, .sending, interruptedNote sent⟩

/-- The stop flag was **found raised** behind some number of sends: its quiet looks did not outlast
these sends and the pauses behind them, and the last record tells of the interruption. -/
structure FoundRaised (quiet sent interval : Nat) (log : List Log.Record) : Prop where
  spent : quiet ≤ quietThrough sent interval
  noted : log.getLast? = some (interruption sent)

/-- Records written earlier do not matter for the last one. -/
theorem FoundRaised.append_left {quiet sent interval : Nat} {log : List Log.Record}
    (h : FoundRaised quiet sent interval log) (before : List Log.Record) :
    FoundRaised quiet sent interval (before ++ log) where
  spent := h.spent
  noted := by
    rw [List.getLast?_append, h.noted]
    rfl

/-- A pause uses up some quiet looks, but no more than it has. -/
theorem le_left_add_quietThrough {quiet left sent interval : Nat}
    (h : quiet ≤ left + 1 + quietThrough sent interval) :
    quiet ≤ left - pausePolls interval + quietThrough (sent + 1) interval := by
  have hsucc : quietThrough (sent + 1) interval
      = quietThrough sent interval + (1 + pausePolls interval) := Nat.succ_mul _ _
  omega

/-- **The rule of the loop.** What one successful send before the limit preserves holds when the
limit is reached, and it holds without any quiet look left when the stop flag is found raised. -/
theorem resume_eq_ok {medium : String} {transmit : Action σ Delivery} {count polls : Nat}
    {P : Nat → Nat → σ → Prop}
    (hstep : ∀ {quiet sent s d s' log}, (count = 0 ∨ sent < count) → P (quiet + 1) sent s →
      transmit.run s = ⟨.ok d, s', log⟩ → P (d.left quiet - polls) (sent + 1) s')
    {quiet sent : Nat} {s s' : σ} {t : Tally} {log : List Log.Record}
    (hopen : count = 0 ∨ sent < count) (hP : P quiet sent s)
    (hrun : (resume medium transmit count polls quiet sent).run s = ⟨.ok t, s', log⟩) :
    (count ≠ 0 ∧ t.sent = count ∧ ∃ left, P left t.sent s') ∨
      (P 0 t.sent s' ∧ log.getLast? = some (interruption t.sent)) := by
  -- the recursion is on the quiet looks, of which one send may use up many
  induction quiet using Nat.strongRecOn generalizing sent s log with
  | ind quiet ih =>
    cases quiet with
    | zero =>
      rw [resume] at hrun
      cases hrun
      exact Or.inr ⟨hP, rfl⟩
    | succ quiet =>
      rw [resume, Action.run_bind_eq_ok_iff] at hrun
      obtain ⟨d, u, sending, rest, hsend, hrest, rfl⟩ := hrun
      obtain ⟨after, hafter, rfl⟩ := Action.run_say_bind_eq_ok_iff.mp hrest
      have hnext : P (d.left quiet - polls) (sent + 1) u := hstep hopen hP hsend
      split at hafter
      case isTrue hlimit =>
        cases hafter
        exact Or.inl ⟨hlimit.1, hlimit.2, _, hnext⟩
      case isFalse hmore =>
        have hleft : d.left quiet ≤ quiet := d.left_le quiet
        rcases ih (d.left quiet - polls) (by omega) (by omega) hnext hafter with
          hreached | ⟨hfound, hlast⟩
        · exact Or.inl hreached
        · refine Or.inr ⟨hfound, ?_⟩
          rw [List.getLast?_append, ← List.singleton_append, List.getLast?_append, hlast]
          rfl

end EchoInjector.Transmission
