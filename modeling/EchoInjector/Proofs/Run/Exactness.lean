import EchoInjector.Proofs.Run.Delivery
import EchoInjector.Proofs.Transmission.Account

/-!
# Sending over a link, event by event

`Plan.Exact` says what happens when octets are sent repeatedly over a link, and in which order, for
every schedule of the stop flag and every host. Its parts are the parts of a promise: nothing is
sent without a look at the flag, a success has one of two reasons, a failure has one, every send
that succeeds reaches the host and is recorded, and nothing else does and is.

`Plan.send_exact` says that the promise is kept. The events it speaks of are those of the one course
that leads to the effect of `Transmission.send` (`Transmission.Tells`).

A link is a plain medium, whatever the host answers: that a send is interrupted and repeated happens
inside of one send, and no answer of the host raises the flag or writes a record.
-/

namespace EchoInjector.Plan

open Wire Transmission

/-- A link neither raises the stop flag nor writes records. -/
theorem plain_deliver (l : Link) (octets : Octets) : Plain (deliver l octets) where
  silent := by
    intro h
    rcases deliver_cases l octets h with ⟨n, h', hrun, -⟩ | ⟨e, h', hrun, -⟩
    · rw [hrun]
    · rw [hrun]
  steady := by
    intro h d hresult
    rcases deliver_cases l octets h with ⟨n, h', hrun, -⟩ | ⟨e, h', hrun, -⟩
    · rw [hrun] at hresult
      cases hresult
      rfl
    · rw [hrun] at hresult
      cases hresult

/-- The **exact account** of octets sent over a link, at most `count` times if that is not zero,
where `quiet` looks find the stop flag lowered: the events, from the host in the beginning to the
effect in the end. -/
structure Exact (l : Link) (octets : Octets) (count quiet : Nat) (h : Host) (events : List Event)
    (effect : Effect Host Tally) : Prop where
  /-- The flag is found raised from one look on, the one that the schedule names. -/
  scheduled : ∀ k found, (looks events)[k]? = some found → (found = true ↔ quiet ≤ k)
  /-- Every send directly follows a look of the loop that found the flag lowered. -/
  looked : LookedFirst events
  /-- At most one send starts after the flag is raised, at whatever point that is. -/
  late : ∀ before after, events = before ++ after → (∀ found ∈ looks after, found = true) →
    after.countP Event.isSend ≤ 1
  /-- It succeeds with a number of sends exactly if so many succeeded, none failed, and either they
  are as many as there should be, or the loop's look behind the last of them found the flag
  raised. -/
  succeeds : ∀ n, (∃ left, effect.result = .ok ⟨n, left⟩) ↔
    (deliveries events).length = n ∧ (∀ e, .failed e ∉ events) ∧
      ((count ≠ 0 ∧ n = count) ∨ StoppedBehind n events)
  /-- Without a limit it does not succeed unless the flag was found raised. -/
  unlimited : count = 0 → ∀ t, effect.result = .ok t → true ∈ looks events
  /-- It fails exactly if a send failed, and for the same reason. -/
  fails : ∀ e, effect.result = .error e ↔ .failed e ∈ events
  /-- All sends before one that failed succeeded, and nothing follows it. -/
  stops : ∀ e, .failed e ∈ events → ∃ before, events = before ++ [.failed e] ∧
    ∀ e', .failed e' ∉ before
  /-- What the host has accepted are copies of the octets, one for each send that succeeded. -/
  accepted : effect.state.accepted.toList
    = h.accepted.toList ++ List.replicate (deliveries events).length ⟨l.route, octets⟩
  /-- There is one record for each send that succeeded, in order and numbered from one on, and
  behind them one more if the loop found the flag raised. -/
  logged : effect.log
    = (deliveries events).mapIdx (fun i octets => sentRecord l.describe octets (i + 1)) ++
      if .look true ∈ events then [interruption (deliveries events).length] else []

/-- A success without a limit has seen the flag raised. -/
theorem true_mem_looks_of_stoppedBehind {n : Nat} {events : List Event}
    (h : StoppedBehind n events) : true ∈ looks events := by
  obtain ⟨before, rfl, -, -⟩ := h
  rw [looks_append]
  exact List.mem_append_right _ (List.mem_singleton_self true)

/-- The host has accepted one copy of the octets for each send that succeeded. -/
theorem accepted_of_tells {l : Link} {octets : Octets} {medium : String} {count polls quiet : Nat}
    {h : Host} {events : List Event} {effect : Effect Host Tally}
    (htells : Tells medium (deliver l octets) count polls quiet h events effect) :
    effect.state.accepted.toList
      = h.accepted.toList ++ List.replicate (deliveries events).length ⟨l.route, octets⟩ := by
  refine htells.state_rule (Q := fun n now => now.accepted.toList
    = h.accepted.toList ++ List.replicate n ⟨l.route, octets⟩) (by simp) ?_ ?_
  · intro n now d next said hnow hsent
    obtain ⟨-, haccepted⟩ := accepted_of_deliver hsent
    rw [haccepted, hnow, List.append_assoc, ← List.replicate_succ']
  · intro n now e next said hnow hfailed
    rcases deliver_cases l octets now with ⟨_, _, hrun, -⟩ | ⟨_, _, hrun, haccepted⟩
    · cases hrun.symm.trans hfailed
    · cases hrun.symm.trans hfailed
      rw [haccepted, hnow]

/-- Sending adds copies of the octets to what the host has accepted, and nothing else. -/
theorem exists_accepted (l : Link) (octets : Octets) (count interval quiet : Nat) (h : Host) :
    ∃ n, ((Transmission.send l.describe (deliver l) octets count interval quiet).run
      h).state.accepted.toList = h.accepted.toList ++ List.replicate n ⟨l.route, octets⟩ := by
  obtain ⟨events, hevents⟩ :=
    exists_tells l.describe (deliver l octets) count (pausePolls interval) quiet h
  exact ⟨_, accepted_of_tells ((hevents events _).mpr ⟨rfl, rfl⟩)⟩

/-- **Sending over a link is exact**, for every link, all octets, every number of sends, every
schedule of the stop flag and every host: there is one list of events that tells of the effect, and
it is an exact account of it. -/
theorem send_exact (l : Link) (octets : Octets) (count interval quiet : Nat) (h : Host) :
    let effect := (Transmission.send l.describe (deliver l) octets count interval quiet).run h
    ∃ events, Exact l octets count quiet h events effect ∧
      ∀ xs e, Tells l.describe (deliver l octets) count (pausePolls interval) quiet h xs e ↔
        xs = events ∧ e = effect := by
  intro effect
  obtain ⟨events, hevents⟩ :=
    exists_tells l.describe (deliver l octets) count (pausePolls interval) quiet h
  have htells : Tells l.describe (deliver l octets) count (pausePolls interval) quiet h events
      effect := (hevents events effect).mpr ⟨rfl, rfl⟩
  have hplain : Plain (deliver l octets) := plain_deliver l octets
  have hlooked : LookedFirst events := htells.account.1
  refine ⟨events, ?_, hevents⟩
  constructor
  case scheduled =>
    intro k found hk
    exact htells.scheduled hplain hk
  case looked => exact hlooked
  case late =>
    intro before after heq hraised
    rw [heq] at hlooked
    exact hlooked.countP_isSend_le_one hraised
  case succeeds =>
    intro n
    exact htells.ok_iff
  case unlimited =>
    intro hcount t hresult
    obtain ⟨-, -, hlimit | hstopped⟩ := htells.ok_iff.mp ⟨t.quiet, hresult⟩
    · exact absurd hcount hlimit.1
    · exact true_mem_looks_of_stoppedBehind hstopped
  case fails =>
    intro e
    exact htells.error_iff
  case stops =>
    intro e he
    obtain ⟨before, heq, hongoing, -⟩ := htells.failed_last he
    exact ⟨before, heq, hongoing.failed_notMem⟩
  case accepted => exact accepted_of_tells htells
  case logged => exact htells.logged hplain

end EchoInjector.Plan
