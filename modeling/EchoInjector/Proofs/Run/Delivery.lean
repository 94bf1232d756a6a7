import EchoInjector.Run
import EchoInjector.Proofs.Transmission.Progress

/-!
# What reaches the host

Everything that a link sends arrives at the host, once, unchanged and on the link's route, and
nothing else does.

* **One send** is one call of the host, and it succeeds or fails as that call does. If it succeeds
  the host has accepted one more packet, otherwise the same as before (`Link.transmit_cases`).
  Neither the kind of link nor the host's answer has a say in which packet that is; in particular
  the number of octets that the host reports does not count. The only octets that a link does not
  pass on are those to an address that have no room for a header.
* **A whole transmission** adds as many of them as its tally says. `SentSoFar` is the invariant of
  the loop: the accepted packets, the limit, and the quiet looks that are used up.
-/

namespace EchoInjector

open Wire

/-! ### One send -/

/-- A packet that the host takes is the next one it has accepted. -/
theorem Host.accepted_of_send {h h' : Host} {p : Packet} {n : Nat}
    (hsend : h.send p = (.ok n, h')) : h'.accepted = h.accepted.push p := by
  simp only [Host.send] at hsend
  split at hsend
  · cases hsend
  · cases hsend
    rfl

/-- A packet that the host refuses is not among those it has accepted. -/
theorem Host.accepted_of_send_error {h h' : Host} {p : Packet} {cause : SystemError}
    (hsend : h.send p = (.error cause, h')) : h'.accepted = h.accepted := by
  simp only [Host.send] at hsend
  split at hsend
  · cases hsend
    rfl
  · cases hsend

/-- What a link passes on succeeds or fails as the host's send does, without a record. -/
theorem Link.run_pass (l : Link) (octets : Octets) (h : Host) :
    (l.pass octets).run h
      = ⟨(h.send ⟨l.route, octets⟩).1.mapError .sendFailed, (h.send ⟨l.route, octets⟩).2, []⟩ := by
  rw [Action.run, Link.pass]
  split
  case h_1 hsend =>
    rw [hsend]
    rfl
  case h_2 hsend =>
    rw [hsend]
    rfl

/-- Whether a link passes octets on at all: to an address, there has to be room for a header. -/
def Link.Passes (l : Link) (octets : Octets) : Prop :=
  ∀ dst, l = .ipv4 dst → Packet.Datagram.headerLength ≤ octets.length

/-- Octets that are not passed on are found too short, and the host does not see them. -/
theorem Link.run_transmit_of_not_passes {l : Link} {octets : Octets} (hshort : ¬ l.Passes octets)
    (h : Host) : (l.transmit octets).run h = ⟨.error (.truncated "ipv4 header"), h, []⟩ := by
  cases l with
  | ethernet name index => exact absurd (fun dst heq => by cases heq) hshort
  | ipv4 dst =>
    have hlength : octets.length < Packet.Datagram.headerLength :=
      Nat.lt_of_not_le fun hlong => hshort fun _ _ => hlong
    rw [Link.transmit, if_pos hlength, Action.run_fail]

/-- **A send is one call of the host**: it fails with the host's reason, if that refuses. -/
theorem Link.run_transmit_of_refused {l : Link} {octets : Octets} {h h' : Host}
    {cause : SystemError} (hpasses : l.Passes octets)
    (hsend : h.send ⟨l.route, octets⟩ = (.error cause, h')) :
    (l.transmit octets).run h = ⟨.error (.sendFailed cause), h', []⟩ := by
  have hpass : (l.pass octets).run h = ⟨.error (.sendFailed cause), h', []⟩ := by
    rw [Link.run_pass, hsend]
    rfl
  cases l with
  | ethernet name index => exact Action.run_bind_error hpass
  | ipv4 dst => rwa [Link.transmit, if_neg (Nat.not_lt.mpr (hpasses dst rfl))]

/-- It succeeds if the host accepts. -/
theorem Link.run_transmit_of_accepted {l : Link} {octets : Octets} {h h' : Host} {reported : Nat}
    (hpasses : l.Passes octets) (hsend : h.send ⟨l.route, octets⟩ = (.ok reported, h')) :
    ∃ n, (l.transmit octets).run h = ⟨.ok n, h', []⟩ := by
  have hpass : (l.pass octets).run h = ⟨.ok reported, h', []⟩ := by
    rw [Link.run_pass, hsend]
    rfl
  cases l with
  | ethernet name index => exact ⟨octets.length, Action.run_bind_ok hpass⟩
  | ipv4 dst =>
    refine ⟨reported, ?_⟩
    rwa [Link.transmit, if_neg (Nat.not_lt.mpr (hpasses dst rfl))]

/-- **All that a send can come to**: the host has accepted one more packet, on the link's route, or
the same ones as before. There is no record of it. -/
theorem Link.transmit_cases (l : Link) (octets : Octets) (h : Host) :
    (∃ n h', (l.transmit octets).run h = ⟨.ok n, h', []⟩ ∧
        h'.accepted = h.accepted.push ⟨l.route, octets⟩) ∨
      ∃ e h', (l.transmit octets).run h = ⟨.error e, h', []⟩ ∧ h'.accepted = h.accepted := by
  by_cases hpasses : l.Passes octets
  case neg => exact Or.inr ⟨_, h, Link.run_transmit_of_not_passes hpasses h, rfl⟩
  case pos =>
    cases hsend : h.send ⟨l.route, octets⟩ with
    | mk result h' =>
      cases result with
      | error cause =>
        exact Or.inr ⟨_, h', Link.run_transmit_of_refused hpasses hsend,
          Host.accepted_of_send_error hsend⟩
      | ok reported =>
        obtain ⟨n, htransmit⟩ := Link.run_transmit_of_accepted hpasses hsend
        exact Or.inl ⟨n, h', htransmit, Host.accepted_of_send hsend⟩

namespace Plan

/-- A delivery fails with the host's reason, if the host refuses. -/
theorem run_deliver_of_refused {l : Link} {octets : Octets} {h h' : Host} {cause : SystemError}
    (hpasses : l.Passes octets) (hsend : h.send ⟨l.route, octets⟩ = (.error cause, h')) :
    (deliver l octets).run h = ⟨.error (.sendFailed cause), h', []⟩ :=
  Action.run_bind_error (Link.run_transmit_of_refused hpasses hsend)

/-- A delivery succeeds if the host accepts. -/
theorem run_deliver_of_accepted {l : Link} {octets : Octets} {h h' : Host} {reported : Nat}
    (hpasses : l.Passes octets) (hsend : h.send ⟨l.route, octets⟩ = (.ok reported, h')) :
    ∃ n, (deliver l octets).run h = ⟨.ok { octets := n }, h', []⟩ := by
  obtain ⟨n, htransmit⟩ := Link.run_transmit_of_accepted hpasses hsend
  exact ⟨n, Action.run_bind_ok htransmit⟩

/-- All that a delivery can come to. The stop flag is left alone. -/
theorem deliver_cases (l : Link) (octets : Octets) (h : Host) :
    (∃ n h', (deliver l octets).run h = ⟨.ok { octets := n }, h', []⟩ ∧
        h'.accepted = h.accepted.push ⟨l.route, octets⟩) ∨
      ∃ e h', (deliver l octets).run h = ⟨.error e, h', []⟩ ∧ h'.accepted = h.accepted := by
  rcases l.transmit_cases octets h with ⟨n, h', hrun, haccepted⟩ | ⟨e, h', hrun, haccepted⟩
  · exact Or.inl ⟨n, h', Action.run_bind_ok hrun, haccepted⟩
  · exact Or.inr ⟨e, h', Action.run_bind_error hrun, haccepted⟩

/-- **One send adds one packet**, and it never raises the stop flag. -/
theorem accepted_of_deliver {l : Link} {octets : Octets} {h h' : Host} {d : Delivery}
    {log : List Log.Record} (hdeliver : (deliver l octets).run h = ⟨.ok d, h', log⟩) :
    d.stops = false ∧ h'.accepted.toList = h.accepted.toList ++ [⟨l.route, octets⟩] := by
  rcases deliver_cases l octets h with ⟨n, t, hrun, haccepted⟩ | ⟨e, t, hrun, -⟩
  · cases hrun.symm.trans hdeliver
    exact ⟨rfl, by rw [haccepted, Array.toList_push]⟩
  · cases hrun.symm.trans hdeliver

/-! ### A whole transmission -/

/-- How a transmission stands in front of a look at the stop flag, with some quiet looks left and
some sends behind. -/
structure SentSoFar (l : Link) (octets : Octets) (count interval quiet : Nat) (h : Host)
    (left sent : Nat) (now : Host) : Prop where
  /-- The limit is kept. -/
  limited : count = 0 ∨ sent ≤ count
  /-- All quiet looks are accounted for. -/
  looked : quiet ≤ left + Transmission.quietThrough sent interval
  /-- The host has accepted one packet for each send. -/
  accepted : now.accepted.toList = h.accepted.toList ++ List.replicate sent ⟨l.route, octets⟩

/-- Nothing is sent in the beginning. -/
theorem SentSoFar.start (l : Link) (octets : Octets) (count interval quiet : Nat) (h : Host) :
    SentSoFar l octets count interval quiet h quiet 0 h :=
  ⟨Or.inr (Nat.zero_le _), Nat.le_add_right _ _, (List.append_nil _).symm⟩

/-- **One send before the limit** is one more, and the pause behind it uses up its looks. -/
theorem SentSoFar.step {l : Link} {octets : Octets} {count interval quiet left sent : Nat}
    {h now next : Host} {d : Delivery} {log : List Log.Record}
    (hopen : count = 0 ∨ sent < count)
    (hnow : SentSoFar l octets count interval quiet h (left + 1) sent now)
    (hdeliver : (deliver l octets).run now = ⟨.ok d, next, log⟩) :
    SentSoFar l octets count interval quiet h (d.left left - Transmission.pausePolls interval)
      (sent + 1) next := by
  obtain ⟨hstops, haccepted⟩ := accepted_of_deliver hdeliver
  -- no send raises the flag itself, so only the pause takes quiet looks away
  have hleft : d.left left = left := by
    rw [Delivery.left, hstops, if_neg Bool.false_ne_true]
  refine ⟨by omega, ?_, ?_⟩
  · rw [hleft]
    exact Transmission.le_left_add_quietThrough hnow.looked
  · rw [haccepted, hnow.accepted, List.append_assoc, ← List.replicate_succ']

/-- **A transmission sends what its tally says**: so many times the octets it was given. Its tally
is the limit unless the stop flag was found raised. -/
theorem send_eq_ok {l : Link} {medium : String} {octets : Octets} {count interval quiet : Nat}
    {h h' : Host} {t : Tally} {log : List Log.Record}
    (hsend : (Transmission.send medium (deliver l) octets count interval quiet).run h
      = ⟨.ok t, h', log⟩) :
    h'.accepted.toList = h.accepted.toList ++ List.replicate t.sent ⟨l.route, octets⟩ ∧
      (count = 0 ∨ t.sent ≤ count) ∧
      ((count ≠ 0 ∧ t.sent = count) ∨ Transmission.FoundRaised quiet t.sent interval log) := by
  have hopen : count = 0 ∨ 0 < count := count.eq_zero_or_pos
  rcases Transmission.resume_eq_ok SentSoFar.step hopen
      (SentSoFar.start l octets count interval quiet h) hsend with
    ⟨hlimit, hreached, left, hend⟩ | ⟨hend, hlast⟩
  · exact ⟨hend.accepted, hend.limited, Or.inl ⟨hlimit, hreached⟩⟩
  · have hspent : quiet ≤ Transmission.quietThrough t.sent interval := by
      simpa using hend.looked
    exact ⟨hend.accepted, hend.limited, Or.inr ⟨hspent, hlast⟩⟩

end Plan

end EchoInjector
