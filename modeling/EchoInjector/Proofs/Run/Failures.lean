import EchoInjector.Proofs.Run.Report

/-!
# How a run fails

What can be wrong with a run is wrong from the beginning: the interface is missing, the payload is
too long, the host is not willing. Each of these **hurdles** can be told from the plan and the host
alone, and none of them presupposes that another one is cleared. `Plan.hurdles` lists them, and a
run fails at the first one in the list that stands in its way, without any effect on the host.

If no hurdle stands in the way, packets are sent, and the only failure that is left is that the host
refuses one of them. `Host.Refuses` says when that is: the host accepts some number of sends, less
than the limit, the stop flag is not found raised up to the next one, and that one is refused.

`Plan.run_error_iff` is the whole of it, and `Plan.failures_in_order` adds what does not happen: a
run that fails without a send leaves the host alone, and of eleven failures there are six that no
run ends with.
-/

namespace EchoInjector

open Wire Packet

/-! ### Checks -/

/-- An action on a state **meets** a hurdle, or none: it fails at the hurdle, or else succeeds, and
leaves the state alone in both cases. -/
def Action.Meets {σ α : Type} (x : Action σ α) (s : σ) : Option Failure → Prop
  | some e => ∃ log, x.run s = ⟨.error e, s, log⟩
  | none => ∃ a log, x.run s = ⟨.ok a, s, log⟩

namespace Action

variable {σ α β : Type} {x : Action σ α} {f : α → Action σ β} {s : σ}

theorem meets_pure (a : α) (s : σ) : (pure a : Action σ α).Meets s none := ⟨a, [], rfl⟩

theorem meets_say (level : Log.Level) (topic : Log.Topic) (text : String) (s : σ) :
    (say level topic text : Action σ Unit).Meets s none :=
  ⟨(), _, rfl⟩

theorem meets_fail (e : Failure) (s : σ) : (fail e : Action σ α).Meets s (some e) := ⟨[], rfl⟩

/-- Two steps meet what the first one meets, or else what the second one meets. -/
theorem Meets.bind {first second : Option Failure} (hx : x.Meets s first)
    (hf : ∀ a log, x.run s = ⟨.ok a, s, log⟩ → (f a).Meets s second) :
    (x >>= f).Meets s (first.or second) := by
  cases first with
  | some e =>
    obtain ⟨log, hrun⟩ := hx
    exact ⟨log, run_bind_error hrun⟩
  | none =>
    obtain ⟨a, log, hrun⟩ := hx
    have hnext := hf a log hrun
    rw [Option.none_or]
    cases second with
    | some e =>
      obtain ⟨after, hafter⟩ := hnext
      exact ⟨log ++ after, by rw [run_bind_ok hrun, hafter]⟩
    | none =>
      obtain ⟨b, after, hafter⟩ := hnext
      exact ⟨b, log ++ after, by rw [run_bind_ok hrun, hafter]⟩

/-- What is returned in the end has no part in what is met. -/
theorem Meets.bind_pure {hurdle : Option Failure} (hx : x.Meets s hurdle) (g : α → β) :
    (x >>= fun a => pure (g a)).Meets s hurdle := by
  rw [← Option.or_none (o := hurdle)]
  exact hx.bind fun a _ _ => meets_pure (g a) s

/-- To look at the state meets nothing. -/
theorem Meets.get_bind {g : σ → Action σ β} {hurdle : Option Failure}
    (hg : (g s).Meets s hurdle) : (get >>= g).Meets s hurdle := by
  have hget : (get : Action σ σ).Meets s none := ⟨s, [], rfl⟩
  rw [← Option.none_or (o := hurdle)]
  refine hget.bind fun a log hrun => ?_
  cases hrun
  exact hg

end Action

/-- Whether a failure is one that can stand in the way before anything is sent. -/
def Failure.isHurdle : Failure → Bool
  | .interfaceNotFound _ _ | .payloadTooLarge _ | .interfaceDown _ | .channelOpen _ _ => true
  | .sendFailed _ | .unsupportedChannel _ | .sendRefused | .buildFailed _ | .truncated _
  | .unexpectedProtocol _ | .signal _ => false

namespace Plan

/-! ### Hurdles -/

/-- The interface that a plan names, if the host has it. -/
def chosen? (p : Plan) (h : Host) : Option Interface := h.interfaces.find? (·.name = p.iface)

/-- No interface has the plan's name. These are the names there are, in order. -/
def unknownInterface? (p : Plan) (h : Host) : Option Failure :=
  if ∃ i ∈ h.interfaces, i.name = p.iface then none
  else some (.interfaceNotFound p.iface (h.interfaces.map (·.name)))

/-- The payload is longer than one datagram can carry. -/
def oversized? (p : Plan) : Option Failure :=
  if p.probe.payload.length ≤ 65507 then none
  else some (.payloadTooLarge p.probe.payload.length)

/-- The interface is not up. -/
def interfaceDown? (p : Plan) (h : Host) : Option Failure :=
  match p.chosen? h with
  | some i => if i.isUp then none else some (.interfaceDown p.iface)
  | none => none

/-- The host refuses a socket that is bound to the interface. -/
def boundRefused? (p : Plan) (h : Host) : Option Failure :=
  match p.chosen? h with
  | some i =>
    match h.openBound i.index with
    | .error cause => some (.channelOpen p.iface cause)
    | .ok () => none
  | none => none

/-- The host refuses a socket. -/
def socketRefused? (h : Host) : Option Failure :=
  match h.openSocket with
  | .error cause => some (.channelOpen "raw ipv4" cause)
  | .ok () => none

/-- What can stand in the way of a run before anything is sent, **in order**. -/
def hurdles (p : Plan) (h : Host) : List (Option Failure) :=
  match p.mode with
  | .layer2 => [p.unknownInterface? h, p.oversized?, p.interfaceDown? h, p.boundRefused? h]
  | .layer3 => [p.oversized?, socketRefused? h]

/-- The first of the hurdles that stands in the way. -/
def firstHurdle? (p : Plan) (h : Host) : Option Failure := (p.hurdles h).findSome? id

theorem firstHurdle?_layer2 {p : Plan} (hmode : p.mode = .layer2) (h : Host) :
    p.firstHurdle? h = (p.unknownInterface? h).or (p.oversized?.or
      ((p.interfaceDown? h).or (p.boundRefused? h))) := by
  simp only [firstHurdle?, hurdles, hmode, List.findSome?_cons, List.findSome?_nil, id]
  cases p.unknownInterface? h <;> cases p.oversized? <;> cases p.interfaceDown? h <;>
    cases p.boundRefused? h <;> rfl

theorem firstHurdle?_layer3 {p : Plan} (hmode : p.mode = .layer3) (h : Host) :
    p.firstHurdle? h = p.oversized?.or (socketRefused? h) := by
  simp only [firstHurdle?, hurdles, hmode, List.findSome?_cons, List.findSome?_nil, id]
  cases p.oversized? <;> cases socketRefused? h <;> rfl

/-- There are four kinds of hurdles. -/
theorem isHurdle_of_firstHurdle? {p : Plan} {h : Host} {e : Failure}
    (hfirst : p.firstHurdle? h = some e) : e.isHurdle = true := by
  have hunknown : (p.unknownInterface? h).all Failure.isHurdle = true := by
    rw [unknownInterface?]
    split <;> rfl
  have hlong : p.oversized?.all Failure.isHurdle = true := by
    rw [oversized?]
    split <;> rfl
  have hdown : (p.interfaceDown? h).all Failure.isHurdle = true := by
    rw [interfaceDown?]
    split
    · split <;> rfl
    · rfl
  have hbound : (p.boundRefused? h).all Failure.isHurdle = true := by
    rw [boundRefused?]
    split
    · split <;> rfl
    · rfl
  have hsocket : (socketRefused? h).all Failure.isHurdle = true := by
    rw [socketRefused?]
    split <;> rfl
  have hall : ∀ hurdle ∈ p.hurdles h, hurdle.all Failure.isHurdle = true := by
    cases hmode : p.mode with
    | layer2 => simp [hurdles, hmode, hunknown, hlong, hdown, hbound]
    | layer3 => simp [hurdles, hmode, hlong, hsocket]
  obtain ⟨hurdle, hmem, hhurdle⟩ := List.exists_of_findSome?_eq_some hfirst
  obtain rfl : hurdle = some e := hhurdle
  exact hall _ hmem

/-! ### Each step of the preparation meets its hurdle -/

/-- The search meets a missing interface. -/
theorem choose_meets (p : Plan) (h : Host) :
    (Interface.choose p.iface h.interfaces : Action Host Interface).Meets h
      (p.unknownInterface? h) := by
  rw [Interface.choose, unknownInterface?]
  split
  case h_1 i hfound =>
    have hexists : ∃ i ∈ h.interfaces, i.name = p.iface :=
      ⟨i, List.mem_of_find?_eq_some hfound, by simpa using List.find?_some hfound⟩
    rw [if_pos hexists]
    exact (Action.meets_say .debug .interfaces i.foundNote h).bind_pure fun _ => i
  case h_2 hnone =>
    have hmissing : ¬ ∃ i ∈ h.interfaces, i.name = p.iface := by
      rintro ⟨i, hi, hname⟩
      have hne := List.find?_eq_none.mp hnone i hi
      exact hne (by simpa using hname)
    rw [if_neg hmissing]
    exact Action.meets_fail _ _

/-- Crafting meets a payload beyond the limit, and nothing else: what is built can be read back. -/
theorem craft_meets (p : Plan) (m : Mac) (h : Host) :
    (Action.ofExcept (p.craft m) : Action Host (Octets × Summary)).Meets h p.oversized? := by
  rw [oversized?]
  split
  case isTrue hle =>
    obtain ⟨crafted, hcraft⟩ := exists_craft hle m
    exact ⟨crafted, [], by rw [Action.run_ofExcept, hcraft]⟩
  case isFalse hlong =>
    have hcraft := craft_of_lt (Nat.lt_of_not_le hlong) m
    exact ⟨[], by rw [Action.run_ofExcept, hcraft]⟩

/-- Opening a link through the chosen interface meets an interface that is down, then a refusal. -/
theorem openEthernet_meets {p : Plan} {h : Host} {i : Interface} (hchosen : p.chosen? h = some i) :
    (Link.openEthernet i).Meets h ((p.interfaceDown? h).or (p.boundRefused? h)) := by
  have hname : i.name = p.iface := by simpa using List.find?_some hchosen
  rw [Link.openEthernet, interfaceDown?, boundRefused?, hchosen]
  dsimp only
  by_cases hup : i.isUp = true
  · rw [if_pos hup, if_pos hup, Option.none_or]
    refine Action.Meets.get_bind ?_
    cases h.openBound i.index with
    | error cause =>
      rw [hname]
      exact Action.meets_fail _ _
    | ok _ =>
      exact (Action.meets_say .debug .sending (Link.openNote i.name) h).bind_pure
        fun _ => Link.ethernet i.name i.index
  · rw [if_neg hup, if_neg hup, Option.some_or, hname]
    exact Action.meets_fail _ _

/-- Opening a link to an address meets a refusal. -/
theorem openIPv4_meets (dst : IPv4) (h : Host) :
    (Link.openIPv4 dst).Meets h (socketRefused? h) := by
  rw [Link.openIPv4, socketRefused?]
  refine Action.Meets.get_bind ?_
  cases h.openSocket with
  | error cause => exact Action.meets_fail _ _
  | ok _ =>
    exact (Action.meets_say .debug .sending
      ("raw ipv4 channel open towards " ++ dst.text) h).bind_pure fun _ => Link.ipv4 dst

/-- **The preparation meets the first hurdle.** -/
theorem prepare_meets (p : Plan) (h : Host) : p.prepare.Meets h (p.firstHurdle? h) := by
  cases hmode : p.mode with
  | layer2 =>
    rw [firstHurdle?_layer2 hmode, prepare, hmode]
    refine Action.Meets.get_bind ((choose_meets p h).bind fun i _ hchoose => ?_)
    have hchosen : p.chosen? h = some i := (Interface.choose_eq_ok hchoose).1
    refine (craft_meets p i.sourceMac h).bind fun crafted _ _ => ?_
    exact (openEthernet_meets hchosen).bind_pure fun l => (l, crafted)
  | layer3 =>
    rw [firstHurdle?_layer3 hmode, prepare, hmode]
    refine (craft_meets p .zero h).bind fun crafted _ _ => ?_
    exact (openIPv4_meets p.probe.dst h).bind_pure fun l => (l, crafted)

end Plan

/-! ### A send that is refused -/

/-- The host after some number of sends of a packet, if it accepts all of them. -/
def Host.afterSends (p : Packet) : Nat → Host → Option Host
  | 0, h => some h
  | n + 1, h =>
    match h.send p with
    | (.ok _, h') => afterSends p n h'
    | (.error _, _) => none

/-- With some sends behind and some quiet looks left, the host **refuses** one of the sends that are
still to come, for a cause: it accepts some number of them, the limit is not reached by that, the
looks in front of the next one and in all pauses before it find the stop flag lowered, and that one
it refuses. -/
def Host.Refuses (p : Packet) (count interval : Nat) (behind quiet : Nat) (h : Host)
    (cause : SystemError) : Prop :=
  ∃ sends now, (count = 0 ∨ behind + sends < count) ∧
    Transmission.quietThrough sends interval < quiet ∧ Host.afterSends p sends h = some now ∧
      (now.send p).1 = .error cause

namespace Host

variable {p : Packet} {count interval behind quiet : Nat} {h h' : Host} {cause : SystemError}

/-- Where no look is quiet any more, nothing is sent. -/
theorem not_refuses_zero : ¬ h.Refuses p count interval behind 0 cause := by
  rintro ⟨sends, now, -, hquiet, -⟩
  exact Nat.not_lt_zero _ hquiet

/-- If the next send is refused, it is the one. -/
theorem refuses_of_send_error {reason : SystemError} (hopen : count = 0 ∨ behind < count)
    (hsend : h.send p = (.error reason, h')) :
    h.Refuses p count interval behind (quiet + 1) cause ↔ cause = reason := by
  constructor
  · rintro ⟨sends, now, -, -, hafter, hrefused⟩
    cases sends with
    | zero =>
      cases hafter
      rw [hsend] at hrefused
      exact (Except.error.inj hrefused).symm
    | succ sends =>
      rw [afterSends, hsend] at hafter
      cases hafter
  · rintro rfl
    have hquiet : Transmission.quietThrough 0 interval < quiet + 1 := by
      rw [Transmission.quietThrough, Nat.zero_mul]
      exact Nat.succ_pos quiet
    exact ⟨0, h, hopen, hquiet, rfl, by rw [hsend]⟩

/-- If the next send is accepted, it is one of those behind it, unless the limit is reached. -/
theorem refuses_of_send_ok {reported : Nat} (hsend : h.send p = (.ok reported, h')) :
    h.Refuses p count interval behind (quiet + 1) cause ↔
      ¬ (count ≠ 0 ∧ behind + 1 = count) ∧
        h'.Refuses p count interval (behind + 1) (quiet - Transmission.pausePolls interval)
          cause := by
  have hpause : ∀ sends, Transmission.quietThrough (sends + 1) interval
      = Transmission.quietThrough sends interval + (1 + Transmission.pausePolls interval) :=
    fun sends => Nat.succ_mul _ _
  -- the sends in front of the refused one are this send and those that follow it
  constructor
  · rintro ⟨sends, now, hlimit, hquiet, hafter, hrefused⟩
    cases sends with
    | zero =>
      cases hafter
      rw [hsend] at hrefused
      cases hrefused
    | succ sends =>
      rw [afterSends, hsend] at hafter
      rw [hpause] at hquiet
      refine ⟨by omega, sends, now, by omega, by omega, hafter, hrefused⟩
  · rintro ⟨hmore, sends, now, hlimit, hquiet, hafter, hrefused⟩
    refine ⟨sends + 1, now, by omega, ?_, ?_, hrefused⟩
    · rw [hpause]
      omega
    · rw [afterSends, hsend]
      exact hafter

end Host

namespace Plan

open Transmission

/-- **A transmission fails exactly if the host refuses a send**, and for that reason. -/
theorem resume_error_iff {medium : String} {l : Link} {octets : Octets} {count interval : Nat}
    (hpasses : l.Passes octets) (quiet behind : Nat) (h : Host)
    (hopen : count = 0 ∨ behind < count) (e : Failure) :
    ((resume medium (deliver l octets) count (pausePolls interval) quiet behind).run h).result
        = .error e ↔
      ∃ cause, e = .sendFailed cause ∧
        h.Refuses ⟨l.route, octets⟩ count interval behind quiet cause := by
  induction quiet using Nat.strongRecOn generalizing behind h with
  | ind quiet ih =>
    cases quiet with
    | zero =>
      rw [resume]
      constructor
      · intro herror
        cases herror
      · rintro ⟨cause, -, hrefuses⟩
        exact absurd hrefuses Host.not_refuses_zero
    | succ quiet =>
      rw [resume]
      cases hsend : h.send ⟨l.route, octets⟩ with
      | mk result h' =>
        cases result with
        | error reason =>
          rw [Action.run_bind_error (run_deliver_of_refused hpasses hsend)]
          constructor
          · intro herror
            cases herror
            exact ⟨reason, rfl, (Host.refuses_of_send_error hopen hsend).mpr rfl⟩
          · rintro ⟨cause, rfl, hrefuses⟩
            rw [(Host.refuses_of_send_error hopen hsend).mp hrefuses]
        | ok reported =>
          obtain ⟨n, hdeliver⟩ := run_deliver_of_accepted hpasses hsend
          rw [Action.run_bind_ok hdeliver, Action.run_bind_ok (Action.run_say _ _ _ _)]
          simp only [Host.refuses_of_send_ok hsend]
          by_cases hlimit : count ≠ 0 ∧ behind + 1 = count
          · rw [if_pos hlimit]
            constructor
            · intro herror
              cases herror
            · rintro ⟨cause, -, hmore, -⟩
              exact absurd hlimit hmore
          · rw [if_neg hlimit]
            -- no delivery of a link raises the flag, so only the pause takes quiet looks away
            have hrest := ih (quiet - pausePolls interval) (by omega) (behind + 1) h' (by omega)
            simp only [hlimit, not_false_eq_true, true_and]
            exact hrest

theorem send_error_iff {l : Link} {octets : Octets} (hpasses : l.Passes octets) (medium : String)
    (count interval quiet : Nat) (h : Host) (e : Failure) :
    ((Transmission.send medium (deliver l) octets count interval quiet).run h).result = .error e ↔
      ∃ cause, e = .sendFailed cause ∧ h.Refuses ⟨l.route, octets⟩ count interval 0 quiet cause :=
  resume_error_iff hpasses quiet 0 h count.eq_zero_or_pos e

/-! ### The whole run -/

/-- The octets that a plan sends over a link are passed on by it. -/
theorem Sends.passes {p : Plan} {h : Host} {l : Link} {wire : Octets} {s : Summary}
    (hsends : p.Sends h l.route wire s) : l.Passes wire := by
  rintro dst rfl
  cases hsends with
  | datagram _ hbuilt =>
    obtain ⟨-, rfl⟩ := Probe.datagram_eq_ok_iff.mp hbuilt
    rw [Probe.length_datagramOctets, Datagram.headerLength]
    omega

/-- A plan sends one packet on a host, and no other. -/
theorem Sends.unique {p : Plan} {h : Host} {r₁ r₂ : Route} {w₁ w₂ : Octets} {s₁ s₂ : Summary}
    (h₁ : p.Sends h r₁ w₁ s₁) (h₂ : p.Sends h r₂ w₂ s₂) : r₁ = r₂ ∧ w₁ = w₂ := by
  cases h₁ with
  | frame mode₁ chosen₁ built₁ =>
    cases h₂ with
    | frame mode₂ chosen₂ built₂ =>
      cases chosen₁.symm.trans chosen₂
      cases built₁.symm.trans built₂
      exact ⟨rfl, rfl⟩
    | datagram mode₂ => cases mode₁.symm.trans mode₂
  | datagram mode₁ built₁ =>
    cases h₂ with
    | frame mode₂ => cases mode₁.symm.trans mode₂
    | datagram mode₂ built₂ =>
      cases built₁.symm.trans built₂
      exact ⟨rfl, rfl⟩

/-- The host **refuses** the plan one of its sends, for a cause. -/
def Refused (p : Plan) (quiet : Nat) (h : Host) (cause : SystemError) : Prop :=
  ∃ route wire s, p.Sends h route wire s ∧
    h.Refuses ⟨route, wire⟩ p.count.toNat p.interval.toNat 0 quiet cause

/-- Since the plan sends one packet only, that is the one that is refused. -/
theorem Sends.refused_iff {p : Plan} {h : Host} {route : Route} {wire : Octets} {s : Summary}
    (hsends : p.Sends h route wire s) {quiet : Nat} {cause : SystemError} :
    p.Refused quiet h cause ↔
      h.Refuses ⟨route, wire⟩ p.count.toNat p.interval.toNat 0 quiet cause := by
  constructor
  · rintro ⟨route', wire', s', hsends', hrefuses⟩
    obtain ⟨rfl, rfl⟩ := hsends.unique hsends'
    exact hrefuses
  · intro hrefuses
    exact ⟨route, wire, s, hsends, hrefuses⟩

/-- The warning meets nothing. -/
theorem warnUnprivileged_meets (h : Host) : warnUnprivileged.Meets h none := by
  rw [warnUnprivileged]
  refine Action.Meets.get_bind ?_
  cases h.privilege with
  | root => exact Action.meets_pure () h
  | unprivileged => exact Action.meets_say _ _ _ h

/-- A hurdle is where the run ends, and the host is as it was. -/
theorem run_of_hurdle {p : Plan} {h : Host} {e : Failure} (hfirst : p.firstHurdle? h = some e)
    (quiet : Nat) :
    ((p.run quiet).run h).result = .error e ∧ ((p.run quiet).run h).state = h := by
  obtain ⟨_, warning, hwarn⟩ := warnUnprivileged_meets h
  have hprepare := prepare_meets p h
  rw [hfirst] at hprepare
  obtain ⟨log, hprepare⟩ := hprepare
  rw [run, Action.run_bind_ok hwarn, Action.run_bind_error hprepare]
  exact ⟨rfl, rfl⟩

/-- Without a hurdle, the run comes to what sending the plan's packet comes to. -/
theorem run_of_clear {p : Plan} {h : Host} (hclear : p.firstHurdle? h = none) (quiet : Nat) :
    ∃ (l : Link) (wire : Octets) (s : Summary), p.Sends h l.route wire s ∧
      let sent := (Transmission.send l.describe (deliver l) wire p.count.toNat p.interval.toNat
        quiet).run h
      ((p.run quiet).run h).result = sent.result.map (fun t => ⟨p.iface, t.sent, s⟩) ∧
        ((p.run quiet).run h).state = sent.state := by
  obtain ⟨_, warning, hwarn⟩ := warnUnprivileged_meets h
  have hprepare := prepare_meets p h
  rw [hclear] at hprepare
  obtain ⟨⟨l, wire, s⟩, log, hprepare⟩ := hprepare
  refine ⟨l, wire, s, (prepare_eq_ok hprepare).1, ?_⟩
  rw [run, Action.run_bind_ok hwarn, Action.run_bind_ok hprepare,
    Action.run_bind_ok (Action.run_say _ _ _ _)]
  cases hsend : (Transmission.send l.describe (deliver l) wire p.count.toNat p.interval.toNat
      quiet).run h with
  | mk result h' =>
    cases result with
    | error e =>
      rw [Action.run_bind_error hsend]
      exact ⟨rfl, rfl⟩
    | ok t =>
      rw [Action.run_bind_ok hsend]
      exact ⟨rfl, rfl⟩

/-- What is made of a value has no part in a failure. -/
theorem map_eq_error_iff {α β : Type} {x : Except Failure α} {f : α → β} {e : Failure} :
    x.map f = .error e ↔ x = .error e := by
  cases x with
  | error e' => simp [Except.map]
  | ok a => simp [Except.map]

/-- **The failures of a run**: the first hurdle, or where there is none, a send that the host
refuses. -/
theorem run_error_iff {p : Plan} {quiet : Nat} {h : Host} {e : Failure} :
    ((p.run quiet).run h).result = .error e ↔
      p.firstHurdle? h = some e ∨
        (p.firstHurdle? h = none ∧ ∃ cause, e = .sendFailed cause ∧ p.Refused quiet h cause) := by
  cases hfirst : p.firstHurdle? h with
  | some e' =>
    rw [(run_of_hurdle hfirst quiet).1]
    constructor
    · rintro ⟨⟩
      exact Or.inl rfl
    · rintro (heq | ⟨hnone, -⟩)
      · exact congrArg Except.error (Option.some.inj heq)
      · cases hnone
  | none =>
    obtain ⟨l, wire, s, hsends, hresult, -⟩ := run_of_clear hfirst quiet
    have hsend := send_error_iff hsends.passes l.describe p.count.toNat p.interval.toNat quiet h e
    simp only [← hsends.refused_iff] at hsend
    rw [hresult]
    constructor
    · intro herror
      refine Or.inr ⟨rfl, hsend.mp ?_⟩
      exact map_eq_error_iff.mp herror
    · rintro (hsome | ⟨-, hrefused⟩)
      · cases hsome
      · exact map_eq_error_iff.mpr (hsend.mpr hrefused)

/-- **Failures of a run come in order, and before any effect.** A run fails with the first hurdle,
or where there is none, with a send that the host refuses; otherwise it succeeds. A run that fails
otherwise than with a send leaves the host as it is: no packet accepted, no answer used. The
hurdles and a send that failed are all that a run can fail with. -/
theorem failures_in_order (p : Plan) (quiet : Nat) (h : Host) :
    let effect := (p.run quiet).run h
    (∀ e, effect.result = .error e ↔
      p.firstHurdle? h = some e ∨
        (p.firstHurdle? h = none ∧ ∃ cause, e = .sendFailed cause ∧ p.Refused quiet h cause)) ∧
    ((∃ r, effect.result = .ok r) ↔
      p.firstHurdle? h = none ∧ ∀ cause, ¬ p.Refused quiet h cause) ∧
    (∀ e, effect.result = .error e → (∀ cause, e ≠ .sendFailed cause) → effect.state = h) ∧
    ∀ e, effect.result = .error e → e.isHurdle = true ∨ ∃ cause, e = .sendFailed cause := by
  intro effect
  refine ⟨fun e => run_error_iff, ⟨?_, ?_⟩, ?_, ?_⟩
  · rintro ⟨r, hok⟩
    have hnone : p.firstHurdle? h = none := by
      cases hfirst : p.firstHurdle? h with
      | none => rfl
      | some e => cases hok.symm.trans (run_of_hurdle hfirst quiet).1
    refine ⟨hnone, fun cause hrefused => ?_⟩
    cases hok.symm.trans (run_error_iff.mpr (Or.inr ⟨hnone, cause, rfl, hrefused⟩))
  · rintro ⟨hnone, hrefused⟩
    cases hresult : effect.result with
    | ok r => exact ⟨r, rfl⟩
    | error e =>
      rcases run_error_iff.mp hresult with hsome | ⟨-, cause, -, hcause⟩
      · cases hnone.symm.trans hsome
      · exact absurd hcause (hrefused cause)
  · intro e herror hsend
    rcases run_error_iff.mp herror with hfirst | ⟨-, cause, rfl, -⟩
    · exact (run_of_hurdle hfirst quiet).2
    · exact absurd rfl (hsend cause)
  · intro e herror
    rcases run_error_iff.mp herror with hfirst | ⟨-, cause, rfl, -⟩
    · exact Or.inl (isHurdle_of_firstHurdle? hfirst)
    · exact Or.inr ⟨cause, rfl⟩

end Plan

end EchoInjector
