import EchoInjector.Proofs.Run.Report
import EchoInjector.Proofs.Transmission.Medium

/-!
# Sessions

A session opens links and sends over them, in any order and as often as it likes, while the host
goes its own way: between two calls, and between two sends of one transmission, interfaces may
change or vanish, routes may come and go, and other answers may be foreseen. None of that can take
back what the host has accepted.

A session keeps an account of all **attempts** to send, each with what its link was opened on, the
octets, and what came of it. `Session.Sound` is the invariant of every call: the host has accepted
one packet for each attempt that succeeded, in the order of the attempts, and every link still leads
where it was opened to. So no packet is lost, sent twice, put before another or sent elsewhere, and
in particular the destination that a datagram carries does not count (`Session.accounted`).

The account is kept beside the host and disturbs nothing: over a link of a session, a transmission
does to the host what it does over the bare link (`Session.deliver_extends`).
-/

namespace EchoInjector

open Wire

/-! ### Ends of links -/

/-- What a link is opened on. -/
inductive Endpoint
  /-- An interface, as it is described when the link is opened. -/
  | interface (i : Interface)
  /-- An address. -/
  | address (dst : IPv4)

namespace Endpoint

/-- Opens a link. -/
def connect : Endpoint → Action Host Link
  | interface i => Link.openEthernet i
  | address dst => Link.openIPv4 dst

/-- Where the packets of a link that is opened here have to go. -/
def route : Endpoint → Route
  | interface i => .interface i.index
  | address dst => .address dst

/-- Opening leaves the host as it is, whether it succeeds or fails. -/
theorem state_connect (e : Endpoint) (h : Host) : (e.connect.run h).state = h := by
  cases e with
  | interface i =>
    rw [connect, Link.openEthernet]
    split
    · rw [Action.run_get_bind]
      split <;> rfl
    · rfl
  | address dst =>
    rw [connect, Link.openIPv4, Action.run_get_bind]
    split <;> rfl

/-- An open link leads where it was opened to. -/
theorem route_of_connect {e : Endpoint} {l : Link} {h h' : Host} {log : List Log.Record}
    (hopen : e.connect.run h = ⟨.ok l, h', log⟩) : l.route = e.route := by
  cases e with
  | interface i =>
    obtain ⟨rfl, -⟩ := Link.openEthernet_eq_ok hopen
    rfl
  | address dst =>
    obtain ⟨rfl, -⟩ := Link.openIPv4_eq_ok hopen
    rfl

end Endpoint

/-! ### Calls -/

/-- A link that is open, and what it was opened on. -/
structure Line where
  endpoint : Endpoint
  link : Link

/-- Whether a link leads where it was opened to. -/
def Line.Routed (l : Line) : Prop := l.link.route = l.endpoint.route

/-- One attempt to send. -/
structure Attempt where
  /-- What its link was opened on. -/
  endpoint : Endpoint
  octets : Octets
  /-- The number of octets sent, or why nothing was sent. -/
  result : Except Failure Nat

/-- The packet of an attempt that succeeded. -/
def Attempt.packet? (a : Attempt) : Option Packet :=
  match a.result with
  | .ok _ => some ⟨a.endpoint.route, a.octets⟩
  | .error _ => none

/-- What a session has come to. -/
structure Session where
  host : Host
  /-- The links opened so far, in order. -/
  lines : List Line := []
  /-- All attempts so far, in order. -/
  attempts : List Attempt := []

namespace Session

/-- The host becomes another one. What it has accepted remains accepted. -/
def change (next : Session → Host) : Action Session Unit := fun s =>
  ⟨.ok (), { s with host := { next s with accepted := s.host.accepted } }, []⟩

/-- Opens a link, which from then on is one of the session's. -/
def connect (e : Endpoint) : Action Session Unit := fun s =>
  match e.connect.run s.host with
  | ⟨.ok l, h, log⟩ => ⟨.ok (), { s with host := h, lines := s.lines ++ [⟨e, l⟩] }, log⟩
  | ⟨.error failure, h, log⟩ => ⟨.error failure, { s with host := h }, log⟩

/-- Sends once, and takes the attempt down. -/
def attempt (l : Line) (octets : Octets) : Action Session Nat := fun s =>
  let effect := (l.link.transmit octets).run s.host
  ⟨effect.result,
    { s with
      host := effect.state
      attempts := s.attempts ++ [⟨l.endpoint, octets, effect.result⟩] },
    effect.log⟩

/-- One send of a transmission, before which the host may become another one. -/
def deliver (drift : Session → Host) (l : Line) (octets : Octets) : Action Session Delivery := do
  change drift
  let n ← attempt l octets
  return { octets := n }

/-- Does something with one of the links, counted from zero in the order of their opening, or
nothing if there are not so many. -/
def withLine {α : Type} (k : Nat) (act : Line → Action Session α) : Action Session (Option α) :=
  fun s =>
    match s.lines[k]? with
    | some l => (act l >>= fun a => pure (some a)).run s
    | none => ⟨.ok none, s, []⟩

end Session

/-- What can happen in a session. -/
inductive Call
  /-- A link is opened. -/
  | connect (e : Endpoint)
  /-- Octets are sent once over a link. -/
  | transmit (line : Nat) (octets : Octets)
  /-- Octets are sent repeatedly over a link, under some schedule of the stop flag. Before every
  send the host may become another one, whatever has happened so far. -/
  | transmission (line : Nat) (octets : Octets) (count interval quiet : Nat)
    (drift : Session → Host)
  /-- The host becomes another one. -/
  | change (next : Host)

/-- Carries out a call. -/
def Call.perform : Call → Action Session Unit
  | connect e => Session.connect e
  | transmit k octets => do
    let _ ← Session.withLine k fun l => Session.attempt l octets
  | transmission k octets count interval quiet drift => do
    let _ ← Session.withLine k fun l =>
      Transmission.send l.link.describe (Session.deliver drift l) octets count interval quiet
  | change next => Session.change fun _ => next

namespace Session

/-- A session after further calls. A call that fails does not end it. -/
def after (s : Session) (calls : List Call) : Session :=
  calls.foldl (fun s c => (c.perform.run s).state) s

/-! ### Every attempt is accounted for -/

/-- A session that began with a host is **sound**. -/
structure Sound (start : Host) (s : Session) : Prop where
  /-- The host has accepted the packets of the attempts that succeeded, one for each, in order. -/
  accepted : s.host.accepted.toList
    = start.accepted.toList ++ s.attempts.filterMap Attempt.packet?
  /-- Every link leads where it was opened to. -/
  routed : ∀ l ∈ s.lines, l.Routed

variable {start : Host}

/-- Nothing has happened in the beginning. -/
theorem Sound.begin (start : Host) : Sound start { host := start } where
  accepted := (List.append_nil _).symm
  routed := fun _ hl => absurd hl List.not_mem_nil

theorem keeps_change (next : Session → Host) : (change next).Keeps (Sound start) :=
  fun _ h => ⟨h.accepted, h.routed⟩

/-- A link that is opened is one that leads where it was opened to. -/
theorem keeps_connect (e : Endpoint) : (connect e).Keeps (Sound start) := by
  intro s h
  have hhost := e.state_connect s.host
  rw [Action.run, connect]
  split
  case h_1 l t log hopen =>
    rw [hopen] at hhost
    obtain rfl : t = s.host := hhost
    refine ⟨h.accepted, fun l' hl' => ?_⟩
    rcases List.mem_append.mp hl' with hold | hnew
    · exact h.routed l' hold
    · obtain rfl := List.mem_singleton.mp hnew
      exact Endpoint.route_of_connect hopen
  case h_2 failure t log hopen =>
    rw [hopen] at hhost
    obtain rfl : t = s.host := hhost
    exact ⟨h.accepted, h.routed⟩

/-- **One attempt, at most one packet**: it is added exactly if the attempt succeeds. -/
theorem keeps_attempt {l : Line} (hl : l.Routed) (octets : Octets) :
    (attempt l octets).Keeps (Sound start) := by
  intro s h
  refine ⟨?_, h.routed⟩
  rw [Action.run, attempt]
  rcases l.link.transmit_cases octets s.host with
    ⟨n, h', hrun, haccepted⟩ | ⟨e, h', hrun, haccepted⟩
  · have hroute : l.link.route = l.endpoint.route := hl
    simp [hrun, haccepted, h.accepted, hroute, Attempt.packet?]
  · simp [hrun, haccepted, h.accepted, Attempt.packet?]

theorem keeps_deliver (drift : Session → Host) {l : Line} (hl : l.Routed) (octets : Octets) :
    (deliver drift l octets).Keeps (Sound start) :=
  (keeps_change drift).bind fun _ => (keeps_attempt hl octets).bind fun _ => Action.keeps_pure _

/-- Whatever is done with a link of the session is done with one that leads where it should. -/
theorem keeps_withLine {α : Type} {act : Line → Action Session α} (k : Nat)
    (hact : ∀ l : Line, l.Routed → (act l).Keeps (Sound start)) :
    (withLine k act).Keeps (Sound start) := by
  intro s h
  rw [Action.run, withLine]
  split
  case h_1 l hline =>
    have hl : l.Routed := h.routed l (List.mem_of_getElem? hline)
    exact ((hact l hl).bind fun _ => Action.keeps_pure _) s h
  case h_2 => exact h

/-- **Every call leaves a session sound.** -/
theorem keeps_perform (c : Call) : c.perform.Keeps (Sound start) := by
  cases c with
  | connect e => exact keeps_connect e
  | transmit k octets =>
    exact (keeps_withLine k fun l hl => keeps_attempt hl octets).bind fun _ =>
      Action.keeps_pure _
  | transmission k octets count interval quiet drift =>
    exact (keeps_withLine k fun l hl =>
      Transmission.send_keeps (keeps_deliver drift hl octets) interval quiet).bind fun _ =>
        Action.keeps_pure _
  | change next => exact keeps_change _

/-- So does any number of calls. -/
theorem Sound.after {s : Session} (h : Sound start s) (calls : List Call) :
    Sound start (s.after calls) := by
  induction calls generalizing s with
  | nil => exact h
  | cons c rest ih => exact ih (keeps_perform c s h)

/-! ### The account disturbs nothing -/

/-- As long as the host does not change by itself, a send of a session is one of its link. -/
theorem deliver_extends (l : Line) (octets : Octets) :
    (deliver Session.host l octets).Extends Session.host (Plan.deliver l.link octets) := by
  have hattempt : (attempt l octets).Extends Session.host (l.link.transmit octets) :=
    fun _ => rfl
  have hcount := hattempt.bind fun n => Action.extends_pure ({ octets := n } : Delivery)
  exact fun s => hcount s

/-! ### Sessions as a whole -/

/-- **Every packet of a session is accounted for.** Whatever is called and however the host changes,
the host has accepted the packets of the attempts that succeeded, in order and one for each, on the
route that the link of the attempt was opened to. Opening a link changes nothing on the host. A send
that fails adds no packet, and one over a link to an address without room for a header does not
reach the host at all. The attempts of a transmission are those that the bare link makes. -/
theorem accounted (start : Host) (calls : List Call) :
    let s := after { host := start } calls
    s.host.accepted.toList = start.accepted.toList ++ s.attempts.filterMap Attempt.packet? ∧
    (∀ (e : Endpoint) (h : Host), (e.connect.run h).state = h) ∧
    (∀ (l : Link) (octets : Octets) (h : Host) (e : Failure),
      ((l.transmit octets).run h).result = .error e →
        ((l.transmit octets).run h).state.accepted = h.accepted) ∧
    (∀ (dst : IPv4) (octets : Octets) (h : Host), octets.length < 20 →
      ((Link.ipv4 dst).transmit octets).run h = ⟨.error (.truncated "ipv4 header"), h, []⟩) ∧
    ∀ (l : Line) (octets : Octets) (count interval quiet : Nat),
      (Transmission.send l.link.describe (deliver Session.host l) octets count interval
        quiet).Extends Session.host
          (Transmission.send l.link.describe (Plan.deliver l.link) octets count interval
            quiet) := by
  refine ⟨((Sound.begin start).after calls).accepted, Endpoint.state_connect, ?_, ?_, ?_⟩
  · intro l octets h e herror
    rcases l.transmit_cases octets h with ⟨n, h', hrun, -⟩ | ⟨e', h', hrun, haccepted⟩
    · rw [hrun] at herror
      cases herror
    · rw [hrun]
      exact haccepted
  · intro dst octets h hshort
    refine Link.run_transmit_of_not_passes (fun hpasses => ?_) h
    exact absurd (hpasses dst rfl) (Nat.not_le.mpr hshort)
  · intro l octets count interval quiet
    exact Transmission.send_extends (deliver_extends l octets) interval quiet

/-- Two links, one to an interface and one to an address, of which the first is opened at the second
try. One send is interrupted and repeated, one is reported with a wrong number of octets, one is
refused, one is too short, and one comes after its interface is gone. -/
theorem accounted_of_two_lines :
    let eth : Interface := { name := "eth0", index := 2, flags := 1 }
    let peer : IPv4 := ⟨10, 0, 0, 9⟩
    let start : Host :=
      { entries := [eth], routes := true
        answers := [.refuse Host.interrupted, .accept 3, .refuse Host.notPermitted] }
    let short : Octets := List.replicate 19 0
    let long : Octets := List.replicate 20 1
    let calls : List Call :=
      [.connect (.interface { eth with flags := 0 }), .connect (.interface eth),
        .connect (.address peer), .transmit 1 long, .transmit 0 [7], .transmit 1 short,
        .transmission 0 [8] 2 0 (Transmission.quietThrough 2 0) Session.host,
        .change { entries := [], routes := true }, .transmit 0 [9], .transmit 1 long]
    let bare : Host := { entries := [] }
    (after { host := start } calls).attempts.length = 7 ∧
    (after { host := start } calls).host.accepted.toList =
      [⟨.address peer, long⟩, ⟨.interface 2, [8]⟩, ⟨.interface 2, [8]⟩, ⟨.address peer, long⟩] ∧
    (((Link.ethernet "eth0" 2).transmit [9]).run bare).state.accepted = #[] ∧
    ((Link.ipv4 peer).transmit short).run start
      = ⟨.error (.truncated "ipv4 header"), start, []⟩ := by
  intro eth peer start short long calls bare
  have hlength : (after { host := start } calls).attempts.length = 7 := by decide +kernel
  have hpackets : (after { host := start } calls).attempts.filterMap Attempt.packet? =
      [⟨.address peer, long⟩, ⟨.interface 2, [8]⟩, ⟨.interface 2, [8]⟩, ⟨.address peer, long⟩] := by
    decide +kernel
  obtain ⟨haccepted, -, hrefused, hshort, -⟩ := accounted start calls
  have hbare : start.accepted.toList = [] := rfl
  rw [hpackets, hbare, List.nil_append] at haccepted
  exact ⟨hlength, haccepted, hrefused (.ethernet "eth0" 2) [9] bare _ rfl,
    hshort peer short start (by decide)⟩

end Session

end EchoInjector
