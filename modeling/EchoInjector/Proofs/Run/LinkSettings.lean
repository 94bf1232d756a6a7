import EchoInjector.Proofs.Run.Failures

/-!
# What the settings of the link have to do with a run

The interface and the two link-layer addresses are **settings of the link**. Datagrams leave by the
host's routes, so for them these settings mean nothing: two plans for datagrams that differ in no
other way do exactly the same, and each report names the interface of its own plan. For frames they
do mean something, but to pin the sender to the address that the chosen interface has anyway changes
nothing at all.

Both are statements about two runs on one host. A run is made of steps, and two sequences of steps
come to the same if their first steps do and what follows does (`Action.run_bind_map`). The steps of
the two runs differ at most in what is crafted, and there the settings of the link are seen to have
no effect; from the link on, the two have only the count and the interval to go by, which are the
same.
-/

namespace EchoInjector

open Wire

/-! ### Effects with other values -/

/-- The same effect, with another value made of its value. -/
def Effect.map {σ α β : Type} (k : α → β) (e : Effect σ α) : Effect σ β :=
  { e with result := e.result.map k }

/-- **Two steps come to the same** as two others if the first ones do, and the second ones do from
there on, up to the value in the end. -/
theorem Action.run_bind_map {σ α β γ : Type} {x y : Action σ α} {f : α → Action σ β}
    {g : α → Action σ γ} {k : β → γ} {s : σ} (hfirst : y.run s = x.run s)
    (hsecond : ∀ a t log, x.run s = ⟨.ok a, t, log⟩ → (g a).run t = ((f a).run t).map k) :
    (y >>= g).run s = ((x >>= f).run s).map k := by
  cases hx : x.run s with
  | mk result t log =>
    rw [hx] at hfirst
    cases result with
    | error e =>
      rw [run_bind_error hfirst, run_bind_error hx]
      rfl
    | ok a =>
      rw [run_bind_ok hfirst, run_bind_ok hx, hsecond a t log hx]
      rfl

theorem Effect.map_id {σ α : Type} (e : Effect σ α) : e.map id = e := by
  cases e with
  | mk result state log => cases result <;> rfl

/-! ### Packets -/

namespace Probe

/-- A datagram has nothing of the link in it. -/
theorem datagram_link (p : Probe) (dstMac : Mac) (srcMac : Option Mac) :
    { p with dstMac, srcMac }.datagram = p.datagram := rfl

/-- A sender that is left open is the one that is supplied. -/
theorem frame_pin {p : Probe} (h : p.srcMac = none) (m : Mac) :
    { p with srcMac := some m }.frame m = p.frame m := by
  rw [frame, frame, h]
  rfl

end Probe

namespace Plan

/-- Two plans **differ at most in the settings of the link**: the interface and the two link-layer
addresses. -/
def AlikeButLink (p q : Plan) : Prop :=
  q = { p with
    iface := q.iface
    probe := { p.probe with dstMac := q.probe.dstMac, srcMac := q.probe.srcMac } }

/-- The plan with its sender pinned to an address. -/
def pinned (p : Plan) (m : Mac) : Plan := { p with probe := { p.probe with srcMac := some m } }

/-! ### Steps -/

/-- Datagrams are crafted without the settings of the link. -/
theorem AlikeButLink.craft_eq {p q : Plan} (h : p.AlikeButLink q) (hmode : p.mode = .layer3)
    (m : Mac) : q.craft m = p.craft m := by
  rw [h, craft, craft, hmode, Probe.datagram_link]

/-- Datagrams are prepared without them. -/
theorem AlikeButLink.prepare_eq {p q : Plan} (h : p.AlikeButLink q) (hmode : p.mode = .layer3) :
    q.prepare = p.prepare := by
  have hmode' : q.mode = .layer3 := by rw [h, hmode]
  have hdst : q.probe.dst = p.probe.dst := by rw [h]
  rw [prepare, prepare, hmode, hmode', h.craft_eq hmode, hdst]

/-- Pinning an open sender to the address that is supplied does not change what is crafted. -/
theorem craft_pinned {p : Plan} (h : p.probe.srcMac = none) (m : Mac) :
    (p.pinned m).craft m = p.craft m := by
  rw [craft, craft, pinned, Probe.frame_pin h]
  rfl

/-- Nor does it change the preparation on a host whose chosen interface has this address. -/
theorem run_prepare_pinned {p : Plan} {h : Host} {m : Mac} (hmode : p.mode = .layer2)
    (hopen : p.probe.srcMac = none) (hm : ∀ i, p.chosen? h = some i → m = i.mac.getD .zero) :
    (p.pinned m).prepare.run h = p.prepare.run h := by
  have hmode' : (p.pinned m).mode = .layer2 := hmode
  rw [prepare, prepare, hmode, hmode']
  dsimp only
  rw [Action.run_get_bind, Action.run_get_bind]
  refine (Action.run_bind_map rfl fun i t _ hchoose => ?_).trans (Effect.map_id _)
  obtain ⟨hchosen, rfl⟩ := Interface.choose_eq_ok hchoose
  obtain rfl : m = i.sourceMac := hm i hchosen
  rw [Effect.map_id, craft_pinned hopen]

/-! ### Runs -/

/-- **Two runs come to the same** if their preparations do and they send equally often, with the same
pauses; the reports may still be told apart by the interface. -/
theorem run_map {p q : Plan} {h : Host} {k : Report → Report}
    (hprepare : q.prepare.run h = p.prepare.run h) (hcount : q.count = p.count)
    (hinterval : q.interval = p.interval)
    (hreport : ∀ sent s, k ⟨p.iface, sent, s⟩ = ⟨q.iface, sent, s⟩) (quiet : Nat) :
    (q.run quiet).run h = ((p.run quiet).run h).map k := by
  rw [run, run, hcount, hinterval]
  refine Action.run_bind_map rfl fun _ t _ hwarn => ?_
  obtain rfl := warnUnprivileged_eq_ok hwarn
  refine Action.run_bind_map hprepare fun prepared t _ _ => ?_
  obtain ⟨l, wire, s⟩ := prepared
  refine Action.run_bind_map rfl fun _ t _ _ => ?_
  refine Action.run_bind_map rfl fun tally t _ _ => ?_
  rw [Action.run_pure, Action.run_pure, ← hreport]
  rfl

/-- **The settings of the link mean nothing for datagrams, and an address that is pinned means
nothing if it is the one that would be supplied.** On every host and for every schedule of the stop
flag: the runs of two plans for datagrams that differ at most in the settings of the link leave the
same host behind, with the same packets accepted and the same answers left, and the same log, and
come to the same result, where each report names the interface of its own plan. The run of a plan for
frames whose sender is pinned to the address of the chosen interface, zero if it has none, is the run
of the plan that leaves the sender open. -/
theorem run_link_settings (p q : Plan) (quiet : Nat) (h : Host) :
    (p.mode = .layer3 → p.AlikeButLink q →
      ((q.run quiet).run h).state = ((p.run quiet).run h).state ∧
        ((q.run quiet).run h).log = ((p.run quiet).run h).log ∧
        ((q.run quiet).run h).result
          = ((p.run quiet).run h).result.map fun r => { r with iface := q.iface }) ∧
      ∀ m, p.mode = .layer2 → p.probe.srcMac = none → q = p.pinned m →
        (∀ i, p.chosen? h = some i → m = i.mac.getD .zero) →
          (q.run quiet).run h = (p.run quiet).run h := by
  refine ⟨fun hmode halike => ?_, fun m hmode hopen hq hm => ?_⟩
  · have hcount : q.count = p.count := by rw [halike]
    have hinterval : q.interval = p.interval := by rw [halike]
    have hprepare : q.prepare.run h = p.prepare.run h := by rw [halike.prepare_eq hmode]
    have hrun := run_map (k := fun r => { r with iface := q.iface }) hprepare hcount hinterval
      (fun _ _ => rfl) quiet
    rw [hrun]
    exact ⟨rfl, rfl, rfl⟩
  · subst hq
    have hprepare := run_prepare_pinned hmode hopen hm
    exact (run_map hprepare rfl rfl (fun _ _ => rfl) quiet).trans (Effect.map_id _)

/-- Two plans for datagrams, one of them with an interface that the host does not have, and two plans
for frames, one of them pinned. The host refuses the second datagram. -/
theorem run_link_settings_of_refusal :
    let h : Host :=
      { entries := [{ name := "tun0", index := 7, mac := some ⟨2, 0, 0, 0, 0, 1⟩, flags := 1 }]
        answers := [.accept 28, .refuse 105] }
    let p : Plan := { mode := .layer3, count := 2 }
    let q : Plan := { p with iface := "eth9", probe := { srcMac := some .broadcast } }
    let frames : Plan := { count := 2 }
    p.AlikeButLink q ∧ ((q.run 100).run h).state.accepted.size = 1 ∧
      ((p.run 100).run h).state.accepted.size = 1 ∧
      ((q.run 100).run h).log = ((p.run 100).run h).log ∧
      ((frames.pinned ⟨2, 0, 0, 0, 0, 1⟩).run 100).run h = (frames.run 100).run h := by
  intro h p q frames
  have halike : p.AlikeButLink q := rfl
  have hsize : ((p.run 100).run h).state.accepted.size = 1 := by decide +kernel
  have hchosen : ∀ i, frames.chosen? h = some i → ⟨2, 0, 0, 0, 0, 1⟩ = i.mac.getD .zero := by
    have hmac : (frames.chosen? h).map (·.mac) = some (some ⟨2, 0, 0, 0, 0, 1⟩) := by decide
    intro i hi
    rw [hi] at hmac
    have hi' : i.mac = some ⟨2, 0, 0, 0, 0, 1⟩ := Option.some.inj hmac
    rw [hi']
    rfl
  obtain ⟨hdatagrams, -⟩ := run_link_settings p q 100 h
  obtain ⟨hstate, hlog, -⟩ := hdatagrams rfl halike
  obtain ⟨-, hframes⟩ := run_link_settings frames (frames.pinned ⟨2, 0, 0, 0, 0, 1⟩) 100 h
  exact ⟨halike, by rw [hstate, hsize], hsize, hlog, hframes _ rfl rfl rfl hchosen⟩

end Plan

end EchoInjector
