import EchoInjector.Proofs.Transmission.Course

/-!
# What the events of a transmission account for

Between two moments of a transmission lies a course, and the events of the course account for
everything that the transmission comes to: how often it sent, how it ended, and what it wrote.
`Course.preserves` is the rule by which this is shown. A fact that is kept by every step, with one
more event behind those that have happened, is kept by every course.

* `Account` is what holds for every medium. Every send directly follows a look of the loop that
  found the flag lowered (`LookedFirst`); the successful sends are counted; and the stage that is
  reached says how the events end. A transmission ends well with its limit reached, or with a look
  of the loop that found the flag raised and has only looks of one pause between itself and the
  last send (`StoppedBehind`). It ends in failure right behind a send that failed.
* A medium is **plain** when its sends neither raise the flag nor write records. Then the flag is
  in nobody's hands but the schedule's, so the looks find what the schedule says
  (`Tells.scheduled`), and the records are one for each successful send, in order, with one more
  at the end if the flag was found raised (`Tells.logged`).

Since no send is made without a look before it, at most one send starts after the flag is raised,
whenever that is (`LookedFirst.countP_isSend_le_one`).
-/

namespace EchoInjector.Transmission

variable {σ : Type}

/-! ### How events fit together -/

/-- Every send directly follows a look of the loop that found the flag lowered. -/
def LookedFirst (events : List Event) : Prop :=
  ∀ before e, before ++ [e] <+: events → e.isSend = true → before.getLast? = some (.look false)

/-- Nothing has happened that a transmission ends with. -/
def Ongoing (events : List Event) : Prop := ∀ e ∈ events, e.isFinal = false

/-- Only a pause stands behind the last send, and nothing at all where there was none. -/
def Paused (events : List Event) : Prop :=
  ∃ before pause, events = before ++ pause ∧ (∀ e ∈ pause, e.isPause = true) ∧
    (events = [] ∨ ∃ octets, before.getLast? = some (.sent octets))

/-- The loop's own look behind some number of successful sends, with only a pause between the last
of them and itself, is the last event and **found the flag raised**. -/
def StoppedBehind (sends : Nat) (events : List Event) : Prop :=
  ∃ before, events = before ++ [.look true] ∧ Paused before ∧ (deliveries before).length = sends

theorem LookedFirst.nil : LookedFirst [] := by
  intro before e hprefix
  simp at hprefix

/-- One more event keeps the rule, if it is no send or the loop has just looked. -/
theorem LookedFirst.concat {past : List Event} (h : LookedFirst past) {e : Event}
    (he : e.isSend = true → past.getLast? = some (.look false)) : LookedFirst (past ++ [e]) := by
  intro before e' hprefix hsend
  rcases List.prefix_concat_iff.mp hprefix with hlast | hearlier
  · obtain ⟨rfl, heq⟩ := List.append_inj' hlast rfl
    obtain rfl := List.singleton_inj.mp heq
    exact he hsend
  · exact h before e' hearlier hsend

/-- **At most one send starts after the flag is raised**: of the events behind any point, if no
look among them finds the flag lowered, at most one is a send. -/
theorem LookedFirst.countP_isSend_le_one {before after : List Event}
    (h : LookedFirst (before ++ after)) (hraised : ∀ found ∈ looks after, found = true) :
    after.countP Event.isSend ≤ 1 := by
  cases after with
  | nil => exact Nat.zero_le 1
  | cons e rest =>
    -- a send behind the first event would follow a look in `after` that found the flag lowered
    have hrest : rest.countP Event.isSend = 0 := by
      rw [List.countP_eq_zero]
      intro e' he' hsend
      obtain ⟨u, v, rfl⟩ := List.append_of_mem he'
      have hlook : (before ++ e :: u).getLast? = some (.look false) := by
        refine h _ e' ?_ hsend
        exact ⟨v, by simp⟩
      rw [List.getLast?_append_of_ne_nil _ (List.cons_ne_nil e u)] at hlook
      have hmem : Event.look false ∈ e :: (u ++ e' :: v) :=
        List.mem_append_left _ (List.mem_of_getLast? hlook)
      have hlowered : false ∈ looks (e :: (u ++ e' :: v)) :=
        List.mem_filterMap.mpr ⟨_, hmem, rfl⟩
      cases hraised false hlowered
    rw [List.countP_cons, hrest]
    split <;> omega

theorem Ongoing.nil : Ongoing [] := fun _ he => absurd he List.not_mem_nil

theorem Ongoing.concat {past : List Event} (h : Ongoing past) {e : Event}
    (he : e.isFinal = false) : Ongoing (past ++ [e]) := by
  intro e' he'
  rcases List.mem_append.mp he' with hpast | hlast
  · exact h e' hpast
  · obtain rfl := List.mem_singleton.mp hlast
    exact he

/-- No send has failed. -/
theorem Ongoing.failed_notMem {past : List Event} (h : Ongoing past) (e : Failure) :
    .failed e ∉ past := by
  intro he
  cases h _ he

/-- The loop has not found the flag raised. -/
theorem Ongoing.look_true_notMem {past : List Event} (h : Ongoing past) : .look true ∉ past := by
  intro he
  cases h _ he

theorem Paused.nil : Paused [] := ⟨[], [], rfl, by simp, Or.inl rfl⟩

/-- A send starts a pause. -/
theorem Paused.sent (past : List Event) (octets : Nat) : Paused (past ++ [.sent octets]) :=
  ⟨past ++ [.sent octets], [], (List.append_nil _).symm, by simp, Or.inr ⟨octets, by simp⟩⟩

/-- A pause goes on, once there was a send. -/
theorem Paused.concat {past : List Event} (h : Paused past) (hne : past ≠ []) (found : Bool) :
    Paused (past ++ [.pauseLook found]) := by
  obtain ⟨before, pause, rfl, hpause, hsent⟩ := h
  refine ⟨before, pause ++ [.pauseLook found], List.append_assoc _ _ _, ?_, ?_⟩
  · intro e he
    rcases List.mem_append.mp he with hold | hnew
    · exact hpause e hold
    · obtain rfl := List.mem_singleton.mp hnew
      rfl
  · exact Or.inr (hsent.resolve_left hne)

/-! ### The account of a course -/

/-- How the events end at a stage, and that a pause comes only behind a send. -/
def Stage.Follows (count : Nat) (past : List Event) : Stage → Prop
  | .waiting looks => Ongoing past ∧ Paused past ∧ (past = [] → looks = 0)
  | .sending => Ongoing past ∧ past.getLast? = some (.look false)
  | .over (.ok t) => t.sent = (deliveries past).length ∧
      ((Ongoing past ∧ count ≠ 0 ∧ t.sent = count) ∨
        ∃ before, past = before ++ [.look true] ∧ Ongoing before ∧ Paused before)
  | .over (.error e) => ∃ before, past = before ++ [.failed e] ∧ Ongoing before

/-- What the events up to a moment **account for**, whatever the medium. -/
structure Account (count : Nat) (past : List Event) (m : Moment σ) : Prop where
  /-- Every send follows a look of the loop. -/
  looked : LookedFirst past
  /-- The successful sends are counted. -/
  counted : m.sent = (deliveries past).length
  /-- The stage is the one that the events lead to. -/
  follows : m.stage.Follows count past

section Steps

variable {medium : String} {transmit : Action σ Delivery} {count polls : Nat}

/-- **What every step keeps, every course keeps.** -/
theorem Course.preserves {P : List Event → Moment σ → Prop}
    (hstep : ∀ {past m e m'}, P past m → Step medium transmit count polls m e m' →
      P (past ++ [e]) m')
    {m m' : Moment σ} {past events : List Event} (hP : P past m)
    (h : Course medium transmit count polls m events m') : P (past ++ events) m' := by
  induction h generalizing past with
  | nil => rwa [List.append_nil]
  | cons step _ ih =>
    have hnext := ih (hstep hP step)
    rwa [List.append_assoc] at hnext

/-- Nothing has happened in the beginning. -/
theorem Account.start (count quiet : Nat) (s : σ) :
    Account count [] ⟨.waiting 0, quiet, 0, s, []⟩ :=
  ⟨.nil, rfl, .nil, .nil, fun _ => rfl⟩

/-- The stage behind a send follows the send. -/
theorem Stage.follows_afterSend {past : List Event} (hpast : Ongoing past) (octets : Nat)
    {t : Tally} (ht : t.sent = (deliveries (past ++ [.sent octets])).length) :
    (Stage.afterSend count polls t).Follows count (past ++ [.sent octets]) := by
  have hongoing : Ongoing (past ++ [.sent octets]) := hpast.concat rfl
  rw [Stage.afterSend]
  split
  case isTrue hlimit => exact ⟨ht, Or.inl ⟨hongoing, hlimit⟩⟩
  case isFalse => exact ⟨hongoing, .sent past octets, fun hnil => by simp at hnil⟩

/-- **One step, one event**: the account is kept. -/
theorem Account.step {past : List Event} {m m' : Moment σ} {e : Event} (h : Account count past m)
    (hstep : Step medium transmit count polls m e m') : Account count (past ++ [e]) m' := by
  obtain ⟨hlooked, hcounted, hfollows⟩ := h
  cases hstep with
  | pauseOn | pauseEnd =>
    obtain ⟨hongoing, hpaused, hstart⟩ := hfollows
    have hne : past ≠ [] := fun hnil => absurd (hstart hnil) (Nat.succ_ne_zero _)
    refine ⟨hlooked.concat (fun hsend => by cases hsend), ?_, hongoing.concat rfl,
      hpaused.concat hne _, fun hnil => by simp at hnil⟩
    rwa [deliveries_concat rfl]
  | lowered =>
    refine ⟨hlooked.concat (fun hsend => by cases hsend), ?_, hfollows.1.concat rfl, by simp⟩
    rwa [deliveries_concat rfl]
  | raised =>
    have hnone : deliveries (past ++ [.look true]) = deliveries past := deliveries_concat rfl
    have hsent := hcounted
    rw [← hnone] at hsent
    exact ⟨hlooked.concat (fun hsend => by cases hsend), hsent, hsent,
      Or.inr ⟨past, rfl, hfollows.1, hfollows.2.1⟩⟩
  | @sent _ _ _ _ d =>
    have hsent := congrArg (· + 1) hcounted
    rw [← length_deliveries_sent past d.octets] at hsent
    exact ⟨hlooked.concat fun _ => hfollows.2, hsent, Stage.follows_afterSend hfollows.1 _ hsent⟩
  | failed =>
    refine ⟨hlooked.concat fun _ => hfollows.2, ?_, past, rfl, hfollows.1⟩
    rwa [deliveries_concat rfl]

/-! ### The end of a transmission -/

/-- A moment with an effect is at the end. -/
theorem Moment.effect?_eq_some {m : Moment σ} {effect : Effect σ Tally}
    (h : m.effect? = some effect) :
    m.stage = .over effect.result ∧ m.state = effect.state ∧ m.log = effect.log := by
  rw [Moment.effect?] at h
  split at h
  case h_1 result hstage =>
    cases h
    exact ⟨hstage, rfl, rfl⟩
  case h_2 => cases h
  case h_3 => cases h

variable {quiet : Nat} {s : σ} {events : List Event} {effect : Effect σ Tally}

/-- What every step keeps holds at the end of a transmission. -/
theorem Tells.preserves {P : List Event → Moment σ → Prop}
    (h : Tells medium transmit count polls quiet s events effect)
    (hstart : P [] ⟨.waiting 0, quiet, 0, s, []⟩)
    (hstep : ∀ {past m e m'}, P past m → Step medium transmit count polls m e m' →
      P (past ++ [e]) m') :
    ∃ last : Moment σ, P events last ∧ last.stage = .over effect.result ∧
      last.state = effect.state ∧ last.log = effect.log := by
  obtain ⟨last, hcourse, heffect⟩ := h
  exact ⟨last, hcourse.preserves hstep hstart, Moment.effect?_eq_some heffect⟩

/-- The account of a whole transmission. -/
theorem Tells.account (h : Tells medium transmit count polls quiet s events effect) :
    LookedFirst events ∧ (Stage.over effect.result).Follows count events := by
  obtain ⟨last, haccount, hstage, -, -⟩ :=
    h.preserves (P := Account count) (Account.start count quiet s) Account.step
  have hfollows := haccount.follows
  rw [hstage] at hfollows
  exact ⟨haccount.looked, hfollows⟩

/-- **A failure ends the transmission**: all sends before it succeeded, and nothing follows it. -/
theorem Tells.failed_last (h : Tells medium transmit count polls quiet s events effect)
    {e : Failure} (he : .failed e ∈ events) :
    ∃ before, events = before ++ [.failed e] ∧ Ongoing before ∧ effect.result = .error e := by
  obtain ⟨-, hfollows⟩ := h.account
  -- whatever the end, only its last event can be a failed send
  cases hresult : effect.result with
  | error e' =>
    rw [hresult] at hfollows
    obtain ⟨before, rfl, hongoing⟩ := hfollows
    rcases List.mem_append.mp he with hbefore | hlast
    · exact absurd hbefore (hongoing.failed_notMem e)
    · cases List.mem_singleton.mp hlast
      exact ⟨before, rfl, hongoing, rfl⟩
  | ok t =>
    rw [hresult] at hfollows
    obtain ⟨-, ⟨hongoing, -⟩ | ⟨before, rfl, hongoing, -⟩⟩ := hfollows
    · exact absurd he (hongoing.failed_notMem e)
    · rcases List.mem_append.mp he with hbefore | hlast
      · exact absurd hbefore (hongoing.failed_notMem e)
      · cases List.mem_singleton.mp hlast

/-- **A transmission fails exactly with a failed send.** -/
theorem Tells.error_iff (h : Tells medium transmit count polls quiet s events effect)
    {e : Failure} : effect.result = .error e ↔ .failed e ∈ events := by
  constructor
  · intro hresult
    obtain ⟨-, hfollows⟩ := h.account
    rw [hresult] at hfollows
    obtain ⟨before, rfl, -⟩ := hfollows
    exact List.mem_append_right _ (List.mem_singleton_self _)
  · intro he
    obtain ⟨before, -, -, hresult⟩ := h.failed_last he
    exact hresult

/-- **A transmission succeeds exactly if no send fails**; its tally counts the sends, and they are
as many as the limit, or the loop's look behind them found the flag raised. -/
theorem Tells.ok_iff (h : Tells medium transmit count polls quiet s events effect) {n : Nat} :
    (∃ left, effect.result = .ok ⟨n, left⟩) ↔
      (deliveries events).length = n ∧ (∀ e, .failed e ∉ events) ∧
        ((count ≠ 0 ∧ n = count) ∨ StoppedBehind n events) := by
  have hfollows := h.account.2
  constructor
  · rintro ⟨left, hresult⟩
    have hnone : ∀ e, .failed e ∉ events := by
      intro e he
      rw [h.error_iff.mpr he] at hresult
      cases hresult
    rw [hresult] at hfollows
    obtain ⟨hsent, hend⟩ := hfollows
    refine ⟨hsent.symm, hnone, ?_⟩
    rcases hend with ⟨-, hlimit⟩ | ⟨before, hlast, -, hpaused⟩
    · exact Or.inl hlimit
    · refine Or.inr ⟨before, hlast, hpaused, ?_⟩
      rw [hlast, deliveries_concat rfl] at hsent
      exact hsent.symm
  · -- a transmission comes to an end, so without a failed send it is a good one
    rintro ⟨rfl, hnone, -⟩
    cases hresult : effect.result with
    | error e => exact absurd (h.error_iff.mp hresult) (hnone e)
    | ok t =>
      rw [hresult] at hfollows
      exact ⟨t.quiet, by rw [← hfollows.1]⟩

/-- What one send does to the medium is done once for each successful send. A send that fails may
change the medium, too. -/
theorem Tells.state_rule {Q : Nat → σ → Prop}
    (h : Tells medium transmit count polls quiet s events effect) (hstart : Q 0 s)
    (hok : ∀ {n s d s' said}, Q n s → transmit.run s = ⟨.ok d, s', said⟩ → Q (n + 1) s')
    (herror : ∀ {n s e s' said}, Q n s → transmit.run s = ⟨.error e, s', said⟩ → Q n s') :
    Q (deliveries events).length effect.state := by
  have hkept : ∀ {past : List Event} {m : Moment σ} {e : Event} {m' : Moment σ},
      Q (deliveries past).length m.state → Step medium transmit count polls m e m' →
        Q (deliveries (past ++ [e])).length m'.state := by
    intro past m e m' hQ hstep
    cases hstep with
    | pauseOn | pauseEnd | lowered | raised =>
      rw [deliveries_concat rfl]
      exact hQ
    | sent hsent =>
      rw [length_deliveries_sent]
      exact hok hQ hsent
    | failed hfailed =>
      rw [deliveries_concat rfl]
      exact herror hQ hfailed
  obtain ⟨last, hQ, -, hstate, -⟩ :=
    h.preserves (P := fun past m => Q (deliveries past).length m.state) hstart hkept
  rwa [hstate] at hQ

/-! ### Plain media -/

/-- A **plain** medium: its sends neither raise the stop flag nor write records. -/
structure Plain (transmit : Action σ Delivery) : Prop where
  silent : ∀ s, (transmit.run s).log = []
  steady : ∀ {s d}, (transmit.run s).result = .ok d → d.stops = false

/-- What the looks have found so far agrees with a schedule, and so does what is left of it. -/
structure Scheduled (quiet : Nat) (past : List Event) (m : Moment σ) : Prop where
  /-- The flag is raised from some look on, and stays raised. -/
  found : ∀ k found, (looks past)[k]? = some found → (found = true ↔ quiet ≤ k)
  left : m.quiet = quiet - (looks past).length

/-- A look finds what the schedule says. -/
theorem Scheduled.look {past : List Event} {m m' : Moment σ} {e : Event} {found : Bool}
    (h : Scheduled quiet past m) (he : e.finding? = some found)
    (hfound : found = true ↔ m.quiet = 0) (hleft : m'.quiet = m.quiet - 1) :
    Scheduled quiet (past ++ [e]) m' := by
  obtain ⟨hearlier, hquiet⟩ := h
  constructor
  · intro k found' hk
    rw [looks_concat_some he] at hk
    rcases Nat.lt_or_ge k (looks past).length with hlt | hge
    · rw [List.getElem?_append_left hlt] at hk
      exact hearlier k found' hk
    · rw [List.getElem?_append_right hge] at hk
      obtain ⟨hzero, hsame⟩ : k - (looks past).length = 0 ∧ found' = found := by
        cases hd : k - (looks past).length with
        | zero =>
          rw [hd] at hk
          exact ⟨rfl, (Option.some.inj hk).symm⟩
        | succ _ =>
          rw [hd] at hk
          cases hk
      rw [hsame, hfound]
      omega
  · rw [looks_concat_some he, List.length_append, List.length_singleton]
    omega

/-- **The looks follow the schedule**, step by step. -/
theorem Scheduled.step (hplain : Plain transmit) {past : List Event} {m m' : Moment σ} {e : Event}
    (h : Scheduled quiet past m) (hstep : Step medium transmit count polls m e m') :
    Scheduled quiet (past ++ [e]) m' := by
  cases hstep with
  | pauseOn | lowered => exact h.look rfl (by simp) rfl
  | pauseEnd | raised => exact h.look rfl (by simp) rfl
  | @sent _ _ s s' d log said hsent =>
    have hstops : d.stops = false := hplain.steady (by rw [hsent])
    obtain ⟨hfound, hleft⟩ := h
    constructor
    · rwa [looks_concat_none rfl]
    · rw [looks_concat_none rfl, ← hleft, Delivery.left, hstops, if_neg Bool.false_ne_true]
  | failed =>
    obtain ⟨hfound, hleft⟩ := h
    constructor
    · rwa [looks_concat_none rfl]
    · rwa [looks_concat_none rfl]

/-- In a plain medium the flag is found raised from one look on, the one that the schedule names. -/
theorem Tells.scheduled (h : Tells medium transmit count polls quiet s events effect)
    (hplain : Plain transmit) {k : Nat} {found : Bool} (hk : (looks events)[k]? = some found) :
    found = true ↔ quiet ≤ k := by
  have hstart : Scheduled quiet [] (⟨.waiting 0, quiet, 0, s, []⟩ : Moment σ) :=
    { found := by
        intro k found hnone
        cases hnone
      left := rfl }
  obtain ⟨last, hscheduled, -⟩ := h.preserves hstart (Scheduled.step hplain)
  exact hscheduled.found k found hk

/-- The records of a transmission: one for each successful send, numbered from one on, and one more
if the loop found the flag raised. -/
def records (medium : String) (events : List Event) : List Log.Record :=
  (deliveries events).mapIdx (fun i octets => sentRecord medium octets (i + 1)) ++
    if .look true ∈ events then [interruption (deliveries events).length] else []

/-- Only successful sends, and the loop's look that found the flag raised, are recorded. -/
theorem records_concat {past : List Event} {e : Event} (he : e.octets? = none)
    (hne : .look true ≠ e) : records medium (past ++ [e]) = records medium past := by
  have hmem : .look true ∈ past ++ [e] ↔ .look true ∈ past := by simp [hne]
  simp only [records, deliveries_concat he, hmem]

/-- A send adds its record, with the next number. -/
theorem records_concat_sent {past : List Event} (h : Ongoing past) (octets : Nat) :
    records medium (past ++ [.sent octets])
      = records medium past ++ [sentRecord medium octets ((deliveries past).length + 1)] := by
  have hongoing : Ongoing (past ++ [.sent octets]) := h.concat rfl
  rw [records, records, if_neg h.look_true_notMem, if_neg hongoing.look_true_notMem,
    List.append_nil, List.append_nil, deliveries_concat_sent, List.mapIdx_concat]

/-- The end of a loop that found the flag raised is recorded with the number of sends. -/
theorem records_concat_raised {past : List Event} (h : Ongoing past) :
    records medium (past ++ [.look true])
      = records medium past ++ [interruption (deliveries past).length] := by
  have hmem : .look true ∈ past ++ [Event.look true] :=
    List.mem_append_right _ (List.mem_singleton_self _)
  rw [records, records, if_pos hmem, if_neg h.look_true_notMem, List.append_nil,
    deliveries_concat rfl]

/-- The log keeps up with the account, event by event. -/
theorem Account.logged_step (hplain : Plain transmit) {past : List Event} {m m' : Moment σ}
    {e : Event} (h : Account count past m ∧ m.log = records medium past)
    (hstep : Step medium transmit count polls m e m') :
    Account count (past ++ [e]) m' ∧ m'.log = records medium (past ++ [e]) := by
  obtain ⟨haccount, hlog⟩ := h
  refine ⟨haccount.step hstep, ?_⟩
  obtain ⟨-, hcounted, hfollows⟩ := haccount
  cases hstep with
  | pauseOn | pauseEnd | lowered =>
    rw [records_concat rfl (by simp)]
    exact hlog
  | raised =>
    rw [records_concat_raised hfollows.1, ← hlog, ← hcounted]
  | @sent _ _ s _ _ _ said hsent =>
    have hsaid : said = [] := by
      have hsilent := hplain.silent s
      rwa [hsent] at hsilent
    rw [records_concat_sent hfollows.1, ← hlog, ← hcounted, hsaid, List.append_nil]
  | @failed _ _ s _ _ _ said hfailed =>
    have hsaid : said = [] := by
      have hsilent := hplain.silent s
      rwa [hfailed] at hsilent
    rw [records_concat rfl (by simp), hsaid, List.append_nil]
    exact hlog

/-- **The records of a transmission** through a plain medium. -/
theorem Tells.logged (h : Tells medium transmit count polls quiet s events effect)
    (hplain : Plain transmit) : effect.log = records medium events := by
  obtain ⟨last, ⟨-, hlogged⟩, -, -, hlog⟩ :=
    h.preserves (P := fun past m => Account count past m ∧ m.log = records medium past)
      ⟨Account.start count quiet s, rfl⟩ (Account.logged_step hplain)
  exact hlog.symm.trans hlogged

end Steps

end EchoInjector.Transmission
