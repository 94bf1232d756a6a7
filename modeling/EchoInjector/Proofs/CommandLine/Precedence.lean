import EchoInjector.Proofs.CommandLine.Sources

/-!
# Which value counts

A setting can get its value from three places. The command line comes first, behind it the
environment, and what neither of them gives has its default. `given_over_supplied_over_default` says
so of all settings at once, whatever way the command line is spelled, and follows each value into
the field of the plan that is made from it.

The second half of the theorem is about two environments. A variable counts only if its setting is
not given: **the answer is the same in environments that differ elsewhere**, be it an answer or a
complaint. So the variable of a setting that is given may have any value, even one that cannot be
read, and variables that belong to no setting never count.
-/

namespace EchoInjector.CommandLine

/-- A setting **takes** its value from the command line if it is given there, else from its variable
if that is set, and else it has its default. An empty value is a value. -/
inductive Setting.Takes (s : Setting) (events : List Event) (env : Environment) :
    Option s.Value → Prop
  /-- The command line gives the value. -/
  | given {text : String} {v : s.Value} (occurs : .value s text ∈ events)
      (read : s.read text = .ok v) : s.Takes events env (some v)
  /-- The variable has the value. -/
  | supplied {text : String} {v : s.Value} (absent : .setting s ∉ arguments events)
      (set : env s.envName = some text) (read : s.read text = .ok v) :
      s.Takes events env (some v)
  /-- Nothing gives a value. -/
  | default (absent : .setting s ∉ arguments events) (unset : env s.envName = none) :
      s.Takes events env s.default?

/-- Without a default, the value that a setting takes was read from a text. -/
theorem Setting.Takes.exists_read {s : Setting} {events : List Event} {env : Environment}
    {v : s.Value} (h : s.Takes events env (some v)) (hdefault : s.default? = none) :
    ∃ text, s.read text = .ok v := by
  generalize ho : some v = o at h
  cases h with
  | given _ hread =>
    cases ho
    exact ⟨_, hread⟩
  | supplied _ _ hread =>
    cases ho
    exact ⟨_, hread⟩
  | default => cases ho.trans hdefault

/-- A plan **carries** the values of settings if each of them stands in the field that is its own.
The payload is what the text encodes, or as many zeros as its length asks for. -/
structure Carries (p : Plan) (value? : (s : Setting) → Option s.Value) : Prop where
  iface : value? .iface = some p.iface
  dstMac : value? .dstMac = some p.probe.dstMac
  srcMac : value? .srcMac = p.probe.srcMac
  src : value? .src = some p.probe.src
  dst : value? .dst = some p.probe.dst
  ttl : value? .ttl = some p.probe.ttl
  ipIdent : value? .ipIdent = some p.probe.ipIdent
  icmpType : value? .icmpType = some p.probe.icmpType
  icmpCode : value? .icmpCode = some p.probe.icmpCode
  ident : value? .ident = some p.probe.icmpIdent
  seq : value? .seq = some p.probe.icmpSeq
  text : ∀ text, value? .payload = some text → p.probe.payload = text.toUTF8.data.toList
  zeros : value? .payload = none → ∀ n, value? .payloadLength = some n →
    p.probe.payload = List.replicate n.toNat 0
  empty : value? .payload = none → value? .payloadLength = none → p.probe.payload = []
  count : value? .count = some p.count
  interval : value? .interval = some p.interval

/-- What arguments say is carried into their plan. -/
theorem Arguments.carries_plan (a : Arguments) : Carries a.plan a.value? where
  iface := rfl
  dstMac := rfl
  srcMac := rfl
  src := rfl
  dst := rfl
  ttl := rfl
  ipIdent := rfl
  icmpType := rfl
  icmpCode := rfl
  ident := rfl
  seq := rfl
  text := by
    intro text (htext : a.payload = some text)
    simp only [plan, payloadOctets, htext]
  zeros := by
    intro (htext : a.payload = none) n (hlength : a.payloadLength = some n)
    simp only [plan, payloadOctets, htext, hlength]
  empty := by
    intro (htext : a.payload = none) (hlength : a.payloadLength = none)
    simp only [plan, payloadOctets, htext, hlength]
  count := rfl
  interval := rfl

/-- Acceptable events give a setting at most once. -/
theorem Acceptable.count_setting_le_one {events : List Event} (h : Acceptable events)
    (s : Setting) : (arguments events).count (.setting s) ≤ 1 := by
  have hsame : (arguments events).count (.setting s)
      = (events.filterMap Event.single?).count (.setting s) := by
    rw [arguments, List.count_filterMap, List.count_filterMap]
    refine List.countP_congr fun e _ => ?_
    simp [single?_eq_some_iff]
  rw [hsame]
  exact List.nodup_iff_count_le_one.mp h.once _

/-- Where everything can be read, every setting takes a value in the order of the three places. -/
theorem Acceptable.exists_takes {env : Environment} {events : List Event}
    (h : Acceptable (events ++ supplied env events)) (s : Setting) :
    ∃ o, s.Takes events env o := by
  by_cases hgiven : .setting s ∈ arguments events
  · obtain ⟨text, hmem⟩ := setting_mem_arguments.mp hgiven
    obtain ⟨v, hread⟩ := h.readable s text (List.mem_append_left _ hmem)
    exact ⟨_, .given hmem hread⟩
  · cases hset : env s.envName with
    | some text =>
      have hmem := List.mem_append_right events (value_mem_supplied.mpr ⟨hgiven, hset⟩)
      obtain ⟨v, hread⟩ := h.readable s text hmem
      exact ⟨_, .supplied hgiven hset hread⟩
    | none => exact ⟨_, .default hgiven hset⟩

section

variable {a : Arguments} {env : Environment} {events : List Event}

/-- Where the arguments answer to what is given and supplied, what a setting takes is its value. -/
theorem Arguments.Answers.value?_eq (h : a.Answers (events ++ supplied env events)) {s : Setting}
    {o : Option s.Value} (htakes : s.Takes events env o) : a.value? s = o := by
  cases htakes with
  | given hmem hread => exact h.given s _ _ (List.mem_append_left _ hmem) hread
  | supplied habsent hset hread =>
    have hmem := List.mem_append_right events (value_mem_supplied.mpr ⟨habsent, hset⟩)
    exact h.given s _ _ hmem hread
  | default habsent hunset =>
    refine h.default s ?_
    rw [arguments_append, List.mem_append, setting_mem_supplied, hunset]
    simpa using habsent

/-- Every setting takes its value. -/
theorem Arguments.Answers.takes (h : a.Answers (events ++ supplied env events))
    (hacc : Acceptable (events ++ supplied env events)) (s : Setting) :
    s.Takes events env (a.value? s) := by
  obtain ⟨o, htakes⟩ := hacc.exists_takes s
  rwa [h.value?_eq htakes]

end

/-- Environments that agree on the settings that are not given have the same answer. Where a command
line spells nothing they need not agree at all. -/
theorem parse_congr {texts : List String} {env env' : Environment}
    (h : ∀ events, Spells texts events → ∀ s : Setting, .setting s ∉ arguments events →
      env s.envName = env' s.envName) :
    parse texts env = parse texts env' := by
  rw [parse, parse, entries_eq, entries_eq, List.foldlM_append, List.foldlM_append]
  cases htaken : (read texts).foldlM take [] with
  | error ending => rfl
  | ok given =>
    have hacc := (foldlM_take_eq_ok htaken).1
    have hspells : Spells texts (read texts) :=
      spells_iff.mpr ⟨rfl, fun e he => (hacc.goesOn e he).1⟩
    rw [supplied_congr (h _ hspells)]

/-- **What is given on the command line counts before what the environment supplies, and that before
the default.** Of a command line that is accepted, every setting has at most one occurrence, takes
its value in this order, and has it carried into the plan. And in any two environments that agree on
the variables of the settings without an occurrence, the command line has the same answer, accepted
or not. -/
theorem given_over_supplied_over_default (texts : List String) (env : Environment) :
    (∀ a, parse texts env = .ok a → ∃ events, Spells texts events ∧
      (∀ s, (arguments events).count (.setting s) ≤ 1) ∧
      (∀ s : Setting, s.Takes events env (a.value? s)) ∧
      Carries a.plan a.value?) ∧
    ∀ env' : Environment,
      (∀ events, Spells texts events → ∀ s : Setting, .setting s ∉ arguments events →
        env s.envName = env' s.envName) →
      parse texts env = parse texts env' := by
  refine ⟨fun a ha => ?_, fun env' => parse_congr⟩
  obtain ⟨events, hspells, hacc, -, hanswers⟩ := parse_eq_ok_iff.mp ha
  exact ⟨events, hspells, hacc.of_append.count_setting_le_one, hanswers.takes hacc,
    a.carries_plan⟩

/-- With a time to live on the command line, a variable for it that is no number does no harm, while
the one for the sequence number counts; what neither gives has its default. -/
theorem given_over_supplied_over_default_sample :
    ∃ a events,
      parse ["-c5", "--ttl=3"] (fun name =>
        if name = "ECHO_PROBE_TTL" then some "many"
        else if name = "ECHO_PROBE_SEQ" then some "7" else none) = .ok a ∧
      Spells ["-c5", "--ttl=3"] events ∧ .value .ttl "3" ∈ events ∧ .value .count "5" ∈ events ∧
      .setting .seq ∉ arguments events ∧ Carries a.plan a.value? ∧
      a.plan = { count := 5, probe := { ttl := 3, icmpSeq := 7 } } ∧
      parse ["-c5", "--ttl=3"] (fun name =>
        if name = "ECHO_PROBE_SEQ" then some "7" else none) = .ok a := by
  have hparse : parse ["-c5", "--ttl=3"] (fun name =>
      if name = "ECHO_PROBE_TTL" then some "many"
      else if name = "ECHO_PROBE_SEQ" then some "7" else none)
      = .ok { Arguments.ofEntries [] with count := 5, ttl := 3, seq := 7 } := by
    decide +kernel
  obtain ⟨haccepted, hsame⟩ := given_over_supplied_over_default ["-c5", "--ttl=3"] (fun name =>
    if name = "ECHO_PROBE_TTL" then some "many"
    else if name = "ECHO_PROBE_SEQ" then some "7" else none)
  obtain ⟨events, hspells, -, -, hcarries⟩ := haccepted _ hparse
  have hevents : events = [.value .count "5", .value .ttl "3"] :=
    hspells.read_eq.symm.trans (by decide +kernel)
  subst hevents
  refine ⟨_, _, hparse, hspells, by decide, by decide, by decide, hcarries, by decide, ?_⟩
  refine (hsame _ fun events hother s habsent => ?_).symm.trans hparse
  obtain rfl := hspells.read_eq.symm.trans hother.read_eq
  cases s with
  | ttl => exact absurd (by decide) habsent
  | _ => rfl

end EchoInjector.CommandLine
