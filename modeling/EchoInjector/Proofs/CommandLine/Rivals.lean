import EchoInjector.Proofs.CommandLine.Sources

/-!
# Rivals from the environment

A payload is given as a text or by its length, and each of the two settings is the other's rival. An
environment may supply the rival of what the command line gives: it then stands behind it in the
list of entries, and the search for conflicts, which does not ask where an entry comes from, finds
the two. **The value on the command line is not taken before the rival's variable, but refused
because of it**, although the command line is in order and so is the variable. `rival_decides` says
that this is the only harm that variables with values in order can do to a payload.

That the complaint names the given setting first depends on the order of the entries: what is taken
from the environment is added behind what was given.
-/

namespace EchoInjector.CommandLine

/-! ### Who are rivals -/

/-- There is one pair of settings that are rivals. -/
theorem Argument.rivals_unique {s r t : Setting} {b : Argument}
    (h : (Argument.setting s).rival? = some (.setting r))
    (h' : (Argument.setting t).rival? = some b) :
    t = s ∧ b = .setting r ∨ t = r ∧ b = .setting s := by
  cases s <;> cases h <;> cases t <;> cases h' <;> decide

/-- The payload is given by two settings, either of which is the other's rival. -/
theorem eq_or_eq_of_rival? {s r : Setting}
    (h : (Argument.setting s).rival? = some (.setting r)) :
    s = .payload ∧ r = .payloadLength ∨ s = .payloadLength ∧ r = .payload := by
  cases s <;> cases h <;> decide

/-! ### Entries that the environment adds -/

/-- Values are added behind the entries that are there. -/
theorem exists_eq_append_of_foldlM_take {events : List Event}
    (hvalues : ∀ e ∈ events, ∃ s text, e = .value s text) {es es' : List Entry}
    (h : events.foldlM take es = .ok es') : ∃ more, es' = es ++ more := by
  induction events generalizing es with
  | nil =>
    cases h
    exact ⟨[], (List.append_nil _).symm⟩
  | cons e rest ih =>
    obtain ⟨s, text, rfl⟩ := hvalues e List.mem_cons_self
    rw [List.foldlM_cons] at h
    cases htake : take es (.value s text) with
    | error ending =>
      rw [htake] at h
      cases h
    | ok between =>
      rw [htake] at h
      obtain ⟨more, rfl⟩ := ih (fun e he => hvalues e (List.mem_cons_of_mem _ he)) h
      cases take_eq_ok_iff.mp htake with
      | value => exact ⟨_, List.append_assoc _ _ _⟩

section

variable {s r : Setting} (hrival : (Argument.setting s).rival? = some (.setting r))

include hrival

/-- Compatible events stay so if the environment does not supply the rival. -/
theorem Compatible.append_supplied {events : List Event} (h : Compatible events)
    (hs : .setting s ∈ arguments events) {env : Environment} (hunset : env r.envName = none) :
    Compatible (events ++ supplied env events) := by
  have hr : .setting r ∉ arguments (events ++ supplied env events) := by
    rw [arguments_append, List.mem_append, setting_mem_supplied, hunset]
    simpa using h _ _ hrival hs
  intro a b hab ha hb
  cases a with
  | flag f =>
    obtain ⟨g, rfl⟩ := Argument.exists_flag_of_rival? hab
    rw [arguments_append, List.mem_append, or_iff_left (flag_notMem_supplied env events _)]
      at ha hb
    exact h _ _ hab ha hb
  | setting t =>
    obtain ⟨rfl, rfl⟩ | ⟨rfl, rfl⟩ := Argument.rivals_unique hrival hab
    · exact hr hb
    · exact hr ha

/-- Where the rival stands behind entries that are compatible by themselves, the setting and its
rival are the two that are found. -/
theorem Holds.conflict?_append {given more : List Entry} {events : List Event}
    (h : Holds given events) (hcompatible : Compatible events)
    (hs : .setting s ∈ arguments events)
    (hrest : ∀ f, isGiven (given ++ more) (.flag f) = true → .flag f ∈ arguments events)
    (hr : isGiven (given ++ more) (.setting r) = true) :
    conflict? (given ++ more) = some (.setting s, .setting r) := by
  rw [conflict?, List.findSome?_append]
  cases hfound : given.findSome? _ with
  | none =>
    obtain ⟨e, he, hes⟩ := h.mem_arguments_iff.mp hs
    have hnone := List.findSome?_eq_none_iff.mp hfound e he
    rw [hes, hrival] at hnone
    simp only [hr, if_true] at hnone
    cases hnone
  | some pair =>
    obtain ⟨e, he, hpair⟩ := List.exists_of_findSome?_eq_some hfound
    have hself : e.argument ∈ arguments events := h.mem_arguments_iff.mpr ⟨e, he, rfl⟩
    cases hrival' : e.argument.rival? with
    | none =>
      rw [hrival'] at hpair
      cases hpair
    | some b =>
      simp only [hrival', Option.ite_none_right_eq_some, Option.some_inj] at hpair
      obtain ⟨hb, rfl⟩ := hpair
      rw [Option.some_or]
      -- what was found is given by the events, so it is no pair of flags nor begins with `r`
      generalize e.argument = a at hself hrival'
      cases a with
      | flag f =>
        obtain ⟨g, rfl⟩ := Argument.exists_flag_of_rival? hrival'
        exact absurd (hrest g hb) (hcompatible _ _ hrival' hself)
      | setting t =>
        obtain ⟨rfl, rfl⟩ | ⟨rfl, rfl⟩ := Argument.rivals_unique hrival hrival'
        · rfl
        · exact absurd hself (hcompatible _ _ hrival hs)

/-- The rival's variable is complained about, and the setting that is given comes first. -/
theorem parse_eq_conflict {texts : List String} {env : Environment}
    (hacc : Acceptable (read texts ++ supplied env (read texts)))
    (hcompatible : Compatible (read texts)) (hs : .setting s ∈ arguments (read texts))
    {text : String} (hset : env r.envName = some text) :
    parse texts env = .error (.misuse (.conflict (.setting s) (.setting r))) := by
  obtain ⟨es, htaken⟩ := hacc.exists_entries
  have hholds := (foldlM_take_eq_ok htaken).2
  obtain ⟨given, hgiven⟩ := hacc.of_append.exists_entries
  have hmore : (supplied env (read texts)).foldlM take given = .ok es := by
    rwa [List.foldlM_append, hgiven] at htaken
  obtain ⟨more, rfl⟩ := exists_eq_append_of_foldlM_take (fun e he => by
    obtain ⟨t, value, rfl, -⟩ := mem_supplied.mp he
    exact ⟨t, value, rfl⟩) hmore
  have hr : isGiven (given ++ more) (.setting r) = true := by
    rw [hholds.given, arguments_append, List.mem_append, setting_mem_supplied]
    exact Or.inr ⟨hcompatible _ _ hrival hs, text, hset⟩
  have hflags : ∀ f, isGiven (given ++ more) (.flag f) = true →
      .flag f ∈ arguments (read texts) := by
    intro f hf
    rw [hholds.given, arguments_append, List.mem_append] at hf
    exact hf.resolve_right (flag_notMem_supplied env _ f)
  have hconflict := (foldlM_take_eq_ok hgiven).2.conflict?_append hrival hcompatible hs hflags hr
  rw [parse_of_gathered ((gathered_eq texts env).trans htaken), hconflict]

end

/-! ### A payload on the command line -/

/-- Where the payload's setting is given and its rival is not, the payload is the same whatever else
is supplied. -/
theorem Arguments.Answers.payloadOctets_eq {a b : Arguments} {events more : List Event}
    {s r : Setting} (hrival : (Argument.setting s).rival? = some (.setting r))
    (ha : a.Answers events) (hb : b.Answers (events ++ more)) (hacc : Acceptable events)
    (hs : .setting s ∈ arguments events)
    (hr : .setting r ∉ arguments (events ++ more)) : a.payloadOctets = b.payloadOctets := by
  have hsame : a.value? s = b.value? s := by
    obtain ⟨text, hmem⟩ := setting_mem_arguments.mp hs
    obtain ⟨v, hread⟩ := hacc.readable s text hmem
    rw [ha.given s text v hmem hread, hb.given s text v (List.mem_append_left _ hmem) hread]
  have hr' : .setting r ∉ arguments events := fun h =>
    hr (arguments_append events more ▸ List.mem_append_left _ h)
  have hother : a.value? r = b.value? r := by
    rw [ha.default r hr', hb.default r hr]
  have hpayload : a.payload = b.payload ∧ a.payloadLength = b.payloadLength := by
    obtain ⟨rfl, rfl⟩ | ⟨rfl, rfl⟩ := eq_or_eq_of_rival? hrival
    · exact ⟨hsame, hother⟩
    · exact ⟨hother, hsame⟩
  rw [Arguments.payloadOctets, Arguments.payloadOctets, hpayload.1, hpayload.2]

/-- **What the environment can do to a payload on the command line.** Let a command line be accepted
where no variable is set and give the payload by one of its two settings, and let every variable
that is set have a value that its setting can read. Then the rival's variable decides: without it
the command line is accepted with the payload it asks for, and with it the command line is refused.
-/
theorem rival_decides {texts : List String} {env : Environment} {a : Arguments} {s r : Setting}
    (hrival : (Argument.setting s).rival? = some (.setting r))
    (haccepted : parse texts (fun _ => none) = .ok a)
    (hgiven : .setting s ∈ arguments (read texts))
    (hread : ∀ (t : Setting) text, env t.envName = some text → ∃ v, t.read text = .ok v) :
    (env r.envName = none →
      ∃ b, parse texts env = .ok b ∧ b.plan.probe.payload = a.plan.probe.payload) ∧
    (∀ text, env r.envName = some text →
      parse texts env = .error (.misuse (.conflict (.setting s) (.setting r)))) := by
  obtain ⟨events, hspells, hacc, hcompatible, hanswers⟩ := parse_eq_ok_iff.mp haccepted
  rw [supplied_of_none (fun _ => rfl), List.append_nil] at hacc hcompatible hanswers
  obtain rfl := hspells.read_eq
  have hboth : Acceptable (read texts ++ supplied env (read texts)) :=
    acceptable_append_supplied_iff.mpr ⟨hacc, fun t _ => hread t⟩
  constructor
  · intro hunset
    obtain ⟨b, hb⟩ := hboth.exists_answers
    have hr : .setting r ∉ arguments (read texts ++ supplied env (read texts)) :=
      hcompatible.append_supplied hrival hgiven hunset _ _ hrival
        (arguments_append _ _ ▸ List.mem_append_left _ hgiven)
    exact ⟨b, parse_eq_ok_iff.mpr ⟨_, hspells, hboth,
      hcompatible.append_supplied hrival hgiven hunset, hb⟩,
      (hanswers.payloadOctets_eq hrival hb hacc hgiven hr).symm⟩
  · intro text hset
    exact parse_eq_conflict hrival hboth hcompatible hgiven hset

/-- A payload given by its length, with a variable for the time to live. -/
theorem rival_decides_sample :
    ∃ a b, parse ["--payload-len=2"] (fun _ => none) = .ok a ∧
      parse ["--payload-len=2"] (fun name => if name = "ECHO_PROBE_TTL" then some "5" else none)
        = .ok b ∧
      b.plan.probe.payload = a.plan.probe.payload := by
  have haccepted : parse ["--payload-len=2"] (fun _ => none)
      = .ok { Arguments.ofEntries [] with payloadLength := some 2 } := by
    decide +kernel
  have hread : ∀ (t : Setting) text,
      (if t.envName = "ECHO_PROBE_TTL" then some "5" else none) = some text →
        ∃ v, t.read text = .ok v := by
    intro t text hset
    cases t with
    | ttl =>
      obtain rfl := Option.some.inj hset
      exact ⟨5, by decide +kernel⟩
    | _ => cases hset
  obtain ⟨b, hb, hsame⟩ := (@rival_decides ["--payload-len=2"]
    (fun name => if name = "ECHO_PROBE_TTL" then some "5" else none) _ .payloadLength .payload
    rfl haccepted (by decide +kernel) hread).1 rfl
  exact ⟨_, b, haccepted, hb, hsame⟩

/-- A payload on the command line is refused because of a variable for its length, although both are
in order. -/
theorem payload_refused_for_variable :
    (∃ a, parse ["--payload", "x"] (fun _ => none) = .ok a ∧ a.plan.probe.payload = [0x78]) ∧
      (∀ (t : Setting) text,
        (if t.envName = "ECHO_PROBE_PAYLOAD_LEN" then some "1" else none) = some text →
          ∃ v, t.read text = .ok v) ∧
      parse ["--payload", "x"]
          (fun name => if name = "ECHO_PROBE_PAYLOAD_LEN" then some "1" else none)
        = .error (.misuse (.conflict (.setting .payload) (.setting .payloadLength))) := by
  have haccepted : parse ["--payload", "x"] (fun _ => none)
      = .ok { Arguments.ofEntries [] with payload := some "x" } := by
    decide +kernel
  refine ⟨⟨_, haccepted, by decide +kernel⟩, fun t text hset => ?_, by decide +kernel⟩
  cases t with
  | payloadLength =>
    obtain rfl := Option.some.inj hset
    exact ⟨1, by decide +kernel⟩
  | _ => cases hset

end EchoInjector.CommandLine
