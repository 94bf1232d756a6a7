import EchoInjector.Proofs.CommandLine.Precedence

/-!
# What excludes each other

A conflict is declared between arguments, and the search for it asks only what is among the entries.
So it finds every pair of rivals that is **present**, wherever the two come from and in whatever
order they were met: `compatible_append_supplied_iff` lists the two ways in which arguments can
clash. Where everything can be read, these are the only reasons to refuse a command line
(`conflicts_decide`).

What is gained by refusing is that the arguments that remain can be followed to the letter. The
payload of a plan prefers a text to a length, and the level of the log prefers the flag for fewer
records to the one for more. Neither preference ever sets aside something that was asked for
(`Arguments.Heeds`).
-/

namespace EchoInjector.CommandLine

/-! ### Presence and clashes -/

/-- A setting is **present** if the command line gives it or its variable is set, or both. -/
def Setting.Present (s : Setting) (events : List Event) (env : Environment) : Prop :=
  .setting s ∈ arguments events ∨ ∃ text, env s.envName = some text

/-- Arguments **clash** if the payload is asked for both as a text and by its length, or if both
fewer and more records are. -/
def Clash (events : List Event) (env : Environment) : Prop :=
  Setting.payload.Present events env ∧ Setting.payloadLength.Present events env ∨
    .flag .quiet ∈ events ∧ .flag .verbose ∈ events

section

variable {events : List Event} {env : Environment}

/-- A setting is present exactly if it is given or supplied. -/
theorem setting_mem_append_supplied {s : Setting} :
    .setting s ∈ arguments (events ++ supplied env events) ↔ s.Present events env := by
  rw [arguments_append, List.mem_append, setting_mem_supplied]
  exact or_and_left.trans (and_iff_right (em _))

/-- **Arguments are compatible exactly if they do not clash.** -/
theorem compatible_append_supplied_iff :
    Compatible (events ++ supplied env events) ↔ ¬ Clash events env := by
  constructor
  · rintro hcompatible (⟨htext, hlength⟩ | ⟨hquiet, hverbose⟩)
    · exact hcompatible (.setting .payload) _ rfl (setting_mem_append_supplied.mpr htext)
        (setting_mem_append_supplied.mpr hlength)
    · exact hcompatible (.flag .quiet) _ rfl (flag_mem_append_supplied.mpr hquiet)
        (flag_mem_append_supplied.mpr hverbose)
  · intro hclear a b hrival ha hb
    apply hclear
    cases a with
    | setting s =>
      left
      rw [setting_mem_append_supplied] at ha
      cases s <;> cases hrival <;> rw [setting_mem_append_supplied] at hb
      · exact ⟨ha, hb⟩
      · exact ⟨hb, ha⟩
    | flag f =>
      right
      rw [flag_mem_append_supplied] at ha
      cases f <;> cases hrival <;> rw [flag_mem_append_supplied] at hb
      · exact ⟨hb, ha⟩
      · exact ⟨ha, hb⟩

end

/-! ### What is refused -/

/-- The two that are found are rivals. -/
theorem rival?_of_conflict? {es : List Entry} {a b : Argument}
    (h : conflict? es = some (a, b)) : a.rival? = some b := by
  obtain ⟨e, -, hpair⟩ := List.exists_of_findSome?_eq_some h
  cases hrival : e.argument.rival? with
  | none =>
    rw [hrival] at hpair
    cases hpair
  | some r =>
    simp only [hrival, Option.ite_none_right_eq_some, Option.some_inj, Prod.mk.injEq] at hpair
    obtain ⟨-, rfl, rfl⟩ := hpair
    exact hrival

section

variable {texts : List String} {env : Environment} {es : List Entry} {events : List Event}

/-- Where arguments clash, two of them are complained about. -/
theorem exists_conflict_iff (h : gathered texts env = .ok es)
    (hholds : Holds es (events ++ supplied env events)) :
    (∃ x y, parse texts env = .error (.misuse (.conflict x y))) ↔ Clash events env := by
  rw [parse_of_gathered h, ← not_iff_not, ← compatible_append_supplied_iff,
    ← hholds.conflict?_eq_none_iff]
  cases conflict? es <;> simp

/-- Where they do not, the command line is accepted. -/
theorem exists_parse_iff (h : gathered texts env = .ok es)
    (hholds : Holds es (events ++ supplied env events)) :
    (∃ a, parse texts env = .ok a) ↔ ¬ Clash events env := by
  rw [parse_of_gathered h, ← compatible_append_supplied_iff, ← hholds.conflict?_eq_none_iff]
  cases conflict? es <;> simp

/-- The two that are complained about are rivals. -/
theorem rival?_of_conflict (h : gathered texts env = .ok es) {x y : Argument}
    (hparse : parse texts env = .error (.misuse (.conflict x y))) : x.rival? = some y := by
  rw [parse_of_gathered h] at hparse
  cases hfound : conflict? es with
  | none =>
    rw [hfound] at hparse
    cases hparse
  | some pair =>
    rw [hfound] at hparse
    cases hparse
    exact rival?_of_conflict? hfound

end

/-! ### What is followed -/

section

variable {s : Setting} {events : List Event} {env : Environment} {o : Option s.Value}

/-- A setting that is present has a value. -/
theorem Setting.Takes.exists_of_present (h : s.Takes events env o) (hs : s.Present events env) :
    ∃ v, o = some v := by
  cases h with
  | given => exact ⟨_, rfl⟩
  | supplied => exact ⟨_, rfl⟩
  | default habsent hunset =>
    obtain hgiven | ⟨text, hset⟩ := hs
    · exact absurd hgiven habsent
    · cases hunset.symm.trans hset

/-- A setting without a default has a value only if it is present. -/
theorem Setting.Takes.eq_none (h : s.Takes events env o) (hdefault : s.default? = none)
    (hs : ¬ s.Present events env) : o = none := by
  cases h with
  | given hmem => exact absurd (.inl (setting_mem_arguments.mpr ⟨_, hmem⟩)) hs
  | supplied _ hset => exact absurd (.inr ⟨_, hset⟩) hs
  | default => exact hdefault

end

namespace Arguments

/-- Arguments **heed** what is asked for if nothing of it is set aside. -/
structure Heeds (a : Arguments) (events : List Event) (env : Environment) : Prop where
  /-- The payload is asked for in one way only. -/
  one : ¬ (Setting.payload.Present events env ∧ Setting.payloadLength.Present events env)
  /-- Where a text is preferred, there is no length. -/
  alone : ∀ text, a.payload = some text → a.payloadLength = none
  /-- A length that is asked for is the length of the payload. -/
  length : Setting.payloadLength.Present events env →
    ∃ n, Setting.payloadLength.Takes events env (some n) ∧
      a.plan.probe.payload = List.replicate n.toNat 0
  /-- Whoever asks for more records is not served with fewer. -/
  more : .flag .verbose ∈ events → a.quiet = false ∧
    a.logLevel = if events.count (.flag .verbose) = 1 then .debug else .trace
  /-- Whoever asks for fewer records has not asked for more. -/
  fewer : .flag .quiet ∈ events → a.verbose = 0 ∧ a.logLevel = .warn

variable {a : Arguments} {events : List Event} {env : Environment}

/-- The environment does not count among the flags for more records. -/
theorem Answers.verbose_eq (h : a.Answers (events ++ supplied env events)) :
    a.verbose = min 255 (events.count (.flag .verbose)) := by
  have hnone : .flag .verbose ∉ supplied env events :=
    flag_mem_arguments.not.mp (flag_notMem_supplied env events _)
  rw [h.verbose, List.count_append, List.count_eq_zero.mpr hnone, Nat.add_zero]

theorem Answers.quiet_eq_true_iff (h : a.Answers (events ++ supplied env events)) :
    a.quiet = true ↔ .flag .quiet ∈ events := by
  rw [h.quiet, ← flag_mem_arguments, flag_mem_append_supplied]

/-- The level for flags that are given. -/
theorem logLevel_of_verbose {k : Nat} (hquiet : a.quiet = false) (hverbose : a.verbose = min 255 k)
    (hk : 0 < k) : a.logLevel = if k = 1 then .debug else .trace := by
  rw [logLevel, hquiet, if_neg Bool.false_ne_true, hverbose]
  by_cases hone : k = 1
  · rw [hone]
    rfl
  · obtain ⟨j, hj⟩ : ∃ j, min 255 k = j + 2 := ⟨min 255 k - 2, by omega⟩
    rw [hj, if_neg hone]
    rfl

/-- Where the length of the payload is asked for, there is no text. -/
theorem Answers.payload_eq_none (h : a.Answers (events ++ supplied env events))
    (hacc : Acceptable (events ++ supplied env events)) (hclear : ¬ Clash events env)
    (hlength : Setting.payloadLength.Present events env) : a.payload = none :=
  (h.takes hacc .payload).eq_none rfl fun htext => hclear (.inl ⟨htext, hlength⟩)

/-- **Where nothing clashes, everything that is asked for is heeded.** -/
theorem Answers.heeds (h : a.Answers (events ++ supplied env events))
    (hacc : Acceptable (events ++ supplied env events)) (hclear : ¬ Clash events env) :
    a.Heeds events env where
  one := fun hboth => hclear (.inl hboth)
  alone := by
    intro text htext
    refine (h.takes hacc .payloadLength).eq_none rfl fun hlength => ?_
    cases (h.payload_eq_none hacc hclear hlength).symm.trans htext
  length := by
    intro hlength
    have htaken := h.takes hacc .payloadLength
    obtain ⟨n, hn⟩ := htaken.exists_of_present hlength
    exact ⟨n, hn ▸ htaken, a.carries_plan.zeros (h.payload_eq_none hacc hclear hlength) n hn⟩
  more := by
    intro hmore
    have hquiet : a.quiet = false := by
      rw [← Bool.not_eq_true, h.quiet_eq_true_iff]
      exact fun hfewer => hclear (.inr ⟨hfewer, hmore⟩)
    exact ⟨hquiet, logLevel_of_verbose hquiet h.verbose_eq (List.count_pos_iff.mpr hmore)⟩
  fewer := by
    intro hfewer
    have hnone : .flag .verbose ∉ events := fun hmore => hclear (.inr ⟨hfewer, hmore⟩)
    refine ⟨?_, if_pos (h.quiet_eq_true_iff.mpr hfewer)⟩
    rw [h.verbose_eq, List.count_eq_zero.mpr hnone]
    rfl

end Arguments

/-- **Arguments that exclude each other are refused exactly if both are present.** Let everything on
a command line and in its environment be readable. Then the payload asked for twice, on the command
line or by variables, and the flags for fewer and for more records side by side are the two reasons
to refuse it, and each is complained about as a conflict of rivals. Arguments that are accepted heed
all that is asked for. -/
theorem conflicts_decide (texts : List String) (env : Environment) :
    (∀ es, gathered texts env = .ok es → ∃ events, Spells texts events ∧
      ((∃ x y, parse texts env = .error (.misuse (.conflict x y))) ↔ Clash events env) ∧
      (∀ x y, parse texts env = .error (.misuse (.conflict x y)) → x.rival? = some y) ∧
      ((∃ a, parse texts env = .ok a) ↔ ¬ Clash events env)) ∧
    ∀ a, parse texts env = .ok a → ∃ events, Spells texts events ∧ a.Heeds events env := by
  constructor
  · intro es hgathered
    obtain ⟨events, hspells, -, hholds⟩ := gathered_eq_ok hgathered
    exact ⟨events, hspells, exists_conflict_iff hgathered hholds,
      fun x y => rival?_of_conflict hgathered, exists_parse_iff hgathered hholds⟩
  · intro a hparse
    obtain ⟨events, hspells, hacc, hcompatible, hanswers⟩ := parse_eq_ok_iff.mp hparse
    exact ⟨events, hspells, hanswers.heeds hacc (compatible_append_supplied_iff.mp hcompatible)⟩

/-- An empty text in the environment stands in the way of a length on the command line. Without it
the length is heeded, and so is the flag beside it. -/
theorem conflicts_decide_about_length :
    (∃ x y, parse ["--payload-len=3"]
        (fun name => if name = "ECHO_PROBE_PAYLOAD" then some "" else none)
      = .error (.misuse (.conflict x y))) ∧
    ∃ a, parse ["-v", "--payload-len=3"] (fun _ => none) = .ok a ∧
      a.plan.probe.payload = [0, 0, 0] ∧ a.logLevel = .debug := by
  constructor
  · obtain ⟨events, hspells, hconflict, -, -⟩ := (conflicts_decide ["--payload-len=3"]
      (fun name => if name = "ECHO_PROBE_PAYLOAD" then some "" else none)).1
      [.value .payloadLength (3 : UInt16), .value .payload ""] rfl
    have hevents : events = [.value .payloadLength "3"] :=
      hspells.read_eq.symm.trans (by decide +kernel)
    subst hevents
    exact hconflict.mpr (.inl ⟨.inr ⟨"", rfl⟩, .inl (by decide)⟩)
  · have hparse : parse ["-v", "--payload-len=3"] (fun _ => none)
        = .ok { Arguments.ofEntries [] with payloadLength := some 3, verbose := 1 } := by
      decide +kernel
    obtain ⟨events, hspells, hheeds⟩ := (conflicts_decide _ _).2 _ hparse
    have hevents : events = [.flag .verbose, .value .payloadLength "3"] :=
      hspells.read_eq.symm.trans (by decide +kernel)
    subst hevents
    exact ⟨_, hparse, rfl, (hheeds.more (by decide)).2⟩

end EchoInjector.CommandLine
