import EchoInjector.Proofs.Log.Deciding
import EchoInjector.Proofs.Program.Output

/-!
# Who decides what is logged

The flags for more and for fewer records give the program's own topics a level, and the variable of
the log gives a specification. Where the two disagree, the specification is the stronger one about
the topics that it names, by the program's path or a longer one. **It is the weaker one about all
others**: a level for everything, or for a shorter path, does not reach as far as the program's own
directive (`specification_decides_iff`). So a specification that switches everything off leaves the
flags in force (`shown_though_switched_off`), while one that names the program makes them irrelevant
for whatever the program does.
-/

namespace EchoInjector

open CommandLine

namespace Log

/-- Ranks tell levels apart. -/
theorem Level.rank_injective : Function.Injective Level.rank := by
  intro l l' h
  cases l <;> cases l' <;> first | rfl | cases h

namespace Filter

/-- Whether a filter has no pattern, or one that occurs in a text. -/
def Passes (f : Filter) (text : String) : Prop := ∀ p, f.pattern? = some p → p.occursIn text = true

theorem admits_iff {f : Filter} {r : Record} :
    f.admits r = true ↔
      (∃ d, f.deciding? r.topic.path = some d ∧ d.threshold.admits r.level = true) ∧
        f.Passes r.text := by
  rw [admits, Bool.and_eq_true, Option.any_eq_true, Option.all_eq_true]
  rfl

variable {l l' : Level} {r : Record} {specification : String}

/-- What a specification passes does not depend on the filter that it is added to. -/
theorem passes_extend_base {text : String} :
    ((base l).extend specification).1.Passes text ↔ (stated specification).Passes text := by
  rw [Passes, Passes, pattern?_extend rfl]

/-- **About named topics the specification has its way.** -/
theorem admits_of_names (h : (stated specification).Names r.topic) :
    ((base l).extend specification).1.admits r = (stated specification).admits r := by
  rw [Bool.eq_iff_iff, admits_iff, admits_iff, deciding?_of_names h, passes_extend_base]

/-- **About the others the flags have theirs**, with what the pattern leaves. -/
theorem admits_iff_of_not_names (h : ¬ (stated specification).Names r.topic) :
    ((base l).extend specification).1.admits r = true ↔
      r.level.rank ≤ l.rank ∧ (stated specification).Passes r.text := by
  rw [admits_iff, deciding?_of_not_names h, passes_extend_base]
  simp [ownDirective, Threshold.admits]

/-- Two levels differ in a record of any topic that is not named, with any text that passes. -/
theorem exists_admits_ne {t : Topic} {text : String} (hlevel : l.rank < l'.rank)
    (hnames : ¬ (stated specification).Names t) (hpasses : (stated specification).Passes text) :
    ∃ r : Record, r.topic = t ∧
      ¬ ((base l).extend specification).1.admits r = true ∧
      ((base l').extend specification).1.admits r = true := by
  refine ⟨⟨l', t, text⟩, rfl, ?_, ?_⟩
  · rw [admits_iff_of_not_names hnames]
    exact fun h => Nat.not_le.mpr hlevel h.1
  · exact (admits_iff_of_not_names hnames).mpr ⟨Nat.le_refl _, hpasses⟩

/-- **The level of the flags is irrelevant exactly for named topics**, unless nothing passes. -/
theorem admits_congr_iff {t : Topic} :
    (∀ r : Record, r.topic = t →
      ((base l).extend specification).1.admits r = ((base l').extend specification).1.admits r) ↔
        l = l' ∨ (stated specification).Names t ∨
          ∀ text, ¬ (stated specification).Passes text := by
  constructor
  · intro h
    by_contra! hnot
    obtain ⟨hne, hnames, text, hpasses⟩ := hnot
    obtain hlt | hlt := Nat.lt_or_gt_of_ne (Level.rank_injective.ne hne)
    · obtain ⟨r, hr, hhidden, hshown⟩ := exists_admits_ne hlt hnames hpasses
      exact hhidden ((h r hr).trans hshown)
    · obtain ⟨r, hr, hhidden, hshown⟩ := exists_admits_ne hlt hnames hpasses
      exact hhidden ((h r hr).symm.trans hshown)
  · rintro (rfl | hnames | hnone) r rfl
    · rfl
    · rw [admits_of_names hnames, admits_of_names hnames]
    · have hhidden : ∀ l, ((base l).extend specification).1.admits r = false := by
        intro l
        rw [← Bool.not_eq_true, admits_iff, passes_extend_base]
        exact fun h => hnone r.text h.2
      rw [hhidden, hhidden]

/-- To name the program is to name all of its topics. -/
theorem Names.of_program {f : Filter} (h : f.Names .program) (t : Topic) : f.Names t := by
  obtain ⟨d, hd, path, hpath, hprogram, htopic⟩ := h
  exact ⟨d, hd, path, hpath, hprogram, htopic.trans (path_starts_with_program t)⟩

end Filter

end Log

namespace Program

open Log

/-- The records that a plan leads to, shown or not. -/
def recordsOf (quiet : Nat) (p : Plan) (h : Host) : List Record :=
  ⟨.debug, .program, p.note⟩ :: (perform quiet p h).log

/-- The log as it is written: warnings about the specification, and the records that are shown. -/
def logText (i : Invocation) (l : Level) (records : List Record) : String :=
  unlines (logFilter l i.env).2
    ++ String.join ((records.filter (logFilter l i.env).1.admits).map (·.line i.time))

section

variable {quiet : Nat} {i j : Invocation} {a b : Arguments} {h : Host} {specification : String}

/-- The level of the flags appears in the log only. -/
theorem carryOut_eq (quiet : Nat) (i : Invocation) (a : Arguments) (h : Host) :
    carryOut quiet i a h = match (perform quiet a.plan h).result with
      | .ok text => ⟨0, text, logText i a.logLevel (recordsOf quiet a.plan h),
          (perform quiet a.plan h).state⟩
      | .error f => ⟨1, "", logText i a.logLevel (recordsOf quiet a.plan h)
          ++ failureText (context a.plan) f, (perform quiet a.plan h).state⟩ := rfl

/-- A plan that only shows its packet leaves nothing but the log, if there is a packet. -/
theorem stderr_run_of_dry (hparse : parse i.arguments i.env = .ok a)
    (hdry : a.plan.dryRun = true) (hp : a.plan.probe.payload.length ≤ 65507) :
    (run i h).stderr = logText i a.logLevel [⟨.debug, .program, a.plan.note⟩] := by
  obtain ⟨crafted, hcraft⟩ := Plan.exists_craft hp (a.plan.probe.srcMac.getD .zero)
  have hshown : a.plan.shown = .ok crafted := hcraft
  rw [run, runUnder, hparse]
  dsimp only
  rw [carryOut_eq, recordsOf, perform_dry hdry, hshown]
  rfl

/-- The warnings do not depend on the level. -/
theorem logFilter_snd (l l' : Level) (env : Environment) :
    (logFilter l env).2 = (logFilter l' env).2 := by
  rw [logFilter, logFilter]
  cases env logVariable with
  | none => rfl
  | some specification =>
    dsimp only
    rw [Filter.extend, Filter.extend]
    cases specification.toList.splitOn '/' with
    | nil => rfl
    | cons items patterns =>
      dsimp only
      split_ifs <;> rfl

/-- The log is the same at two levels at which the same is shown. -/
theorem logText_congr {l l' : Level} (henv : j.env = i.env) (htime : j.time = i.time)
    (hshown : ∀ r, (logFilter l' i.env).1.admits r = (logFilter l i.env).1.admits r)
    (records : List Record) : logText j l' records = logText i l records := by
  rw [logText, logText, henv, htime, logFilter_snd l' l i.env, funext hshown]

/-- **A specification that names the program makes the flags irrelevant.** -/
theorem runUnder_eq_of_names {looks : Plan → Nat} (henv : j.env = i.env) (htime : j.time = i.time)
    (hspecification : i.env logVariable = some specification)
    (hi : parse i.arguments i.env = .ok a) (hj : parse j.arguments j.env = .ok b)
    (hplan : b.plan = a.plan) (hnames : (Filter.stated specification).Names .program) :
    runUnder looks j h = runUnder looks i h := by
  have hshown : ∀ r, (logFilter b.logLevel i.env).1.admits r
      = (logFilter a.logLevel i.env).1.admits r := by
    intro r
    have hnamed := hnames.of_program r.topic
    rw [logFilter, logFilter, hspecification]
    exact (Filter.admits_of_names hnamed).trans (Filter.admits_of_names hnamed).symm
  rw [runUnder, runUnder, hi, hj]
  dsimp only
  rw [carryOut_eq, carryOut_eq, hplan, logText_congr henv htime hshown]

end

/-! ### The flags and the specification -/

/-- **A specification decides exactly about the topics that it names.** A record of such a topic is
shown if the specification by itself would show it, and any other record if it is within the level of
the flags and the pattern passes its text. So two levels show the same records of a topic exactly if
they are one level, or the topic is named, or the pattern passes nothing. Where the program is named,
two command lines that differ only in the flags for more and for fewer records have the same
outcome. -/
theorem specification_decides_iff (specification : String) :
    (∀ l (r : Record), (Filter.stated specification).Names r.topic →
      ((Filter.base l).extend specification).1.admits r
        = (Filter.stated specification).admits r) ∧
    (∀ l (r : Record), ¬ (Filter.stated specification).Names r.topic →
      (((Filter.base l).extend specification).1.admits r = true ↔
        r.level.rank ≤ l.rank ∧ (Filter.stated specification).Passes r.text)) ∧
    (∀ l l' (t : Topic),
      (∀ r : Record, r.topic = t →
        ((Filter.base l).extend specification).1.admits r
          = ((Filter.base l').extend specification).1.admits r) ↔
        l = l' ∨ (Filter.stated specification).Names t ∨
          ∀ text, ¬ (Filter.stated specification).Passes text) ∧
    ((Filter.stated specification).Names .program →
      ∀ looks (i j : Invocation) h a b, j.env = i.env → j.time = i.time →
        i.env logVariable = some specification → parse i.arguments i.env = .ok a →
        parse j.arguments j.env = .ok b → b.plan = a.plan →
        runUnder looks j h = runUnder looks i h) := by
  refine ⟨fun l r => Filter.admits_of_names, fun l r => Filter.admits_iff_of_not_names,
    fun l l' t => Filter.admits_congr_iff, ?_⟩
  intro hnames looks i j h a b henv htime hspecification hi hj hplan
  exact runUnder_eq_of_names henv htime hspecification hi hj hplan hnames

/-- An environment in which nothing but the specification of the log is set. -/
def loggingOnly (specification : String) : Environment :=
  fun name => if name = logVariable then some specification else none

/-- A specification that switches the program off does so whatever the flags are. -/
theorem specification_decides_iff_off :
    let i : Invocation := { arguments := ["-n"], env := loggingOnly "echo_probe=off", time := "" }
    let j : Invocation := { i with arguments := ["-n", "-vv"] }
    (Filter.stated "echo_probe=off").Names .program ∧
      parse i.arguments i.env = .ok { Arguments.ofEntries [] with dryRun := true } ∧
      parse j.arguments j.env = .ok { Arguments.ofEntries [] with dryRun := true, verbose := 2 } ∧
      run j { entries := [] } = run i { entries := [] } := by
  intro i j
  have hstated : (Filter.stated "echo_probe=off").directives = [⟨some "echo_probe", none⟩] := by
    decide +kernel
  have hnames : (Filter.stated "echo_probe=off").Names .program :=
    ⟨_, hstated ▸ List.mem_singleton_self _, _, rfl, List.prefix_rfl, List.prefix_rfl⟩
  have hquiet : parse i.arguments i.env = .ok { Arguments.ofEntries [] with dryRun := true } := by
    decide +kernel
  have htalkative : parse j.arguments j.env
      = .ok { Arguments.ofEntries [] with dryRun := true, verbose := 2 } := by
    decide +kernel
  obtain ⟨-, -, -, hflags⟩ := specification_decides_iff "echo_probe=off"
  exact ⟨hnames, hquiet, htalkative, hflags hnames (fun p => p.undisturbed { entries := [] }) i j
    { entries := [] } _ _ rfl rfl rfl hquiet htalkative rfl⟩

/-- **Switched off, and still shown.** The specification switches everything off. It leaves nothing
to see where a packet is only shown; and yet, with the flag for more records, the plan is noted. -/
theorem shown_though_switched_off :
    let i : Invocation := { arguments := ["-n"], env := loggingOnly "off", time := "" }
    let j : Invocation := { i with arguments := ["-n", "-v"] }
    let p : Plan := { Plan.standard with dryRun := true }
    (Filter.stated "off").directives = [⟨none, none⟩] ∧
      (∃ a, parse i.arguments i.env = .ok a ∧ a.plan = p ∧ a.verbose = 0) ∧
      (∃ b, parse j.arguments j.env = .ok b ∧ b.plan = p ∧ b.verbose = 1) ∧
      (run i { entries := [] }).stderr = "" ∧
      (run j { entries := [] }).stderr = (⟨.debug, .program, p.note⟩ : Record).line "" := by
  intro i j p
  have hquiet : parse i.arguments i.env = .ok { Arguments.ofEntries [] with dryRun := true } := by
    decide +kernel
  have htalkative : parse j.arguments j.env
      = .ok { Arguments.ofEntries [] with dryRun := true, verbose := 1 } := by
    decide +kernel
  have hshown : (logFilter .debug j.env).1.admits ⟨.debug, .program, p.note⟩ = true := by
    decide +kernel
  refine ⟨by decide +kernel, ⟨_, hquiet, rfl, rfl⟩, ⟨_, htalkative, rfl, rfl⟩, ?_, ?_⟩
  · rw [stderr_run_of_dry hquiet rfl (Nat.zero_le _)]
    decide +kernel
  · rw [stderr_run_of_dry htalkative rfl (Nat.zero_le _)]
    change unlines (logFilter .debug j.env).2 ++ String.join
      ((List.filter (logFilter .debug j.env).1.admits [⟨.debug, .program, p.note⟩]).map _) = _
    have hwarnings : (logFilter .debug j.env).2 = [] := by decide +kernel
    rw [hwarnings, List.filter_cons_of_pos hshown]
    simp [unlines, String.join, i, j]

end Program

end EchoInjector
