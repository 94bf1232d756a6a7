import EchoInjector.CommandLine
import EchoInjector.Proofs.CommandLine.Taking

/-!
# Where values come from

A variable of the environment counts like an argument that is given behind all others, provided that
its setting is not given on the command line: `gathered_eq` replaces the environment by the events
that it supplies. The question what a command line means in an environment is thereby reduced to the
question what events mean, and `parse_eq_ok_iff` answers it. A command line is accepted exactly if
it spells events which, with those supplied behind them, are **acceptable** and **compatible**, and
the arguments are then those that **answer** to them.
-/

namespace EchoInjector.CommandLine

/-! ### What the environment supplies -/

/-- What an environment **supplies** to events: the values of the variables that are set, in the
order of the settings, of those settings that the events do not give. -/
def supplied (env : Environment) (events : List Event) : List Event :=
  Setting.all.filterMap fun s =>
    if .setting s ∈ arguments events then none else (env s.envName).map (.value s)

theorem Setting.mem_all (s : Setting) : s ∈ Setting.all := by
  cases s <;> decide

theorem Setting.nodup_all : Setting.all.Nodup := by
  decide

/-- What is supplied are values, of settings that the events do not give. -/
theorem mem_supplied {env : Environment} {events : List Event} {e : Event} :
    e ∈ supplied env events ↔
      ∃ s text, e = .value s text ∧ .setting s ∉ arguments events ∧ env s.envName = some text := by
  rw [supplied, List.mem_filterMap]
  constructor
  · rintro ⟨s, -, hs⟩
    split at hs
    case isTrue => cases hs
    case isFalse habsent =>
      obtain ⟨text, hset, rfl⟩ := Option.map_eq_some_iff.mp hs
      exact ⟨s, text, rfl, habsent, hset⟩
  · rintro ⟨s, text, rfl, habsent, hset⟩
    exact ⟨s, s.mem_all, by rw [if_neg habsent, hset]; rfl⟩

theorem value_mem_supplied {env : Environment} {events : List Event} {s : Setting}
    {text : String} :
    .value s text ∈ supplied env events ↔
      .setting s ∉ arguments events ∧ env s.envName = some text := by
  rw [mem_supplied]
  constructor
  · rintro ⟨_, _, ⟨⟩, habsent, hset⟩
    exact ⟨habsent, hset⟩
  · rintro ⟨habsent, hset⟩
    exact ⟨s, text, rfl, habsent, hset⟩

theorem setting_mem_supplied {env : Environment} {events : List Event} {s : Setting} :
    .setting s ∈ arguments (supplied env events) ↔
      .setting s ∉ arguments events ∧ ∃ text, env s.envName = some text := by
  rw [setting_mem_arguments]
  simp only [value_mem_supplied, exists_and_left]

/-- What the environment supplies is no flag. -/
theorem flag_notMem_supplied (env : Environment) (events : List Event) (f : Flag) :
    .flag f ∉ arguments (supplied env events) := by
  rw [flag_mem_arguments, mem_supplied]
  rintro ⟨_, _, ⟨⟩, -⟩

/-- Flags are given on the command line only. -/
theorem flag_mem_append_supplied {env : Environment} {events : List Event} {f : Flag} :
    .flag f ∈ arguments (events ++ supplied env events) ↔ .flag f ∈ events := by
  rw [arguments_append, List.mem_append, or_iff_left (flag_notMem_supplied env events f),
    flag_mem_arguments]

/-- Without variables nothing is supplied. -/
theorem supplied_of_none {env : Environment} (h : ∀ s : Setting, env s.envName = none)
    (events : List Event) : supplied env events = [] := by
  rw [supplied, List.filterMap_eq_nil_iff]
  intro s _
  rw [h s]
  split <;> rfl

/-- Variables of settings that are given do not matter. -/
theorem supplied_congr {env env' : Environment} {events : List Event}
    (h : ∀ s : Setting, .setting s ∉ arguments events → env s.envName = env' s.envName) :
    supplied env events = supplied env' events := by
  refine List.filterMap_congr fun s _ => ?_
  by_cases hs : .setting s ∈ arguments events
  · rw [if_pos hs, if_pos hs]
  · rw [if_neg hs, if_neg hs, h s hs]

/-! ### The environment as events -/

/-- Asking the environment for settings is taking what it supplies. -/
theorem foldlM_takeVariable (env : Environment) {settings : List Setting}
    (hnodup : settings.Nodup) (es : List Entry) :
    settings.foldlM (takeVariable env) es
      = (settings.filterMap fun s =>
          if isGiven es (.setting s) = true then none
          else (env s.envName).map (.value s)).foldlM take es := by
  induction settings generalizing es with
  | nil => rfl
  | cons s rest ih =>
    obtain ⟨hs, hrest⟩ := List.nodup_cons.mp hnodup
    rw [List.foldlM_cons]
    by_cases hgiven : isGiven es (.setting s) = true
    · rw [takeVariable, if_pos hgiven, List.filterMap_cons_none (by rw [if_pos hgiven])]
      exact ih hrest es
    · rw [takeVariable, if_neg hgiven]
      cases hset : env s.envName with
      | none =>
        rw [List.filterMap_cons_none (by rw [if_neg hgiven, hset]; rfl)]
        exact ih hrest es
      | some text =>
        rw [List.filterMap_cons_some (by rw [if_neg hgiven, hset]; rfl), List.foldlM_cons]
        change addValue es s text >>= _ = addValue es s text >>= _
        cases hadd : addValue es s text with
        | error ending => rfl
        | ok es' =>
          have hadds : Adds es (.value s text) es' := take_eq_ok_iff.mp hadd
          refine (ih hrest es').trans (congrArg (List.foldlM take es') ?_)
          refine List.filterMap_congr fun t ht => ?_
          -- the new entry is none of a setting that is still to come
          have hne : (Event.value s text).argument? ≠ some (.setting t) := by
            rintro ⟨⟩
            exact hs ht
          have hsame : isGiven es' (.setting t) = true ↔ isGiven es (.setting t) = true := by
            rw [hadds.isGiven_iff, or_iff_left hne]
          simp only [hsame]

/-- The entries of a command line in an environment, before they are searched for conflicts: all
texts have been read, and so have the values, those of variables included. -/
def gathered (texts : List String) (env : Environment) : Except Ending (List Entry) := do
  let given ← (read texts).foldlM take []
  Setting.all.foldlM (takeVariable env) given

/-- **What is given comes from the command line, and behind it from the environment.** -/
theorem gathered_eq (texts : List String) (env : Environment) :
    gathered texts env = (read texts ++ supplied env (read texts)).foldlM take [] := by
  rw [gathered, List.foldlM_append]
  cases hgiven : (read texts).foldlM take [] with
  | error ending => rfl
  | ok given =>
    have hholds : Holds given (read texts) := (foldlM_take_eq_ok hgiven).2
    change Setting.all.foldlM (takeVariable env) given
      = (supplied env (read texts)).foldlM take given
    rw [foldlM_takeVariable env Setting.nodup_all]
    simp only [hholds.given]
    rfl

/-- Conflicts are searched for in what was gathered. -/
theorem entries_eq (texts : List String) (env : Environment) :
    entries texts env = (do
      let all ← (read texts ++ supplied env (read texts)).foldlM take []
      match conflict? all with
      | some (a, b) => .error (.misuse (.conflict a b))
      | none => .ok all) := by
  rw [← gathered_eq, gathered, bind_assoc]
  rfl

/-! ### What events mean -/

/-- Events are **compatible** if no two of their arguments exclude each other. -/
def Compatible (events : List Event) : Prop :=
  ∀ a b, a.rival? = some b → a ∈ arguments events → b ∉ arguments events

/-- Rivals are so to each other. -/
theorem Argument.rival?_symm {a b : Argument} (h : a.rival? = some b) : b.rival? = some a := by
  cases a with
  | setting s => cases s <;> cases h <;> rfl
  | flag f => cases f <;> cases h <;> rfl

/-- The rival of a flag is a flag. -/
theorem Argument.exists_flag_of_rival? {f : Flag} {b : Argument}
    (h : (Argument.flag f).rival? = some b) : ∃ g, b = .flag g := by
  cases f <;> cases h <;> exact ⟨_, rfl⟩

/-- The arguments that events give are those of the entries. -/
theorem Holds.mem_arguments_iff {es : List Entry} {events : List Event} (h : Holds es events)
    {a : Argument} : a ∈ arguments events ↔ ∃ e ∈ es, e.argument = a := by
  rw [← h.given, isGiven, List.any_eq_true]
  simp only [decide_eq_true_eq]

theorem Holds.conflict?_eq_none_iff {es : List Entry} {events : List Event}
    (h : Holds es events) : conflict? es = none ↔ Compatible events := by
  rw [conflict?, List.findSome?_eq_none_iff]
  constructor
  · intro hnone a b hrival ha hb
    obtain ⟨e, he, rfl⟩ := h.mem_arguments_iff.mp ha
    have hclash := hnone e he
    rw [hrival] at hclash
    simp only [(h.given b).mpr hb, if_true] at hclash
    cases hclash
  · intro hcompatible e he
    have hself : e.argument ∈ arguments events := h.mem_arguments_iff.mpr ⟨e, he, rfl⟩
    cases hrival : e.argument.rival? with
    | none => rfl
    | some b =>
      have hb := hcompatible _ b hrival hself
      rw [← h.given] at hb
      exact if_neg hb

namespace Arguments

/-- The value of a setting, if it has one. -/
def value? (a : Arguments) : (s : Setting) → Option s.Value
  | .iface => some a.iface
  | .dstMac => some a.dstMac
  | .srcMac => a.srcMac
  | .src => some a.src
  | .dst => some a.dst
  | .ttl => some a.ttl
  | .ipIdent => some a.ipIdent
  | .icmpType => some a.icmpType
  | .icmpCode => some a.icmpCode
  | .ident => some a.ident
  | .seq => some a.seq
  | .payload => a.payload
  | .payloadLength => a.payloadLength
  | .count => some a.count
  | .interval => some a.interval

/-- A setting that is not given has its default. -/
theorem value?_ofEntries (es : List Entry) (s : Setting) :
    (ofEntries es).value? s = (valueGiven? es s).or s.default? := by
  cases s with
  | srcMac | payload | payloadLength => exact Option.or_none.symm
  | _ => exact Option.or_some.symm

end Arguments

/-- Arguments **answer** to events if every setting has the value that the events give to it, or
else its default, and the flags are those that the events give. -/
structure Arguments.Answers (a : Arguments) (events : List Event) : Prop where
  given : ∀ s text v, .value s text ∈ events → s.read text = .ok v → a.value? s = some v
  default : ∀ s, .setting s ∉ arguments events → a.value? s = s.default?
  layer3 : a.layer3 = true ↔ .flag .layer3 ∈ events
  dryRun : a.dryRun = true ↔ .flag .dryRun ∈ events
  json : a.json = true ↔ .flag .json ∈ events
  quiet : a.quiet = true ↔ .flag .quiet ∈ events
  verbose : a.verbose = min 255 (events.count (.flag .verbose))

/-- The arguments of entries answer to the events that the entries hold. -/
theorem Holds.answers {es : List Entry} {events : List Event} (h : Holds es events) :
    (Arguments.ofEntries es).Answers events where
  given := by
    intro s text v hmem hread
    rw [Arguments.value?_ofEntries, (h.value s v).mpr ⟨text, hmem, hread⟩, Option.some_or]
  default := by
    intro s habsent
    rw [← h.given, Bool.not_eq_true, ← valueGiven?_eq_none] at habsent
    rw [Arguments.value?_ofEntries, habsent, Option.none_or]
  layer3 := (h.given _).trans flag_mem_arguments
  dryRun := (h.given _).trans flag_mem_arguments
  json := (h.given _).trans flag_mem_arguments
  quiet := (h.given _).trans flag_mem_arguments
  verbose := h.verbosity

/-- Acceptable events have an answer. -/
theorem Acceptable.exists_answers {events : List Event} (h : Acceptable events) :
    ∃ a : Arguments, a.Answers events := by
  obtain ⟨es, htaken⟩ := h.exists_entries
  exact ⟨_, (foldlM_take_eq_ok htaken).2.answers⟩

/-- Arguments are told apart by the values of their settings and by their flags. -/
theorem Arguments.ext_value? {a b : Arguments} (hvalue : ∀ s, a.value? s = b.value? s)
    (hlayer3 : a.layer3 = b.layer3) (hdryRun : a.dryRun = b.dryRun) (hjson : a.json = b.json)
    (hverbose : a.verbose = b.verbose) (hquiet : a.quiet = b.quiet) : a = b := by
  cases a
  cases b
  simp only [mk.injEq]
  exact ⟨Option.some.inj (hvalue .iface), Option.some.inj (hvalue .dstMac), hvalue .srcMac,
    Option.some.inj (hvalue .src), Option.some.inj (hvalue .dst), Option.some.inj (hvalue .ttl),
    Option.some.inj (hvalue .ipIdent), Option.some.inj (hvalue .icmpType),
    Option.some.inj (hvalue .icmpCode), Option.some.inj (hvalue .ident),
    Option.some.inj (hvalue .seq), hvalue .payload, hvalue .payloadLength,
    Option.some.inj (hvalue .count), Option.some.inj (hvalue .interval), hlayer3, hdryRun, hjson,
    hverbose, hquiet⟩

/-- Acceptable events have one answer. -/
theorem Arguments.Answers.unique {a b : Arguments} {events : List Event} (ha : a.Answers events)
    (hb : b.Answers events) (hacc : Acceptable events) : a = b := by
  refine Arguments.ext_value? (fun s => ?_)
    (Bool.eq_iff_iff.mpr (ha.layer3.trans hb.layer3.symm))
    (Bool.eq_iff_iff.mpr (ha.dryRun.trans hb.dryRun.symm))
    (Bool.eq_iff_iff.mpr (ha.json.trans hb.json.symm)) (ha.verbose.trans hb.verbose.symm)
    (Bool.eq_iff_iff.mpr (ha.quiet.trans hb.quiet.symm))
  by_cases hs : .setting s ∈ arguments events
  · obtain ⟨text, hmem⟩ := setting_mem_arguments.mp hs
    obtain ⟨v, hread⟩ := hacc.readable s text hmem
    rw [ha.given s text v hmem hread, hb.given s text v hmem hread]
  · rw [ha.default s hs, hb.default s hs]

/-- What could be gathered are the entries of events that are acceptable. -/
theorem gathered_eq_ok {texts : List String} {env : Environment} {es : List Entry}
    (h : gathered texts env = .ok es) :
    ∃ events, Spells texts events ∧ Acceptable (events ++ supplied env events) ∧
      Holds es (events ++ supplied env events) := by
  rw [gathered_eq] at h
  obtain ⟨hacc, hholds⟩ := foldlM_take_eq_ok h
  exact ⟨_, spells_iff.mpr ⟨rfl, fun e he => (hacc.of_append.goesOn e he).1⟩, hacc, hholds⟩

/-- Acceptable events can be gathered. -/
theorem Acceptable.exists_gathered {texts : List String} {env : Environment} {events : List Event}
    (h : Acceptable (events ++ supplied env events)) (hspells : Spells texts events) :
    ∃ es, gathered texts env = .ok es ∧ Holds es (events ++ supplied env events) := by
  obtain rfl := hspells.read_eq
  obtain ⟨es, htaken⟩ := h.exists_entries
  exact ⟨es, (gathered_eq texts env).trans htaken, (foldlM_take_eq_ok htaken).2⟩

/-- What could be gathered is refused only for a conflict. -/
theorem parse_of_gathered {texts : List String} {env : Environment} {es : List Entry}
    (h : gathered texts env = .ok es) :
    parse texts env = match conflict? es with
      | some (a, b) => .error (.misuse (.conflict a b))
      | none => .ok (.ofEntries es) := by
  rw [parse, entries_eq, ← gathered_eq, h]
  simp only [bind, Except.bind]
  cases conflict? es <;> rfl

/-- What cannot be gathered is refused for the same reason. -/
theorem parse_of_not_gathered {texts : List String} {env : Environment} {ending : Ending}
    (h : gathered texts env = .error ending) : parse texts env = .error ending := by
  rw [parse, entries_eq, ← gathered_eq, h]
  rfl

/-- **What a command line means in an environment.** It is accepted exactly if it spells events
which, with those that the environment supplies behind them, are acceptable and compatible, and the
arguments are those that answer to them. -/
theorem parse_eq_ok_iff {texts : List String} {env : Environment} {a : Arguments} :
    parse texts env = .ok a ↔
      ∃ events, Spells texts events ∧ Acceptable (events ++ supplied env events) ∧
        Compatible (events ++ supplied env events) ∧ a.Answers (events ++ supplied env events) := by
  constructor
  · intro h
    cases hgathered : gathered texts env with
    | error ending => cases (parse_of_not_gathered hgathered).symm.trans h
    | ok es =>
      obtain ⟨events, hspells, hacc, hholds⟩ := gathered_eq_ok hgathered
      have hparse := (parse_of_gathered hgathered).symm.trans h
      cases hconflict : conflict? es with
      | some pair =>
        rw [hconflict] at hparse
        cases hparse
      | none =>
        rw [hconflict] at hparse
        cases hparse
        exact ⟨events, hspells, hacc, hholds.conflict?_eq_none_iff.mp hconflict, hholds.answers⟩
  · rintro ⟨events, hspells, hacc, hcompatible, hanswers⟩
    obtain ⟨es, hgathered, hholds⟩ := hacc.exists_gathered hspells
    rw [parse_of_gathered hgathered, hholds.conflict?_eq_none_iff.mpr hcompatible]
    exact congrArg Except.ok (hholds.answers.unique hanswers hacc)

/-! ### Acceptable with what is supplied -/

/-- Nothing is supplied twice. -/
theorem nodup_single_supplied (env : Environment) (events : List Event) :
    ((supplied env events).filterMap Event.single?).Nodup := by
  rw [supplied, List.filterMap_filterMap]
  refine Setting.nodup_all.filterMap fun s t a hs ht => ?_
  have hsetting : ∀ {s : Setting} {a : Argument}, a ∈ ((if .setting s ∈ arguments events then none
      else (env s.envName).map (.value s)).bind Event.single?) → a = .setting s := by
    intro s a hs
    obtain ⟨e, he, hsingle⟩ := Option.bind_eq_some_iff.mp hs
    split at he
    case isTrue => cases he
    case isFalse =>
      obtain ⟨text, -, rfl⟩ := Option.map_eq_some_iff.mp he
      exact (Option.some.inj hsingle).symm
  exact Argument.setting.inj ((hsetting hs).symm.trans (hsetting ht))

/-- Events are acceptable with what an environment supplies exactly if they are acceptable by
themselves, and every variable that counts has a value that can be read. -/
theorem acceptable_append_supplied_iff {env : Environment} {events : List Event} :
    Acceptable (events ++ supplied env events) ↔
      Acceptable events ∧ ∀ s, .setting s ∉ arguments events →
        ∀ text, env s.envName = some text → ∃ v, s.read text = .ok v := by
  constructor
  · intro h
    refine ⟨h.of_append, fun s habsent text hset => h.readable s text ?_⟩
    exact List.mem_append_right _ (value_mem_supplied.mpr ⟨habsent, hset⟩)
  · rintro ⟨hacc, hread⟩
    constructor
    case goesOn =>
      intro e he
      rcases List.mem_append.mp he with he | he
      · exact hacc.goesOn e he
      · obtain ⟨s, text, rfl, -⟩ := mem_supplied.mp he
        exact ⟨rfl, Event.noConfusion, Event.noConfusion⟩
    case readable =>
      intro s text he
      rcases List.mem_append.mp he with he | he
      · exact hacc.readable s text he
      · obtain ⟨habsent, hset⟩ := value_mem_supplied.mp he
        exact hread s habsent text hset
    case once =>
      rw [List.filterMap_append]
      refine hacc.once.append (nodup_single_supplied env events) fun a hgiven hsupplied => ?_
      obtain ⟨e, he, hsingle⟩ := List.mem_filterMap.mp hsupplied
      obtain ⟨s, text, rfl, habsent, -⟩ := mem_supplied.mp he
      cases hsingle
      exact habsent (mem_single.mp hgiven).1

end EchoInjector.CommandLine
