import EchoInjector.Proofs.CommandLine.Order

/-!
# A flag more

A **passage** of a command line, one occurrence or several, is recognized wherever it stands: one
occurrence has ended in front of it, and the next one begins behind it (`Passage.between_iff`).

So a flag may be put by its name anywhere where one occurrence has ended and the next one has not
begun: `spells_insert_iff` says that there is no other place for it. In front of a value that stands
by itself it would leave the setting without one, and behind a text of two hyphens it would be a
surprise.

What the flag does there does not depend on the place: `parse_flag_more_iff` compares any command
line with one that says the same without the flag. It is in the way only if its rival is there, or
if it is there already and may not be repeated. The flag that asks for a document has no rival
(`parse_insert_json_iff`).
-/

namespace EchoInjector.CommandLine

/-! ### Texts of an occurrence -/

/-- The second of two texts can stand by itself. -/
theorem Occurrence.isPlain {x y : String} {events : List Event} (h : Occurrence [x, y] events) :
    IsPlain y := by
  cases h with
  | separate s plain => exact plain
  | lettersSeparate letters plain => exact plain

/-- The first text of an occurrence cannot stand by itself. -/
theorem Occurrence.exists_first {texts : List String} {events : List Event}
    (h : Occurrence texts events) : ∃ x rest, texts = x :: rest ∧ ¬ IsPlain x := by
  have hlong : ∀ a : Argument, ¬ IsPlain ("--" ++ a.long) := by
    intro a
    rw [← shape_eq_plain_iff, shape_long]
    exact Shape.noConfusion
  have hletters : ∀ {cs events next}, Letters cs events next →
      ¬ IsPlain (String.ofList ('-' :: cs)) := by
    intro cs events next hcs
    rw [← shape_eq_plain_iff, shape_letters hcs]
    exact Shape.noConfusion
  cases h with
  | assigned s value =>
    refine ⟨_, _, rfl, ?_⟩
    rw [← shape_eq_plain_iff, shape_assignment]
    exact Shape.noConfusion
  | separate s => exact ⟨_, _, rfl, hlong (.setting s)⟩
  | named f => exact ⟨_, _, rfl, hlong (.flag f)⟩
  | letters letters => exact ⟨_, _, rfl, hletters letters⟩
  | lettersSeparate letters => exact ⟨_, _, rfl, hletters letters⟩

/-- There is no text of two hyphens in an occurrence. -/
theorem Occurrence.terminator_notMem {texts : List String} {events : List Event}
    (h : Occurrence texts events) : "--" ∉ texts := by
  have hname : ∀ a : Argument, Shape.of ("--" ++ a.long).toList ≠ .terminator := by
    intro a
    rw [shape_long]
    exact Shape.noConfusion
  have hplain : ∀ {value}, IsPlain value → Shape.of value.toList ≠ .terminator := by
    intro value hvalue
    rw [shape_eq_plain_iff.mpr hvalue]
    exact Shape.noConfusion
  have hletters : ∀ {cs events next}, Letters cs events next →
      Shape.of (String.ofList ('-' :: cs)).toList ≠ .terminator := by
    intro cs events next hcs
    rw [shape_letters hcs]
    exact Shape.noConfusion
  have hshape : ∀ text ∈ texts, Shape.of text.toList ≠ .terminator := by
    cases h with
    | assigned s value =>
      refine List.forall_mem_singleton.mpr ?_
      rw [shape_assignment]
      exact Shape.noConfusion
    | separate s plain =>
      exact List.forall_mem_cons.mpr
        ⟨hname (.setting s), List.forall_mem_singleton.mpr (hplain plain)⟩
    | named f => exact List.forall_mem_singleton.mpr (hname (.flag f))
    | letters letters => exact List.forall_mem_singleton.mpr (hletters letters)
    | lettersSeparate letters plain =>
      exact List.forall_mem_cons.mpr
        ⟨hletters letters, List.forall_mem_singleton.mpr (hplain plain)⟩
  exact fun hmem => hshape _ hmem rfl

/-- An occurrence stands for certain events. -/
theorem Occurrence.events_eq {texts : List String} {events events' : List Event}
    (h : Occurrence texts events) (h' : Occurrence texts events') : events = events' :=
  h.spells.unique h'.spells

/-! ### Command lines one behind the other -/

variable {before behind : List String}

/-- What is spelled in front, unless it is ended by two hyphens, is spelled in front of more. -/
theorem Spells.append {events more : List Event} (h : Spells before events)
    (hopen : "--" ∉ before) (hmore : Spells behind more) :
    Spells (before ++ behind) (events ++ more) := by
  induction h with
  | nil => exact hmore
  | terminator => exact absurd (List.mem_singleton_self _) hopen
  | cons occurrence spells ih =>
    rw [List.append_assoc, List.append_assoc]
    exact .cons occurrence (ih fun hmem => hopen (List.mem_append_right _ hmem))

/-- What begins with an occurrence goes on behind it. -/
theorem Spells.of_occurrence {texts : List String} {events all : List Event}
    (h : Spells (texts ++ behind) all) (hoccurrence : Occurrence texts events) :
    ∃ more, all = events ++ more ∧ Spells behind more := by
  generalize heq : texts ++ behind = line at h
  cases h with
  | nil =>
    rcases hoccurrence.eq_singleton_or_pair with ⟨x, rfl⟩ | ⟨x, y, rfl⟩ <;> cases heq
  | terminator =>
    rcases hoccurrence.eq_singleton_or_pair with ⟨x, rfl⟩ | ⟨x, y, rfl⟩ <;> cases heq
    exact absurd (List.mem_singleton_self _) hoccurrence.terminator_notMem
  | cons occurrence spells =>
    obtain rfl := hoccurrence.eq_of_append occurrence heq
    obtain rfl := List.append_cancel_left heq
    obtain rfl := hoccurrence.events_eq occurrence
    exact ⟨_, rfl, spells⟩

/-- What is spelled in front goes on behind it. -/
theorem Spells.of_append {events all : List Event} (h : Spells before events)
    (hopen : "--" ∉ before) (hall : Spells (before ++ behind) all) :
    ∃ more, all = events ++ more ∧ Spells behind more := by
  induction h generalizing all with
  | nil => exact ⟨all, rfl, hall⟩
  | terminator => exact absurd (List.mem_singleton_self _) hopen
  | cons occurrence spells ih =>
    rw [List.append_assoc] at hall
    obtain ⟨more, rfl, hrest⟩ := hall.of_occurrence occurrence
    obtain ⟨more, rfl, hbehind⟩ := ih (fun hmem => hopen (List.mem_append_right _ hmem)) hrest
    exact ⟨more, (List.append_assoc _ _ _).symm, hbehind⟩

/-! ### A command line inside another one -/

/-- A text that cannot stand by itself, and is found behind an occurrence, begins the next one or
stands behind it. -/
theorem Occurrence.of_append_cons {texts rest : List String} {events : List Event} {x : String}
    (h : Occurrence texts events) (hx : ¬ IsPlain x) (hne : before ≠ [])
    (heq : before ++ x :: behind = texts ++ rest) :
    ∃ others, before = texts ++ others ∧ rest = others ++ x :: behind := by
  obtain ⟨b, bs, rfl⟩ := List.exists_cons_of_ne_nil hne
  rcases h.eq_singleton_or_pair with ⟨y, rfl⟩ | ⟨y, z, rfl⟩
  · obtain ⟨rfl, hrest⟩ := List.cons.inj heq
    exact ⟨bs, rfl, hrest.symm⟩
  · obtain ⟨rfl, hrest⟩ := List.cons.inj heq
    rcases bs with _ | ⟨c, cs⟩
    · obtain ⟨rfl, -⟩ := List.cons.inj hrest
      exact absurd h.isPlain hx
    · obtain ⟨rfl, hcs⟩ := List.cons.inj hrest
      exact ⟨cs, rfl, hcs.symm⟩

/-- **A command line comes apart in front of a text that cannot stand by itself**, unless the text
ends it. -/
theorem Spells.exists_append {x : String} {all : List Event} (hx : ¬ IsPlain x) (hopen : x ≠ "--")
    (h : Spells (before ++ x :: behind) all) :
    ∃ first rest, Spells before first ∧ "--" ∉ before ∧ Spells (x :: behind) rest ∧
      all = first ++ rest := by
  generalize hline : before ++ x :: behind = line at h
  induction h generalizing before with
  | nil => exact absurd hline (by simp)
  | terminator =>
    obtain rfl : before = [] := by
      cases before with
      | nil => rfl
      | cons b bs => simp at hline
    obtain ⟨heq, -⟩ := List.cons.inj hline
    exact absurd heq hopen
  | cons occurrence spells ih =>
    by_cases hne : before = []
    · subst hne
      refine ⟨[], _, .nil, List.not_mem_nil, ?_, rfl⟩
      rw [show x :: behind = _ from hline]
      exact .cons occurrence spells
    · obtain ⟨others, rfl, hrest⟩ := occurrence.of_append_cons hx hne hline
      obtain ⟨first, rest, hbefore, hnotMem, hbehind, rfl⟩ := ih hrest.symm
      refine ⟨_, rest, .cons occurrence hbefore, ?_, hbehind, (List.append_assoc _ _ _).symm⟩
      exact fun hmem => (List.mem_append.mp hmem).elim occurrence.terminator_notMem hnotMem

/-- Texts are a **passage** if they are spelled by occurrences, at least one of them, and no text of
two hyphens ends them. -/
structure Passage (texts : List String) (events : List Event) : Prop where
  spells : Spells texts events
  unended : "--" ∉ texts
  nonempty : texts ≠ []

theorem Occurrence.passage {texts : List String} {events : List Event}
    (h : Occurrence texts events) : Passage texts events where
  spells := h.spells
  unended := h.terminator_notMem
  nonempty := by
    obtain ⟨x, rest, rfl, -⟩ := h.exists_first
    exact List.cons_ne_nil _ _

/-- More may stand behind an occurrence. -/
theorem Occurrence.passage_append {texts more : List String} {events others : List Event}
    (h : Occurrence texts events) (hmore : Passage more others) :
    Passage (texts ++ more) (events ++ others) where
  spells := .cons h hmore.spells
  unended := List.not_mem_append h.terminator_notMem hmore.unended
  nonempty := List.append_ne_nil_of_right_ne_nil _ hmore.nonempty

/-- A passage begins with a text that cannot stand by itself and does not end the arguments. -/
theorem Passage.exists_first {texts : List String} {events : List Event}
    (h : Passage texts events) :
    ∃ x rest, texts = x :: rest ∧ ¬ IsPlain x ∧ x ≠ "--" := by
  obtain ⟨hspells, hunended, hne⟩ := h
  obtain ⟨x, rest, rfl, hx⟩ : ∃ x rest, texts = x :: rest ∧ ¬ IsPlain x := by
    cases hspells with
    | nil => exact absurd rfl hne
    | terminator => exact absurd (List.mem_singleton_self _) hunended
    | cons occurrence spells =>
      obtain ⟨x, rest, rfl, hx⟩ := occurrence.exists_first
      exact ⟨x, _, rfl, hx⟩
  exact ⟨x, rest, rfl, hx, fun heq => hunended (heq ▸ List.mem_cons_self)⟩

/-- **A passage is recognized wherever it stands**: in front of it and behind it there are command
lines, of which the first one is not ended by two hyphens. -/
theorem Passage.between_iff {texts : List String} {events all : List Event}
    (h : Passage texts events) :
    Spells (before ++ (texts ++ behind)) all ↔
      ∃ first rest, Spells before first ∧ "--" ∉ before ∧ Spells behind rest ∧
        all = first ++ (events ++ rest) := by
  constructor
  · intro hall
    obtain ⟨x, others, rfl, hx, hopen⟩ := h.exists_first
    obtain ⟨first, rest, hbefore, hnotMem, hrest, rfl⟩ := hall.exists_append hx hopen
    obtain ⟨more, rfl, hbehind⟩ := h.spells.of_append h.unended hrest
    exact ⟨first, more, hbefore, hnotMem, hbehind, rfl⟩
  · rintro ⟨first, rest, hbefore, hnotMem, hbehind, rfl⟩
    exact hbefore.append hnotMem (h.spells.append h.unended hbehind)

/-- **A flag stands by its name between occurrences**, and not behind two hyphens. -/
theorem spells_insert_iff {f : Flag} {events : List Event} :
    Spells (before ++ ("--" ++ f.long) :: behind) events ↔
      ∃ first rest, Spells before first ∧ "--" ∉ before ∧ Spells behind rest ∧
        events = first ++ .flag f :: rest :=
  (Occurrence.named f).passage.between_iff

/-! ### What a flag more does -/

section

variable {f : Flag} {events : List Event}

theorem mem_arguments_cons_flag {a : Argument} :
    a ∈ arguments (.flag f :: events) ↔ a = .flag f ∨ a ∈ arguments events := by
  rw [arguments, List.filterMap_cons_some (f := Event.argument?) rfl, List.mem_cons, arguments]

/-- The environment supplies the same. -/
theorem supplied_cons_flag (env : Environment) :
    supplied env (.flag f :: events) = supplied env events :=
  List.filterMap_congr fun s _ => by simp [mem_arguments_cons_flag]

/-- A flag is nothing given twice if it is not there yet or may be repeated. -/
theorem nodup_single_cons_flag :
    ((Event.flag f :: events).filterMap Event.single?).Nodup ↔
      (events.filterMap Event.single?).Nodup ∧ (f ≠ .verbose → .flag f ∉ events) := by
  by_cases hf : f = .verbose
  · subst hf
    rw [List.filterMap_cons_none rfl, and_iff_left (absurd rfl)]
  · have hsingle : (Event.flag f).single? = some (.flag f) := Event.single?.eq_3 f hf
    rw [List.filterMap_cons_some hsingle, List.nodup_cons, mem_single, flag_mem_arguments, and_comm]
    simp [hf]

/-- A flag that does not end everything is acceptable once, unless it may be repeated. -/
theorem acceptable_cons_flag (hgoesOn : f ≠ .help ∧ f ≠ .version) :
    Acceptable (.flag f :: events) ↔ Acceptable events ∧ (f ≠ .verbose → .flag f ∉ events) := by
  constructor
  · rintro ⟨hall, hreadable, honce⟩
    obtain ⟨honce, hnew⟩ := nodup_single_cons_flag.mp honce
    exact ⟨⟨fun e he => hall e (List.mem_cons_of_mem _ he),
      fun s text he => hreadable s text (List.mem_cons_of_mem _ he), honce⟩, hnew⟩
  · rintro ⟨⟨hrest, hreadable, honce⟩, hnew⟩
    refine ⟨List.forall_mem_cons.mpr ⟨⟨rfl, by simpa using hgoesOn⟩, hrest⟩, fun s text he => ?_,
      nodup_single_cons_flag.mpr ⟨honce, hnew⟩⟩
    exact hreadable s text (List.mem_of_ne_of_mem Event.noConfusion he)

/-- A flag is compatible with what there is if its rival is not among it. -/
theorem compatible_cons_flag :
    Compatible (.flag f :: events) ↔
      Compatible events ∧ ∀ b, (Argument.flag f).rival? = some b → b ∉ arguments events := by
  constructor
  · intro h
    constructor
    · intro a b hrival ha hb
      exact h a b hrival (mem_arguments_cons_flag.mpr (.inr ha))
        (mem_arguments_cons_flag.mpr (.inr hb))
    · intro b hrival hb
      exact h _ b hrival (mem_arguments_cons_flag.mpr (.inl rfl))
        (mem_arguments_cons_flag.mpr (.inr hb))
  · rintro ⟨hevents, hnone⟩ a b hrival ha hb
    obtain rfl | ha := mem_arguments_cons_flag.mp ha
    · obtain rfl | hb := mem_arguments_cons_flag.mp hb
      · cases f <;> cases hrival
      · exact hnone b hrival hb
    · obtain rfl | hb := mem_arguments_cons_flag.mp hb
      · exact hnone a (Argument.rival?_symm hrival) ha
      · exact hevents a b hrival ha hb

/-- The arguments with a flag more. -/
def Arguments.withFlag (a : Arguments) : Flag → Arguments
  | .layer3 => { a with layer3 := true }
  | .dryRun => { a with dryRun := true }
  | .json => { a with json := true }
  | .quiet => { a with quiet := true }
  | .verbose => { a with verbose := min 255 (a.verbose + 1) }
  | .help | .version => a

/-- A flag is not about a setting. -/
@[simp] theorem Arguments.value?_withFlag (a : Arguments) (f : Flag) (s : Setting) :
    (a.withFlag f).value? s = a.value? s := by
  cases f <;> cases s <;> rfl

/-- Arguments answer to a flag and to the rest that answer to the rest, with the flag. -/
theorem Arguments.Answers.cons_flag {a : Arguments} (h : a.Answers events) :
    (a.withFlag f).Answers (.flag f :: events) where
  given := by
    intro s text v he hread
    rw [value?_withFlag]
    exact h.given s text v (List.mem_of_ne_of_mem Event.noConfusion he) hread
  default := by
    intro s habsent
    rw [value?_withFlag]
    exact h.default s fun hs => habsent (mem_arguments_cons_flag.mpr (.inr hs))
  layer3 := by cases f <;> simp [withFlag, h.layer3]
  dryRun := by cases f <;> simp [withFlag, h.dryRun]
  json := by cases f <;> simp [withFlag, h.json]
  quiet := by cases f <;> simp [withFlag, h.quiet]
  verbose := by
    cases f with
    | verbose =>
      change min 255 (a.verbose + 1) = _
      rw [h.verbose, List.count_cons_self]
      omega
    | _ => simp [withFlag, h.verbose]

end

/-- **A flag more on a command line**, wherever it stands and however it is spelled. The command
line is accepted exactly if it would be without the flag, no rival of the flag is on it, and the
flag is not on it yet or may be repeated. The arguments are those without it, but for the flag. -/
theorem parse_flag_more_iff {f : Flag} {texts texts' : List String} {events events' : List Event}
    {env : Environment} {b : Arguments} (hgoesOn : f ≠ .help ∧ f ≠ .version)
    (h : Spells texts events) (h' : Spells texts' events')
    (hperm : events'.Perm (.flag f :: events)) :
    parse texts' env = .ok b ↔
      (f ≠ .verbose → .flag f ∉ events) ∧
      (∀ g, (Argument.flag f).rival? = some (.flag g) → .flag g ∉ events) ∧
      ∃ a, parse texts env = .ok a ∧ b = a.withFlag f := by
  -- the flag may as well come first
  have hall : (events' ++ supplied env events').Perm
      (.flag f :: (events ++ supplied env events)) := by
    rw [supplied_perm hperm, supplied_cons_flag]
    exact hperm.append_right _
  have hnew : (f ≠ .verbose → .flag f ∉ events ++ supplied env events) ↔
      (f ≠ .verbose → .flag f ∉ events) := by
    rw [← flag_mem_arguments, flag_mem_append_supplied]
  have hrivals : (∀ c, (Argument.flag f).rival? = some c →
        c ∉ arguments (events ++ supplied env events)) ↔
      ∀ g, (Argument.flag f).rival? = some (.flag g) → .flag g ∉ events := by
    constructor
    · intro hnone g hrival hg
      exact hnone _ hrival (flag_mem_append_supplied.mpr hg)
    · intro hnone c hrival
      obtain ⟨g, rfl⟩ := Argument.exists_flag_of_rival? hrival
      rw [flag_mem_append_supplied]
      exact hnone g hrival
  constructor
  · intro hparse
    obtain ⟨events₀, hspells, hacc, hcompatible, hanswers⟩ := parse_eq_ok_iff.mp hparse
    obtain rfl := hspells.unique h'
    obtain ⟨hacc₀, hfirst⟩ := (acceptable_cons_flag hgoesOn).mp (hacc.perm hall.symm)
    obtain ⟨hcompatible₀, hnone⟩ := compatible_cons_flag.mp (hcompatible.perm hall.symm)
    obtain ⟨a, ha⟩ := hacc₀.exists_answers
    exact ⟨hnew.mp hfirst, hrivals.mp hnone, a,
      parse_eq_ok_iff.mpr ⟨events, h, hacc₀, hcompatible₀, ha⟩,
      hanswers.unique (ha.cons_flag.perm hall) hacc⟩
  · rintro ⟨hfirst, hnone, a, hparse, rfl⟩
    obtain ⟨events₀, hspells, hacc, hcompatible, hanswers⟩ := parse_eq_ok_iff.mp hparse
    obtain rfl := hspells.unique h
    exact parse_eq_ok_iff.mpr ⟨events', h',
      ((acceptable_cons_flag hgoesOn).mpr ⟨hacc, hnew.mpr hfirst⟩).perm hall,
      (compatible_cons_flag.mpr ⟨hcompatible, hrivals.mpr hnone⟩).perm hall,
      hanswers.cons_flag.perm hall⟩

/-- **To ask for a document as well.** A command line with the flag somewhere on it is accepted
exactly if the flag stands between two occurrences, or at one end, and the rest is accepted and does
not ask for a document yet. The arguments are those of the rest, with the document. -/
theorem parse_insert_json_iff {env : Environment} {b : Arguments} :
    parse (before ++ "--json" :: behind) env = .ok b ↔
      (∃ events, Spells before events) ∧ "--" ∉ before ∧
        ∃ a, parse (before ++ behind) env = .ok a ∧ a.json = false ∧ b = { a with json := true } := by
  have hnew : ∀ {events : List Event} {a : Arguments}, Spells (before ++ behind) events →
      parse (before ++ behind) env = .ok a → (.flag .json ∉ events ↔ a.json = false) := by
    intro events a hspells hparse
    obtain ⟨events₀, hspells₀, -, -, hanswers⟩ := parse_eq_ok_iff.mp hparse
    obtain rfl := hspells₀.unique hspells
    have hjson : a.json = true ↔ .flag .json ∈ events₀ := by
      rw [hanswers.json, ← flag_mem_arguments, flag_mem_append_supplied]
    rw [← hjson, Bool.not_eq_true]
  constructor
  · intro h
    obtain ⟨events, hspells, -⟩ := parse_eq_ok_iff.mp h
    obtain ⟨first, rest, hbefore, hopen, hbehind, rfl⟩ := (spells_insert_iff (f := .json)).mp hspells
    have hwithout := hbefore.append hopen hbehind
    obtain ⟨hfirst, -, a, hparse, rfl⟩ :=
      (parse_flag_more_iff (by decide) hwithout hspells List.perm_middle).mp h
    exact ⟨⟨first, hbefore⟩, hopen, a, hparse, (hnew hwithout hparse).mp (hfirst (by decide)), rfl⟩
  · rintro ⟨⟨first, hbefore⟩, hopen, a, hparse, hjson, rfl⟩
    obtain ⟨events, hwithout, -⟩ := parse_eq_ok_iff.mp hparse
    obtain ⟨rest, rfl, hbehind⟩ := hbefore.of_append hopen hwithout
    have hinserted : Spells (before ++ "--json" :: behind) (first ++ .flag .json :: rest) :=
      (spells_insert_iff (f := .json)).mpr ⟨first, rest, hbefore, hopen, hbehind, rfl⟩
    refine (parse_flag_more_iff (by decide) hwithout hinserted List.perm_middle).mpr
      ⟨fun _ => (hnew hwithout hparse).mpr hjson, fun g hrival => ?_, a, hparse, rfl⟩
    cases hrival

end EchoInjector.CommandLine
