import Mathlib.Data.List.Induction
import Mathlib.Data.List.Nodup
import EchoInjector.Proofs.CommandLine.Spelling
import EchoInjector.CommandLine.Entry

/-!
# Which events are taken

The events of a command line are taken one after the other, and each one that is taken changes the
list of entries in one of three ways (`Adds`). What the entries are in the end, as far as anybody
asks them, can be told from the events as a whole and without their order:

* events are **acceptable** if they are arguments other than those that end everything, every value
  can be read, and nothing is given twice that may be given once;
* the entries **hold** the events if they give what the events give: the same arguments, the values
  that were read, and the number of times that the flag for more records was met, up to its limit.

`foldlM_take_eq_ok` and `Acceptable.exists_entries` say that the acceptable events are exactly those
that are taken, and that the entries then hold them. The invariant of the induction is just that.
-/

namespace EchoInjector.CommandLine

/-! ### Asking entries -/

@[simp] theorem isGiven_nil (a : Argument) : isGiven [] a = false := rfl

theorem isGiven_concat (es : List Entry) (e : Entry) (a : Argument) :
    isGiven (es ++ [e]) a = true ↔ isGiven es a = true ∨ e.argument = a := by
  rw [isGiven, isGiven, List.any_append, Bool.or_eq_true, List.any_cons, List.any_nil,
    Bool.or_false, decide_eq_true_eq]

@[simp] theorem valueGiven?_nil (s : Setting) : valueGiven? [] s = none := rfl

@[simp] theorem valueGiven?_concat (es : List Entry) (e : Entry) (s : Setting) :
    valueGiven? (es ++ [e]) s = (valueGiven? es s).or (e.value? s) := by
  simp [valueGiven?]

@[simp] theorem verbosity_concat (es : List Entry) (e : Entry) :
    verbosity (es ++ [e]) = verbosity es + e.times := by
  simp [verbosity]

@[simp] theorem Entry.value?_value (s : Setting) (v : s.Value) :
    (Entry.value s v).value? s = some v := by
  simp [Entry.value?]

theorem Entry.isSome_value? (e : Entry) (s : Setting) :
    (e.value? s).isSome = true ↔ e.argument = .setting s := by
  cases e with
  | value t v =>
    by_cases h : t = s
    · subst h
      simp [Entry.argument]
    · simp [Entry.value?, Entry.argument, h]
  | flag f => simp [Entry.value?, Entry.argument]
  | verbose n => simp [Entry.value?, Entry.argument]

/-- A setting is given if a value of it is. -/
theorem isSome_valueGiven? (es : List Entry) (s : Setting) :
    (valueGiven? es s).isSome = true ↔ isGiven es (.setting s) = true := by
  induction es using List.reverseRecOn with
  | nil => rfl
  | append_singleton es e ih =>
    rw [valueGiven?_concat, isGiven_concat, Option.isSome_or, Bool.or_eq_true, ih,
      Entry.isSome_value?]

theorem valueGiven?_eq_none {es : List Entry} {s : Setting} :
    valueGiven? es s = none ↔ isGiven es (.setting s) = false := by
  rw [← Option.not_isSome_iff_eq_none, isSome_valueGiven?, Bool.not_eq_true]

/-! ### One event -/

/-- The argument that an event gives, if it is one. -/
def Event.argument? : Event → Option Argument
  | .value s _ => some (.setting s)
  | .flag f => some (.flag f)
  | .missing _ | .surplus _ _ | .unknown _ => none

/-- The argument that an event gives, if that may be given only once. -/
def Event.single? : Event → Option Argument
  | .value s _ => some (.setting s)
  | .flag .verbose => none
  | .flag f => some (.flag f)
  | .missing _ | .surplus _ _ | .unknown _ => none

/-- The arguments that events give. -/
def arguments (events : List Event) : List Argument := events.filterMap Event.argument?

@[simp] theorem arguments_append (events more : List Event) :
    arguments (events ++ more) = arguments events ++ arguments more :=
  List.filterMap_append

theorem setting_mem_arguments {events : List Event} {s : Setting} :
    .setting s ∈ arguments events ↔ ∃ text, .value s text ∈ events := by
  rw [arguments, List.mem_filterMap]
  constructor
  · rintro ⟨e, he, harg⟩
    cases e <;> cases harg
    exact ⟨_, he⟩
  · rintro ⟨text, he⟩
    exact ⟨_, he, rfl⟩

theorem flag_mem_arguments {events : List Event} {f : Flag} :
    .flag f ∈ arguments events ↔ .flag f ∈ events := by
  rw [arguments, List.mem_filterMap]
  constructor
  · rintro ⟨e, he, harg⟩
    cases e <;> cases harg
    exact he
  · intro he
    exact ⟨_, he, rfl⟩

/-- The entries without the one that counts how often the flag for more records is given. -/
def withoutVerbose (es : List Entry) : List Entry := es.filter (·.argument ≠ .flag .verbose)

/-- **What an event that is taken does to the entries.** -/
inductive Adds (es : List Entry) : Event → List Entry → Prop
  /-- A value that can be read becomes an entry, if its setting has none. -/
  | value {s : Setting} {text : String} {v : s.Value} (new : isGiven es (.setting s) = false)
      (read : s.read text = .ok v) : Adds es (.value s text) (es ++ [.value s v])
  /-- A flag that may be given once becomes an entry, if it is none. -/
  | flag {f : Flag} (single : f ≠ .verbose) (goesOn : f ≠ .help ∧ f ≠ .version)
      (new : isGiven es (.flag f) = false) : Adds es (.flag f) (es ++ [.flag f])
  /-- The flag for more records is counted once more. -/
  | verbose : Adds es (.flag .verbose)
      (withoutVerbose es ++ [.verbose (min 255 (verbosity es + 1))])

theorem take_eq_ok_iff {es es' : List Entry} {e : Event} :
    take es e = .ok es' ↔ Adds es e es' := by
  constructor
  · intro h
    cases e with
    | value s text =>
      simp only [take, addValue] at h
      split at h
      case isTrue => cases h
      case isFalse hnew =>
        cases hread : s.read text with
        | error why =>
          rw [hread] at h
          cases h
        | ok v =>
          rw [hread] at h
          cases h
          exact .value (Bool.eq_false_iff.mpr hnew) hread
    | flag f =>
      by_cases hverbose : f = .verbose
      · subst hverbose
        cases h
        exact .verbose
      · have honce : take es (.flag f) = addOnce es (.flag f) ∧ f ≠ .help ∧ f ≠ .version := by
          cases f with
          | help | version => cases h
          | verbose => exact absurd rfl hverbose
          | layer3 | dryRun | json | quiet => exact ⟨rfl, by decide, by decide⟩
        rw [honce.1, addOnce] at h
        split at h
        case isTrue => cases h
        case isFalse hnew =>
          cases h
          exact .flag hverbose honce.2 (Bool.eq_false_iff.mpr hnew)
    | missing | surplus | unknown => cases h
  · intro h
    cases h with
    | value new read => simp [take, addValue, new, read]
    | @flag f single goesOn new =>
      have honce : take es (.flag f) = addOnce es (.flag f) := by
        cases f with
        | help => exact absurd rfl goesOn.1
        | version => exact absurd rfl goesOn.2
        | verbose => exact absurd rfl single
        | layer3 | dryRun | json | quiet => rfl
      have hnew : isGiven es (Entry.flag f).argument = false := new
      rw [honce, addOnce, hnew]
      rfl
    | verbose => rfl

theorem isGiven_withoutVerbose (es : List Entry) (a : Argument) :
    isGiven (withoutVerbose es) a = true ↔ isGiven es a = true ∧ a ≠ .flag .verbose := by
  simp only [isGiven, withoutVerbose, List.any_filter, List.any_eq_true, Bool.and_eq_true,
    decide_eq_true_eq]
  constructor
  · rintro ⟨e, he, hother, rfl⟩
    exact ⟨⟨e, he, rfl⟩, hother⟩
  · rintro ⟨⟨e, he, rfl⟩, hother⟩
    exact ⟨e, he, hother, rfl⟩

theorem withoutVerbose_concat (es : List Entry) (e : Entry) :
    withoutVerbose (es ++ [e])
      = if e.argument = .flag .verbose then withoutVerbose es else withoutVerbose es ++ [e] := by
  rw [withoutVerbose, List.filter_append]
  by_cases he : e.argument = .flag .verbose <;> simp [he, withoutVerbose]

/-- The count is not the value of a setting. -/
theorem valueGiven?_withoutVerbose (es : List Entry) (s : Setting) :
    valueGiven? (withoutVerbose es) s = valueGiven? es s := by
  induction es using List.reverseRecOn with
  | nil => rfl
  | append_singleton es e ih =>
    rw [withoutVerbose_concat, valueGiven?_concat]
    by_cases he : e.argument = .flag .verbose
    · have hvalue : e.value? s = none := by
        rw [← Option.not_isSome_iff_eq_none, Entry.isSome_value?, he]
        exact Argument.noConfusion
      rw [if_pos he, ih, hvalue, Option.or_none]
    · rw [if_neg he, valueGiven?_concat, ih]

theorem verbosity_withoutVerbose (es : List Entry) : verbosity (withoutVerbose es) = 0 := by
  induction es using List.reverseRecOn with
  | nil => rfl
  | append_singleton es e ih =>
    rw [withoutVerbose_concat]
    by_cases he : e.argument = .flag .verbose
    · rw [if_pos he, ih]
    · have htimes : e.times = 0 := by
        cases e with
        | value | flag => rfl
        | verbose => exact absurd rfl he
      rw [if_neg he, verbosity_concat, ih, htimes]

section

variable {es es' : List Entry} {e : Event} (h : Adds es e es')

include h

/-- An event gives its argument and leaves the others alone. -/
theorem Adds.isGiven_iff (a : Argument) :
    isGiven es' a = true ↔ isGiven es a = true ∨ e.argument? = some a := by
  cases h with
  | value | flag => rw [isGiven_concat, Event.argument?, Option.some_inj, Entry.argument]
  | verbose =>
    rw [isGiven_concat, isGiven_withoutVerbose, Event.argument?, Option.some_inj, Entry.argument]
    by_cases ha : a = .flag .verbose
    · simp [ha]
    · simp [ha]

/-- A value that is read is the value of its setting. -/
theorem Adds.valueGiven?_iff (s : Setting) (v : s.Value) :
    valueGiven? es' s = some v ↔
      valueGiven? es s = some v ∨ ∃ text, e = .value s text ∧ s.read text = .ok v := by
  cases h with
  | @value t text w new read =>
    rw [valueGiven?_concat]
    by_cases hst : t = s
    · subst hst
      rw [valueGiven?_eq_none.mpr new, Entry.value?_value, Option.none_or]
      simp [read]
    · simp [Entry.value?, hst]
  | flag => simp [Entry.value?]
  | verbose => simp [valueGiven?_withoutVerbose, Entry.value?]

theorem Adds.verbosity_eq :
    verbosity es' = if e = .flag .verbose then min 255 (verbosity es + 1) else verbosity es := by
  cases h with
  | value => simp [Entry.times]
  | flag single => simp [Entry.times, single]
  | verbose => simp [verbosity_withoutVerbose, Entry.times]

end

/-! ### All events -/

/-- Events are **acceptable** if all of them can be taken. -/
structure Acceptable (events : List Event) : Prop where
  /-- They are arguments, and none of them ends everything. -/
  goesOn : ∀ e ∈ events, e.isArgument = true ∧ e ≠ .flag .help ∧ e ≠ .flag .version
  /-- Every value can be read. -/
  readable : ∀ s text, .value s text ∈ events → ∃ v, s.read text = .ok v
  /-- Nothing is given twice that may be given once. -/
  once : (events.filterMap Event.single?).Nodup

/-- Entries **hold** events if they give what the events give. -/
structure Holds (es : List Entry) (events : List Event) : Prop where
  given : ∀ a, isGiven es a = true ↔ a ∈ arguments events
  value : ∀ s v, valueGiven? es s = some v ↔
    ∃ text, .value s text ∈ events ∧ s.read text = .ok v
  verbosity : verbosity es = min 255 (events.count (.flag .verbose))

theorem single?_eq_some_iff {e : Event} {a : Argument} :
    e.single? = some a ↔ e.argument? = some a ∧ a ≠ .flag .verbose := by
  cases e with
  | value s text =>
    rw [Event.single?, Event.argument?, Option.some_inj, and_iff_left_of_imp]
    rintro rfl
    exact Argument.noConfusion
  | flag f => cases f <;> simp [Event.single?, Event.argument?] <;> rintro rfl <;> simp
  | missing | surplus | unknown => simp [Event.single?, Event.argument?]

theorem mem_single {events : List Event} {a : Argument} :
    a ∈ events.filterMap Event.single? ↔ a ∈ arguments events ∧ a ≠ .flag .verbose := by
  simp only [arguments, List.mem_filterMap, single?_eq_some_iff]
  constructor
  · rintro ⟨e, he, harg, hne⟩
    exact ⟨⟨e, he, harg⟩, hne⟩
  · rintro ⟨⟨e, he, harg⟩, hne⟩
    exact ⟨e, he, harg, hne⟩

/-- In the beginning there is nothing. -/
theorem Holds.nil : Holds [] [] where
  given := by simp [arguments]
  value := by simp
  verbosity := rfl

/-- What is added is held as well. -/
theorem Holds.step {es es' : List Entry} {events : List Event} {e : Event} (h : Holds es events)
    (hadds : Adds es e es') : Holds es' (events ++ [e]) where
  given := by
    intro a
    rw [hadds.isGiven_iff, h.given, arguments_append, List.mem_append]
    simp [arguments]
  value := by
    intro s v
    rw [hadds.valueGiven?_iff, h.value]
    simp only [List.mem_append, List.mem_singleton, or_and_right, exists_or, eq_comm]
  verbosity := by
    rw [hadds.verbosity_eq, h.verbosity, List.count_append, List.count_singleton]
    by_cases he : e = .flag .verbose
    · simp [he]
      omega
    · simp [he]

/-- One more event repeats nothing if its argument is new, or may be repeated. -/
theorem nodup_single_concat {events : List Event} {e : Event} :
    ((events ++ [e]).filterMap Event.single?).Nodup ↔
      (events.filterMap Event.single?).Nodup ∧ ∀ a, e.single? = some a → a ∉ arguments events := by
  rw [List.filterMap_append]
  cases hsingle : e.single? with
  | none => simp [hsingle]
  | some a =>
    have hne : a ≠ .flag .verbose := (single?_eq_some_iff.mp hsingle).2
    have hmem : a ∈ events.filterMap Event.single? ↔ a ∈ arguments events := by
      rw [mem_single, and_iff_left hne]
    rw [List.filterMap_cons_some hsingle, List.filterMap_nil, List.nodup_append]
    simp only [List.nodup_singleton, true_and, Option.some_inj, forall_eq', ← hmem]
    refine and_congr_right fun _ => ⟨fun h ha => h a ha a (List.mem_singleton_self a) rfl, ?_⟩
    rintro h b hb c hc rfl
    exact h (List.mem_singleton.mp hc ▸ hb)

/-- Where a whole is acceptable, so is what it begins with. -/
theorem Acceptable.of_append {events more : List Event} (h : Acceptable (events ++ more)) :
    Acceptable events where
  goesOn := fun e he => h.goesOn e (List.mem_append_left _ he)
  readable := fun s text he => h.readable s text (List.mem_append_left _ he)
  once := h.once.sublist ((List.sublist_append_left _ _).filterMap _)

/-- An acceptable event can be added. -/
theorem Holds.exists_adds {es : List Entry} {events : List Event} (h : Holds es events)
    {e : Event} (hacc : Acceptable (events ++ [e])) : ∃ es', Adds es e es' := by
  have hself : e ∈ events ++ [e] := List.mem_append_right _ (List.mem_singleton_self e)
  have hnew : ∀ a, e.single? = some a → isGiven es a = false := by
    intro a ha
    rw [← Bool.not_eq_true, h.given]
    exact (nodup_single_concat.mp hacc.once).2 a ha
  cases e with
  | value s text =>
    obtain ⟨v, hread⟩ := hacc.readable s text hself
    exact ⟨_, .value (hnew _ rfl) hread⟩
  | flag f =>
    obtain ⟨-, hhelp, hversion⟩ := hacc.goesOn _ hself
    by_cases hverbose : f = .verbose
    · subst hverbose
      exact ⟨_, .verbose⟩
    · have hsingle : (Event.flag f).single? = some (.flag f) :=
        single?_eq_some_iff.mpr ⟨rfl, fun heq => hverbose (Argument.flag.inj heq)⟩
      exact ⟨_, .flag hverbose ⟨fun heq => hhelp (heq ▸ rfl), fun heq => hversion (heq ▸ rfl)⟩
        (hnew _ hsingle)⟩
  | missing | surplus | unknown => cases (hacc.goesOn _ hself).1

/-- What can be added is acceptable. -/
theorem Holds.acceptable_concat {es es' : List Entry} {events : List Event} (h : Holds es events)
    (hacc : Acceptable events) {e : Event} (hadds : Adds es e es') :
    Acceptable (events ++ [e]) where
  goesOn := by
    intro e' he'
    rcases List.mem_append.mp he' with he' | he'
    · exact hacc.goesOn e' he'
    · obtain rfl := List.mem_singleton.mp he'
      cases hadds with
      | value => exact ⟨rfl, Event.noConfusion, Event.noConfusion⟩
      | flag _ goesOn =>
        exact ⟨rfl, fun heq => goesOn.1 (Event.flag.inj heq),
          fun heq => goesOn.2 (Event.flag.inj heq)⟩
      | verbose => exact ⟨rfl, by decide, by decide⟩
  readable := by
    intro s text he'
    rcases List.mem_append.mp he' with he' | he'
    · exact hacc.readable s text he'
    · obtain rfl := List.mem_singleton.mp he'
      cases hadds with
      | value new read => exact ⟨_, read⟩
  once := by
    refine nodup_single_concat.mpr ⟨hacc.once, fun a ha => ?_⟩
    rw [← h.given, Bool.not_eq_true]
    obtain ⟨harg, hne⟩ := single?_eq_some_iff.mp ha
    cases hadds with
    | value new | flag _ _ new =>
      cases harg
      exact new
    | verbose => exact absurd (Option.some.inj harg).symm hne

/-- To take one more event is to add it to what was taken before. -/
theorem foldlM_take_concat {events : List Event} {es : List Entry} {e : Event} :
    (events ++ [e]).foldlM take [] = .ok es ↔
      ∃ before, events.foldlM take [] = .ok before ∧ Adds before e es := by
  simp only [List.foldlM_append, List.foldlM_cons, List.foldlM_nil, bind_pure, ← take_eq_ok_iff]
  cases events.foldlM take [] with
  | error ending => simp [bind, Except.bind]
  | ok before => simp [bind, Except.bind]

/-- The events that are taken are acceptable, and the entries hold them. -/
theorem foldlM_take_eq_ok {events : List Event} {es : List Entry}
    (h : events.foldlM take [] = .ok es) : Acceptable events ∧ Holds es events := by
  induction events using List.reverseRecOn generalizing es with
  | nil =>
    cases h
    exact ⟨⟨by simp, by simp, by simp⟩, .nil⟩
  | append_singleton events e ih =>
    obtain ⟨before, hbefore, hadds⟩ := foldlM_take_concat.mp h
    obtain ⟨hacc, hholds⟩ := ih hbefore
    exact ⟨hholds.acceptable_concat hacc hadds, hholds.step hadds⟩

/-- **Acceptable events are taken.** -/
theorem Acceptable.exists_entries {events : List Event} (h : Acceptable events) :
    ∃ es, events.foldlM take [] = .ok es := by
  induction events using List.reverseRecOn with
  | nil => exact ⟨[], rfl⟩
  | append_singleton events e ih =>
    obtain ⟨before, hbefore⟩ := ih h.of_append
    obtain ⟨es, hadds⟩ := (foldlM_take_eq_ok hbefore).2.exists_adds h
    exact ⟨es, foldlM_take_concat.mpr ⟨before, hbefore, hadds⟩⟩

end EchoInjector.CommandLine
