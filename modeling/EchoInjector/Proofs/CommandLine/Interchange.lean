import Mathlib.Data.List.Forall2
import EchoInjector.Proofs.CommandLine.Insertion
import EchoInjector.Proofs.CommandLine.Values

/-!
# One value, many spellings

A setting with its value can be **spelled** in up to five ways, and flags in front of it by their
names, by letters of their own, or by letters in one text, which may end with the setting's.
Wherever one of these stands on a command line, any other could stand (`parse_between_congr`),
because they stand for the same events and can be recognized there.

The spellings are for **ordinary** values only. A value that begins with a hyphen does not stand by
itself, the empty one cannot follow a letter, and one equality sign behind a letter is left out. A
single spelling has no exception: behind the setting's name and an equality sign, a text is the
value to the character.

Whether a value is taken does not depend on the place either. Where a command line **leaves a
setting open**, a value for it between any two occurrences is all there is to decide
(`LeavesOpen.exists_parse_iff`).
-/

namespace EchoInjector.CommandLine

/-! ### Spellings -/

/-- A value is **ordinary** if it is not empty, and begins neither with a hyphen nor with an
equality sign. -/
def IsOrdinary (value : String) : Prop :=
  ∃ c rest, value.toList = c :: rest ∧ c ≠ '-' ∧ c ≠ '='

/-- Characters are the letters of flags, one after the other. -/
def AreLetters (letters : List Char) (flags : List Flag) : Prop :=
  List.Forall₂ (fun c f => f.short? = some c) letters flags

/-- The texts that **spell** flags and behind them a setting with a value. -/
inductive Spelling (s : Setting) (value : String) : List Flag → List String → Prop
  /-- The setting's name, and the value behind an equality sign. -/
  | assigned : Spelling s value [] [assignment s value]
  /-- The setting's name, and the value by itself. -/
  | separate : Spelling s value [] ["--" ++ s.long, value]
  /-- Letters, and the value behind an equality sign. -/
  | letterAssigned {flags : List Flag} {letters : List Char} {c : Char}
      (front : AreLetters letters flags) (letter : s.short? = some c) :
      Spelling s value flags [String.ofList ('-' :: (letters ++ c :: '=' :: value.toList))]
  /-- Letters, and the value right behind them. -/
  | letterAttached {flags : List Flag} {letters : List Char} {c : Char}
      (front : AreLetters letters flags) (letter : s.short? = some c) :
      Spelling s value flags [String.ofList ('-' :: (letters ++ c :: value.toList))]
  /-- Letters, and the value by itself. -/
  | letterSeparate {flags : List Flag} {letters : List Char} {c : Char}
      (front : AreLetters letters flags) (letter : s.short? = some c) :
      Spelling s value flags [String.ofList ('-' :: (letters ++ [c])), value]
  /-- Flags by their letters, in a text of their own. -/
  | letters {flags more : List Flag} {letters : List Char} {texts : List String}
      (front : AreLetters letters flags) (nonempty : letters ≠ [])
      (spelling : Spelling s value more texts) :
      Spelling s value (flags ++ more) (String.ofList ('-' :: letters) :: texts)
  /-- A flag by its name. -/
  | named {more : List Flag} {texts : List String} (f : Flag)
      (spelling : Spelling s value more texts) :
      Spelling s value (f :: more) (("--" ++ f.long) :: texts)

theorem IsOrdinary.isPlain {value : String} (h : IsOrdinary value) : IsPlain value := by
  obtain ⟨c, rest, hvalue, hhyphen, -⟩ := h
  refine .inl ?_
  rw [hvalue, List.head?_cons]
  exact fun heq => hhyphen (Option.some.inj heq)

/-! ### What is spelled -/

section

variable {flags : List Flag}

/-- Letters of flags may stand in front of letters. -/
theorem AreLetters.append {letters cs : List Char} {events : List Event} {next : Option Setting}
    (h : AreLetters letters flags) (hcs : Letters cs events next) :
    Letters (letters ++ cs) (flags.map .flag ++ events) next := by
  induction h with
  | nil => exact hcs
  | cons letter _ ih => exact .flag letter ih

/-- Letters of flags are letters. -/
theorem AreLetters.letters {letters : List Char} (h : AreLetters letters flags)
    (hne : letters ≠ []) : Letters letters (flags.map .flag) none := by
  induction h with
  | nil => exact absurd rfl hne
  | @cons c f cs fs letter rest ih =>
    cases rest with
    | nil => exact .last letter
    | cons => exact .flag letter (ih (List.cons_ne_nil _ _))

variable {s : Setting} {value : String} {texts : List String}

/-- **A spelling of an ordinary value stands for the flags and the value.** -/
theorem Spelling.passage (hvalue : IsOrdinary value) (h : Spelling s value flags texts) :
    Passage texts (flags.map .flag ++ [.value s value]) := by
  have hplain : IsPlain value := hvalue.isPlain
  induction h with
  | assigned => exact (Occurrence.assigned s value).passage
  | separate => exact (Occurrence.separate s hplain).passage
  | letterAssigned front letter =>
    have hletters := front.append (.assigned letter value.toList)
    rw [String.ofList_toList] at hletters
    exact (Occurrence.letters hletters).passage
  | letterAttached front letter =>
    -- an equality sign here would be left out
    obtain ⟨d, rest, htext, -, hd⟩ := hvalue
    have hletters := front.append (.attached letter hd rest)
    rw [← htext, String.ofList_toList] at hletters
    exact (Occurrence.letters hletters).passage
  | letterSeparate front letter =>
    have hletters := front.append (.open letter)
    have hpassage := (Occurrence.lettersSeparate hletters hplain).passage
    rwa [List.append_nil] at hpassage
  | letters front nonempty spelling ih =>
    rw [List.map_append, List.append_assoc]
    exact (Occurrence.letters (front.letters nonempty)).passage_append ih
  | named f spelling ih => exact (Occurrence.named f).passage_append ih

end

/-! ### Events that are taken alike -/

/-- Events are **alike** if they are the same, or values of one setting that are read alike. -/
inductive Event.Alike : Event → Event → Prop
  | refl (e : Event) : Alike e e
  | value {s : Setting} {text text' : String} {v : s.Value} (read : s.read text = .ok v)
      (read' : s.read text' = .ok v) : Alike (.value s text) (.value s text')

theorem alike_self (events : List Event) : List.Forall₂ Event.Alike events events :=
  List.forall₂_same.mpr fun e _ => .refl e

theorem Event.Alike.symm {e e' : Event} (h : e.Alike e') : e'.Alike e := by
  cases h with
  | refl => exact .refl e
  | value read read' => exact .value read' read

/-- What an event does does not depend on the text of a value. -/
theorem Event.Alike.take_eq {e e' : Event} (h : e.Alike e') (es : List Entry) :
    take es e = take es e' := by
  cases h with
  | refl => rfl
  | value read read' => simp only [take, addValue, read, read']

theorem Event.Alike.argument?_eq {e e' : Event} (h : e.Alike e') : e.argument? = e'.argument? := by
  cases h <;> rfl

section

variable {events events' : List Event} (h : List.Forall₂ Event.Alike events events')

include h

theorem foldlM_take_of_alike (es : List Entry) :
    events.foldlM take es = events'.foldlM take es := by
  induction h generalizing es with
  | nil => rfl
  | cons halike _ ih =>
    rw [List.foldlM_cons, List.foldlM_cons, halike.take_eq]
    exact congrArg _ (funext ih)

theorem arguments_of_alike : arguments events = arguments events' := by
  induction h with
  | nil => rfl
  | cons halike _ ih =>
    rw [arguments, arguments] at ih ⊢
    rw [List.filterMap_cons, List.filterMap_cons, halike.argument?_eq, ih]

end

/-- **What is given decides, not by which texts.** Command lines whose events, together with those
that the environment supplies, are alike have the same answer. -/
theorem parse_of_alike {texts texts' : List String} {env env' : Environment}
    (h : List.Forall₂ Event.Alike (read texts ++ supplied env (read texts))
      (read texts' ++ supplied env' (read texts'))) :
    parse texts env = parse texts' env' := by
  rw [parse, parse, entries_eq, entries_eq, foldlM_take_of_alike h]

/-! ### The same at any place -/

section

variable {before behind : List String}

/-- Alike events stand in for each other, wherever they stand. -/
theorem parse_between_of_alike {texts texts' : List String} {events events' : List Event}
    (h : Passage texts events) (h' : Passage texts' events')
    (halike : List.Forall₂ Event.Alike events events') {env : Environment} {a : Arguments}
    (hparse : parse (before ++ (texts ++ behind)) env = .ok a) :
    parse (before ++ (texts' ++ behind)) env = .ok a := by
  obtain ⟨all, hspells, -⟩ := parse_eq_ok_iff.mp hparse
  obtain ⟨first, rest, hbefore, hunended, hbehind, rfl⟩ := h.between_iff.mp hspells
  have hspells' : Spells (before ++ (texts' ++ behind)) (first ++ (events' ++ rest)) :=
    h'.between_iff.mpr ⟨first, rest, hbefore, hunended, hbehind, rfl⟩
  have hall := List.rel_append (alike_self first) (List.rel_append halike (alike_self rest))
  -- alike events give the same arguments, so the environment supplies the same to them
  have hsupplied : supplied env (first ++ (events' ++ rest))
      = supplied env (first ++ (events ++ rest)) := by
    rw [supplied, supplied, arguments_of_alike hall]
  rw [← hparse]
  refine (parse_of_alike ?_).symm
  rw [hspells.read_eq, hspells'.read_eq, hsupplied]
  exact List.rel_append hall (alike_self _)

/-- **What stands for alike events can be interchanged**, wherever it stands. -/
theorem parse_between_congr {texts texts' : List String} {events events' : List Event}
    (h : Passage texts events) (h' : Passage texts' events')
    (halike : List.Forall₂ Event.Alike events events') {env : Environment} {a : Arguments} :
    parse (before ++ (texts ++ behind)) env = .ok a ↔
      parse (before ++ (texts' ++ behind)) env = .ok a :=
  ⟨parse_between_of_alike h h' halike,
    parse_between_of_alike h' h (List.Forall₂.flip (halike.imp fun _ _ => Event.Alike.symm))⟩

/-- What is spelled in front is read first, except that its last value may be pending. -/
theorem Spells.readFrom_append {first : List Event} (h : Spells before first)
    (hunended : "--" ∉ before) (pending : Pending) :
    ∃ now next, pending.settle ++ first = now ++ Pending.settle next ∧
      ∀ rest, readFrom pending (before ++ rest) = now ++ readFrom next rest := by
  induction h generalizing pending with
  | nil => exact ⟨[], pending, List.append_nil _, fun _ => rfl⟩
  | terminator => exact absurd (List.mem_singleton_self _) hunended
  | cons occurrence spells ih =>
    -- what this occurrence leaves pending is what the others begin with
    obtain ⟨now, next, hnow, hread⟩ := occurrence.readFrom_append pending
    obtain ⟨now', next', hnow', hread'⟩ := ih (fun h => hunended (List.mem_append_right _ h)) next
    refine ⟨now ++ now', next', ?_, fun rest => ?_⟩
    · rw [← List.append_assoc, hnow, List.append_assoc, hnow', List.append_assoc]
    · rw [List.append_assoc, hread, hread', List.append_assoc]

theorem readFrom_assignment (pending : Pending) (s : Setting) (value : String) :
    readFrom pending (assignment s value :: behind)
      = pending.settle ++ .value s value :: read behind := by
  have hname : Argument.ofLong? s.long = some (.setting s) := Argument.ofLong?_long (.setting s)
  simp only [readFrom.eq_def pending, shape_assignment, hname, read]

/-- What stands behind a name and an equality sign is the value that is read, whatever it is and
whatever stands behind it. -/
theorem read_assignment {first : List Event} (h : Spells before first) (hunended : "--" ∉ before)
    (s : Setting) (value : String) :
    read (before ++ assignment s value :: behind) = first ++ .value s value :: read behind := by
  obtain ⟨now, next, hnow, hread⟩ := h.readFrom_append hunended .nothing
  rw [read, hread, readFrom_assignment, ← List.append_assoc, ← hnow]
  rfl

end

/-! ### A value more, at any place -/

/-- A command line **leaves a setting open** in an environment if it is accepted there and gives
neither the setting nor its rival, and the environment does not supply them. -/
structure LeavesOpen (texts : List String) (env : Environment) (s : Setting) : Prop where
  accepted : ∃ a, parse texts env = .ok a
  absent : ∀ events, Spells texts events → s.Open (events ++ supplied env events)

section

variable {before behind texts : List String} {events first : List Event} {env : Environment}
  {s : Setting} {value : String}

/-- What is spelled in another order is accepted as well. -/
theorem parse_of_perm {texts' : List String} {events' : List Event} {a : Arguments}
    (h : Spells texts events) (h' : Spells texts' events') (hperm : events'.Perm events)
    (hparse : parse texts env = .ok a) : parse texts' env = .ok a := by
  obtain ⟨_, hspells, hacc, hcompatible, hanswers⟩ := parse_eq_ok_iff.mp hparse
  obtain rfl := h.unique hspells
  have hall : (events' ++ supplied env events').Perm (events ++ supplied env events) := by
    rw [supplied_perm hperm]
    exact hperm.append_right _
  exact parse_eq_ok_iff.mpr
    ⟨_, h', hacc.perm hall, hcompatible.perm hall, hanswers.perm hall⟩

/-- **An option more, at any place.** Between two occurrences, a value for an open setting may be
put in any spelling: whether the command line is accepted depends on the text only. -/
theorem LeavesOpen.exists_parse_iff (h : LeavesOpen (before ++ behind) env s)
    (hbefore : Spells before first) (hunended : "--" ∉ before)
    (hpassage : Passage texts [.value s value]) :
    (∃ b, parse (before ++ (texts ++ behind)) env = .ok b) ↔ ∃ v, s.read value = .ok v := by
  obtain ⟨⟨a, hparse⟩, habsent⟩ := h
  obtain ⟨events, hspells, hacc, hcompatible, -⟩ := parse_eq_ok_iff.mp hparse
  rw [← exists_parse_cons_iff hspells hacc hcompatible (habsent events hspells)]
  obtain ⟨rest, rfl, hbehind⟩ := hbefore.of_append hunended hspells
  have hfront :
      Spells (assignment s value :: (before ++ behind)) (.value s value :: (first ++ rest)) :=
    .cons (.assigned s value) hspells
  have hbetween : Spells (before ++ (texts ++ behind)) (first ++ .value s value :: rest) :=
    hpassage.between_iff.mpr ⟨first, rest, hbefore, hunended, hbehind, rfl⟩
  -- the value may as well come first
  have hperm : (first ++ .value s value :: rest).Perm (.value s value :: (first ++ rest)) :=
    List.perm_middle
  constructor
  · rintro ⟨b, hb⟩
    exact ⟨b, parse_of_perm hbetween hfront hperm.symm hb⟩
  · rintro ⟨b, hb⟩
    exact ⟨b, parse_of_perm hfront hbetween hperm hb⟩

/-- A value is the one that its setting has in the end. -/
theorem value?_of_passage (h : Passage texts [.value s value]) {a : Arguments}
    (hparse : parse (before ++ (texts ++ behind)) env = .ok a) :
    ∃ v, s.read value = .ok v ∧ a.value? s = some v := by
  obtain ⟨events, hspells, hacc, -, hanswers⟩ := parse_eq_ok_iff.mp hparse
  obtain ⟨first, rest, -, -, -, rfl⟩ := h.between_iff.mp hspells
  have hmem : .value s value ∈ first ++ ([.value s value] ++ rest) := by simp
  obtain ⟨v, hread⟩ := hacc.of_append.readable s value hmem
  exact ⟨v, hread, hanswers.value?_eq (.given hmem hread)⟩

end

/-- **All spellings of a setting with its value are interchangeable.** Wherever flags and an
ordinary value are spelled on a command line, whatever texts stand around them and in whatever
environment, any other spelling of them is accepted as well or as little, and leads to the same
arguments: the same plan, the same count of the flag for more records and the same log level. And a
value behind a name and an equality sign, ordinary or not, is met as it is, between what is spelled
in front of it and what is read behind it; where the setting was left open, it is accepted exactly
if it can be read, and the setting's value is what was read from it. -/
theorem spellings_interchangeable :
    (∀ (s : Setting) (value : String) (flags : List Flag) (texts texts' : List String),
      IsOrdinary value → Spelling s value flags texts → Spelling s value flags texts' →
      ∀ (before behind : List String) (env : Environment) (a : Arguments),
        parse (before ++ (texts ++ behind)) env = .ok a ↔
          parse (before ++ (texts' ++ behind)) env = .ok a) ∧
    ∀ (s : Setting) (value : String) (before behind : List String),
      (∀ first, Spells before first → "--" ∉ before →
        read (before ++ assignment s value :: behind)
          = first ++ .value s value :: read behind ∧
        ∀ env : Environment, LeavesOpen (before ++ behind) env s →
          ((∃ a, parse (before ++ assignment s value :: behind) env = .ok a) ↔
            ∃ v, s.read value = .ok v)) ∧
      ∀ (env : Environment) (a : Arguments),
        parse (before ++ assignment s value :: behind) env = .ok a →
        ∃ v, s.read value = .ok v ∧ a.value? s = some v := by
  refine ⟨fun s value flags texts texts' hvalue h h' before behind env a => ?_,
    fun s value before behind => ⟨fun first hbefore hunended => ⟨?_, fun env hopen => ?_⟩,
      fun env a h => ?_⟩⟩
  · exact parse_between_congr (h.passage hvalue) (h'.passage hvalue) (alike_self _)
  · exact read_assignment hbefore hunended s value
  · exact hopen.exists_parse_iff hbefore hunended (Occurrence.assigned s value).passage
  · exact value?_of_passage (Occurrence.assigned s value).passage h

/-- Two flags and a number in four texts and in one, between other texts; and a payload that begins
with an equality sign and a hyphen, and ends in a line end. -/
theorem spellings_interchangeable_sample :
    IsOrdinary "5" ∧
    Spelling .count "5" [.dryRun, .verbose] ["-n", "-v", "--count", "5"] ∧
    Spelling .count "5" [.dryRun, .verbose] ["-nvc=5"] ∧
    parse ["--json", "-nvc=5", "--ttl=3"] (fun _ => none)
      = .ok { Arguments.ofEntries [] with
          json := true, dryRun := true, verbose := 1, count := 5, ttl := 3 } ∧
    parse ["--json", "-n", "-v", "--count", "5", "--ttl=3"] (fun _ => none)
      = .ok { Arguments.ofEntries [] with
          json := true, dryRun := true, verbose := 1, count := 5, ttl := 3 } ∧
    Spells ["-i", "-"] [.value .iface "-"] ∧
    read ["-i", "-", "--payload==-\n", "-n"]
      = [.value .iface "-", .value .payload "=-\n", .flag .dryRun] ∧
    ∃ a, parse ["-i", "-", "--payload==-\n", "-n"] (fun _ => none) = .ok a ∧
      a.payload = some "=-\n" := by
  obtain ⟨hsame, hexact⟩ := spellings_interchangeable
  have hvalue : IsOrdinary "5" := ⟨'5', [], rfl, by decide, by decide⟩
  have hapart : Spelling .count "5" [.dryRun, .verbose] ["-n", "-v", "--count", "5"] :=
    .letters (.cons rfl .nil) (List.cons_ne_nil 'n' [])
      (.letters (.cons rfl .nil) (List.cons_ne_nil 'v' []) .separate)
  have htogether : Spelling .count "5" [.dryRun, .verbose] ["-nvc=5"] :=
    .letterAssigned (.cons rfl (.cons rfl .nil)) rfl
  have hparse : parse ["--json", "-nvc=5", "--ttl=3"] (fun _ => none)
      = .ok { Arguments.ofEntries [] with
          json := true, dryRun := true, verbose := 1, count := 5, ttl := 3 } := by
    decide +kernel
  have hspells : Spells ["-i", "-"] [.value .iface "-"] :=
    spells_iff.mpr ⟨by decide +kernel, by decide⟩
  obtain ⟨hread, hgiven⟩ := hexact .payload "=-\n" ["-i", "-"] ["-n"]
  obtain ⟨hmet, htaken⟩ := hread _ hspells (by decide)
  have hopen : LeavesOpen ["-i", "-", "-n"] (fun _ => none) .payload := by
    refine ⟨⟨{ Arguments.ofEntries [] with iface := "-", dryRun := true }, by decide +kernel⟩, ?_⟩
    intro events h
    have hevents : events = [.value .iface "-", .flag .dryRun] :=
      h.read_eq.symm.trans (by decide +kernel)
    rw [hevents, supplied_of_none fun _ => rfl]
    exact ⟨by decide, by rintro r ⟨⟩; decide⟩
  obtain ⟨a, ha⟩ := (htaken _ hopen).mpr ⟨"=-\n", rfl⟩
  obtain ⟨v, hv, hpayload⟩ := hgiven _ a ha
  cases hv
  refine ⟨hvalue, hapart, htogether, hparse, ?_, hspells, ?_, a, ha, hpayload⟩
  · exact (hsame _ _ _ _ _ hvalue hapart htogether ["--json"] ["--ttl=3"] _ _).mpr hparse
  · exact hmet

end EchoInjector.CommandLine
