import EchoInjector.Proofs.CommandLine.Sources

/-!
# The order of arguments

A command line without a text of two hyphens that is accepted can be **split** into occurrences in
one way only, since no occurrence is the beginning of another one (`Occurrence.eq_of_append`). The
occurrences may then be put into any order: the command line is still accepted, and it means the
same (`parse_perm`).

Each occurrence stands for the same events wherever it is, so the events of the whole are only put
into another order, and neither whether events are acceptable and compatible nor what they answer
to depends on their order (`Acceptable.perm`, `Compatible.perm`, `Arguments.Answers.perm`). Within
an occurrence the order does matter, as in a letter with its value.
-/

namespace EchoInjector.CommandLine

/-! ### Splitting a command line -/

/-- Pieces **split** a command line if they are occurrences that make it up one after the other. -/
structure Splits (texts : List String) (pieces : List (List String)) : Prop where
  flatten : pieces.flatten = texts
  occurrence : ∀ piece ∈ pieces, ∃ events, Occurrence piece events

theorem Occurrence.spells {piece : List String} {events : List Event}
    (h : Occurrence piece events) : Spells piece events := by
  have hspells := Spells.cons h .nil
  rwa [List.append_nil, List.append_nil] at hspells

/-- An occurrence has one text or two. -/
theorem Occurrence.eq_singleton_or_pair {piece : List String} {events : List Event}
    (h : Occurrence piece events) : (∃ x, piece = [x]) ∨ ∃ x y, piece = [x, y] := by
  cases h with
  | assigned | named | letters => exact Or.inl ⟨_, rfl⟩
  | separate | lettersSeparate => exact Or.inr ⟨_, _, rfl⟩

/-- The first of two texts is waiting for the second. -/
theorem Occurrence.missing_mem_read {x y : String} {events : List Event}
    (h : Occurrence [x, y] events) : ∃ s, .missing s ∈ read [x] := by
  cases h with
  | separate s plain =>
    have hname : Argument.ofLong? s.long = some (.setting s) :=
      Argument.ofLong?_long (.setting s)
    have hshape := shape_long (.setting s)
    rw [Argument.long] at hshape
    refine ⟨s, ?_⟩
    simp only [read, readFrom, hshape, hname, Pending.settle, List.nil_append,
      List.mem_singleton]
  | @lettersSeparate cs events s _ letters plain =>
    refine ⟨s, ?_⟩
    simp only [read, readFrom, shape_letters letters, readCluster_of_letters letters, Option.elim,
      Pending.settle]
    exact List.mem_append_right _ (List.mem_singleton_self _)

/-- What is an occurrence is not also the first of two texts. -/
theorem Occurrence.not_pair {x y : String} {events more : List Event}
    (h : Occurrence [x] events) : ¬ Occurrence [x, y] more := by
  intro hpair
  obtain ⟨s, hmissing⟩ := hpair.missing_mem_read
  rw [h.spells.read_eq] at hmissing
  cases h.isArgument _ hmissing

/-- **No occurrence is the beginning of another one.** -/
theorem Occurrence.eq_of_append {piece piece' rest rest' : List String}
    {events events' : List Event} (h : Occurrence piece events)
    (h' : Occurrence piece' events') (heq : piece ++ rest = piece' ++ rest') : piece = piece' := by
  rcases h.eq_singleton_or_pair with ⟨x, rfl⟩ | ⟨x, y, rfl⟩ <;>
    rcases h'.eq_singleton_or_pair with ⟨x', rfl⟩ | ⟨x', y', rfl⟩
  case inl.inl =>
    obtain ⟨rfl, -⟩ := List.cons.inj heq
    rfl
  case inl.inr =>
    obtain ⟨rfl, -⟩ := List.cons.inj heq
    exact absurd h' h.not_pair
  case inr.inl =>
    obtain ⟨rfl, -⟩ := List.cons.inj heq
    exact absurd h h'.not_pair
  case inr.inr =>
    obtain ⟨rfl, hrest⟩ := List.cons.inj heq
    obtain ⟨rfl, -⟩ := List.cons.inj hrest
    rfl

namespace Splits

variable {texts : List String} {pieces pieces' : List (List String)}

/-- What is left when the first piece is taken away is split by the other pieces. -/
theorem tail {piece : List String} (h : Splits texts (piece :: pieces)) :
    Splits pieces.flatten pieces :=
  ⟨rfl, fun p hp => h.occurrence p (List.mem_cons_of_mem _ hp)⟩

/-- **A command line is split in one way only.** -/
theorem unique (h : Splits texts pieces) (h' : Splits texts pieces') : pieces = pieces' := by
  have hflatten : pieces.flatten = pieces'.flatten := h.flatten.trans h'.flatten.symm
  induction pieces generalizing texts pieces' with
  | nil =>
    cases pieces' with
    | nil => rfl
    | cons piece' rest' =>
      obtain ⟨events', hpiece'⟩ := h'.occurrence piece' List.mem_cons_self
      rcases hpiece'.eq_singleton_or_pair with ⟨x, rfl⟩ | ⟨x, y, rfl⟩ <;> cases hflatten
  | cons piece rest ih =>
    obtain ⟨events, hpiece⟩ := h.occurrence piece List.mem_cons_self
    cases pieces' with
    | nil => rcases hpiece.eq_singleton_or_pair with ⟨x, rfl⟩ | ⟨x, y, rfl⟩ <;> cases hflatten
    | cons piece' rest' =>
      obtain ⟨events', hpiece'⟩ := h'.occurrence piece' List.mem_cons_self
      rw [List.flatten_cons, List.flatten_cons] at hflatten
      obtain rfl := hpiece.eq_of_append hpiece' hflatten
      have hrest : rest.flatten = rest'.flatten := List.append_cancel_left hflatten
      have htail : Splits rest.flatten rest' := hrest ▸ h'.tail
      rw [ih h.tail htail hrest]

/-- A split command line spells what its pieces are read as. -/
theorem spells (h : Splits texts pieces) : Spells texts (pieces.flatMap read) := by
  induction pieces generalizing texts with
  | nil =>
    obtain rfl := h.flatten
    exact .nil
  | cons piece rest ih =>
    obtain ⟨events, hpiece⟩ := h.occurrence piece List.mem_cons_self
    rw [← h.flatten, List.flatten_cons, List.flatMap_cons, hpiece.spells.read_eq]
    exact .cons hpiece (ih h.tail)

/-- Pieces may change places. -/
theorem perm (h : Splits texts pieces) (hperm : pieces'.Perm pieces) :
    Splits pieces'.flatten pieces' :=
  ⟨rfl, fun piece hpiece => h.occurrence piece (hperm.subset hpiece)⟩

end Splits

/-- A command line that spells something can be split, unless there is a text of two hyphens. -/
theorem Spells.exists_splits {texts : List String} {events : List Event}
    (h : Spells texts events) (hopen : "--" ∉ texts) : ∃ pieces, Splits texts pieces := by
  induction h with
  | nil => exact ⟨[], rfl, by simp⟩
  | terminator => exact absurd (List.mem_singleton_self _) hopen
  | cons occurrence spells ih =>
    obtain ⟨pieces, hflatten, hpieces⟩ := ih fun hmem => hopen (List.mem_append_right _ hmem)
    refine ⟨_ :: pieces, by rw [List.flatten_cons, hflatten], ?_⟩
    exact List.forall_mem_cons.mpr ⟨⟨_, occurrence⟩, hpieces⟩

/-! ### Events in another order -/

section

variable {events events' : List Event} (hperm : events'.Perm events)

include hperm

theorem mem_arguments_perm {a : Argument} : a ∈ arguments events' ↔ a ∈ arguments events :=
  (hperm.filterMap _).mem_iff

/-- The environment supplies the same to events in another order. -/
theorem supplied_perm (env : Environment) : supplied env events' = supplied env events :=
  List.filterMap_congr fun s _ => by simp only [mem_arguments_perm hperm]

theorem Acceptable.perm (h : Acceptable events) : Acceptable events' where
  goesOn := fun e he => h.goesOn e (hperm.subset he)
  readable := fun s text he => h.readable s text (hperm.subset he)
  once := (hperm.filterMap _).nodup_iff.mpr h.once

theorem Compatible.perm (h : Compatible events) : Compatible events' := by
  intro a b hrival ha hb
  exact h a b hrival ((mem_arguments_perm hperm).mp ha) ((mem_arguments_perm hperm).mp hb)

theorem Arguments.Answers.perm {a : Arguments} (h : a.Answers events) : a.Answers events' where
  given := fun s text v he hread => h.given s text v (hperm.subset he) hread
  default := fun s habsent => h.default s fun hs => habsent ((mem_arguments_perm hperm).mpr hs)
  layer3 := h.layer3.trans hperm.mem_iff.symm
  dryRun := h.dryRun.trans hperm.mem_iff.symm
  json := h.json.trans hperm.mem_iff.symm
  quiet := h.quiet.trans hperm.mem_iff.symm
  verbose := by rw [h.verbose, hperm.count_eq]

end

/-! ### Command lines in another order -/

/-- **The order of arguments does not matter.** A command line that is accepted in some environment
can be split into occurrences in exactly one way, and with these in any other order it is accepted
there as well and gives the same arguments: the same plan, the same count of the flag for more
records and the same log level. -/
theorem parse_perm {texts : List String} {env : Environment} {a : Arguments}
    (hopen : "--" ∉ texts) (hparse : parse texts env = .ok a) :
    ∃ pieces, (∀ other, Splits texts other ↔ other = pieces) ∧
      ∀ other : List (List String), other.Perm pieces → parse other.flatten env = .ok a := by
  obtain ⟨events, hspells, hacc, hcompatible, hanswers⟩ := parse_eq_ok_iff.mp hparse
  obtain ⟨pieces, hsplits⟩ := hspells.exists_splits hopen
  refine ⟨pieces, fun other => ⟨fun hother => hother.unique hsplits, fun heq => heq ▸ hsplits⟩, ?_⟩
  intro other hother
  have hevents : events = pieces.flatMap read := hspells.read_eq.symm.trans hsplits.spells.read_eq
  have hmoved : (other.flatMap read).Perm events := by
    rw [hevents]
    exact hother.flatMap_right read
  -- what the environment supplies stays behind all of them
  have hall : (other.flatMap read ++ supplied env (other.flatMap read)).Perm
      (events ++ supplied env events) := by
    rw [supplied_perm hmoved]
    exact hmoved.append_right _
  exact parse_eq_ok_iff.mpr ⟨_, (hsplits.perm hother).spells, hacc.perm hall,
    hcompatible.perm hall, hanswers.perm hall⟩

/-- Letters with a value, a value by itself and a value behind an equality sign, turned around. One
more value comes from the environment. -/
theorem parse_perm_of_letters :
    let env : Environment := fun name => if name = Setting.interval.envName then some "10" else none
    "--" ∉ ["-nvc5", "--payload", "-", "--ttl=3"] ∧
      ∃ a : Arguments, a.count = 5 ∧ a.interval = 10 ∧
        parse ["-nvc5", "--payload", "-", "--ttl=3"] env = .ok a ∧
        parse ["--ttl=3", "--payload", "-", "-nvc5"] env = .ok a := by
  intro env
  have hopen : "--" ∉ ["-nvc5", "--payload", "-", "--ttl=3"] := by decide
  have hvalues : (parse ["-nvc5", "--payload", "-", "--ttl=3"] env).toOption.map
      (fun a => (a.count, a.interval)) = some (5, 10) := by decide +kernel
  have hsplits : Splits ["-nvc5", "--payload", "-", "--ttl=3"]
      [["-nvc5"], ["--payload", "-"], ["--ttl=3"]] := by
    have hletters : Letters ['n', 'v', 'c', '5'] [.flag .dryRun, .flag .verbose, .value .count "5"]
        none := .flag rfl (.flag rfl (.attached rfl (by decide) []))
    refine ⟨rfl, List.forall_mem_cons.mpr ⟨⟨_, .letters hletters⟩, ?_⟩⟩
    refine List.forall_mem_cons.mpr ⟨⟨_, .separate .payload (Or.inr rfl)⟩, ?_⟩
    exact List.forall_mem_singleton.mpr ⟨_, .assigned .ttl "3"⟩
  cases hparse : parse ["-nvc5", "--payload", "-", "--ttl=3"] env with
  | error ending =>
    rw [hparse] at hvalues
    cases hvalues
  | ok a =>
    rw [hparse] at hvalues
    obtain ⟨hcount, hinterval⟩ := Prod.mk.inj (Option.some.inj hvalues)
    obtain ⟨pieces, honly, hall⟩ := parse_perm hopen hparse
    obtain rfl := (honly _).mp hsplits
    exact ⟨hopen, a, hcount, hinterval, rfl, hall _ (List.reverse_perm _)⟩

end EchoInjector.CommandLine
