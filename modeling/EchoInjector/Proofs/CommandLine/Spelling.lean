import Mathlib.Data.List.TakeWhile
import EchoInjector.CommandLine.Reading

/-!
# How arguments are spelled

`CommandLine.read` goes through a command line text by text and keeps a setting pending until its
value is settled. What it accepts can be said without any of that: a command line is a sequence of
**occurrences**, each of which is one text, or two where a value is given separately, and possibly
a text of two hyphens at the end. `Occurrence` lists the forms, `Letters` what can stand behind a
single hyphen, and `Spells` puts them together.

`spells_iff` says that the two descriptions agree: the command lines in which reading meets nothing
but settings with a value and flags are the ones that are spelled by occurrences, and the events
are those that the occurrences stand for. In particular these are determined by the command line.

A value that stands by itself must not begin with a hyphen, unless it is one. No such restriction
holds for a value in the same text, and behind an equality sign even the empty value is one.
-/

namespace EchoInjector.CommandLine

/-! ### Names -/

namespace Argument

/-- A name leads to its argument. -/
theorem ofLong?_long (a : Argument) : ofLong? a.long = some a := by
  cases a with
  | setting s => cases s <;> decide
  | flag f => cases f <;> decide

/-- Only its name leads to an argument. -/
theorem long_of_ofLong? {name : String} {a : Argument} (h : ofLong? name = some a) :
    a.long = name := by
  simpa using List.find?_some h

theorem ofShort?_of_short? {a : Argument} {c : Char} (h : a.short? = some c) :
    ofShort? c = some a := by
  cases a with
  | setting s => cases s <;> cases h <;> decide
  | flag f => cases f <;> cases h <;> decide

theorem short?_of_ofShort? {a : Argument} {c : Char} (h : ofShort? c = some a) :
    a.short? = some c := by
  simpa using List.find?_some h

/-- An argument is told by its name. -/
theorem long_injective : Function.Injective long := by
  intro a b h
  have hname := ofLong?_long a
  rw [h, ofLong?_long] at hname
  exact (Option.some.inj hname).symm

/-- Two arguments do not share a letter. -/
theorem eq_of_short? {a b : Argument} {c : Char} (ha : a.short? = some c)
    (hb : b.short? = some c) : a = b :=
  Option.some.inj ((ofShort?_of_short? ha).symm.trans (ofShort?_of_short? hb))

/-- No name has an equality sign in it, so the first one behind a name ends it. -/
theorem eq_notMem_long (a : Argument) : '=' ∉ a.long.toList := by
  cases a with
  | setting s => cases s <;> decide
  | flag f => cases f <;> decide

theorem long_ne_nil (a : Argument) : a.long.toList ≠ [] := by
  cases a with
  | setting s => cases s <;> decide
  | flag f => cases f <;> decide

theorem short?_ne_hyphen (a : Argument) : a.short? ≠ some '-' := by
  cases a with
  | setting s => cases s <;> decide
  | flag f => cases f <;> decide

end Argument

/-! ### Forms -/

/-- A text that can stand by itself as a value: it does not begin with a hyphen, or is one. -/
def IsPlain (text : String) : Prop := text.toList.head? ≠ some '-' ∨ text = "-"

/-- A setting with a value in the same text. -/
def assignment (s : Setting) (value : String) : String := "--" ++ s.long ++ "=" ++ value

/-- The **letters** behind a single hyphen, with the events that they stand for, and the setting
that takes its value from the next text, if one does. -/
inductive Letters : List Char → List Event → Option Setting → Prop
  /-- The last letter is that of a flag. -/
  | last {f : Flag} {c : Char} (letter : f.short? = some c) : Letters [c] [.flag f] none
  /-- A flag's letter, and more letters. -/
  | flag {f : Flag} {c : Char} {cs : List Char} {events : List Event} {next : Option Setting}
      (letter : f.short? = some c) (rest : Letters cs events next) :
      Letters (c :: cs) (.flag f :: events) next
  /-- A setting's letter, and its value behind an equality sign. -/
  | assigned {s : Setting} {c : Char} (letter : s.short? = some c) (value : List Char) :
      Letters (c :: '=' :: value) [.value s (String.ofList value)] none
  /-- A setting's letter, and its value right behind it. -/
  | attached {s : Setting} {c d : Char} (letter : s.short? = some c) (first : d ≠ '=')
      (value : List Char) : Letters (c :: d :: value) [.value s (String.ofList (d :: value))] none
  /-- A setting's letter at the end. -/
  | open {s : Setting} {c : Char} (letter : s.short? = some c) : Letters [c] [] (some s)

/-- An **occurrence** of arguments on a command line: one text or two, and the events that they
stand for. -/
inductive Occurrence : List String → List Event → Prop
  /-- The name of a setting with the value behind an equality sign. -/
  | assigned (s : Setting) (value : String) :
      Occurrence [assignment s value] [.value s value]
  /-- The name of a setting, and its value by itself. -/
  | separate (s : Setting) {value : String} (plain : IsPlain value) :
      Occurrence ["--" ++ s.long, value] [.value s value]
  /-- The name of a flag. -/
  | named (f : Flag) : Occurrence ["--" ++ f.long] [.flag f]
  /-- Letters. -/
  | letters {cs : List Char} {events : List Event} (letters : Letters cs events none) :
      Occurrence [String.ofList ('-' :: cs)] events
  /-- Letters, and the value of the last one by itself. -/
  | lettersSeparate {cs : List Char} {events : List Event} {s : Setting} {value : String}
      (letters : Letters cs events (some s)) (plain : IsPlain value) :
      Occurrence [String.ofList ('-' :: cs), value] (events ++ [.value s value])

/-- A command line **spells** events: it consists of occurrences that stand for them one after the
other, possibly with a text of two hyphens behind them. -/
inductive Spells : List String → List Event → Prop
  | nil : Spells [] []
  | terminator : Spells ["--"] []
  | cons {texts rest : List String} {events more : List Event}
      (occurrence : Occurrence texts events) (spells : Spells rest more) :
      Spells (texts ++ rest) (events ++ more)

/-- Whether an event is an argument: a setting with its value, or a flag. -/
def Event.isArgument : Event → Bool
  | .value _ _ | .flag _ => true
  | .missing _ | .surplus _ _ | .unknown _ => false

/-! ### The form of a text -/

theorem shape_eq_plain_iff {text : String} : Shape.of text.toList = .plain ↔ IsPlain text := by
  have hhyphen : text = "-" ↔ text.toList = ['-'] := by
    rw [← String.toList_inj]
    rfl
  rw [IsPlain, hhyphen]
  cases text.toList with
  | nil => simp [Shape.of]
  | cons c cs =>
    by_cases hc : c = '-'
    · subst hc
      rcases cs with _ | ⟨d, _ | ⟨e, ds⟩⟩
      · simp [Shape.of]
      · by_cases hd : d = '-' <;> simp [Shape.of, hd]
      · by_cases hd : d = '-' <;> simp [Shape.of, hd]
    · simp [Shape.of, hc]

/-- The first equality sign separates a name from a value. -/
theorem splitValue_append {name : List Char} (h : '=' ∉ name) (value : List Char) :
    splitValue (name ++ '=' :: value) = (String.ofList name, some (String.ofList value)) := by
  have hname : ∀ c ∈ name, decide (c ≠ '=') = true := by
    intro c hc
    exact decide_eq_true fun heq => h (heq ▸ hc)
  rw [splitValue, List.takeWhile_append_of_pos hname, List.dropWhile_append_of_pos hname]
  simp

theorem splitValue_of_notMem {name : List Char} (h : '=' ∉ name) :
    splitValue name = (String.ofList name, none) := by
  have hname : ∀ c ∈ name, decide (c ≠ '=') = true := by
    intro c hc
    exact decide_eq_true fun heq => h (heq ▸ hc)
  rw [splitValue, List.takeWhile_eq_self_iff.mpr hname, List.dropWhile_eq_nil_iff.mpr hname]

/-- A text of more than two hyphens is read as a name and a value. -/
theorem shape_of_ne_nil {rest : List Char} (h : rest ≠ []) :
    Shape.of ('-' :: '-' :: rest) = .long (splitValue rest).1 (splitValue rest).2 := by
  cases rest with
  | nil => exact absurd rfl h
  | cons c cs => rfl

theorem shape_assignment (s : Setting) (value : String) :
    Shape.of (assignment s value).toList = .long s.long (some value) := by
  have htext : (assignment s value).toList
      = '-' :: '-' :: (s.long.toList ++ '=' :: value.toList) := by
    simp [assignment]
  have hname : '=' ∉ s.long.toList := (Argument.setting s).eq_notMem_long
  rw [htext, shape_of_ne_nil (by simp), splitValue_append hname]
  simp

theorem shape_long (a : Argument) : Shape.of ("--" ++ a.long).toList = .long a.long none := by
  have htext : ("--" ++ a.long).toList = '-' :: '-' :: a.long.toList := by simp
  rw [htext, shape_of_ne_nil a.long_ne_nil, splitValue_of_notMem a.eq_notMem_long]
  simp

/-- The first letter is no hyphen. -/
theorem Letters.exists_first {cs : List Char} {events : List Event} {next : Option Setting}
    (h : Letters cs events next) : ∃ c rest, cs = c :: rest ∧ c ≠ '-' := by
  cases h with
  | last letter | flag letter =>
    exact ⟨_, _, rfl, fun heq => (Argument.flag _).short?_ne_hyphen (heq ▸ letter)⟩
  | assigned letter | attached letter | «open» letter =>
    exact ⟨_, _, rfl, fun heq => (Argument.setting _).short?_ne_hyphen (heq ▸ letter)⟩

theorem shape_letters {cs : List Char} {events : List Event} {next : Option Setting}
    (h : Letters cs events next) : Shape.of (String.ofList ('-' :: cs)).toList = .cluster cs := by
  obtain ⟨c, rest, rfl, hc⟩ := h.exists_first
  rw [String.toList_ofList]
  simp [Shape.of, hc]

/-! ### What is spelled is read -/

theorem readCluster_of_letters {cs : List Char} {events : List Event} {next : Option Setting}
    (h : Letters cs events next) (pending : Pending) :
    readCluster pending cs = (pending.settle ++ events, some (next.elim .nothing .awaiting)) := by
  induction h generalizing pending with
  | last letter =>
    rw [readCluster, Argument.ofShort?_of_short? (a := .flag _) letter]
    rfl
  | flag letter rest ih =>
    rw [readCluster, Argument.ofShort?_of_short? (a := .flag _) letter]
    simp [ih, Pending.settle]
  | assigned letter value =>
    rw [readCluster, Argument.ofShort?_of_short? (a := .setting _) letter]
    rfl
  | attached letter first value =>
    rw [readCluster, Argument.ofShort?_of_short? (a := .setting _) letter]
    simp [first]
  | «open» letter =>
    rw [readCluster, Argument.ofShort?_of_short? (a := .setting _) letter]
    simp

theorem readFrom_of_letters {cs : List Char} {events : List Event} {next : Option Setting}
    (h : Letters cs events next) (pending : Pending) (rest : List String) :
    readFrom pending (String.ofList ('-' :: cs) :: rest)
      = pending.settle ++ events ++ readFrom (next.elim .nothing .awaiting) rest := by
  simp only [readFrom.eq_def pending, shape_letters h, readCluster_of_letters h, Option.elim]

/-- A value by itself belongs to the setting that waits for it. -/
theorem readFrom_awaiting {value : String} (hplain : IsPlain value) (s : Setting)
    (rest : List String) :
    readFrom (.awaiting s) (value :: rest) = readFrom (.holding s value) rest := by
  simp only [readFrom.eq_def (.awaiting s), shape_eq_plain_iff.mpr hplain]

/-- **An occurrence is read**, whatever stands around it: it settles what is pending, its own events
are met, and the last of them may be pending in turn. -/
theorem Occurrence.readFrom_append {texts : List String} {events : List Event}
    (h : Occurrence texts events) (pending : Pending) :
    ∃ now next, pending.settle ++ events = now ++ Pending.settle next ∧
      ∀ rest, readFrom pending (texts ++ rest) = now ++ readFrom next rest := by
  cases h with
  | assigned s value =>
    refine ⟨pending.settle ++ [.value s value], .nothing, by simp [Pending.settle], fun rest => ?_⟩
    have hname : Argument.ofLong? s.long = some (.setting s) :=
      Argument.ofLong?_long (.setting s)
    simp [readFrom.eq_def pending, shape_assignment, hname]
  | separate s plain =>
    refine ⟨pending.settle, .holding s _, rfl, fun rest => ?_⟩
    have hname : Argument.ofLong? s.long = some (.setting s) :=
      Argument.ofLong?_long (.setting s)
    have hshape := shape_long (.setting s)
    rw [Argument.long] at hshape
    simp only [List.cons_append, readFrom.eq_def pending, hshape, hname, List.nil_append,
      readFrom_awaiting plain]
  | named f =>
    refine ⟨pending.settle ++ [.flag f], .nothing, by simp [Pending.settle], fun rest => ?_⟩
    have hname : Argument.ofLong? f.long = some (.flag f) := Argument.ofLong?_long (.flag f)
    have hshape := shape_long (.flag f)
    rw [Argument.long] at hshape
    simp only [List.singleton_append, readFrom.eq_def pending, hshape, hname, List.append_assoc]
  | letters letters =>
    refine ⟨pending.settle ++ events, .nothing, by simp [Pending.settle], fun rest => ?_⟩
    exact readFrom_of_letters letters pending rest
  | lettersSeparate letters plain =>
    refine ⟨_, .holding _ _, (List.append_assoc _ _ _).symm, fun rest => ?_⟩
    simp only [List.cons_append, List.nil_append, readFrom_of_letters letters, Option.elim,
      readFrom_awaiting plain]

/-- **What a command line spells is read.** -/
theorem Spells.readFrom_eq {texts : List String} {events : List Event} (h : Spells texts events)
    (pending : Pending) : readFrom pending texts = pending.settle ++ events := by
  induction h generalizing pending with
  | nil => simp [readFrom]
  | terminator => simp [readFrom, Shape.of]
  | cons occurrence spells ih =>
    obtain ⟨now, next, hevents, hread⟩ := occurrence.readFrom_append pending
    rw [hread, ih, ← List.append_assoc, ← List.append_assoc, hevents]

/-! ### What is read is spelled -/

/-- What was separated is joined again. -/
theorem join_of_splitValue {cs : List Char} {name : String} {value? : Option String}
    (h : splitValue cs = (name, value?)) :
    cs = name.toList ++ (value?.elim [] fun value => '=' :: value.toList) := by
  obtain ⟨rfl, rfl⟩ := Prod.mk.inj h
  rw [String.toList_ofList]
  have hjoin := List.takeWhile_append_dropWhile (p := fun c => decide (c ≠ '=')) (l := cs)
  cases hrest : cs.dropWhile (· ≠ '=') with
  | nil =>
    rw [hrest] at hjoin
    exact hjoin.symm
  | cons c value =>
    have hc : c = '=' := by
      have hfirst := List.head?_dropWhile_not (fun c => decide (c ≠ '=')) cs
      rw [hrest] at hfirst
      simpa using hfirst
    rw [hrest, hc] at hjoin
    simpa using hjoin.symm

theorem eq_of_shape_terminator {text : String} (h : Shape.of text.toList = .terminator) :
    text = "--" := by
  rw [← String.toList_inj]
  unfold Shape.of at h
  split at h
  case h_1 htext => rw [htext]; rfl
  all_goals cases h

theorem toList_of_shape_long {text name : String} {value? : Option String}
    (h : Shape.of text.toList = .long name value?) :
    text.toList = '-' :: '-' :: (name.toList ++ value?.elim [] fun value => '=' :: value.toList) := by
  unfold Shape.of at h
  split at h
  case h_2 rest _ htext =>
    injection h with hname hvalue
    have hsplit : splitValue rest = (name, value?) := Prod.ext hname hvalue
    rw [htext, join_of_splitValue hsplit]
  all_goals cases h

theorem eq_of_shape_name {text name : String} (h : Shape.of text.toList = .long name none) :
    text = "--" ++ name := by
  rw [← String.toList_inj, toList_of_shape_long h]
  simp

theorem eq_of_shape_assignment {text value : String} {s : Setting}
    (h : Shape.of text.toList = .long s.long (some value)) : text = assignment s value := by
  rw [← String.toList_inj, toList_of_shape_long h]
  simp [assignment]

theorem eq_of_shape_cluster {text : String} {cs : List Char}
    (h : Shape.of text.toList = .cluster cs) : text = String.ofList ('-' :: cs) ∧ cs ≠ [] := by
  rw [← String.toList_inj, String.toList_ofList]
  unfold Shape.of at h
  split at h
  case h_3 htext =>
    injection h with hcs
    rw [htext, ← hcs]
    exact ⟨rfl, List.cons_ne_nil _ _⟩
  all_goals cases h

/-- Letters in which nothing but arguments is met. -/
theorem exists_letters {cs : List Char} (hne : cs ≠ []) {pending : Pending}
    (h : ∀ e ∈ (readCluster pending cs).1, e.isArgument = true) :
    ∃ events next, Letters cs events next := by
  induction cs generalizing pending with
  | nil => exact absurd rfl hne
  | cons c rest ih =>
    rw [readCluster.eq_def] at h
    cases hletter : Argument.ofShort? c with
    | none =>
      simp [hletter, Event.isArgument] at h
    | some a =>
      have hshort := Argument.short?_of_ofShort? hletter
      cases a with
      | flag f =>
        by_cases hrest : rest = []
        · subst hrest
          exact ⟨_, _, .last hshort⟩
        · simp only [hletter, List.mem_append, List.mem_cons] at h
          obtain ⟨events, next, hletters⟩ := ih hrest fun e he => h e (Or.inr (Or.inr he))
          exact ⟨_, _, .flag hshort hletters⟩
      | setting s =>
        rcases rest with _ | ⟨d, value⟩
        · exact ⟨_, _, .open hshort⟩
        · by_cases hd : d = '='
          · subst hd
            exact ⟨_, _, .assigned hshort value⟩
          · exact ⟨_, _, .attached hshort hd value⟩

/-- Whoever waits for a value is not settled by an argument. -/
theorem Pending.ne_awaiting {pending : Pending}
    (h : ∀ e ∈ pending.settle, e.isArgument = true) (s : Setting) : pending ≠ .awaiting s := by
  rintro rfl
  cases h _ (List.mem_singleton_self _)

/-- Texts **continue** a pending setting: they are spelled by occurrences, except that the first one
is the value of a setting that waits for it. -/
inductive Continues : Pending → List String → Prop
  /-- Nothing waits for a value. -/
  | spelled {pending : Pending} {texts : List String} {events : List Event}
      (settled : ∀ s, pending ≠ .awaiting s) (spells : Spells texts events) :
      Continues pending texts
  /-- The first text is the value of the setting that waits for it. -/
  | value {s : Setting} {value : String} {rest : List String} {events : List Event}
      (plain : IsPlain value) (spells : Spells rest events) :
      Continues (.awaiting s) (value :: rest)

namespace Continues

theorem of_awaiting {s : Setting} {texts : List String} (h : Continues (.awaiting s) texts) :
    ∃ value rest events, texts = value :: rest ∧ IsPlain value ∧ Spells rest events := by
  cases h with
  | spelled settled => exact absurd rfl (settled s)
  | value plain spells => exact ⟨_, _, _, rfl, plain, spells⟩

theorem of_nothing {texts : List String} (h : Continues .nothing texts) :
    ∃ events, Spells texts events := by
  cases h with
  | spelled settled spells => exact ⟨_, spells⟩

theorem of_holding {s : Setting} {value : String} {texts : List String}
    (h : Continues (.holding s value) texts) : ∃ events, Spells texts events := by
  cases h with
  | spelled settled spells => exact ⟨_, spells⟩

end Continues

section

variable {text : String} {rest : List String} {pending : Pending}

/-- A name in front of texts that continue what it leaves pending. -/
theorem continues_name {name : String} {value? : Option String}
    (hshape : Shape.of text.toList = .long name value?)
    (ih : ∀ {next : Pending}, (∀ e ∈ readFrom next rest, e.isArgument = true) →
      Continues next rest)
    (h : ∀ e ∈ readFrom pending (text :: rest), e.isArgument = true) :
    Continues pending (text :: rest) := by
  rw [readFrom.eq_def] at h
  simp only [hshape] at h
  cases hname : Argument.ofLong? name with
  | none =>
    simp only [hname] at h
    cases h _ (List.mem_singleton_self _)
  | some a =>
    obtain rfl := Argument.long_of_ofLong? hname
    simp only [hname] at h
    rcases a with s | f <;> rcases value? with _ | value
    case setting.none =>
      obtain rfl := eq_of_shape_name hshape
      simp only [List.mem_append] at h
      obtain ⟨value, rest', events, rfl, hplain, hspells⟩ :=
        (ih fun e he => h e (Or.inr he)).of_awaiting
      have hready := Pending.ne_awaiting fun e he => h e (Or.inl he)
      exact .spelled hready (.cons (.separate s hplain) hspells)
    case setting.some =>
      obtain rfl := eq_of_shape_assignment hshape
      simp only [List.mem_append, List.mem_cons] at h
      obtain ⟨events, hspells⟩ := (ih fun e he => h e (Or.inr (Or.inr he))).of_nothing
      have hready := Pending.ne_awaiting fun e he => h e (Or.inl he)
      exact .spelled hready (.cons (.assigned s value) hspells)
    case flag.none =>
      obtain rfl := eq_of_shape_name hshape
      simp only [List.mem_append, List.mem_cons] at h
      obtain ⟨events, hspells⟩ := (ih fun e he => h e (Or.inr (Or.inr he))).of_nothing
      have hready := Pending.ne_awaiting fun e he => h e (Or.inl he)
      exact .spelled hready (.cons (.named f) hspells)
    case flag.some => cases h _ (List.mem_singleton_self _)

/-- Letters in front of texts that continue what they leave pending. -/
theorem continues_letters {cs : List Char} (hshape : Shape.of text.toList = .cluster cs)
    (ih : ∀ {next : Pending}, (∀ e ∈ readFrom next rest, e.isArgument = true) →
      Continues next rest)
    (h : ∀ e ∈ readFrom pending (text :: rest), e.isArgument = true) :
    Continues pending (text :: rest) := by
  rw [readFrom.eq_def] at h
  simp only [hshape, List.mem_append] at h
  obtain ⟨rfl, hne⟩ := eq_of_shape_cluster hshape
  obtain ⟨events, next, hletters⟩ := exists_letters hne fun e he => h e (Or.inl he)
  simp only [readCluster_of_letters hletters, List.mem_append] at h
  have hready := Pending.ne_awaiting fun e he => h e (Or.inl (Or.inl he))
  cases next with
  | none =>
    obtain ⟨more, hspells⟩ := (ih fun e he => h e (Or.inr he)).of_nothing
    exact .spelled hready (.cons (.letters hletters) hspells)
  | some s =>
    obtain ⟨value, rest', more, rfl, hplain, hspells⟩ :=
      (ih fun e he => h e (Or.inr he)).of_awaiting
    exact .spelled hready (.cons (.lettersSeparate hletters hplain) hspells)

end

/-- Texts in which nothing but arguments is met continue what is pending. -/
theorem continues_of_readFrom {texts : List String} {pending : Pending}
    (h : ∀ e ∈ readFrom pending texts, e.isArgument = true) : Continues pending texts := by
  induction texts generalizing pending with
  | nil =>
    rw [readFrom] at h
    exact .spelled (Pending.ne_awaiting h) .nil
  | cons text rest ih =>
    cases hshape : Shape.of text.toList with
    | terminator =>
      rw [readFrom.eq_def] at h
      simp only [hshape] at h
      obtain rfl := eq_of_shape_terminator hshape
      cases rest with
      | nil => exact .spelled (Pending.ne_awaiting h) .terminator
      | cons surprise _ => cases h _ (List.mem_singleton_self _)
    | long name value? => exact continues_name hshape ih h
    | cluster cs => exact continues_letters hshape ih h
    | plain =>
      rw [readFrom.eq_def] at h
      simp only [hshape] at h
      cases pending with
      | awaiting s =>
        obtain ⟨events, hspells⟩ := (ih h).of_holding
        exact .value (shape_eq_plain_iff.mp hshape) hspells
      | nothing | holding => cases h _ (List.mem_singleton_self _)

/-- Letters stand for arguments. -/
theorem Letters.isArgument {cs : List Char} {events : List Event} {next : Option Setting}
    (h : Letters cs events next) : ∀ e ∈ events, e.isArgument = true := by
  induction h with
  | last | assigned | attached => simp [Event.isArgument]
  | flag letter rest ih => simpa [Event.isArgument] using ih
  | «open» => simp

/-- Occurrences stand for arguments. -/
theorem Occurrence.isArgument {texts : List String} {events : List Event}
    (h : Occurrence texts events) : ∀ e ∈ events, e.isArgument = true := by
  cases h with
  | assigned | separate | named => simp [Event.isArgument]
  | letters letters => exact letters.isArgument
  | lettersSeparate letters plain =>
    intro e he
    rcases List.mem_append.mp he with he | he
    · exact letters.isArgument e he
    · obtain rfl := List.mem_singleton.mp he
      rfl

/-- Command lines spell arguments. -/
theorem Spells.isArgument {texts : List String} {events : List Event} (h : Spells texts events) :
    ∀ e ∈ events, e.isArgument = true := by
  induction h with
  | nil | terminator => simp
  | cons occurrence spells ih =>
    intro e he
    exact (List.mem_append.mp he).elim (occurrence.isArgument e) (ih e)

theorem Spells.read_eq {texts : List String} {events : List Event} (h : Spells texts events) :
    read texts = events :=
  h.readFrom_eq .nothing

/-- A command line spells certain events. -/
theorem Spells.unique {texts : List String} {events events' : List Event}
    (h : Spells texts events) (h' : Spells texts events') : events = events' :=
  h.read_eq.symm.trans h'.read_eq

/-- **The command lines that are spelled are those in which nothing but arguments is met**, and what
they spell is what is met. -/
theorem spells_iff {texts : List String} {events : List Event} :
    Spells texts events ↔ read texts = events ∧ ∀ e ∈ events, e.isArgument = true := by
  constructor
  · intro h
    exact ⟨h.read_eq, h.isArgument⟩
  · rintro ⟨rfl, h⟩
    obtain ⟨events, hspells⟩ := (continues_of_readFrom h).of_nothing
    rwa [hspells.read_eq]

/-- Three letters in one text, the last one with its value, and a value by itself. -/
example : Spells ["-nvc5", "--payload", "-"]
    [.flag .dryRun, .flag .verbose, .value .count "5", .value .payload "-"] :=
  spells_iff.mpr ⟨by decide +kernel, by decide⟩

end EchoInjector.CommandLine
