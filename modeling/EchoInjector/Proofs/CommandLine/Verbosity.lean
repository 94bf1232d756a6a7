import Mathlib.Algebra.GroupWithZero.Nat
import EchoInjector.Proofs.CommandLine.Interchange

/-!
# More records

How often a flag is given can be seen without reading a command line: by its name it is given once,
by letters as often as its letter is among them, up to a letter that takes the rest as its value.
Every other text is a value or ends the arguments (`Spells.timesGiven_eq`).

The flag for more records may be given any number of times, and is counted up to 255. Beyond that
the count stays as it is. It decides about the level of the log together with the flag for fewer
records, which does not stand beside it.

`AsksOnceMore` says where the flag may be put once more: between two occurrences or at one end, by
its name or by its letter, or else among the letters of one text. `verbosity_follows_count` is about
all of this.
-/

namespace EchoInjector.CommandLine

/-! ### Counting in texts -/

/-- Whether a character is the letter of a flag. -/
def isFlagLetter (c : Char) : Bool := Flag.all.any (·.short? = some c)

namespace Flag

/-- How often the flag's letter is among letters, up to the first one that takes a value. -/
def timesAmong (f : Flag) (letters : List Char) : Nat :=
  (letters.takeWhile isFlagLetter).countP (f.short? = some ·)

/-- How often a text gives the flag. -/
def timesIn (f : Flag) (text : String) : Nat :=
  match text.toList with
  | '-' :: '-' :: name => if name = f.long.toList then 1 else 0
  | '-' :: letters => f.timesAmong letters
  | _ => 0

/-- How often texts give the flag. -/
def timesGiven (f : Flag) (texts : List String) : Nat := (texts.map f.timesIn).sum

@[simp] theorem timesGiven_nil (f : Flag) : f.timesGiven [] = 0 := rfl

@[simp] theorem timesGiven_cons (f : Flag) (text : String) (texts : List String) :
    f.timesGiven (text :: texts) = f.timesIn text + f.timesGiven texts := by
  rw [timesGiven, List.map_cons, List.sum_cons, ← timesGiven]

theorem timesGiven_append (f : Flag) (texts more : List String) :
    f.timesGiven (texts ++ more) = f.timesGiven texts + f.timesGiven more := by
  rw [timesGiven, List.map_append, List.sum_append, ← timesGiven, ← timesGiven]

end Flag

section

variable {f : Flag}

/-- The letter of a flag counts for that flag. -/
theorem timesAmong_cons_of_flag {g : Flag} {c : Char} (hletter : g.short? = some c)
    (cs : List Char) :
    f.timesAmong (c :: cs) = f.timesAmong cs + if g = f then 1 else 0 := by
  have hflag : isFlagLetter c = true := by
    cases g <;> cases hletter <;> decide
  have hsame : f.short? = some c ↔ g = f := by
    constructor
    · intro hf
      exact Argument.flag.inj (Argument.eq_of_short? (a := .flag g) (b := .flag f) hletter hf)
    · rintro rfl
      exact hletter
  rw [Flag.timesAmong, List.takeWhile_cons_of_pos hflag, List.countP_cons, ← Flag.timesAmong]
  simp only [decide_eq_true_eq, hsame]

/-- Nothing counts from the letter of a setting on. -/
theorem timesAmong_cons_of_setting {s : Setting} {c : Char} (hletter : s.short? = some c)
    (cs : List Char) : f.timesAmong (c :: cs) = 0 := by
  have hflag : isFlagLetter c = false := by
    cases s <;> cases hletter <;> decide
  rw [Flag.timesAmong, List.takeWhile_cons_of_neg (by simp [hflag]), List.countP_nil]

theorem Letters.timesAmong_eq {cs : List Char} {events : List Event} {next : Option Setting}
    (h : Letters cs events next) : f.timesAmong cs = events.count (.flag f) := by
  induction h with
  | last letter =>
    rw [timesAmong_cons_of_flag letter, List.count_cons]
    simp [Flag.timesAmong]
  | flag letter rest ih =>
    rw [timesAmong_cons_of_flag letter, List.count_cons, ih]
    simp
  | assigned letter | attached letter | «open» letter =>
    rw [timesAmong_cons_of_setting letter]
    simp

theorem timesIn_long (a : Argument) :
    f.timesIn ("--" ++ a.long) = if a = .flag f then 1 else 0 := by
  have htext : ("--" ++ a.long).toList = '-' :: '-' :: a.long.toList := by simp
  have hname : a.long.toList = f.long.toList ↔ a = .flag f := by
    rw [String.toList_inj]
    exact Argument.long_injective.eq_iff (b := .flag f)
  simp only [Flag.timesIn, htext, hname]

theorem timesIn_assignment (s : Setting) (value : String) :
    f.timesIn (assignment s value) = 0 := by
  have htext : (assignment s value).toList
      = '-' :: '-' :: (s.long.toList ++ '=' :: value.toList) := by
    simp [assignment]
  have hname : s.long.toList ++ '=' :: value.toList ≠ f.long.toList := by
    intro h
    exact (Argument.flag f).eq_notMem_long (h ▸ List.mem_append_right _ List.mem_cons_self)
  simp only [Flag.timesIn, htext, if_neg hname]

theorem timesIn_of_isPlain {text : String} (h : IsPlain text) : f.timesIn text = 0 := by
  obtain hfirst | rfl := h
  · rw [Flag.timesIn]
    split
    case h_1 htext => exact absurd (by rw [htext]; rfl) hfirst
    case h_2 htext => exact absurd (by rw [htext]; rfl) hfirst
    case h_3 => rfl
  · rfl

theorem timesIn_letters {cs : List Char} {events : List Event} {next : Option Setting}
    (h : Letters cs events next) :
    f.timesIn (String.ofList ('-' :: cs)) = events.count (.flag f) := by
  obtain ⟨c, rest, rfl, hc⟩ := h.exists_first
  rw [← h.timesAmong_eq, Flag.timesIn, String.toList_ofList]
  simp [hc]

theorem Occurrence.timesGiven_eq {texts : List String} {events : List Event}
    (h : Occurrence texts events) : f.timesGiven texts = events.count (.flag f) := by
  cases h with
  | assigned s value => simp [timesIn_assignment]
  | separate s plain =>
    have hname := timesIn_long (f := f) (.setting s)
    rw [Argument.long] at hname
    simp [hname, timesIn_of_isPlain plain]
  | named g =>
    have hname := timesIn_long (f := f) (.flag g)
    rw [Argument.long] at hname
    simp [hname, List.count_cons]
  | letters letters =>
    rw [Flag.timesGiven_cons, timesIn_letters letters]
    simp
  | lettersSeparate letters plain =>
    rw [Flag.timesGiven_cons, timesIn_letters letters]
    simp [timesIn_of_isPlain plain]

/-- **How often a flag is given can be seen in the texts.** -/
theorem Spells.timesGiven_eq {texts : List String} {events : List Event}
    (h : Spells texts events) : f.timesGiven texts = events.count (.flag f) := by
  induction h with
  | nil => rfl
  | terminator => cases f <;> rfl
  | cons occurrence spells ih =>
    rw [Flag.timesGiven_append, List.count_append, occurrence.timesGiven_eq, ih]

end

/-! ### Once more -/

/-- Letters behind those of flags are letters by themselves, if there are any. -/
theorem AreLetters.of_append {cs more : List Char} {flags : List Flag} {events : List Event}
    {next : Option Setting} (h : AreLetters cs flags) (hall : Letters (cs ++ more) events next) :
    (more = [] ∧ events = flags.map .flag ∧ next = none) ∨
      ∃ rest, events = flags.map .flag ++ rest ∧ Letters more rest next := by
  induction h generalizing events with
  | nil => exact .inr ⟨events, rfl, hall⟩
  | @cons c f cs fs letter front ih =>
    rw [List.cons_append] at hall
    generalize htail : cs ++ more = tail at hall ih
    have hflag : ∀ {a : Argument}, a.short? = some c → a = .flag f :=
      fun ha => Argument.eq_of_short? ha letter
    cases hall with
    | @last g _ letter' =>
      obtain rfl := Argument.flag.inj (hflag (a := .flag g) letter')
      obtain ⟨rfl, rfl⟩ := List.append_eq_nil_iff.mp htail
      cases front
      exact .inl ⟨rfl, rfl, rfl⟩
    | @flag g _ _ events _ letter' rest' =>
      obtain rfl := Argument.flag.inj (hflag (a := .flag g) letter')
      obtain ⟨rfl, rfl, rfl⟩ | ⟨rest, rfl, hmore⟩ := ih rest'
      · exact .inl ⟨rfl, rfl, rfl⟩
      · exact .inr ⟨rest, rfl, hmore⟩
    | @assigned s _ letter' | @attached s _ _ letter' | @«open» s _ letter' =>
      cases hflag (a := .setting s) letter'

/-- The flag's letter may be put behind letters of flags, among other letters or at their end. -/
theorem Letters.insert_verbose {cs more : List Char} {flags : List Flag} {events : List Event}
    {next : Option Setting} (hfront : AreLetters cs flags) (h : Letters (cs ++ more) events next) :
    ∃ first rest, events = first ++ rest ∧
      Letters (cs ++ 'v' :: more) (first ++ .flag .verbose :: rest) next := by
  obtain ⟨rfl, rfl, rfl⟩ | ⟨rest, rfl, hmore⟩ := hfront.of_append h
  · exact ⟨_, [], (List.append_nil _).symm, hfront.append (.last rfl)⟩
  · exact ⟨_, rest, rfl, hfront.append (.flag rfl hmore)⟩

/-- The flag's letter is one flag more among what is spelled. -/
theorem Spells.insert_verbose {cs more : List Char} {flags : List Flag} {events all : List Event}
    {next : Option Setting} {behind : List String} (hfront : AreLetters cs flags)
    (hletters : Letters (cs ++ more) events next)
    (h : Spells (String.ofList ('-' :: (cs ++ more)) :: behind) all) :
    ∃ first rest, all = first ++ rest ∧
      Spells (String.ofList ('-' :: (cs ++ 'v' :: more)) :: behind)
        (first ++ .flag .verbose :: rest) := by
  obtain ⟨first, rest, rfl, hletters'⟩ := hletters.insert_verbose hfront
  obtain ⟨rfl, harguments⟩ := spells_iff.mp h
  -- what stands behind the letters is read with the same setting pending
  have hread : read (String.ofList ('-' :: (cs ++ more)) :: behind)
      = first ++ (rest ++ readFrom (next.elim .nothing .awaiting) behind) := by
    rw [read, readFrom_of_letters hletters, Pending.settle, List.nil_append, List.append_assoc]
  rw [hread] at harguments
  refine ⟨first, _, hread, spells_iff.mpr ⟨?_, fun e he => ?_⟩⟩
  · rw [read, readFrom_of_letters hletters', Pending.settle, List.nil_append, List.append_assoc,
      List.cons_append]
  · obtain rfl | he := List.mem_cons.mp (List.perm_middle.mem_iff.mp he)
    · rfl
    · exact harguments e he

/-- Of two command lines, the second one **asks once more** for more records than the first. -/
inductive AsksOnceMore : List String → List String → Prop
  /-- By a text of its own, between two occurrences or at an end. -/
  | text {before behind : List String} {events : List Event} {v : String}
      (spells : Spells before events) (unended : "--" ∉ before) (either : v = "-v" ∨ v = "--verbose") :
      AsksOnceMore (before ++ behind) (before ++ v :: behind)
  /-- By a letter in a text with other letters, behind none of a setting. -/
  | letter {before behind : List String} {cs more : List Char} {flags : List Flag}
      {events : List Event} {next : Option Setting} (front : AreLetters cs flags)
      (letters : Letters (cs ++ more) events next) :
      AsksOnceMore (before ++ String.ofList ('-' :: (cs ++ more)) :: behind)
        (before ++ String.ofList ('-' :: (cs ++ 'v' :: more)) :: behind)

/-- **To ask once more is to give one flag more**, somewhere among what is spelled. -/
theorem AsksOnceMore.exists_spells {texts texts' : List String} {events : List Event}
    (h : AsksOnceMore texts texts') (hspells : Spells texts events) :
    ∃ first rest, events = first ++ rest ∧ Spells texts' (first ++ .flag .verbose :: rest) := by
  cases h with
  | @text before behind first v spells unended either =>
    obtain ⟨rest, rfl, hbehind⟩ := spells.of_append unended hspells
    have hpassage : Passage [v] [.flag .verbose] := by
      obtain rfl | rfl := either
      · exact (Occurrence.letters (.last (f := .verbose) (c := 'v') rfl)).passage
      · exact (Occurrence.named .verbose).passage
    exact ⟨first, rest, rfl, hpassage.between_iff.mpr ⟨first, rest, spells, unended, hbehind, rfl⟩⟩
  | @letter before behind cs more flags inside next front letters =>
    have hshape := shape_letters letters
    have hplain : ¬ IsPlain (String.ofList ('-' :: (cs ++ more))) := by
      rw [← shape_eq_plain_iff, hshape]
      exact Shape.noConfusion
    have hopen : String.ofList ('-' :: (cs ++ more)) ≠ "--" := by
      intro heq
      rw [heq] at hshape
      cases hshape
    obtain ⟨start, all, hbefore, hunended, hall, rfl⟩ := hspells.exists_append hplain hopen
    obtain ⟨first, rest, rfl, hmore⟩ := hall.insert_verbose front letters
    refine ⟨start ++ first, rest, (List.append_assoc _ _ _).symm, ?_⟩
    rw [List.append_assoc]
    exact hbefore.append hunended hmore

/-! ### The level -/

/-- The level of the log if the flag for more records is given so many times, and the one for fewer
is not. -/
def levelFor (times : Nat) : Log.Level :=
  if times = 0 then .info else if times = 1 then .debug else .trace

theorem rank_levelFor_le (times : Nat) :
    (levelFor times).rank ≤ (levelFor (times + 1)).rank := by
  rcases times with _ | _ | times
  · decide
  · decide
  · exact Nat.le_refl _

/-- That the count ends at 255 makes no difference to the level. -/
theorem Arguments.logLevel_eq_levelFor {a : Arguments} {times : Nat} (hquiet : a.quiet = false)
    (hverbose : a.verbose = min 255 times) : a.logLevel = levelFor times := by
  rcases Nat.eq_zero_or_pos times with rfl | hpos
  · rw [logLevel, hquiet, hverbose]
    rfl
  · rw [logLevel_of_verbose hquiet hverbose hpos, levelFor, if_neg hpos.ne']

/-- **The flag for more records counts, wherever it is given**, up to 255 times, and the level of the
log follows the count. The flag for fewer records sets the level by itself. Without it the flag for
more may be given once more: the command line is accepted, the level is no lower, and the plan is
the same. -/
theorem verbosity_follows_count {texts : List String} {env : Environment} {a : Arguments}
    (h : parse texts env = .ok a) :
    a.verbose = min 255 (Flag.verbose.timesGiven texts) ∧
    (0 < Flag.quiet.timesGiven texts →
      Flag.verbose.timesGiven texts = 0 ∧ a.logLevel = .warn) ∧
    (Flag.quiet.timesGiven texts = 0 → a.logLevel = levelFor (Flag.verbose.timesGiven texts)) ∧
    ∀ texts', AsksOnceMore texts texts' → Flag.quiet.timesGiven texts = 0 →
      Flag.verbose.timesGiven texts' = Flag.verbose.timesGiven texts + 1 ∧
      ∃ b, parse texts' env = .ok b ∧ b = { a with verbose := b.verbose } ∧ b.plan = a.plan ∧
        a.logLevel.rank ≤ b.logLevel.rank := by
  obtain ⟨events, hspells, hacc, hcompatible, hanswers⟩ := parse_eq_ok_iff.mp h
  have hheeds := hanswers.heeds hacc (compatible_append_supplied_iff.mp hcompatible)
  have hverbose := hanswers.verbose_eq
  have hquiet := hanswers.quiet_eq_true_iff
  rw [← hspells.timesGiven_eq] at hverbose
  have hloud : Flag.quiet.timesGiven texts = 0 → .flag .quiet ∉ events ∧ a.quiet = false := by
    intro hnone
    rw [hspells.timesGiven_eq, List.count_eq_zero] at hnone
    exact ⟨hnone, by rwa [← Bool.not_eq_true, hquiet]⟩
  refine ⟨hverbose, fun hfewer => ?_, fun hnone => ?_, fun texts' hmore hnone => ?_⟩
  · rw [hspells.timesGiven_eq, List.count_pos_iff] at hfewer
    obtain ⟨hzero, hwarn⟩ := hheeds.fewer hfewer
    exact ⟨by omega, hwarn⟩
  · exact Arguments.logLevel_eq_levelFor (hloud hnone).2 hverbose
  · obtain ⟨first, rest, rfl, hspells'⟩ := hmore.exists_spells hspells
    have htimes : Flag.verbose.timesGiven texts' = Flag.verbose.timesGiven texts + 1 := by
      rw [hspells.timesGiven_eq, hspells'.timesGiven_eq, List.perm_middle.count_eq,
        List.count_cons_self]
    have hparse : parse texts' env = .ok (a.withFlag .verbose) := by
      refine (parse_flag_more_iff (by decide) hspells hspells' List.perm_middle).mpr
        ⟨absurd rfl, fun g hrival => ?_, a, h, rfl⟩
      cases hrival
      exact (hloud hnone).1
    have hcount : (a.withFlag .verbose).verbose = min 255 (Flag.verbose.timesGiven texts + 1) := by
      change min 255 (a.verbose + 1) = _
      omega
    have hstays : (a.withFlag .verbose).quiet = false := (hloud hnone).2
    refine ⟨htimes, _, hparse, rfl, rfl, ?_⟩
    rw [Arguments.logLevel_eq_levelFor (hloud hnone).2 hverbose,
      Arguments.logLevel_eq_levelFor hstays hcount]
    exact rank_levelFor_le _

/-- The flag by its letter, once more among other letters, and 256 times in as many texts. -/
theorem verbosity_follows_count_by_letters :
    (∃ a b, parse ["-nvc5", "--payload", "-"] (fun _ => none) = .ok a ∧ a.verbose = 1 ∧
      a.logLevel = .debug ∧ parse ["-nvvc5", "--payload", "-"] (fun _ => none) = .ok b ∧
      b.plan = a.plan ∧ a.logLevel.rank ≤ b.logLevel.rank) ∧
    ∃ a, parse (List.replicate 256 "-v") (fun _ => none) = .ok a ∧ a.verbose = 255 ∧
      a.logLevel = .trace := by
  constructor
  · have hparse : parse ["-nvc5", "--payload", "-"] (fun _ => none)
        = .ok { Arguments.ofEntries [] with
          dryRun := true, verbose := 1, count := 5, payload := some "-" } := by
      decide +kernel
    have htimes : Flag.verbose.timesGiven ["-nvc5", "--payload", "-"] = 1 := by decide +kernel
    have hloud : Flag.quiet.timesGiven ["-nvc5", "--payload", "-"] = 0 := by decide +kernel
    obtain ⟨hcount, -, hlevel, honce⟩ := verbosity_follows_count hparse
    rw [htimes] at hcount hlevel
    have hletters : Letters ['n', 'v', 'c', '5'] [.flag .dryRun, .flag .verbose, .value .count "5"]
        none :=
      .flag (f := .dryRun) rfl (.flag (f := .verbose) rfl
        (.attached (s := .count) rfl (by decide) []))
    have hmore : AsksOnceMore ["-nvc5", "--payload", "-"] ["-nvvc5", "--payload", "-"] :=
      @AsksOnceMore.letter [] ["--payload", "-"] ['n'] ['v', 'c', '5'] [.dryRun] _ _
        (.cons rfl .nil) hletters
    obtain ⟨-, b, hb, -, hplan, hrank⟩ := honce _ hmore hloud
    exact ⟨_, b, hparse, hcount, hlevel hloud, hb, hplan, hrank⟩
  · have hparse : parse (List.replicate 256 "-v") (fun _ => none)
        = .ok { Arguments.ofEntries [] with verbose := 255 } := by
      decide +kernel
    have htimes : Flag.verbose.timesGiven (List.replicate 256 "-v") = 256 := by decide +kernel
    obtain ⟨hcount, -, hlevel, -⟩ := verbosity_follows_count hparse
    rw [htimes] at hcount hlevel
    exact ⟨_, hparse, hcount, hlevel (by decide +kernel)⟩

end EchoInjector.CommandLine
