import EchoInjector.Proofs.CommandLine.Interchange

/-!
# Which texts are numbers

Nine settings take a number. The **numerals** of a setting are said in one place (`Setting.Numeral`)
and without a reader: decimal digits, any number of them, behind at most one sign, for a number
within the setting's range. The count and the interval, whose range is that of 64 bits, take no
minus sign, so that for them zero cannot be written as less than nothing.

That these are the texts that a setting takes (`numeral_iff`) is one thing; what a user can observe
is whether a command line is accepted and what is then done. Where it leaves the setting open, a
text for it decides by itself, at any place and in any spelling or in the environment, and the plan
holds the number that it denotes (`numerals_decide`).
-/

namespace EchoInjector.CommandLine

open Text

/-! ### Numerals of a setting -/

namespace Setting

/-- The settings that take a number. -/
def numeric : List Setting :=
  [ttl, ipIdent, icmpType, icmpCode, ident, seq, payloadLength, count, interval]

/-- The greatest number of a setting whose numerals may have a minus sign. -/
def most? : Setting → Option Nat
  | ttl | icmpType | icmpCode => some 255
  | ipIdent | ident | seq => some 65535
  | payloadLength => some 65507
  | _ => none

/-- A text is a **numeral** of a setting for a number in its range. -/
inductive Numeral (s : Setting) (text : String) (n : Nat) : Prop
  /-- At most one sign, and digits. -/
  | signed {most : Nat} (range : s.most? = some most) (denotes : Denotes text.toList n)
      (le : n ≤ most)
  /-- At most a plus sign, and digits. -/
  | unsigned (range : s = count ∨ s = interval) (denotes : DenotesUnsigned text.toList n)
      (le : n ≤ 18446744073709551615)

/-- The number that is the value of a setting. -/
def number? : (s : Setting) → s.Value → Option Nat
  | ttl, v | icmpType, v | icmpCode, v => some (UInt8.toNat v)
  | ipIdent, v | ident, v | seq, v | payloadLength, v => some (UInt16.toNat v)
  | count, v | interval, v => some (UInt64.toNat v)
  | _, _ => none

end Setting

section

variable {s : Setting} {text : String} {n : Nat}

theorem numeral_iff_of_most {most : Nat} (h : s.most? = some most) :
    s.Numeral text n ↔ Denotes text.toList n ∧ n ≤ most := by
  constructor
  · rintro (⟨range, denotes, le⟩ | ⟨rfl | rfl, -, -⟩)
    · cases h.symm.trans range
      exact ⟨denotes, le⟩
    · cases h
    · cases h
  · rintro ⟨denotes, le⟩
    exact .signed h denotes le

theorem numeral_iff_of_whole (h : s = .count ∨ s = .interval) :
    s.Numeral text n ↔ DenotesUnsigned text.toList n ∧ n ≤ 18446744073709551615 := by
  constructor
  · rintro (⟨range, -, -⟩ | ⟨-, denotes, le⟩)
    · obtain rfl | rfl := h <;> cases range
    · exact ⟨denotes, le⟩
  · rintro ⟨denotes, le⟩
    exact .unsigned h denotes le

/-- A number of some width is read from what denotes it. -/
theorem exists_map_readWithin_iff {α : Type} {ofNat : Nat → α} {toNat : α → Nat} {most : Nat}
    (hmost : most < 1 <<< 63) (hfits : ∀ n ≤ most, toNat (ofNat n) = n)
    (hsame : ∀ v, ofNat (toNat v) = v) :
    (∃ v, (readWithin most text).map ofNat = .ok v ∧ some (toNat v) = some n) ↔
      Denotes text.toList n ∧ n ≤ most := by
  simp only [map_readWithin_eq_ok_iff hmost hfits hsame, Option.some_inj]
  constructor
  · rintro ⟨v, h, rfl⟩
    exact h
  · rintro ⟨denotes, le⟩
    exact ⟨ofNat n, by rw [hfits n le]; exact ⟨denotes, le⟩, hfits n le⟩

/-- So is one of 64 bits. -/
theorem exists_readWhole_iff :
    (∃ v, readWhole text = .ok v ∧ some (UInt64.toNat v) = some n) ↔
      DenotesUnsigned text.toList n ∧ n ≤ 18446744073709551615 := by
  simp only [readWhole_eq_ok_iff, Option.some_inj]
  constructor
  · rintro ⟨v, h, rfl⟩
    exact ⟨h, Nat.le_of_lt_succ v.toNat_lt⟩
  · rintro ⟨denotes, le⟩
    have hfits := toNat_ofNat_uint64 n le
    exact ⟨.ofNat n, by rwa [hfits], hfits⟩

/-- **A setting reads its numerals, as the numbers that they denote.** -/
theorem numeral_iff (hs : s ∈ Setting.numeric) :
    s.Numeral text n ↔ ∃ v, s.read text = .ok v ∧ s.number? v = some n := by
  cases s with
  | ttl | icmpType | icmpCode =>
    exact (numeral_iff_of_most rfl).trans
      (exists_map_readWithin_iff (by decide) toNat_ofNat_uint8 fun _ => UInt8.ofNat_toNat).symm
  | ipIdent | ident | seq | payloadLength =>
    exact (numeral_iff_of_most rfl).trans (exists_map_readWithin_iff (by decide)
      (toNat_ofNat_uint16 (by decide)) fun _ => UInt16.ofNat_toNat).symm
  | count => exact (numeral_iff_of_whole (.inl rfl)).trans exists_readWhole_iff.symm
  | interval => exact (numeral_iff_of_whole (.inr rfl)).trans exists_readWhole_iff.symm
  | _ => exact absurd hs (by decide)

/-- The value of such a setting is a number. -/
theorem exists_number (hs : s ∈ Setting.numeric) (v : s.Value) : ∃ n, s.number? v = some n := by
  cases s with
  | ttl | icmpType | icmpCode | ipIdent | ident | seq | payloadLength | count | interval =>
    exact ⟨_, rfl⟩
  | _ => exact absurd hs (by decide)

/-- It takes the numerals and nothing else. -/
theorem exists_read_iff_numeral (hs : s ∈ Setting.numeric) :
    (∃ v, s.read text = .ok v) ↔ ∃ n, s.Numeral text n := by
  simp only [numeral_iff hs]
  constructor
  · rintro ⟨v, hread⟩
    obtain ⟨n, hn⟩ := exists_number hs v
    exact ⟨n, v, hread, hn⟩
  · rintro ⟨n, v, hread, -⟩
    exact ⟨v, hread⟩

end

/-! ### A number more, from the environment -/

section

variable {texts : List String} {env : Environment} {a : Arguments} {s : Setting} {text : String}

/-- A variable for an open setting is all there is to decide. -/
theorem LeavesOpen.exists_parse_update_iff (h : LeavesOpen texts env s) :
    (∃ b, parse texts (Function.update env s.envName (some text)) = .ok b) ↔
      ∃ v, s.read text = .ok v := by
  obtain ⟨⟨a, hparse⟩, habsent⟩ := h
  obtain ⟨events, hspells, hacc, hcompatible, -⟩ := parse_eq_ok_iff.mp hparse
  exact CommandLine.exists_parse_update_iff hspells hacc hcompatible (habsent events hspells)

/-- The variable of an open setting has its value. -/
theorem LeavesOpen.value?_of_update (h : LeavesOpen texts env s) {v : s.Value}
    (hread : s.read text = .ok v)
    (hparse : parse texts (Function.update env s.envName (some text)) = .ok a) :
    a.value? s = some v := by
  obtain ⟨events, hspells, -, -, hanswers⟩ := parse_eq_ok_iff.mp hparse
  exact hanswers.value?_eq
    (.supplied (h.absent events hspells).notMem (Function.update_self ..) hread)

end

/-! ### The number that is held -/

/-- A plan **holds** a number for a setting: in the field that is the setting's own, or, for the
length of the payload, as the number of zeros in it. The interval counts milliseconds. -/
def Setting.HeldBy : Setting → Plan → Nat → Prop
  | ttl, p, n => p.probe.ttl.toNat = n
  | ipIdent, p, n => p.probe.ipIdent.toNat = n
  | icmpType, p, n => p.probe.icmpType.toNat = n
  | icmpCode, p, n => p.probe.icmpCode.toNat = n
  | ident, p, n => p.probe.icmpIdent.toNat = n
  | seq, p, n => p.probe.icmpSeq.toNat = n
  | payloadLength, p, n => p.probe.payload = List.replicate n 0
  | count, p, n => p.count.toNat = n
  | interval, p, n => p.interval.toNat = n
  | _, _, _ => False

section

variable {texts : List String} {env : Environment} {a : Arguments} {s : Setting} {text : String}

/-- A length is not given beside a text. -/
theorem payload_eq_none_of_length (hparse : parse texts env = .ok a) {n : UInt16}
    (hlength : a.payloadLength = some n) : a.payload = none := by
  obtain ⟨events, -, hacc, hcompatible, hanswers⟩ := parse_eq_ok_iff.mp hparse
  have hheeds := hanswers.heeds hacc (compatible_append_supplied_iff.mp hcompatible)
  cases htext : a.payload with
  | none => rfl
  | some text => cases hlength.symm.trans (hheeds.alone text htext)

/-- The number of a setting's value is held by the plan. -/
theorem heldBy_plan (hparse : parse texts env = .ok a) {v : s.Value} {n : Nat}
    (hvalue : a.value? s = some v) (hnumber : s.number? v = some n) : s.HeldBy a.plan n := by
  cases s with
  | payloadLength =>
    -- a text would be preferred, but there is none beside a length
    cases hnumber
    exact a.carries_plan.zeros (payload_eq_none_of_length hparse hvalue) v hvalue
  | ttl | ipIdent | icmpType | icmpCode | ident | seq | count | interval =>
    cases hvalue
    exact Option.some.inj hnumber
  | _ => cases hnumber

/-- A text **decides** about an answer as a value of a setting: there are arguments exactly if it is
a numeral of the setting, and their plan holds the number. -/
structure Setting.Decides (s : Setting) (text : String) (answer : Except Ending Arguments) :
    Prop where
  accepted_iff : (∃ a, answer = .ok a) ↔ ∃ n, s.Numeral text n
  held : ∀ a n, answer = .ok a → s.Numeral text n → s.HeldBy a.plan n

/-- **Numbers are taken by their grammar.** A setting for a number reads the numerals in its range
and no other text. With a text for it anywhere between the occurrences of a command line that leaves
it open, spelled in whatever way, or in the environment, the command line is accepted exactly if the
text is such a numeral, and the plan then holds the number that it denotes. -/
theorem numerals_decide {s : Setting} (hs : s ∈ Setting.numeric) (text : String) :
    ((∃ v, s.read text = .ok v) ↔ ∃ n, s.Numeral text n) ∧
    ∀ texts env, LeavesOpen texts env s →
      (∀ before behind piece, before ++ behind = texts → (∃ first, Spells before first) →
        "--" ∉ before → Passage piece [.value s text] →
        s.Decides text (parse (before ++ (piece ++ behind)) env)) ∧
      s.Decides text (parse texts (Function.update env s.envName (some text))) := by
  refine ⟨exists_read_iff_numeral hs, fun texts env hopen => ⟨?_, ?_, ?_⟩⟩
  · rintro before behind piece rfl ⟨first, hbefore⟩ hunended hpiece
    refine ⟨?_, fun a n hparse hnumeral => ?_⟩
    · rw [hopen.exists_parse_iff hbefore hunended hpiece, exists_read_iff_numeral hs]
    · obtain ⟨v, hread, hnumber⟩ := (numeral_iff hs).mp hnumeral
      obtain ⟨w, hread', hvalue⟩ := value?_of_passage hpiece hparse
      cases hread.symm.trans hread'
      exact heldBy_plan hparse hvalue hnumber
  · rw [hopen.exists_parse_update_iff, exists_read_iff_numeral hs]
  · intro a n hparse hnumeral
    obtain ⟨v, hread, hnumber⟩ := (numeral_iff hs).mp hnumeral
    exact heldBy_plan hparse (hopen.value?_of_update hread hparse) hnumber

/-- Less than nothing, which is nothing, for the time to live, and the greatest count behind a plus
sign and a zero; an interval that is one too great in a variable, and a sign alone. -/
theorem numerals_decide_samples :
    (∃ a, parse ["--json", "--ttl=-0"] (fun _ => none) = .ok a ∧ a.plan.probe.ttl.toNat = 0) ∧
    (∃ a, parse ["-c", "+018446744073709551615", "--json"] (fun _ => none) = .ok a ∧
      a.plan.count.toNat = 18446744073709551615) ∧
    (¬ ∃ a, parse ["--json"] (Function.update (fun _ => none) "ECHO_PROBE_INTERVAL"
      (some "18446744073709551616")) = .ok a) ∧
    ¬ ∃ a, parse ["--ident=+", "--json"] (fun _ => none) = .ok a := by
  have hjson : Spells ["--json"] [.flag .json] := (Occurrence.named .json).spells
  have hopen : ∀ s, LeavesOpen ["--json"] (fun _ => none) s := by
    intro s
    refine ⟨⟨{ Arguments.ofEntries [] with json := true }, by decide +kernel⟩, fun events h => ?_⟩
    obtain rfl := h.unique hjson
    rw [supplied_of_none fun _ => rfl]
    exact ⟨by simp [arguments, Event.argument?], fun r hr => by cases s <;> cases hr <;> decide⟩
  refine ⟨?_, ?_, ?_, ?_⟩
  · have hdecides := ((numerals_decide (by decide) "-0").2 _ _ (hopen .ttl)).1 ["--json"] []
      ["--ttl=-0"] rfl ⟨_, hjson⟩ (by decide) (Occurrence.assigned .ttl "-0").passage
    have hnumeral : Setting.ttl.Numeral "-0" 0 := .signed rfl (.minus (by decide)) (by decide)
    obtain ⟨a, ha⟩ := hdecides.accepted_iff.mpr ⟨0, hnumeral⟩
    exact ⟨a, ha, hdecides.held a 0 ha hnumeral⟩
  · have hpiece : Occurrence ["-c", "+018446744073709551615"]
        [.value .count "+018446744073709551615"] :=
      .lettersSeparate (.open rfl) (.inl (by decide))
    have hdecides := ((numerals_decide (by decide) "+018446744073709551615").2 _ _
      (hopen .count)).1 [] ["--json"] _ rfl ⟨_, .nil⟩ (by decide) hpiece.passage
    have hnumeral : Setting.count.Numeral "+018446744073709551615" 18446744073709551615 :=
      .unsigned (.inl rfl) ⟨"018446744073709551615".toList, .inr (by decide), by decide, by decide⟩
        (by decide)
    obtain ⟨a, ha⟩ := hdecides.accepted_iff.mpr ⟨_, hnumeral⟩
    exact ⟨a, ha, hdecides.held a _ ha hnumeral⟩
  · have hinterval : Setting.interval ∈ Setting.numeric := by decide
    have hdecides := ((numerals_decide hinterval "18446744073709551616").2 _ _
      (hopen .interval)).2
    have hread : Setting.interval.read "18446744073709551616" = .error (.numeral .tooLarge) := by
      decide +kernel
    refine hdecides.accepted_iff.not.mpr ?_
    rw [← exists_read_iff_numeral hinterval, hread]
    rintro ⟨v, ⟨⟩⟩
  · have hident : Setting.ident ∈ Setting.numeric := by decide
    have hdecides := ((numerals_decide hident "+").2 _ _ (hopen .ident)).1 [] ["--json"]
      ["--ident=+"] rfl ⟨_, .nil⟩ (by decide) (Occurrence.assigned .ident "+").passage
    have hread : Setting.ident.read "+" = .error (.numeral .invalidDigit) := by decide +kernel
    refine hdecides.accepted_iff.not.mpr ?_
    rw [← exists_read_iff_numeral hident, hread]
    rintro ⟨v, ⟨⟩⟩

end

end EchoInjector.CommandLine
