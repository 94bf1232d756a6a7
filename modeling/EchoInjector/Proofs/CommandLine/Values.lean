import Mathlib.Logic.Function.Basic
import EchoInjector.Proofs.CommandLine.Conflicts
import EchoInjector.Proofs.Text.Denotation

/-!
# Which texts are values

A setting takes some texts as its value and refuses the others. For the settings that take a number
up to some bound, these are the texts that **denote** a number up to that bound, whatever their
length (`readWithin_eq_ok_iff`).

A setting decides about a command line as a whole where all the rest of it is in order and leaves
the setting **open**: with a text for it in addition, on the command line or in the environment, the
command line is accepted exactly if the setting takes the text (`exists_parse_cons_iff`,
`exists_parse_update_iff`).
-/

namespace EchoInjector.CommandLine

open Text

/-! ### Numbers within bounds -/

/-- **A text is read as a number up to a bound exactly if it denotes one.** -/
theorem readWithin_eq_ok_iff {most n : Nat} (hmost : most < 1 <<< 63) {text : String} :
    readWithin most text = .ok n ↔ Denotes text.toList n ∧ n ≤ most := by
  have hread (z : Int) := @readSigned_eq_ok_iff text.toList z
  rw [readWithin]
  cases hsigned : readSigned text.toList with
  | error fault =>
    rw [hsigned] at hread
    constructor
    · rintro ⟨⟩
    · rintro ⟨hdenotes, hle⟩
      cases (hread n).mpr ⟨hdenotes, by omega⟩
  | ok z =>
    rw [hsigned] at hread
    obtain ⟨hdenotes, -, -⟩ := (hread z).mp rfl
    constructor
    · intro h
      simp only at h
      split at h
      case isTrue hrange =>
        cases h
        rw [Int.toNat_of_nonneg hrange.1]
        exact ⟨hdenotes, by omega⟩
      case isFalse => cases h
    · rintro ⟨hn, hle⟩
      obtain rfl := hdenotes.unique hn
      exact if_pos (by omega)

/-- The same holds of numbers of some width, if the bound fits in it. -/
theorem map_readWithin_eq_ok_iff {α : Type} {ofNat : Nat → α} {toNat : α → Nat} {most : Nat}
    (hmost : most < 1 <<< 63) (hfits : ∀ n ≤ most, toNat (ofNat n) = n)
    (hsame : ∀ v, ofNat (toNat v) = v) {text : String} {v : α} :
    (readWithin most text).map ofNat = .ok v ↔
      Denotes text.toList (toNat v) ∧ toNat v ≤ most := by
  rw [map_eq_ok_iff]
  simp only [readWithin_eq_ok_iff hmost]
  constructor
  · rintro ⟨n, ⟨hdenotes, hle⟩, rfl⟩
    rw [hfits n hle]
    exact ⟨hdenotes, hle⟩
  · rintro ⟨hdenotes, hle⟩
    exact ⟨_, ⟨hdenotes, hle⟩, hsame v⟩

theorem toNat_ofNat_uint8 (n : Nat) (h : n ≤ 255) : (UInt8.ofNat n).toNat = n :=
  UInt8.toNat_ofNat_of_lt' (Nat.lt_of_le_of_lt h (by decide))

theorem toNat_ofNat_uint16 {most : Nat} (hmost : most < 65536) (n : Nat) (h : n ≤ most) :
    (UInt16.ofNat n).toNat = n :=
  UInt16.toNat_ofNat_of_lt' (Nat.lt_of_le_of_lt h hmost)

theorem toNat_ofNat_uint64 (n : Nat) (h : n ≤ 18446744073709551615) :
    (UInt64.ofNat n).toNat = n :=
  UInt64.toNat_ofNat_of_lt' (Nat.lt_of_le_of_lt h (by decide))

/-- **A number of 64 bits is read without a minus sign.** -/
theorem readWhole_eq_ok_iff {text : String} {v : UInt64} :
    readWhole text = .ok v ↔ DenotesUnsigned text.toList v.toNat := by
  have hwidth : v.toNat ≤ 18446744073709551615 := Nat.le_of_lt_succ v.toNat_lt
  have hread (n : Nat) := @readUnsigned_ten_eq_ok_iff (UInt64.size - 1) n text.toList
  rw [readWhole]
  cases hwhole : readUnsigned 10 (UInt64.size - 1) text.toList with
  | error fault =>
    rw [hwhole] at hread
    constructor
    · rintro ⟨⟩
    · intro hdenotes
      cases (hread v.toNat).mpr ⟨hdenotes, hwidth⟩
  | ok n =>
    rw [hwhole] at hread
    obtain ⟨hdenotes, hle⟩ := (hread n).mp rfl
    constructor
    · rintro ⟨⟩
      rwa [toNat_ofNat_uint64 n hle]
    · intro h
      cases (hread v.toNat).mpr ⟨h, hwidth⟩
      exact congrArg Except.ok UInt64.ofNat_toNat

/-- A length for the payload is a number up to the limit. -/
theorem read_payloadLength_eq_ok_iff {text : String} {v : UInt16} :
    Setting.payloadLength.read text = .ok v ↔
      Denotes text.toList v.toNat ∧ v.toNat ≤ 65507 :=
  map_readWithin_eq_ok_iff (by decide) (toNat_ofNat_uint16 (by decide)) fun _ => UInt16.ofNat_toNat

/-- A number is a length for the payload exactly if it is between zero and the limit. -/
theorem exists_read_payloadLength_iff {text : String} {n : Int} (h : Denotes text.toList n) :
    (∃ v, Setting.payloadLength.read text = .ok v) ↔ 0 ≤ n ∧ n ≤ 65507 := by
  constructor
  · rintro ⟨v, hread⟩
    obtain ⟨hdenotes, hle⟩ := read_payloadLength_eq_ok_iff.mp hread
    obtain rfl := h.unique hdenotes
    omega
  · rintro ⟨hnonneg, hle⟩
    have htoNat : (UInt16.ofNat n.toNat).toNat = n.toNat :=
      toNat_ofNat_uint16 (by decide : 65507 < 65536) n.toNat (by omega)
    refine ⟨UInt16.ofNat n.toNat, read_payloadLength_eq_ok_iff.mpr ?_⟩
    rw [htoNat, Int.toNat_of_nonneg hnonneg]
    exact ⟨h, by omega⟩

/-! ### A setting more -/

/-- A setting is **open** if events give neither it nor its rival. -/
structure Setting.Open (s : Setting) (events : List Event) : Prop where
  absent : .setting s ∉ arguments events
  unrivalled : ∀ r, (Argument.setting s).rival? = some r → r ∉ arguments events

theorem Setting.Open.notMem {s : Setting} {events more : List Event}
    (h : s.Open (events ++ more)) : .setting s ∉ arguments events := fun hmem =>
  h.absent (arguments_append events more ▸ List.mem_append_left _ hmem)

section

variable {events : List Event} {s : Setting} {text : String}

/-- Events may give an open setting in addition. -/
theorem Compatible.of_open {more : List Event} (h : Compatible events) (hs : s.Open events)
    (hmore : ∀ a ∈ arguments more, a = .setting s ∨ a ∈ arguments events) : Compatible more := by
  intro a b hrival ha hb
  obtain rfl | ha := hmore a ha
  · obtain rfl | hb := hmore b hb
    · cases s <;> cases hrival
    · exact hs.unrivalled b hrival hb
  · obtain rfl | hb := hmore b hb
    · exact hs.unrivalled a (Argument.rival?_symm hrival) ha
    · exact h a b hrival ha hb

/-- So may acceptable ones, with a value that can be read. -/
theorem Acceptable.cons_value (h : Acceptable events) (habsent : .setting s ∉ arguments events)
    (hread : ∃ v, s.read text = .ok v) : Acceptable (.value s text :: events) where
  goesOn := List.forall_mem_cons.mpr ⟨⟨rfl, by simp, by simp⟩, h.goesOn⟩
  readable := by
    intro t value hmem
    obtain heq | hmem := List.mem_cons.mp hmem
    · cases heq
      exact hread
    · exact h.readable t value hmem
  once := List.nodup_cons.mpr ⟨fun hmem => habsent (mem_single.mp hmem).1, h.once⟩

/-- A setting that has no value is not given. -/
theorem Arguments.Answers.notMem {a : Arguments} (h : a.Answers events) (hacc : Acceptable events)
    (hnone : a.value? s = none) : .setting s ∉ arguments events := by
  intro hmem
  obtain ⟨text, hmem⟩ := setting_mem_arguments.mp hmem
  obtain ⟨v, hread⟩ := hacc.readable s text hmem
  cases hnone.symm.trans (h.given s text v hmem hread)

variable {texts : List String} {env : Environment}

/-- A value in front gives its setting and nothing else. -/
theorem mem_arguments_of_cons {a : Argument}
    (h : a ∈ arguments (.value s text :: events ++ supplied env (.value s text :: events))) :
    a = .setting s ∨ a ∈ arguments (events ++ supplied env events) := by
  cases a with
  | setting t =>
    rw [setting_mem_append_supplied] at h ⊢
    obtain hgiven | hset := h
    · exact (List.mem_cons.mp hgiven).imp_right .inl
    · exact .inr (.inr hset)
  | flag f =>
    rw [flag_mem_append_supplied] at h ⊢
    exact .inr (List.mem_of_ne_of_mem (by simp) h)

/-- **An option more.** Where a command line is accepted that leaves a setting open, a text for it
in front is all there is to decide. -/
theorem exists_parse_cons_iff (hspells : Spells texts events)
    (hacc : Acceptable (events ++ supplied env events))
    (hcompatible : Compatible (events ++ supplied env events))
    (hs : s.Open (events ++ supplied env events)) :
    (∃ b, parse (assignment s text :: texts) env = .ok b) ↔ ∃ v, s.read text = .ok v := by
  have hspells' : Spells (assignment s text :: texts) (.value s text :: events) :=
    .cons (.assigned s text) hspells
  constructor
  · rintro ⟨b, hparse⟩
    obtain ⟨events', hother, hacc', -, -⟩ := parse_eq_ok_iff.mp hparse
    obtain rfl := hother.unique hspells'
    exact hacc'.readable s text List.mem_cons_self
  · intro hread
    obtain ⟨-, hvariables⟩ := acceptable_append_supplied_iff.mp hacc
    have hacc' : Acceptable (.value s text :: events ++ supplied env (.value s text :: events)) :=
      acceptable_append_supplied_iff.mpr ⟨hacc.of_append.cons_value hs.notMem hread,
        fun t ht => hvariables t fun hmem => ht (List.mem_cons_of_mem _ hmem)⟩
    obtain ⟨b, hb⟩ := hacc'.exists_answers
    exact ⟨b, parse_eq_ok_iff.mpr ⟨_, hspells', hacc',
      hcompatible.of_open hs fun _ => mem_arguments_of_cons, hb⟩⟩

theorem Setting.envName_injective : Function.Injective Setting.envName := by
  intro s t h
  have hnodup : (Setting.all.map Setting.envName).Nodup := by decide
  exact List.inj_on_of_nodup_map hnodup s.mem_all t.mem_all h

/-- With a variable more, a setting's variable is that one or was set before. -/
theorem eq_or_eq_of_update {t : Setting} {value : String}
    (h : Function.update env s.envName (some text) t.envName = some value) :
    t = s ∧ value = text ∨ env t.envName = some value := by
  by_cases ht : t = s
  · subst ht
    rw [Function.update_self] at h
    exact .inl ⟨rfl, (Option.some.inj h).symm⟩
  · rw [Function.update_of_ne (Setting.envName_injective.ne ht)] at h
    exact .inr h

/-- A variable more supplies its setting and nothing else. -/
theorem mem_arguments_of_update {a : Argument}
    (h : a ∈ arguments (events ++ supplied (Function.update env s.envName (some text)) events)) :
    a = .setting s ∨ a ∈ arguments (events ++ supplied env events) := by
  cases a with
  | setting t =>
    rw [setting_mem_append_supplied] at h ⊢
    obtain hgiven | ⟨value, hset⟩ := h
    · exact .inr (.inl hgiven)
    · obtain ⟨rfl, -⟩ | hset := eq_or_eq_of_update hset
      · exact .inl rfl
      · exact .inr (.inr ⟨value, hset⟩)
  | flag f =>
    rw [flag_mem_append_supplied] at h ⊢
    exact .inr h

/-- **A variable more.** The same holds of a text for the setting in the environment. -/
theorem exists_parse_update_iff (hspells : Spells texts events)
    (hacc : Acceptable (events ++ supplied env events))
    (hcompatible : Compatible (events ++ supplied env events))
    (hs : s.Open (events ++ supplied env events)) :
    (∃ b, parse texts (Function.update env s.envName (some text)) = .ok b) ↔
      ∃ v, s.read text = .ok v := by
  constructor
  · rintro ⟨b, hparse⟩
    obtain ⟨events', hother, hacc', -, -⟩ := parse_eq_ok_iff.mp hparse
    obtain rfl := hother.unique hspells
    obtain ⟨-, hvariables⟩ := acceptable_append_supplied_iff.mp hacc'
    exact hvariables s hs.notMem text (Function.update_self ..)
  · intro hread
    obtain ⟨hgiven, hvariables⟩ := acceptable_append_supplied_iff.mp hacc
    have hacc' : Acceptable
        (events ++ supplied (Function.update env s.envName (some text)) events) := by
      refine acceptable_append_supplied_iff.mpr ⟨hgiven, fun t ht value hset => ?_⟩
      obtain ⟨rfl, rfl⟩ | hset := eq_or_eq_of_update hset
      · exact hread
      · exact hvariables t ht value hset
    obtain ⟨b, hb⟩ := hacc'.exists_answers
    exact ⟨b, parse_eq_ok_iff.mpr ⟨_, hspells, hacc',
      hcompatible.of_open hs fun _ => mem_arguments_of_update, hb⟩⟩

end

end EchoInjector.CommandLine
