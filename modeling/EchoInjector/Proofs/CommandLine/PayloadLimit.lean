import EchoInjector.Proofs.CommandLine.Values
import EchoInjector.Proofs.Run.Crafting

/-!
# The limit of the payload

The payload has one limit, and it is kept at two places. A length is compared with it as a number,
when the command line is read. A text is taken as it is, and the number of its octets is compared
only when the packet is built. The two places agree on the limit: a length that was accepted never
fails to be built, and **nothing but a text can be too long** when it comes to that
(`Arguments.Answers.buildable`). What is built has its whole length in the sixteen bits for it.
-/

namespace EchoInjector

/-- A plan whose packets leave in the given form. -/
def Plan.inMode (p : Plan) (mode : Mode) : Plan := { p with mode := mode }

namespace CommandLine

open Text

/-! ### Where the payload comes from -/

section

variable {events : List Event} {env : Environment}

/-- A length that is taken is within the limit. -/
theorem Setting.Takes.length_le {n : UInt16}
    (h : Setting.payloadLength.Takes events env (some n)) : n.toNat ≤ 65507 := by
  obtain ⟨text, hread⟩ := h.exists_read rfl
  exact (read_payloadLength_eq_ok_iff.mp hread).2

variable {a : Arguments}

/-- A text has as many octets as its encoding. -/
theorem Arguments.Answers.length_of_text (h : a.Answers (events ++ supplied env events))
    {text : String} (htext : Setting.payload.Takes events env (some text)) :
    a.plan.probe.payload.length = text.utf8ByteSize := by
  rw [a.carries_plan.text text (h.value?_eq htext)]
  rfl

/-- A payload beyond the limit is a text. -/
theorem Arguments.Answers.exists_text (h : a.Answers (events ++ supplied env events))
    (hacc : Acceptable (events ++ supplied env events))
    (hlong : 65507 < a.plan.probe.payload.length) :
    ∃ text, Setting.payload.Takes events env (some text) := by
  have htext := h.takes hacc .payload
  have hlength := h.takes hacc .payloadLength
  cases hpayload : a.value? .payload with
  | some text => exact ⟨text, hpayload ▸ htext⟩
  | none =>
    cases hzeros : a.value? .payloadLength with
    | some n =>
      rw [hzeros] at hlength
      rw [a.carries_plan.zeros hpayload n hzeros, List.length_replicate] at hlong
      exact absurd hlength.length_le (Nat.not_le.mpr hlong)
    | none =>
      rw [a.carries_plan.empty hpayload hzeros] at hlong
      cases hlong

/-- Where the payload has neither text nor length, either may be given in addition. -/
theorem Arguments.Answers.open_payload {events : List Event} (h : a.Answers events)
    (hacc : Acceptable events) (htext : a.payload = none) (hlength : a.payloadLength = none) :
    Setting.payload.Open events ∧ Setting.payloadLength.Open events := by
  have hnotext : .setting .payload ∉ arguments events := h.notMem hacc htext
  have hnolength : .setting .payloadLength ∉ arguments events := h.notMem hacc hlength
  refine ⟨⟨hnotext, ?_⟩, ⟨hnolength, ?_⟩⟩
  · rintro r ⟨⟩
    exact hnolength
  · rintro r ⟨⟩
    exact hnotext

/-! ### What can be built -/

/-- A plan is **buildable up to its text** if its packet can be built in either form unless its
payload is a text with too many octets, whose number is then all that there is to complain about.
With a length instead, the packet can always be built, and its payload has that length. -/
structure Arguments.Buildable (a : Arguments) (events : List Event) (env : Environment) : Prop where
  fails_iff : ∀ mode m e, (a.plan.inMode mode).craft m = .error e ↔
    ∃ text, Setting.payload.Takes events env (some text) ∧ 65507 < text.utf8ByteSize ∧
      e = .payloadTooLarge text.utf8ByteSize
  zeros : ∀ n, Setting.payloadLength.Takes events env (some n) →
    n.toNat ≤ 65507 ∧ a.plan.probe.payload = List.replicate n.toNat 0 ∧
      ∀ mode m, ∃ crafted, (a.plan.inMode mode).craft m = .ok crafted

/-- **What was accepted is buildable up to its text.** -/
theorem Arguments.Answers.buildable (h : a.Answers (events ++ supplied env events))
    (hacc : Acceptable (events ++ supplied env events)) (hclear : ¬ Clash events env) :
    a.Buildable events env where
  fails_iff mode m e := by
    refine Plan.craft_eq_error_iff.trans ⟨?_, ?_⟩
    · rintro ⟨hlong, rfl⟩
      obtain ⟨text, htext⟩ := h.exists_text hacc hlong
      have hlength : (a.plan.inMode mode).probe.payload.length = text.utf8ByteSize :=
        h.length_of_text htext
      rw [hlength] at hlong ⊢
      exact ⟨text, htext, hlong, rfl⟩
    · rintro ⟨text, htext, hlong, rfl⟩
      rw [← h.length_of_text htext] at hlong ⊢
      exact ⟨hlong, rfl⟩
  zeros n hn := by
    have hpresent : Setting.payloadLength.Present events env := by
      by_contra habsent
      cases hn.eq_none rfl habsent
    have hnone : a.value? .payload = none := h.payload_eq_none hacc hclear hpresent
    have hzeros := a.carries_plan.zeros hnone n (h.value?_eq hn)
    refine ⟨hn.length_le, hzeros, fun mode m => Plan.exists_craft ?_ m⟩
    change a.plan.probe.payload.length ≤ 65507
    rw [hzeros, List.length_replicate]
    exact hn.length_le

end

/-- **The two places agree on the limit.** The packet of arguments that were accepted can be built
unless their payload is a text of more than 65507 octets. A length is a number from zero to 65507:
added to what was accepted without a payload, on the command line or in the environment, no other is
taken. So the length of a packet that was built is never cut off to its sixteen bits. -/
theorem payload_limits_agree :
    (∀ texts env a, parse texts env = .ok a →
      ∃ events, Spells texts events ∧ a.Buildable events env) ∧
    (∀ text n, Setting.payloadLength.read text = .ok n ↔
      Denotes text.toList (UInt16.toNat n) ∧ UInt16.toNat n ≤ 65507) ∧
    (∀ texts env a, parse texts env = .ok a → a.payload = none → a.payloadLength = none →
      ∀ (text : String) (n : Int), Denotes text.toList n →
        ((∃ b, parse (assignment .payloadLength text :: texts) env = .ok b) ↔
          0 ≤ n ∧ n ≤ 65507) ∧
        ((∃ b, parse texts (Function.update env Setting.payloadLength.envName (some text))
            = .ok b) ↔
          0 ≤ n ∧ n ≤ 65507)) ∧
    ∀ (p : Plan) m wire s, p.craft m = .ok (wire, s) →
      p.probe.datagramLength < 65536 ∧ s.ipTotalLength.toNat = p.probe.datagramLength := by
  refine ⟨?_, fun text n => read_payloadLength_eq_ok_iff, ?_, ?_⟩
  · intro texts env a hparse
    obtain ⟨events, hspells, hacc, hcompatible, hanswers⟩ := parse_eq_ok_iff.mp hparse
    have hclear := compatible_append_supplied_iff.mp hcompatible
    exact ⟨events, hspells, hanswers.buildable hacc hclear⟩
  · intro texts env a hparse htext hlength text n hdenotes
    obtain ⟨events, hspells, hacc, hcompatible, hanswers⟩ := parse_eq_ok_iff.mp hparse
    obtain ⟨-, hopen⟩ := hanswers.open_payload hacc htext hlength
    rw [exists_parse_cons_iff hspells hacc hcompatible hopen,
      exists_parse_update_iff hspells hacc hcompatible hopen]
    exact ⟨exists_read_payloadLength_iff hdenotes, exists_read_payloadLength_iff hdenotes⟩
  · intro p m wire s hcraft
    have hlength := Plan.ipTotalLength_of_craft hcraft
    exact ⟨hlength ▸ s.ipTotalLength.toNat_lt, hlength⟩

/-- A text that repeats a character. -/
theorem utf8ByteSize_replicate (n : Nat) (c : Char) :
    (String.ofList (List.replicate n c)).utf8ByteSize = n * c.utf8Size := by
  induction n with
  | zero => simp
  | succ n ih =>
    rw [List.replicate_succ, String.ofList_cons, String.utf8ByteSize_append,
      String.utf8ByteSize_singleton, ih, Nat.succ_mul, Nat.add_comm]

/-- A text of few enough characters has one octet too many, and is found out when the packet is
built. A length just as great is found out at once, and one less is met. -/
theorem payload_limits_agree_beyond :
    (∃ a, parse [assignment .payload (String.ofList (List.replicate 32754 'é'))] (fun _ => none)
        = .ok a ∧
      (a.plan.inMode .layer3).craft .zero = .error (.payloadTooLarge 65508)) ∧
    (¬ ∃ a, parse [assignment .payloadLength "65508"] (fun _ => none) = .ok a) ∧
    ∃ a wire s, parse [assignment .payloadLength "65507"] (fun _ => none) = .ok a ∧
      (a.plan.inMode .layer2).craft .zero = .ok (wire, s) ∧ s.ipTotalLength.toNat = 65535 := by
  have hnothing : parse [] (fun _ => none) = .ok (.ofEntries []) := rfl
  obtain ⟨events, hspells, hacc, hcompatible, hanswers⟩ := parse_eq_ok_iff.mp hnothing
  obtain rfl : events = [] := hspells.read_eq.symm
  obtain ⟨hopen, -⟩ := hanswers.open_payload hacc rfl rfl
  obtain ⟨hbuildable, -, haccepted, htotal⟩ := payload_limits_agree
  refine ⟨?_, ?_, ?_⟩
  · have hsize := utf8ByteSize_replicate 32754 'é'
    generalize String.ofList (List.replicate 32754 'é') = text at hsize ⊢
    have hread : Setting.payload.read text = .ok text := rfl
    obtain ⟨a, hparse⟩ := (exists_parse_cons_iff hspells hacc hcompatible hopen).mpr ⟨_, hread⟩
    obtain ⟨events, hspells', hbuilds⟩ := hbuildable _ _ a hparse
    have hmem : .value .payload text ∈ events :=
      hspells'.read_eq ▸ (Spells.cons (.assigned _ _) .nil).read_eq ▸ List.mem_cons_self
    refine ⟨a, hparse, (hbuilds.fails_iff _ _ _).mpr ⟨text, .given hmem hread, ?_, ?_⟩⟩
    · rw [hsize]
      decide
    · rw [hsize]
      rfl
  · have hdenotes : Denotes "65508".toList 65508 := .bare (by decide)
    exact (haccepted _ _ _ hnothing rfl rfl _ _ hdenotes).1.not.mpr (by decide)
  · have hdenotes : Denotes "65507".toList 65507 := .bare (by decide)
    obtain ⟨a, hparse⟩ := (haccepted _ _ _ hnothing rfl rfl _ _ hdenotes).1.mpr (by decide)
    obtain ⟨events, hspells', hbuilds⟩ := hbuildable _ _ a hparse
    have hmem : .value .payloadLength "65507" ∈ events :=
      hspells'.read_eq ▸ (Spells.cons (.assigned _ _) .nil).read_eq ▸ List.mem_cons_self
    have hread : Setting.payloadLength.read "65507" = .ok (65507 : UInt16) :=
      read_payloadLength_eq_ok_iff.mpr ⟨hdenotes, by decide⟩
    obtain ⟨-, hzeros, hcrafts⟩ := hbuilds.zeros _ (.given hmem hread)
    obtain ⟨⟨wire, s⟩, hcraft⟩ := hcrafts .layer2 .zero
    refine ⟨a, wire, s, hparse, hcraft, ?_⟩
    have hprobe : (a.plan.inMode .layer2).probe.payload = List.replicate 65507 0 := hzeros
    rw [(htotal _ _ _ _ hcraft).2, Probe.datagramLength_eq, hprobe, List.length_replicate]

end CommandLine

end EchoInjector
