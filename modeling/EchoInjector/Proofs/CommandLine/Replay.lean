import EchoInjector.Proofs.Address.IPv4Text
import EchoInjector.Proofs.Address.MacText
import EchoInjector.Proofs.CommandLine.Sources
import EchoInjector.Proofs.Run.Crafting

/-!
# A summary as a command line

The summary of a frame shows a value for each field of the probe, except for the payload itself.
Given back as settings, together with the payload, these values make the same frame again:
`Plan.replay`. Three things come together for that.

* **What is written is read back**, for the values of each setting (`Setting.read_write`).
* Written values are accepted **in any order** as long as no setting is repeated and no two exclude
  each other, and each setting then has its value (`exists_parse_written`). A value in the same text
  as its setting may be anything; it is not looked at for hyphens or equality signs.
* The summary of a frame tells the probe, with the sender that the frame has. A sender that is given
  does not leave anything open, so the address supplied at crafting does not matter any more.
-/

namespace EchoInjector

open Wire Text

namespace CommandLine

/-! ### Values are read back -/

theorem readWithin_decimal {n most : Nat} (h : n ≤ most) (hmost : most < 1 <<< 63) :
    readWithin most (decimal n) = .ok n := by
  have hrange : 0 ≤ (n : Int) ∧ (n : Int) ≤ most := ⟨Int.natCast_nonneg n, Int.ofNat_le.mpr h⟩
  rw [readWithin, decimal, String.toList_ofList,
    readSigned_digits (Nat.lt_of_le_of_lt h hmost)]
  exact if_pos hrange

theorem readWhole_decimal (n : UInt64) : readWhole (decimal n.toNat) = .ok n := by
  have hlimit : n.toNat ≤ UInt64.size - 1 := Nat.le_sub_one_of_lt n.toNat_lt
  rw [readWhole, decimal, String.toList_ofList,
    readUnsigned_digits (by decide) (by decide) hlimit]
  exact congrArg Except.ok UInt64.ofNat_toNat

/-- A value is **admissible** if its setting can be given it. A length for the payload may be beyond
the limit although it is a number of sixteen bits. -/
def Setting.Admits : (s : Setting) → s.Value → Prop
  | .payloadLength, v => UInt16.toNat v ≤ Probe.maxPayload
  | _, _ => True

/-- **A written value is read back.** -/
theorem Setting.read_write {s : Setting} {v : s.Value} (h : s.Admits v) :
    s.read (s.write v) = .ok v := by
  have octet : ∀ v : UInt8, (readWithin 255 (decimal v.toNat)).map UInt8.ofNat = .ok v := by
    intro v
    rw [readWithin_decimal (Nat.le_of_lt_succ v.toNat_lt) (by decide)]
    exact congrArg Except.ok UInt8.ofNat_toNat
  have word : ∀ (v : UInt16) (most : Nat), v.toNat ≤ most → most < 1 <<< 63 →
      (readWithin most (decimal v.toNat)).map UInt16.ofNat = .ok v := by
    intro v most hv hmost
    rw [readWithin_decimal hv hmost]
    exact congrArg Except.ok UInt16.ofNat_toNat
  cases s with
  | iface | payload => rfl
  | dstMac | srcMac => simp only [read, write, readMac, Mac.read?_text]
  | src | dst => simp only [read, write, readIPv4, IPv4.read?_text]
  | ttl | icmpType | icmpCode => exact octet v
  | ipIdent | ident | seq => exact word v _ (Nat.le_of_lt_succ v.toNat_lt) (by decide)
  | payloadLength => exact word v _ h (by decide)
  | count | interval => exact readWhole_decimal v

/-! ### Assignments in any order -/

/-- Assignments spell the values that they assign. -/
theorem spells_assignments (options : List (Setting × String)) :
    Spells (options.map fun o => assignment o.1 o.2)
      (options.map fun o => .value o.1 o.2) := by
  induction options with
  | nil => exact .nil
  | cons o rest ih => exact .cons (.assigned o.1 o.2) ih

section

variable {options : List (Setting × String)}

/-- Assignments give their settings, be they counted with those that may be repeated or without. -/
theorem filterMap_assignments {f : Event → Option Argument}
    (hf : ∀ s text, f (.value s text) = some (.setting s)) :
    (options.map fun o => .value o.1 o.2).filterMap f = (options.map Prod.fst).map .setting := by
  rw [List.filterMap_map, List.map_map, ← List.filterMap_eq_map]
  exact List.filterMap_congr fun o _ => hf o.1 o.2

theorem setting_mem_assignments {s : Setting} :
    .setting s ∈ arguments (options.map fun o => .value o.1 o.2) ↔ s ∈ options.map Prod.fst := by
  rw [arguments, filterMap_assignments fun _ _ => rfl]
  exact List.mem_map_of_injective fun s t h => Argument.setting.inj h

/-- Assignments of values that can be read are acceptable if no setting is repeated. -/
theorem acceptable_assignments (hnodup : (options.map Prod.fst).Nodup)
    (hread : ∀ o ∈ options, ∃ v, o.1.read o.2 = .ok v) :
    Acceptable (options.map fun o => .value o.1 o.2) where
  goesOn := by
    intro e he
    obtain ⟨o, -, rfl⟩ := List.mem_map.mp he
    exact ⟨rfl, Event.noConfusion, Event.noConfusion⟩
  readable := by
    intro s text he
    obtain ⟨o, ho, ⟨⟩⟩ := List.mem_map.mp he
    exact hread o ho
  once := by
    rw [filterMap_assignments fun _ _ => rfl]
    exact hnodup.map fun s t h => Argument.setting.inj h

/-- **Assignments are accepted in any order**, and the arguments answer to them. -/
theorem exists_parse_assignments (hnodup : (options.map Prod.fst).Nodup)
    (hread : ∀ o ∈ options, ∃ v, o.1.read o.2 = .ok v)
    (hrivals : .payload ∉ options.map Prod.fst ∨ .payloadLength ∉ options.map Prod.fst) :
    ∃ b, parse (options.map fun o => assignment o.1 o.2) (fun _ => none) = .ok b ∧
      b.Answers (options.map fun o => .value o.1 o.2) := by
  have hacc := acceptable_assignments hnodup hread
  obtain ⟨b, hb⟩ := hacc.exists_answers
  have hcompatible : Compatible (options.map fun o => .value o.1 o.2) := by
    intro a r hrival ha hr
    rw [arguments, filterMap_assignments fun _ _ => rfl, List.mem_map] at ha hr
    obtain ⟨s, hs, rfl⟩ := ha
    obtain ⟨r, hr, rfl⟩ := hr
    cases s <;> cases hrival
    · exact hrivals.elim (absurd hs) (absurd hr)
    · exact hrivals.elim (absurd hr) (absurd hs)
  refine ⟨b, parse_eq_ok_iff.mpr ⟨_, spells_assignments options, ?_⟩, hb⟩
  rw [supplied_of_none fun _ => rfl, List.append_nil]
  exact ⟨hacc, hcompatible, hb⟩

/-! ### Written values in any order -/

/-- A value, written for its setting. -/
def written (c : (s : Setting) × s.Value) : Setting × String := (c.1, c.1.write c.2)

/-- **Written values are accepted in any order**, and each setting then has its value. -/
theorem exists_parse_written {values : List ((s : Setting) × s.Value)}
    (hperm : options.Perm (values.map written)) (hnodup : (values.map Sigma.fst).Nodup)
    (hadmits : ∀ c ∈ values, c.1.Admits c.2)
    (hrivals : .payload ∉ values.map Sigma.fst ∨ .payloadLength ∉ values.map Sigma.fst) :
    ∃ b, parse (options.map fun o => assignment o.1 o.2) (fun _ => none) = .ok b ∧
      (∀ c ∈ values, b.value? c.1 = some c.2) ∧
      (∀ s ∉ values.map Sigma.fst, b.value? s = s.default?) ∧ b.plan.mode = .layer2 := by
  have hsettings : (options.map Prod.fst).Perm (values.map Sigma.fst) := by
    have hfst := hperm.map Prod.fst
    rwa [List.map_map] at hfst
  have hread : ∀ o ∈ options, ∃ v, o.1.read o.2 = .ok v := by
    intro o ho
    obtain ⟨c, hc, rfl⟩ := List.mem_map.mp (hperm.mem_iff.mp ho)
    exact ⟨c.2, Setting.read_write (hadmits c hc)⟩
  obtain ⟨b, hparse, hanswers⟩ := exists_parse_assignments (hsettings.nodup_iff.mpr hnodup) hread
    (by rwa [hsettings.mem_iff, hsettings.mem_iff])
  have hlayer3 : b.layer3 = false := by
    rw [← Bool.not_eq_true, hanswers.layer3]
    simp
  refine ⟨b, hparse, fun c hc => ?_, fun s hs => ?_, ?_⟩
  · have hmem : written c ∈ options := hperm.mem_iff.mpr (List.mem_map_of_mem hc)
    exact hanswers.given c.1 _ c.2 (List.mem_map_of_mem (f := fun o => Event.value o.1 o.2) hmem)
      (Setting.read_write (hadmits c hc))
  · exact hanswers.default s (by rwa [setting_mem_assignments, hsettings.mem_iff])
  · simp only [Arguments.plan, hlayer3]
    rfl

end

end CommandLine

open CommandLine

/-! ### The values of a probe -/

/-- The values of a probe other than the payload, with the settings that they belong to. The sender
is the given one. -/
def Probe.values (p : Probe) (src : Mac) : List ((s : Setting) × s.Value) :=
  [⟨.dstMac, p.dstMac⟩, ⟨.srcMac, src⟩, ⟨.src, p.src⟩, ⟨.dst, p.dst⟩, ⟨.ttl, p.ttl⟩,
    ⟨.ipIdent, p.ipIdent⟩, ⟨.icmpType, p.icmpType⟩, ⟨.icmpCode, p.icmpCode⟩,
    ⟨.ident, p.icmpIdent⟩, ⟨.seq, p.icmpSeq⟩]

/-- All of them are admissible. -/
theorem Probe.admits_of_mem_values {p : Probe} {src : Mac} :
    ∀ c ∈ p.values src, c.1.Admits c.2 := by
  simp [Probe.values, Setting.Admits]

/-- Arguments with the values and the payload of a probe have the probe in their plan, its sender
pinned. -/
theorem CommandLine.Arguments.probe_plan {b : Arguments} {p : Probe} {src : Mac}
    (hvalues : ∀ c ∈ p.values src, b.value? c.1 = some c.2)
    (hpayload : b.payloadOctets = p.payload) : b.plan.probe = { p with srcMac := some src } := by
  simp only [Probe.values, List.forall_mem_cons, value?, Option.some_inj] at hvalues
  obtain ⟨hdstMac, hsrcMac, hsrc, hdst, httl, hipIdent, hicmpType, hicmpCode, hident, hseq, -⟩ :=
    hvalues
  simp only [plan, hdstMac, hsrcMac, hsrc, hdst, httl, hipIdent, hicmpType, hicmpCode, hident,
    hseq, hpayload]

/-! ### The settings of a summary -/

namespace Summary

/-- The settings that a summary shows, each with the text that it shows. -/
def options (s : Summary) : List (Setting × String) :=
  [(.dstMac, s.ethDst.getD ""), (.srcMac, s.ethSrc.getD ""), (.src, s.ipSrc.text),
    (.dst, s.ipDst.text), (.ttl, decimal s.ipTtl.toNat), (.ipIdent, decimal s.ipIdent.toNat),
    (.icmpType, decimal s.icmpType.toNat), (.icmpCode, decimal s.icmpCode.toNat),
    (.ident, decimal s.icmpIdent.toNat), (.seq, decimal s.icmpSeq.toNat)]

/-- A setting for the payload of a summary: a text that it encodes, or if it consists of zeros, the
length that the summary shows. -/
inductive PayloadOption (s : Summary) (payload : Octets) : Setting × String → Prop
  | text {text : String} (encodes : text.toUTF8.data.toList = payload) :
      s.PayloadOption payload (.payload, text)
  | zeros (zeros : ∀ o ∈ payload, o = 0) :
      s.PayloadOption payload (.payloadLength, decimal s.payloadLength)

/-- The summary of a frame shows the values of its probe, with the sender of the frame. -/
theorem options_eq {s : Summary} {p : Probe} {src : Mac} (h : s.Tells p)
    (hlink : s.TellsLink p.dstMac src) : s.options = (p.values src).map written := by
  rw [options, hlink.ethDst, hlink.ethSrc, h.ipSrc, h.ipDst, h.ipTtl, h.ipIdent, h.icmpType,
    h.icmpCode, h.icmpIdent, h.icmpSeq]
  rfl

/-- **The settings of a summary are accepted in any order**, with one for the payload, and their
plan sends frames of the probe. -/
theorem exists_parse_options {s : Summary} {p : Probe} {src : Mac} {option : Setting × String}
    {options : List (Setting × String)} (h : s.Tells p) (hlink : s.TellsLink p.dstMac src)
    (hp : p.payload.length ≤ 65507) (hpayload : s.PayloadOption p.payload option)
    (hperm : options.Perm (option :: s.options)) :
    ∃ b, parse (options.map fun o => assignment o.1 o.2) (fun _ => none) = .ok b ∧
      b.plan.probe = { p with srcMac := some src } ∧ b.plan.mode = .layer2 := by
  rw [options_eq h hlink] at hperm
  cases hpayload with
  | @text text encodes =>
    have hperm : options.Perm ((⟨.payload, text⟩ :: p.values src).map written) := hperm
    obtain ⟨b, hparse, hvalues, -, hmode⟩ := exists_parse_written hperm (by simp [Probe.values])
      (List.forall_mem_cons.mpr ⟨trivial, Probe.admits_of_mem_values⟩) (by simp [Probe.values])
    obtain ⟨htext, hvalues⟩ := List.forall_mem_cons.mp hvalues
    have htext : b.payload = some text := htext
    refine ⟨b, hparse, Arguments.probe_plan hvalues ?_, hmode⟩
    simp only [Arguments.payloadOctets, htext, encodes]
  | zeros zeros =>
    have hlimit : p.payload.length ≤ Probe.maxPayload := hp
    have htoNat : (UInt16.ofNat p.payload.length).toNat = p.payload.length :=
      UInt16.toNat_ofNat_of_lt' (Nat.lt_of_le_of_lt hlimit (by decide))
    have hperm : options.Perm
        ((⟨.payloadLength, UInt16.ofNat p.payload.length⟩ :: p.values src).map written) := by
      rwa [List.map_cons, written, Setting.write, htoNat, ← h.payloadLength]
    have hadmits : Setting.Admits .payloadLength (UInt16.ofNat p.payload.length) := by
      rwa [Setting.Admits, htoNat]
    obtain ⟨b, hparse, hvalues, hdefault, hmode⟩ := exists_parse_written hperm
      (by simp [Probe.values]) (List.forall_mem_cons.mpr ⟨hadmits, Probe.admits_of_mem_values⟩)
      (by simp [Probe.values])
    obtain ⟨hlength, hvalues⟩ := List.forall_mem_cons.mp hvalues
    have hlength : b.payloadLength = some (UInt16.ofNat p.payload.length) := hlength
    have htext : b.payload = none := hdefault .payload (by simp [Probe.values])
    refine ⟨b, hparse, Arguments.probe_plan hvalues ?_, hmode⟩
    simp only [Arguments.payloadOctets, htext, hlength, htoNat]
    exact (List.eq_replicate_iff.mpr ⟨rfl, zeros⟩).symm

end Summary

namespace Plan

/-- **A summary can be given back.** The frame of a plan has a summary; all settings that it shows
and one for the payload, in any order and without any variable, are accepted, and their plan crafts
the same frame, whatever address is supplied for the sender. -/
theorem replay {p : Plan} (hmode : p.mode = .layer2) (hp : p.probe.payload.length ≤ 65507)
    (m : Mac) :
    ∃ f s, p.craft m = .ok (f, s) ∧
      ∀ option, s.PayloadOption p.probe.payload option →
        ∀ options : List (Setting × String), options.Perm (option :: s.options) →
          ∃ b, parse (options.map fun o => assignment o.1 o.2) (fun _ => none) = .ok b ∧
            ∀ m', b.plan.craft m' = .ok (f, s) := by
  have htells := (Probe.tells_datagramOctets hp).framed (p.probe.frameOctets m)
  have hlink := Probe.tellsLink_framed (Summary.fields p.probe.datagramOctets) p.probe m
    p.probe.datagramOctets
  refine ⟨_, _, craft_layer2 hmode hp m, fun option hpayload options hperm => ?_⟩
  obtain ⟨b, hparse, hprobe, hlayer2⟩ :=
    Summary.exists_parse_options htells hlink hp hpayload hperm
  refine ⟨b, hparse, fun m' => ?_⟩
  rw [craft_layer2 hlayer2 (by rw [hprobe]; exact hp), hprobe]
  -- the sender was pinned to the one that the frame has
  rfl

/-- A payload that looks like the beginning of a setting, and the settings in the opposite order. -/
theorem replay_of_hyphens :
    let p : Plan := { probe := { payload := [0x2d, 0x2d, 0x3d] } }
    p.mode = .layer2 ∧ p.probe.payload.length ≤ 65507 ∧
      ∃ f s b, p.craft ⟨2, 0, 0, 0, 0, 1⟩ = .ok (f, s) ∧
        parse ["--seq=0", "--ident=0", "--icmp-code=0", "--icmp-type=8", "--ip-id=1", "--ttl=64",
          "--dst=10.0.0.2", "--src=10.0.0.1", "--src-mac=02:00:00:00:00:01",
          "--dst-mac=ff:ff:ff:ff:ff:ff", "--payload=--="] (fun _ => none) = .ok b ∧
        b.plan.craft .zero = .ok (f, s) := by
  intro p
  have hp : p.probe.payload.length ≤ 65507 := by decide
  obtain ⟨f, s, hcraft, hreplay⟩ := replay (p := p) rfl hp ⟨2, 0, 0, 0, 0, 1⟩
  have hoptions : s.options = [(.dstMac, "ff:ff:ff:ff:ff:ff"), (.srcMac, "02:00:00:00:00:01"),
      (.src, "10.0.0.1"), (.dst, "10.0.0.2"), (.ttl, "64"), (.ipIdent, "1"), (.icmpType, "8"),
      (.icmpCode, "0"), (.ident, "0"), (.seq, "0")] := by
    have hshown : (p.craft ⟨2, 0, 0, 0, 0, 1⟩).toOption.map (·.2.options)
        = some [(.dstMac, "ff:ff:ff:ff:ff:ff"), (.srcMac, "02:00:00:00:00:01"),
          (.src, "10.0.0.1"), (.dst, "10.0.0.2"), (.ttl, "64"), (.ipIdent, "1"), (.icmpType, "8"),
          (.icmpCode, "0"), (.ident, "0"), (.seq, "0")] := by
      decide +kernel
    rw [hcraft] at hshown
    exact Option.some.inj hshown
  have hpayload : s.PayloadOption p.probe.payload (.payload, "--=") := .text (by decide +kernel)
  obtain ⟨b, hparse, hagain⟩ := hreplay _ hpayload _ (List.reverse_perm _)
  rw [hoptions] at hparse
  exact ⟨rfl, hp, f, s, b, hcraft, hparse, hagain .zero⟩

end Plan

end EchoInjector
