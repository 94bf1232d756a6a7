import EchoInjector.Proofs.Address.MacText
import EchoInjector.Proofs.CommandLine.Interchange
import EchoInjector.Proofs.CommandLine.Values
import EchoInjector.Proofs.Run.Crafting

/-!
# The texts of a link-layer address, there and back

A link-layer address can be given by many texts. It is put into frames as six octets, and whoever
reads a frame writes them as text again, in the one form that `Mac.isCanonical_text` describes. So
whatever text was given, the one that **comes back** is canonical, and it is a text of the same
address. Given instead of the first, it changes nothing: the arguments are the same, hence the
frames, and hence the text that comes back.
-/

namespace EchoInjector.CommandLine

open Text

/-! ### The texts that are read -/

/-- A link-layer address is read from six parts that denote its octets. -/
theorem readMac_eq_ok_iff {text : String} {m : Mac} :
    readMac text = .ok m ↔
      List.Forall₂ (fun part o => DenotesHex part (UInt8.toNat o))
        (text.toList.splitOn ':') m.octets := by
  rw [← Mac.read?_eq_some_iff, readMac]
  cases Mac.read? text.toList <;> simp

/-- There is an address exactly if there are six parts, and each of them denotes an octet. -/
theorem exists_readMac_iff {text : String} :
    (∃ m, readMac text = .ok m) ↔
      (text.toList.splitOn ':').length = 6 ∧
        ∀ part ∈ text.toList.splitOn ':', ∃ n, DenotesHex part n ∧ n ≤ 255 := by
  simp only [readMac_eq_ok_iff, ← Mac.exists_read?_iff, Mac.read?_eq_some_iff]

/-- Any other text is named by the complaint about it. -/
theorem readMac_eq_error {text : String} {why : Refusal} (h : readMac text = .error why) :
    why = .mac text := by
  rw [readMac] at h
  split at h <;> cases h
  rfl

theorem readMac_text (m : Mac) : readMac m.text = .ok m := by
  rw [readMac, Mac.read?_text]

/-! ### The text that comes back -/

/-- The text that a summary tells for a setting of a link-layer address. -/
def Setting.told? (summary : Summary) : Setting → Option String
  | dstMac => summary.ethDst
  | srcMac => summary.ethSrc
  | _ => none

/-- Out of the frames that are crafted, the text of an address **comes back** for its setting as a
canonical text of the same address. -/
structure Setting.ComesBack (s : Setting) (p : Plan) (text back : String) : Prop where
  /-- There is a frame if the payload is within its limit. -/
  built : p.probe.payload.length ≤ 65507 → ∀ sender, ∃ wire, p.probe.frame sender = .ok wire
  /-- Every frame tells the text. -/
  told : ∀ sender wire, p.probe.frame sender = .ok wire →
    ∃ summary, Summary.ofFrame wire = .ok summary ∧ s.told? summary = some back
  canonical : Mac.IsCanonical back.toList
  /-- It is read as the same address. -/
  same : ∃ m, readMac text = .ok m ∧ readMac back = .ok m

section

variable {s : Setting} {text : String} {a : Arguments}

/-- The address of a setting comes back from the frames. -/
theorem comesBack_text {m : Mac} (hread : readMac text = .ok m)
    (htold : ∀ summary sender, summary.TellsLink a.plan.probe.dstMac
      (a.plan.probe.srcMac.getD sender) → s.told? summary = some m.text) :
    s.ComesBack a.plan text m.text where
  built := fun hp sender => ⟨_, Probe.frame_eq_ok hp sender⟩
  told := by
    intro sender wire hwire
    obtain ⟨hp, rfl⟩ := Probe.frame_eq_ok_iff.mp hwire
    exact ⟨_, Probe.ofFrame_frameOctets hp sender,
      htold _ sender (Probe.tellsLink_framed _ _ _ _)⟩
  canonical := m.isCanonical_text
  same := ⟨m, hread, readMac_text m⟩

/-- **The text that comes back is read as the first one was.** -/
theorem exists_comesBack (hs : s = .dstMac ∨ s = .srcMac) {v : s.Value}
    (hread : s.read text = .ok v) (hvalue : a.value? s = some v) :
    ∃ back, s.ComesBack a.plan text back ∧ s.read back = .ok v := by
  obtain rfl | rfl := hs
  · refine ⟨Mac.text v, comesBack_text hread fun summary sender h => ?_, readMac_text v⟩
    exact h.ethDst.trans (congrArg (Option.map Mac.text) hvalue)
  · -- a sender that is given is not filled in
    refine ⟨Mac.text v, comesBack_text hread fun summary sender h => ?_, readMac_text v⟩
    have hsender : a.plan.probe.srcMac = some v := hvalue
    rw [Setting.told?, h.ethSrc, hsender, Option.getD_some]

/-! ### In its place -/

/-- A variable may have another text that is read alike. -/
theorem parse_update_of_read {texts : List String} {env : Environment} {back : String} {v : s.Value}
    (hset : env s.envName = some text) (hread : s.read text = .ok v)
    (hback : s.read back = .ok v) :
    parse texts (Function.update env s.envName (some back)) = parse texts env := by
  have hall : List.Forall₂ Eq Setting.all Setting.all := List.forall₂_refl _
  refine (parse_of_alike (List.rel_append (alike_self _) ?_)).symm
  refine List.rel_filterMap (fun t t' ht => ?_) hall
  subst ht
  split
  case isTrue => exact .none
  case isFalse =>
    by_cases ht : t = s
    · subst ht
      rw [hset, Function.update_self]
      exact .some (.value hread hback)
    · rw [Function.update_of_ne (Setting.envName_injective.ne ht)]
      cases env t.envName with
      | none => exact .none
      | some value => exact .some (.refl _)

/-- **Texts of link-layer addresses are read by their grammar, and made canonical by the frames.** A
text is read exactly if it has six parts between colons, each of them a hexadecimal numeral of at
most 255, as the address of these octets, and any other text is named by the complaint. Of a command
line that is accepted, with a text for one of the two addresses at any place and in any spelling, or
in the environment, the frames tell a canonical text that is read as the same address. With this
text in place of the first, the arguments are the same, and so are the frames and the text that they
tell. -/
theorem link_addresses_come_back (text : String) :
    (∀ m, readMac text = .ok m ↔
      List.Forall₂ (fun part o => DenotesHex part (UInt8.toNat o))
        (text.toList.splitOn ':') m.octets) ∧
    ((∃ m, readMac text = .ok m) ↔
      (text.toList.splitOn ':').length = 6 ∧
        ∀ part ∈ text.toList.splitOn ':', ∃ n, DenotesHex part n ∧ n ≤ 255) ∧
    (∀ why, readMac text = .error why → why.message = "invalid MAC address: " ++ text) ∧
    ∀ s : Setting, s = .dstMac ∨ s = .srcMac →
      (∀ before piece behind env a, Passage piece [.value s text] →
        parse (before ++ (piece ++ behind)) env = .ok a →
        ∃ back, s.ComesBack a.plan text back ∧
          ∀ piece', Passage piece' [.value s back] →
            parse (before ++ (piece' ++ behind)) env = .ok a) ∧
      ∀ texts env a, env s.envName = some text →
        (∀ events, Spells texts events → .setting s ∉ arguments events) →
        parse texts env = .ok a →
        ∃ back, s.ComesBack a.plan text back ∧
          parse texts (Function.update env s.envName (some back)) = .ok a := by
  refine ⟨fun m => readMac_eq_ok_iff, exists_readMac_iff, ?_, fun s hs => ⟨?_, ?_⟩⟩
  · intro why hwhy
    obtain rfl := readMac_eq_error hwhy
    rfl
  · intro before piece behind env a hpiece hparse
    obtain ⟨v, hread, hvalue⟩ := value?_of_passage hpiece hparse
    obtain ⟨back, hback, hread'⟩ := exists_comesBack hs hread hvalue
    refine ⟨back, hback, fun piece' hpiece' => ?_⟩
    exact parse_between_of_alike hpiece hpiece' (.cons (.value hread hread') .nil) hparse
  · intro texts env a hset habsent hparse
    obtain ⟨events, hspells, hacc, -, hanswers⟩ := parse_eq_ok_iff.mp hparse
    have hmem : .value s text ∈ supplied env events :=
      value_mem_supplied.mpr ⟨habsent events hspells, hset⟩
    obtain ⟨v, hread⟩ := hacc.readable s text (List.mem_append_right _ hmem)
    have hvalue := hanswers.value?_eq (.supplied (habsent events hspells) hset hread)
    obtain ⟨back, hback, hread'⟩ := exists_comesBack hs hread hvalue
    exact ⟨back, hback, (parse_update_of_read hset hread hread').trans hparse⟩

/-- Signs, zeros and capitals on the command line, two digits a group in the frame; the same from a
variable for the sender. Seven groups are too many. -/
theorem link_addresses_come_back_sample :
    let env : Environment := fun name =>
      if name = "ECHO_PROBE_SRC_MAC" then some "2:0:0:0:0:1" else none
    (∃ a wire summary, parse ["--dst-mac", "+0A:b:00C:d:E:00f", "-n"] env = .ok a ∧
      a.plan.probe.frame .zero = .ok wire ∧ Summary.ofFrame wire = .ok summary ∧
      summary.ethDst = some "0a:0b:0c:0d:0e:0f" ∧
      parse ["--dst-mac=0a:0b:0c:0d:0e:0f", "-n"] env = .ok a) ∧
    (∃ a back, parse ["-n"] env = .ok a ∧ Setting.srcMac.ComesBack a.plan "2:0:0:0:0:1" back ∧
      parse ["-n"] (Function.update env "ECHO_PROBE_SRC_MAC" (some back)) = .ok a) ∧
    ¬ ∃ m, readMac "0:1:2:3:4:5:6" = .ok m := by
  intro env
  refine ⟨?_, ?_, ?_⟩
  · obtain ⟨-, -, -, hreturn⟩ := link_addresses_come_back "+0A:b:00C:d:E:00f"
    have hpiece : Occurrence ["--dst-mac", "+0A:b:00C:d:E:00f"]
        [.value .dstMac "+0A:b:00C:d:E:00f"] := .separate .dstMac (.inl (by decide))
    have hparse : parse ["--dst-mac", "+0A:b:00C:d:E:00f", "-n"] env
        = .ok { Arguments.ofEntries [] with
            dstMac := ⟨10, 11, 12, 13, 14, 15⟩, srcMac := some ⟨2, 0, 0, 0, 0, 1⟩
            dryRun := true } := by
      decide +kernel
    obtain ⟨back, hback, hsame⟩ :=
      (hreturn .dstMac (.inl rfl)).1 [] _ ["-n"] env _ hpiece.passage hparse
    obtain ⟨wire, hwire⟩ := hback.built (by decide) .zero
    obtain ⟨summary, hsummary, htold⟩ := hback.told .zero wire hwire
    have htext : back = "0a:0b:0c:0d:0e:0f" := by
      obtain ⟨hp, rfl⟩ := Probe.frame_eq_ok_iff.mp hwire
      cases (Probe.ofFrame_frameOctets hp _).symm.trans hsummary
      exact Option.some.inj (htold.symm.trans (by decide))
    subst htext
    exact ⟨_, wire, summary, hparse, hwire, hsummary, htold,
      hsame _ (Occurrence.assigned .dstMac _).passage⟩
  · obtain ⟨-, -, -, hreturn⟩ := link_addresses_come_back "2:0:0:0:0:1"
    have habsent : ∀ events, Spells ["-n"] events → .setting .srcMac ∉ arguments events := by
      intro events h
      have hdry : Occurrence ["-n"] [.flag .dryRun] := .letters (.last rfl)
      obtain rfl := h.unique hdry.spells
      decide
    have hparse : parse ["-n"] env
        = .ok { Arguments.ofEntries [] with
            srcMac := some ⟨2, 0, 0, 0, 0, 1⟩, dryRun := true } := by
      decide +kernel
    obtain ⟨back, hback, hsame⟩ := (hreturn .srcMac (.inr rfl)).2 ["-n"] env _ rfl habsent hparse
    exact ⟨_, back, hparse, hback, hsame⟩
  · obtain ⟨-, hiff, -⟩ := link_addresses_come_back "0:1:2:3:4:5:6"
    rw [hiff]
    rintro ⟨hsix, -⟩
    exact absurd hsix (by decide +kernel)

end

end EchoInjector.CommandLine
