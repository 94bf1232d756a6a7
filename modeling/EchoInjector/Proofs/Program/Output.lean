import EchoInjector.Proofs.CommandLine.Insertion
import EchoInjector.Proofs.Program.Documents
import EchoInjector.Proofs.Run.Preview

/-!
# What the program prints

The program either has an answer, which it writes to standard output as a whole, or it has none and
writes nothing there, whatever was sent before. The exit status says which of the two
(`status_eq_zero_iff`).

The answer can be a text or a document. `TellsSame` says that the two tell the same: the text begins
with the line of the summary that is in the document, and behind a run it goes on with the number in
the document, which is the number of packets that the host has accepted. Two invocations of which
one asks for the document and the other does not, and which are the same otherwise, do the same to
the host and end with the same status. When the stop flag is raised does not matter for any of this,
so it is said of every schedule.
-/

namespace EchoInjector

open Text CommandLine

namespace Program

/-! ### What a plan comes to -/

/-- The packet of a plan that only shows it. -/
theorem perform_dry {p : Plan} (hdry : p.dryRun = true) (quiet : Nat) (h : Host) :
    perform quiet p h = ⟨p.shown.map fun crafted => showText p crafted.1 crafted.2, h, []⟩ := by
  rw [perform, if_pos hdry]
  rfl

/-- The report of a plan that is carried out. -/
theorem perform_real {p : Plan} (hreal : p.dryRun = false) (quiet : Nat) (h : Host) :
    perform quiet p h
      = ⟨((p.run quiet).run h).result.map (reportText p), ((p.run quiet).run h).state,
          ((p.run quiet).run h).log⟩ := by
  rw [perform, if_neg (by rw [hreal]; exact Bool.false_ne_true)]

section

variable {quiet : Nat} {i : Invocation} {a : Arguments} {h : Host}

theorem host_carryOut : (carryOut quiet i a h).host = (perform quiet a.plan h).state := by
  rw [carryOut]
  dsimp only
  cases (perform quiet a.plan h).result <;> rfl

theorem carryOut_of_ok {text : String} (hresult : (perform quiet a.plan h).result = .ok text) :
    (carryOut quiet i a h).status = 0 ∧ (carryOut quiet i a h).stdout = text := by
  rw [carryOut]
  simp only [hresult, and_self]

theorem carryOut_of_error {e : Failure} (hresult : (perform quiet a.plan h).result = .error e) :
    (carryOut quiet i a h).status = 1 ∧ (carryOut quiet i a h).stdout = "" := by
  rw [carryOut]
  simp only [hresult, and_self]

theorem status_carryOut_eq_zero_iff :
    (carryOut quiet i a h).status = 0 ↔ ∃ text, (perform quiet a.plan h).result = .ok text := by
  cases hresult : (perform quiet a.plan h).result with
  | error e => simp [(carryOut_of_error hresult).1]
  | ok text => simp [(carryOut_of_ok hresult).1]

end

/-- What a plan asks for **succeeds**: there is a packet to show, or the run comes to a report. -/
inductive Succeeds (quiet : Nat) (p : Plan) (h : Host) : Prop
  | shown (dry : p.dryRun = true) {wire : Wire.Octets} {s : Summary}
      (crafted : p.shown = .ok (wire, s))
  | sent (real : p.dryRun = false) {r : Report} (run : ((p.run quiet).run h).result = .ok r)

theorem exists_text_iff {quiet : Nat} {p : Plan} {h : Host} :
    (∃ text, (perform quiet p h).result = .ok text) ↔ Succeeds quiet p h := by
  cases hdry : p.dryRun with
  | true =>
    rw [perform_dry hdry]
    constructor
    · rintro ⟨text, htext⟩
      obtain ⟨⟨wire, s⟩, hcrafted, -⟩ := map_eq_ok_iff.mp htext
      exact .shown hdry hcrafted
    · rintro (⟨-, hcrafted⟩ | ⟨hreal, -⟩)
      · exact ⟨_, map_eq_ok_iff.mpr ⟨_, hcrafted, rfl⟩⟩
      · cases hdry.symm.trans hreal
  | false =>
    rw [perform_real hdry]
    constructor
    · rintro ⟨text, htext⟩
      obtain ⟨r, hrun, -⟩ := map_eq_ok_iff.mp htext
      exact .sent hdry hrun
    · rintro (⟨hshown, -⟩ | ⟨-, hrun⟩)
      · cases hdry.symm.trans hshown
      · exact ⟨_, map_eq_ok_iff.mpr ⟨_, hrun, rfl⟩⟩

/-- **The exit status tells success**: help, the version, or what the plan asks for. -/
theorem status_eq_zero_iff {looks : Plan → Nat} {i : Invocation} {h : Host} :
    (runUnder looks i h).status = 0 ↔
      parse i.arguments i.env = .error .help ∨ parse i.arguments i.env = .error .version ∨
        ∃ a, parse i.arguments i.env = .ok a ∧ Succeeds (looks a.plan) a.plan h := by
  rw [runUnder]
  cases parse i.arguments i.env with
  | error ending => cases ending <;> simp
  | ok a => simp [status_carryOut_eq_zero_iff, exists_text_iff]

/-- **Without success nothing is printed.** -/
theorem stdout_eq_empty {looks : Plan → Nat} {i : Invocation} {h : Host}
    (hstatus : (runUnder looks i h).status ≠ 0) : (runUnder looks i h).stdout = "" := by
  rw [runUnder] at hstatus ⊢
  cases hparse : parse i.arguments i.env with
  | error ending =>
    rw [hparse] at hstatus
    cases ending with
    | help | version => exact absurd rfl hstatus
    | misuse m => rfl
  | ok a =>
    rw [hparse] at hstatus
    cases hresult : (perform (looks a.plan) a.plan h).result with
    | error e => exact (carryOut_of_error hresult).2
    | ok text => exact absurd (carryOut_of_ok hresult).1 hstatus

/-! ### Text and document -/

/-- A plan with a document does the same to the host, and fails for the same reason. -/
theorem perform_document (quiet : Nat) (p : Plan) (h : Host) :
    (perform quiet { p with json := true } h).state = (perform quiet p h).state ∧
      ∀ e, (perform quiet { p with json := true } h).result = .error e ↔
        (perform quiet p h).result = .error e := by
  rcases Bool.eq_false_or_eq_true p.dryRun with hdry | hreal
  · rw [perform_dry hdry, perform_dry (p := { p with json := true }) hdry]
    exact ⟨rfl, fun e => Plan.map_eq_error_iff.trans Plan.map_eq_error_iff.symm⟩
  · rw [perform_real hreal, perform_real (p := { p with json := true }) hreal]
    exact ⟨rfl, fun e => Plan.map_eq_error_iff.trans Plan.map_eq_error_iff.symm⟩

/-- A text and a document **tell the same** of a plan that was successful on a host, which is another
one afterwards. The document can be read as one summary only, or as one report. -/
inductive TellsSame (quiet : Nat) (p : Plan) (h after : Host) (text document : String) : Prop
  /-- The packet was shown: the text begins with the line of the summary in the document. -/
  | shown (dry : p.dryRun = true) {wire : Wire.Octets} {s : Summary}
      (crafted : p.shown = .ok (wire, s))
      (document : ∀ t : Summary, Json.read? document = some t.json ↔ t = s)
      (text : text = s.line ++ "\n" ++ HexDump.render wire) (line : '\n' ∉ s.line.toList)
  /-- The plan was carried out: the text consists of the line of the summary in the document, and the
  number in the document, which is the number of packets that were accepted. -/
  | sent (real : p.dryRun = false) {r : Report} (run : ((p.run quiet).run h).result = .ok r)
      (document : ∀ t : Report, Json.read? document = some t.json ↔ t = r)
      (text : text = r.frame.line ++ "\n" ++ "Sent " ++ decimal r.sent ++ " packets.\n")
      (line : '\n' ∉ r.frame.line.toList)
      (accepted : after.accepted.size = h.accepted.size + r.sent)

/-- What is sent has a summary of one line. -/
theorem newline_notMem_line_of_sends {p : Plan} {h : Host} {route : Route} {wire : Wire.Octets}
    {s : Summary} (hsends : p.Sends h route wire s) : '\n' ∉ s.line.toList := by
  cases hsends with
  | frame _ _ _ _ read => exact Summary.newline_notMem_line_of_ofFrame read
  | datagram _ _ _ read => exact Summary.newline_notMem_line_of_ofDatagram read

/-- A document is read as what it was made of, and as nothing else. -/
theorem read?_eq_some_iff {α : Type} {json : α → Json} (hjson : Function.Injective json) {x y : α} :
    Json.read? ((json x).pretty ++ "\n") = some (json y) ↔ y = x := by
  rw [Json.read?_pretty, Option.some_inj, eq_comm, hjson.eq_iff]

/-- **The answers to a plan tell the same** as a text and as a document. -/
theorem tellsSame {quiet : Nat} {p : Plan} {h : Host} {text document : String}
    (hjson : p.json = false) (htext : (perform quiet p h).result = .ok text)
    (hdocument : (perform quiet { p with json := true } h).result = .ok document) :
    TellsSame quiet p h (perform quiet p h).state text document := by
  cases hdry : p.dryRun with
  | true =>
    rw [perform_dry hdry] at htext
    obtain ⟨⟨wire, s⟩, hcrafted, rfl⟩ := map_eq_ok_iff.mp htext
    rw [perform_dry (p := { p with json := true }) hdry] at hdocument
    obtain ⟨again, hagain, rfl⟩ := map_eq_ok_iff.mp hdocument
    cases hcrafted.symm.trans hagain
    refine .shown hdry hcrafted (fun t => read?_eq_some_iff Summary.json_injective) ?_ ?_
    · simp [showText, hjson]
    · exact Plan.newline_notMem_line_of_summarise (Plan.summarise_of_craft hcrafted)
  | false =>
    rw [perform_real hdry] at htext ⊢
    obtain ⟨r, hrun, rfl⟩ := map_eq_ok_iff.mp htext
    rw [perform_real (p := { p with json := true }) hdry] at hdocument
    obtain ⟨again, hagain, rfl⟩ := map_eq_ok_iff.mp hdocument
    cases hrun.symm.trans hagain
    obtain ⟨route, wire, hsends, haccepted⟩ := Plan.accepted_of_run_ok hrun
    refine .sent hdry hrun (fun t => read?_eq_some_iff Report.json_injective) ?_
      (newline_notMem_line_of_sends hsends) ?_
    · simp [reportText, hjson]
    · rw [← Array.length_toList, haccepted, List.length_append, List.length_replicate,
        Array.length_toList]

/-! ### The whole program -/

/-- The invocation with the flag that asks for a document, behind some of the arguments. -/
def Invocation.withDocument (i : Invocation) (k : Nat) : Invocation :=
  { i with arguments := i.arguments.take k ++ "--json" :: i.arguments.drop k }

/-- Where the flag is accepted, the rest is, and the arguments are the same but for the document. -/
theorem parse_withDocument_iff {i : Invocation} {k : Nat} {b : Arguments} :
    parse (i.withDocument k).arguments i.env = .ok b ↔
      (∃ events, Spells (i.arguments.take k) events) ∧ "--" ∉ i.arguments.take k ∧
        ∃ a, parse i.arguments i.env = .ok a ∧ a.json = false ∧ b = { a with json := true } := by
  rw [Invocation.withDocument, parse_insert_json_iff, List.take_append_drop]

/-- **Arguments with a document do the same** to the host as those without, and end with the same
status; and if that is zero, the two answers tell the same. -/
theorem carryOut_document {quiet : Nat} {i j : Invocation} {a : Arguments} {h : Host}
    (hjson : a.json = false) :
    (carryOut quiet j { a with json := true } h).status = (carryOut quiet i a h).status ∧
      (carryOut quiet j { a with json := true } h).host = (carryOut quiet i a h).host ∧
      ((carryOut quiet i a h).status = 0 →
        TellsSame quiet a.plan h (carryOut quiet i a h).host (carryOut quiet i a h).stdout
          (carryOut quiet j { a with json := true } h).stdout) := by
  have hplan : ({ a with json := true } : Arguments).plan = { a.plan with json := true } := rfl
  obtain ⟨hstate, herror⟩ := perform_document quiet a.plan h
  rw [host_carryOut, host_carryOut, hplan, hstate]
  cases htext : (perform quiet a.plan h).result with
  | error e =>
    have hdocument := (herror e).mpr htext
    rw [← hplan] at hdocument
    rw [(carryOut_of_error htext).1, (carryOut_of_error hdocument).1]
    exact ⟨rfl, rfl, fun hzero => absurd hzero (by decide)⟩
  | ok text =>
    cases hdocument : (perform quiet { a.plan with json := true } h).result with
    | error e => cases htext.symm.trans ((herror e).mp hdocument)
    | ok document =>
      have hsame := tellsSame hjson htext hdocument
      rw [← hplan] at hdocument
      rw [(carryOut_of_ok htext).1, (carryOut_of_ok htext).2, (carryOut_of_ok hdocument).1,
        (carryOut_of_ok hdocument).2]
      exact ⟨rfl, rfl, fun _ => hsame⟩

/-- **All or nothing.** For every command line, every environment, every host and every schedule of
the stop flag, be it that of the program (`run`) or another one: the exit status is zero exactly if
help or the version is asked for, or there is a packet to show, or the run comes to a report; and if
it is not zero, nothing is written to standard output.

Wherever the flag that asks for a document is added, between two occurrences of arguments that do not
ask for one, and under a schedule that has no part in it, the same is done to the host, with the same
exit status; and if that is zero, the answer that is a text and the one that is a document tell the
same. -/
theorem all_or_nothing (i : Invocation) (looks : Plan → Nat) (h : Host) :
    ((runUnder looks i h).status = 0 ↔
      parse i.arguments i.env = .error .help ∨ parse i.arguments i.env = .error .version ∨
        ∃ a, parse i.arguments i.env = .ok a ∧ Succeeds (looks a.plan) a.plan h) ∧
    ((runUnder looks i h).status ≠ 0 → (runUnder looks i h).stdout = "") ∧
    ∀ k, let j := i.withDocument k
      (∀ b, parse j.arguments j.env = .ok b ↔
        (∃ events, Spells (i.arguments.take k) events) ∧ "--" ∉ i.arguments.take k ∧
          ∃ a, parse i.arguments i.env = .ok a ∧ a.json = false ∧ b = { a with json := true }) ∧
      ∀ a, parse i.arguments i.env = .ok a →
        parse j.arguments j.env = .ok { a with json := true } →
        looks { a.plan with json := true } = looks a.plan →
          (runUnder looks j h).status = (runUnder looks i h).status ∧
          (runUnder looks j h).host = (runUnder looks i h).host ∧
          ((runUnder looks i h).status = 0 →
            TellsSame (looks a.plan) a.plan h (runUnder looks i h).host (runUnder looks i h).stdout
              (runUnder looks j h).stdout) := by
  refine ⟨status_eq_zero_iff, stdout_eq_empty, fun k => ⟨fun b => parse_withDocument_iff, ?_⟩⟩
  intro a ha hb hlooks
  have hjson : a.json = false := by
    obtain ⟨-, -, a', ha', hjson', -⟩ := parse_withDocument_iff.mp hb
    cases ha.symm.trans ha'
    exact hjson'
  have hi : runUnder looks i h = carryOut (looks a.plan) i a h := by rw [runUnder, ha]
  have hj : runUnder looks (i.withDocument k) h
      = carryOut (looks a.plan) (i.withDocument k) { a with json := true } h := by
    rw [runUnder, hb, ← hlooks]
    rfl
  rw [hi, hj]
  exact carryOut_document hjson

/-- Three packets are asked for. The host refuses the third one, and nothing is printed about the
others; or the program is interrupted behind the second one, and this is told, in a text and in a
document. -/
theorem all_or_nothing_of_two_packets :
    let h : Host :=
      { entries := [{ name := "tun0", index := 7, flags := 1 }]
        answers := [.accept 42, .accept 42, .refuse 105] }
    let i : Invocation := { arguments := ["-c", "3", "-q"], env := fun _ => none, time := "" }
    let i' : Invocation := { i with interruptedAfter := some 2 }
    (run i h).status = 1 ∧ (run i h).host.accepted.size = 2 ∧ (run i h).stdout = "" ∧
      (run i' h).status = 0 ∧ (run (i'.withDocument 2) h).status = 0 ∧
      ∃ (a : Arguments) (quiet : Nat), TellsSame quiet a.plan h (run i' h).host (run i' h).stdout
        (run (i'.withDocument 2) h).stdout := by
  intro h i i'
  have hstatus : (run i h).status = 1 := by decide +kernel
  have hsize : (run i h).host.accepted.size = 2 := by decide +kernel
  have hzero : (run i' h).status = 0 := by decide +kernel
  have hjson : (parse i'.arguments i'.env).toOption.map Arguments.json = some false := by
    decide +kernel
  have hspells : Spells ["-c", "3"] [.value .count "3"] :=
    spells_iff.mpr ⟨by decide +kernel, by decide⟩
  obtain ⟨-, hempty, -⟩ := all_or_nothing i (fun p => quiet i p h) h
  obtain ⟨-, -, hadded⟩ := all_or_nothing i' (fun p => quiet i' p h) h
  obtain ⟨haccepted, hsame⟩ := hadded 2
  cases hparse : parse i'.arguments i'.env with
  | error ending =>
    rw [hparse] at hjson
    cases hjson
  | ok a =>
    rw [hparse] at hjson
    have hdocument := (haccepted { a with json := true }).mpr
      ⟨⟨_, hspells⟩, by decide, a, hparse, Option.some.inj hjson, rfl⟩
    obtain ⟨hstatuses, -, htells⟩ := hsame a hparse hdocument rfl
    have hnone : (run i h).stdout = "" := hempty (by rw [← run, hstatus]; decide)
    exact ⟨hstatus, hsize, hnone, hzero, hstatuses.trans hzero, a, _, htells hzero⟩

end Program

end EchoInjector
