import EchoInjector.Run
import EchoInjector.Proofs.Address.IPv4Text
import EchoInjector.Proofs.Text.JsonReading

/-!
# Documents about packets and runs

A summary and a report can be given as a document. The document has all of it: no two summaries have
the same document, and no two reports have. So whoever reads the document has the summary, and can
show it in a line.
-/

namespace EchoInjector

open Text

/-- A text that is missing is told apart from every text. -/
theorem Text.Json.elim_text_inj {o o' : Option String} :
    o.elim Json.null .text = o'.elim .null .text ↔ o = o' := by
  cases o <;> cases o' <;> simp

theorem Text.Json.elim_number_inj {o o' : Option UInt16} :
    (o.elim .null fun n => .number n.toNat) = (o'.elim Json.null fun n => .number n.toNat)
      ↔ o = o' := by
  cases o <;> cases o' <;> simp [UInt16.toNat_inj]

/-- **A summary is told by its document.** -/
theorem Summary.json_injective : Function.Injective Summary.json := by
  intro s t h
  cases s
  cases t
  simpa [json, Json.elim_text_inj, Json.elim_number_inj, IPv4.text_injective.eq_iff,
    UInt8.toNat_inj, UInt16.toNat_inj] using h

/-- **A report is told by its document.** -/
theorem Report.json_injective : Function.Injective Report.json := by
  intro r r' h
  cases r
  cases r'
  simpa [json, Summary.json_injective.eq_iff] using h

end EchoInjector
